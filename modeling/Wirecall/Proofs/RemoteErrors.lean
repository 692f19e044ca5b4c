import Wirecall.Proofs.Dispatching
import Wirecall.Proofs.Loopback

/-!
# What a caller learns of a failure

A failed response carries an error of the interface or a reason, and it does not say which. A client tries
to read an error first, so a reason that happens to spell one is taken for it. This is of no consequence
for records, which no text spells; but a variant without a payload travels as its tag alone, and a reason
may consist of just that tag, in any case (`Session.remote_without_error`).

`Session.run_tells_errors` says what a caller is told in every case, and that this is the only way to be
told of an error that no handler failed with.

* `Codec.told` is what becomes of a reason. One can see from the type which reasons are mistaken: by
  `DataType.not_spells_string_record` none, and by `DataType.spells_string_variant_iff` only tags.
* `ClientMethod.answer_of_error` and its siblings are the way of each kind of outcome to the caller, along
  the rules by which outcomes are reported (`Attempt.Reports`).
* `DataType.TellsReasons` and `Attempt.Tells` are what the statement says of reasons and of outcomes, for a
  table `told` that has what a caller is told for each reason.

A caller that is told anything is told it after the handler has ended, remains put away and all
(`Attempt.ended`). If these give up, then nobody is told anything.
-/

namespace Wirecall

/-! ### Reasons that spell an error -/

namespace DataType

variable {name description : String}

/-- A text spells a case of a variant if it is the tag of the case, and the payload may be left out. -/
theorem spells_string_variant_iff {cases : List CaseType} {s : String} {x : CaseCarriers cases} :
    (variant name description cases).Spells (.string s) x ↔ SpellsCase cases s none x := by
  constructor
  · rintro ⟨tag, payload, form, h⟩
    -- Among the forms of variants, only a tag without a payload is a text.
    cases form
    exact h
  · intro h
    exact ⟨s, none, .alone s, h⟩

/-- No text spells a record. -/
theorem not_spells_string_record {fields : List FieldType} {s : String} {x : FieldCarriers fields} :
    ¬ (record name description fields).Spells (.string s) x := by
  rintro ⟨entries, h, -⟩
  cases h

/-- Only its own tag spells a case. -/
theorem exists_tag_of_spellsCase : ∀ {cases : List CaseType} {tag : String} {payload : Option Value}
    {x : CaseCarriers cases}, SpellsCase cases tag payload x →
      ∃ c ∈ cases, Text.lowerCase tag = Text.lowerCase c.tag
  | ⟨_, _, none⟩ :: _, _, _, .inl _, h | ⟨_, _, some _⟩ :: _, _, _, .inl _, h =>
    ⟨_, List.mem_cons_self, h.1⟩
  | ⟨_, _, none⟩ :: _, _, _, .inr _, h | ⟨_, _, some _⟩ :: _, _, _, .inr _, h => by
    obtain ⟨c, hc, htag⟩ := exists_tag_of_spellsCase h.2
    exact ⟨c, List.mem_cons_of_mem _ hc, htag⟩

end DataType

/-- What a caller is told when there is a reason. The client does not know that it is one: it tries to read an
error first, and takes the text for a reason only if that fails. -/
def Codec.told {E : Type} (codec : Codec E) (reason : String) : CallError E :=
  match codec.decode (.string reason) with
  | .ok e => .remote e
  | .error _ => .failed reason

namespace DataType

variable {type : DataType} {s : String}

theorem told_of_spells {e : type.Carrier} (h : type.Spells (.string s) e) :
    (Codec.ofType type).told s = .remote e := by
  have hread : (Codec.ofType type).decode (.string s) = .ok e := decode_of_spells type h
  rw [Codec.told, hread]

theorem told_of_not_spells (h : ∀ e, ¬ type.Spells (.string s) e) :
    (Codec.ofType type).told s = .failed s := by
  unfold Codec.told
  split
  -- Whatever is read is spelled, so nothing was read.
  next e hread => exact absurd (spells_of_decode type hread) (h e)
  next => rfl

end DataType

/-! ### From an outcome to the caller -/

/-- A parameter that cannot be read is reported by the text of its error. -/
theorem Param.payload_of_read {α : Type} {p : Param α} {args : Arguments} {e : DispatchError}
    (h : p.read args = .error e) : e.payload = .string e.message := by
  rcases read_eq_error_iff.1 h with ⟨v, source, -, -, rfl⟩ | ⟨-, -, rfl⟩ <;> rfl

namespace ClientMethod

variable {m : Type → Type} {E A R : Type} {method : ClientMethod m E A R}

theorem finish_of_payload {d : DispatchError} {reason : String} (h : d.payload = .string reason) :
    method.finish (Server.respond (.error d)) = .error (method.errors.told reason) := by
  unfold finish Codec.told
  simp only [Server.respond, Response.ofFailure, h, Bool.false_eq_true, if_false]
  cases method.errors.decode (.string reason) <;> rfl

/-- A successful response never tells of an error of the interface. -/
theorem finish_ok_ne_remote {v : Value} {e : E} :
    method.finish (Server.respond (.ok v)) ≠ .error (.remote e) := by
  unfold finish
  simp only [Server.respond, Response.ofResult, if_true]
  -- A result is read or it is not; errors are not even tried.
  cases method.signature.resultParam.codec.decode v <;> simp [Except.mapError]

/-- What the caller learns of the outcome of a handler: the outcome is reported, the report is made a response,
and the response is read. -/
def answer (method : ClientMethod m E A R) (a : Attempt m E) (outcome : Outcome a.R a.F) :
    Except (CallError E) R :=
  method.finish (Server.respond (a.report outcome))

variable {a : Attempt m E}

theorem answer_of_crash {outcome : Outcome a.R a.F} {c : Crash} (h : a.crash? outcome = some c) :
    method.answer a outcome = .error (method.errors.told c.reason) := by
  rw [answer, Attempt.reports_iff.1 (.crash h)]
  exact finish_of_payload rfl

theorem answer_of_text {failure : a.F} (h : a.crash? (.failed failure) = none)
    (he : a.error? failure = none) :
    method.answer a (.failed failure) =
      .error (method.errors.told (a.style.text a.errors failure)) := by
  rw [answer, Attempt.reports_iff.1 (.text h he)]
  exact finish_of_payload rfl

theorem answer_returned_ne_remote {result : a.R} (h : a.crash? (.returned result) = none) {e : E} :
    method.answer a (.returned result) ≠ .error (.remote e) := by
  rw [answer, Attempt.reports_iff.1 (.result h)]
  exact finish_ok_ne_remote

/-- An error of the interface is told as the error that its wire form is read as. -/
theorem answer_of_error (herrors : method.errors = a.errors.codec) {failure : a.F} {e : E}
    (h : a.crash? (.failed failure) = none) (he : a.error? failure = some e) {e' : E} :
    method.answer a (.failed failure) = .error (.remote e') ↔
      a.errors.codec.decode (a.errors.codec.encode e) = .ok e' :=
  finish_failed_iff herrors h he

end ClientMethod

/-! ### What a caller is told -/

/-- Whether a table has what a caller is told for a reason: the error that the reason spells, if it spells one,
and otherwise the reason. One can tell from the type which reasons spell errors. For records there are none;
for variants only tags come into question, in upper or lower case. -/
structure DataType.TellsReasons (type : DataType) (told : String → CallError type.Carrier) : Prop where
  plain : ∀ s, (∀ e, ¬ type.Spells (.string s) e) → told s = .failed s
  spelled : ∀ s e, type.Spells (.string s) e → told s = .remote e
  record : ∀ name description fields, type = .record name description fields →
    ∀ s, told s = .failed s
  variant : ∀ name description cases, type = .variant name description cases →
    ∀ s, (∀ c ∈ cases, Text.lowerCase s ≠ Text.lowerCase c.tag) → told s = .failed s

theorem DataType.tellsReasons_told (type : DataType) : type.TellsReasons (Codec.ofType type).told where
  plain _ := told_of_not_spells
  spelled _ _ := told_of_spells
  record := by
    rintro name description fields rfl s
    exact told_of_not_spells fun _ => not_spells_string_record
  variant := by
    rintro name description cases rfl s htags
    refine told_of_not_spells fun e he => ?_
    obtain ⟨c, hc, htag⟩ := exists_tag_of_spellsCase (spells_string_variant_iff.1 he)
    exact htags c hc htag

section
variable {m : Type → Type} {type : DataType} {A R : Type}

/-- Whether the answers to outcomes of a handler tell what became of them, given what is told for reasons. -/
structure Attempt.Tells (a : Attempt m type.Carrier) (told : String → CallError type.Carrier)
    (answer : Outcome a.R a.F → Except (CallError type.Carrier) R) : Prop where
  /-- Of a crash, the reason is told, -/
  crash : ∀ outcome c, a.crash? outcome = some c → answer outcome = .error (told c.reason)
  /-- and of a failure that is no error of the interface, its text. -/
  text : ∀ failure, a.crash? (.failed failure) = none → a.error? failure = none →
    answer (.failed failure) = .error (told (a.style.text a.errors failure))
  /-- An error of the interface is told as such if it crosses without loss, -/
  error : ∀ failure e, a.crash? (.failed failure) = none → a.error? failure = some e →
    type.Lossless e → answer (.failed failure) = .error (.remote e)
  /-- and in any case an error that is told is one that it spells on the wire. -/
  spelled : ∀ failure e, a.crash? (.failed failure) = none → a.error? failure = some e →
    ∀ e', answer (.failed failure) = .error (.remote e') → type.Spells (type.encode e) e'
  /-- A result is never told as an error of the interface. -/
  result : ∀ result, a.crash? (.returned result) = none →
    ∀ e, answer (.returned result) ≠ .error (.remote e)

theorem ClientMethod.tells_answer {method : ClientMethod m type.Carrier A R} {a : Attempt m type.Carrier}
    (herrors : method.errors = .ofType type) (hcodec : a.errors.codec = .ofType type) :
    a.Tells (Codec.ofType type).told (method.answer a) := by
  -- Errors are written and read by the same codec on both sides.
  have hanswer {failure : a.F} {e e' : type.Carrier} (hc : a.crash? (.failed failure) = none)
      (he : a.error? failure = some e) :
      method.answer a (.failed failure) = .error (.remote e') ↔
        type.decode (type.encode e) = .ok e' := by
    rw [answer_of_error (herrors.trans hcodec.symm) hc he, hcodec]
    rfl
  refine ⟨?_, ?_, ?_, ?_, ?_⟩
  · intro outcome c hc
    rw [answer_of_crash hc, herrors]
  · intro failure hc he
    rw [answer_of_text hc he, herrors]
  · intro failure e hc he hlossless
    exact (hanswer hc he).2 hlossless.carries.2
  · -- Lossless or not, the decoder reads nothing that is not spelled.
    intro failure e hc he e' he'
    exact DataType.spells_of_decode type ((hanswer hc he).1 he')
  · exact fun result hc e => answer_returned_ne_remote hc

variable [Monad m]

/-- What a caller is told by the server of an attempt: of the first argument that could not be read, if there
is one, and otherwise of what the handler ended in. -/
structure Attempt.TellsCaller (a : Attempt m type.Carrier) (told : String → CallError type.Carrier)
    (method : ClientMethod m type.Carrier A R) (args : A) : Prop where
  reading : ∀ before p after e, a.registration.signature.places = before ++ p :: after →
    (∀ q ∈ before, q.Reads (method.signature.encodeArgs args)) →
    p.param.read (method.signature.encodeArgs args) = .error e →
    method.call args = pure (.error (told e.message))
  running : ∀ as, a.registration.signature.Reads (method.signature.encodeArgs args) as →
    ∃ answer, method.call args = answer <$> a.ended as ∧ a.Tells told answer

end

namespace Session

variable {m : Type → Type} [Monad m] [LawfulMonad m] {type : DataType} {heading : Heading}
  {bridge : ErrorBridge type.Carrier} {events : List (Event m type.Carrier)}
  {t : Session m type.Carrier} {server : Server m} {A R : Type}

/-- **What a caller is told.** The caller learns of an error of the interface if the handler failed with it,
and of any other failure by its reason, with one exception: a reason that spells an error is told as that
error. For records there is no such reason, and for variants it has to be one of the tags. -/
theorem run_tells_errors (htype : bridge.type.codec = .ofType type)
    (run : Run (start heading bridge) events t) (hserver : t.server = some server)
    (method : ClientMethod m type.Carrier A R) (htransport : method.transport = server.transport)
    (herrors : method.errors = .ofType type) (args : A) :
    ∃ told : String → CallError type.Carrier, type.TellsReasons told ∧
      (method.name ∉ server.methods →
        method.call args =
          pure (.error (told (DispatchError.unknownMethod method.name).message))) ∧
      ∀ a, .attempted a (.ok ()) ∈ events → a.name = method.name →
        a.TellsCaller told method args := by
  refine ⟨(Codec.ofType type).told, type.tellsReasons_told, ?_, ?_⟩
  · intro hname
    -- There is no method, so nothing happens, and the reason is told.
    rw [ClientMethod.call_eq_map_tryDispatch htransport, Server.tryDispatch_of_unknown hname,
      map_pure, ClientMethod.finish_of_payload rfl, herrors]
    rfl
  · intro a ha hname
    -- All attempts of a session are about the one type of errors that it started with.
    have hcodec : a.errors.codec = .ofType type := by
      rw [Attempt.errors, run.recorded.attempt_type a _ ha, htype]
    have hget : server.table.get? method.name = some a.procedure := hname ▸ run.get?_of_mem hserver ha
    have hcall := ClientMethod.call_transport htransport hget args
    refine ⟨?_, ?_⟩
    · intro before p after e hplaces hbefore hp
      -- The first argument that cannot be read is the reason.
      have hread := Signature.decodeArgs_eq_error_iff.2 ⟨before, p, after, hplaces, hbefore, hp⟩
      rw [hcall, Attempt.procedure_of_decodeArgs hread, map_pure,
        ClientMethod.finish_of_payload (Param.payload_of_read hp), herrors]
    · intro as has
      refine ⟨method.answer a, ?_, ClientMethod.tells_answer herrors hcodec⟩
      -- The caller reads the response to the report of an outcome, and that is the answer to it.
      rw [hcall, Attempt.procedure_of_reads has, Functor.map_map]
      rfl

/-- Square roots: a negative argument is an error of the interface, and one that is too large is not. -/
theorem run_tells_errors_sqrt :
    let bridge : ErrorBridge Sample.calcError.Carrier := .direct Sample.calcErrors
    let signature : Signature (Int64 × Unit) Int64 :=
      .ofSlots (.ofCodec (.ofType .int64)) [⟨.int64, some "n", none⟩]
    let sqrt : Attempt Id Sample.calcError.Carrier :=
      ⟨⟨"sqrt", signature, bridge⟩, .raising, fun (n, ()) =>
        .failed (if n < 0 then bridge.raise (.inr (.inr (.inl n)))
          else { cause := .message "too large" }), .quiet⟩
    let server := Server.only { name := "calc" } bridge (some sqrt)
    let method : ClientMethod Id Sample.calcError.Carrier (Int64 × Unit) Int64 :=
      ⟨"sqrt", signature, .ofType Sample.calcError, server.transport⟩
    method.call (-4, ()) = pure (.error (.remote (.inr (.inr (.inl (-4)))))) ∧
      method.call (4, ()) = pure (.error (.failed "too large")) := by
  intro bridge signature sqrt server method
  obtain ⟨t, run, hserver⟩ := run_only (m := Id) { name := "calc" } bridge "sqrt" signature .raising
    sqrt.handler .quiet
  have tells (n : Int64) := run_tells_errors rfl run hserver method rfl rfl (n, ())
  have hmem := List.mem_cons_of_mem (Event.declared ⟨sqrt.registration⟩)
    (List.mem_cons_self (a := Event.attempted sqrt (.ok ())) (l := [.built server]))
  let negative : Sample.calcError.Carrier := .inr (.inr (.inl (-4)))
  let tooLarge : Raised Sample.calcError.Carrier := { cause := .message "too large" }
  have hended (n : Int64) : sqrt.ended (n, ()) = sqrt.handler (n, ()) :=
    Attempt.ended_of_quiet (Attempt.quiet_of_disposal rfl) _
  refine ⟨?_, ?_⟩
  · obtain ⟨told, -, -, hdispatch⟩ := tells (-4)
    obtain ⟨answer, hcall, htells⟩ := (hdispatch sqrt hmem rfl).running (-4, ()) ⟨rfl, trivial⟩
    have hfails : sqrt.handler (-4, ()) = pure (.failed (bridge.raise negative)) := rfl
    have hlossless : Sample.calcError.Lossless negative := Sample.calcError_lossless negative
    rw [hcall, hended, hfails, map_pure, htells.error (bridge.raise negative) negative rfl rfl hlossless]
  · obtain ⟨told, hreasons, -, hdispatch⟩ := tells 4
    obtain ⟨answer, hcall, htells⟩ := (hdispatch sqrt hmem rfl).running (4, ()) ⟨rfl, trivial⟩
    have hfails : sqrt.handler (4, ()) = pure (.failed tooLarge) := rfl
    have hwords : sqrt.style.text sqrt.errors tooLarge = "too large" := rfl
    -- What went wrong is none of the tags, so it is told in words.
    have htold : told "too large" = .failed "too large" :=
      hreasons.variant _ _ _ rfl _ (by decide +kernel)
    rw [hcall, hended, hfails, map_pure, htells.text tooLarge rfl rfl, hwords, htold]

/-- A raised error that no bridge recognises, and whose text is a tag: the caller is told of an error that
no handler failed with. -/
theorem remote_without_error :
    let bridge : ErrorBridge Sample.calcError.Carrier := .direct Sample.calcErrors
    let signature : Signature Unit Unit := .returning (.ofCodec (.ofType .unit))
    let raised : Raised Sample.calcError.Carrier := { cause := .message "DivideByZero" }
    let ping : Attempt Id Sample.calcError.Carrier :=
      ⟨⟨"ping", signature, bridge⟩, .raising, fun () => .failed raised, .quiet⟩
    let server := Server.only { name := "calc" } bridge (some ping)
    let method : ClientMethod Id Sample.calcError.Carrier Unit Unit :=
      ⟨"ping", signature, .ofType Sample.calcError, server.transport⟩
    ping.error? raised = none ∧ method.call () = pure (.error (.remote (.inl ()))) := by
  intro bridge signature raised ping server method
  have hget : server.table.get? method.name = some ping.procedure := by
    rw [Server.get?_only]
    rfl
  have hreads : ping.registration.signature.Reads (method.signature.encodeArgs ()) () := trivial
  -- The text is the tag of a case without a payload.
  have htag : Sample.calcError.Spells (.string "DivideByZero") (.inl ()) :=
    DataType.spells_string_variant_iff.2 ⟨rfl, .inl rfl⟩
  have hanswer : method.answer ping (.failed raised) = .error (.remote (.inl ())) := by
    rw [ClientMethod.answer_of_text rfl rfl]
    exact congrArg Except.error (DataType.told_of_spells htag)
  refine ⟨rfl, ?_⟩
  rw [ClientMethod.call_transport rfl hget, Attempt.procedure_of_reads hreads,
    Attempt.ended_of_quiet (Attempt.quiet_of_disposal rfl)]
  exact congrArg (pure (f := Id)) hanswer

end Session
end Wirecall
