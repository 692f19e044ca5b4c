import Wirecall.Proofs.Arguments
import Wirecall.Proofs.Construction
import Wirecall.Sample.Errors

/-!
# What a call comes to

A call of a built server is refused, or it reaches a handler. The checks come in a fixed order, and only a
call that passes them all gets through; the handler is then run once, on the arguments that were read, and
what it ends in is reported (`Session.run_dispatches`).

* `Attempt.Reports` says what becomes of each way in which a handler can end: one rule for results, one for
  errors of the interface, one for all other failures, and one for whatever gives up on the way
  (`Attempt.crash?`). The rules determine the report of every outcome (`Attempt.reports_iff`).
* `Attempt.ended` is a handler with everything that happens before its outcome is reported, and
  `Attempt.procedure_of_reads` is the way through an installed method when all arguments can be read: it is
  run to the end in this sense, its outcome is reported, and nothing else happens.
* `Server.tryDispatch_cases` has all ways of a call of a method in one place: it is refused, or it comes to
  what the handler ends in.

The effects of handlers happen in a monad of which nothing is known but its laws. A call that is refused
is `pure`, so nothing at all has happened; a call that is not is the handler at its arguments, followed by a
function of outcomes.

**Remains.** What a crash leaves behind is put away when the crash has been reported, and no longer under
guard. Where this goes quietly (`Attempt.Quiet`), and it does for all messages, there is always a response.
Where it does not, it may be the end of the call, and then nobody answers
(`Session.words_for_an_error_and_no_answer`). What is said here of all calls leaves that case open.
-/

namespace Wirecall

/-! ### How outcomes are reported -/

/-- An error of the interface is put into words before it is written. -/
theorem Registration.fail_eq {E A R : Type} (r : Registration E A R) (e : E) :
    r.fail e =
      match (r.bridge.type.textCrash e).or (r.bridge.type.codec.encodeCrash e) with
      | some c => .error c
      | none => .ok (.implementation r.name (r.bridge.type.text e) (r.bridge.type.codec.encode e)) := by
  unfold fail
  dsimp only
  -- The words are first, so what gives up there is what is caught.
  cases r.bridge.type.textCrash e with
  | some c => rfl
  | none => cases r.bridge.type.codec.encodeCrash e <;> rfl

namespace HandlerStyle

variable {E F : Type}

/-- The error of the interface that a failure is, if it is one. -/
def error? : HandlerStyle E F → ErrorBridge E → F → Option E
  | .plain, _, e => some e
  | .raising, bridge, e => bridge.recognise e

/-- A failure in words. -/
def text : HandlerStyle E F → ErrorType E → F → String
  | .plain, type, e => type.text e
  | .raising, type, e => e.text type

/-- How putting a failure into words gives up, if it does. -/
def textCrash : HandlerStyle E F → ErrorType E → F → Option Crash
  | .plain, type, e => type.textCrash e
  | .raising, type, e => e.cause.textCrash type

/-- A failure is reported as the error of the interface that it is, or else in its own words. -/
theorem report_eq {A R : Type} (style : HandlerStyle E F) (r : Registration E A R) (failure : F) :
    style.report r failure =
      match style.error? r.bridge failure, style.textCrash r.bridge.type failure with
      | some e, _ => r.fail e
      | none, some c => .error c
      | none, none => .ok (.ofReason r.name (style.text r.bridge.type failure)) := by
  cases style with
  -- A plain handler has no other failures than errors of the interface.
  | plain => rfl
  | raising =>
    unfold report Registration.failRaised error? textCrash text
    cases r.bridge.recognise failure with
    | some e => rfl
    | none => cases failure.cause.textCrash r.bridge.type <;> rfl

end HandlerStyle

namespace Attempt

variable {m : Type → Type} {E : Type}

/-- The type of errors of the interface. -/
def errors (a : Attempt m E) : ErrorType E :=
  a.registration.bridge.type

/-- The error of the interface that a failure of the handler is, if it is one. -/
def error? (a : Attempt m E) (failure : a.F) : Option E :=
  a.style.error? a.registration.bridge failure

/-- The codec of results. -/
def resultCodec (a : Attempt m E) : Codec a.R :=
  a.registration.signature.resultParam.codec

/-- How something gives up once the handler was started, if it does: the handler itself, writing its
result, putting its failure into words, or writing the error of the interface that the failure is. -/
def crash? (a : Attempt m E) : Outcome a.R a.F → Option Crash
  | .crashed c => some c
  | .returned result => a.resultCodec.encodeCrash result
  | .failed failure =>
    match a.error? failure with
    | some e => (a.errors.textCrash e).or (a.errors.codec.encodeCrash e)
    | none => a.style.textCrash a.errors failure

/-- How an outcome of the handler is reported. A crash comes before everything else, whatever it interrupted.
Of a failure that is an error of the interface, the reason is the error in words and the payload its wire
form; any other failure has its text in both places. -/
inductive Reports (a : Attempt m E) : Outcome a.R a.F → Except DispatchError Value → Prop
  | crash {outcome : Outcome a.R a.F} {c : Crash} (h : a.crash? outcome = some c) :
    a.Reports outcome (.error (.implementation a.name c.reason (.string c.reason)))
  | result {result : a.R} (h : a.crash? (.returned result) = none) :
    a.Reports (.returned result) (.ok (a.resultCodec.encode result))
  | error {failure : a.F} {e : E} (h : a.crash? (.failed failure) = none)
    (he : a.error? failure = some e) :
    a.Reports (.failed failure)
      (.error (.implementation a.name (a.errors.text e) (a.errors.codec.encode e)))
  | text {failure : a.F} (h : a.crash? (.failed failure) = none) (he : a.error? failure = none) :
    a.Reports (.failed failure)
      (.error (.implementation a.name (a.style.text a.errors failure)
        (.string (a.style.text a.errors failure))))

/-- What comes of an outcome under the guard. Results are written and failures put into words in there as
well, so what gives up meanwhile is caught like a crash of the handler. -/
def guarded (a : Attempt m E) : Outcome a.R a.F → Except Crash (Except DispatchError Value) :=
  a.registration.conclude (a.style.report a.registration)

/-- The report of an outcome. -/
def report (a : Attempt m E) (outcome : Outcome a.R a.F) : Except DispatchError Value :=
  match a.guarded outcome with
  | .ok result => result
  | .error c => .error (.ofReason a.name c.reason)

/-- The guard lets through what is written and reported, and catches what gave up on the way. -/
theorem guarded_eq (a : Attempt m E) (outcome : Outcome a.R a.F) :
    a.guarded outcome =
      match a.crash? outcome with
      | some c => .error c
      -- What the bridge does not recognise has only its own words.
      | none => .ok (a.report outcome) := by
  cases outcome with
  -- A handler that gave up by itself leaves nothing to report.
  | crashed c => rfl
  | returned result =>
    simp only [report, guarded, Registration.conclude, Registration.succeed, crash?, resultCodec]
    cases a.registration.signature.resultParam.codec.encodeCrash result <;> rfl
  | failed failure =>
    simp only [report, guarded, Registration.conclude, HandlerStyle.report_eq, crash?, error?, errors]
    cases a.style.error? a.registration.bridge failure with
    | some e =>
      -- Words come before writing, and either may give up.
      simp only [Registration.fail_eq]
      cases (a.registration.bridge.type.textCrash e).or
        (a.registration.bridge.type.codec.encodeCrash e) <;> rfl
    | none =>
      dsimp only
      cases a.style.textCrash a.registration.bridge.type failure <;> rfl

variable {a : Attempt m E} {outcome : Outcome a.R a.F}

theorem report_of_crash {c : Crash} (h : a.crash? outcome = some c) :
    a.report outcome = .error (.ofReason a.name c.reason) := by
  rw [report, guarded_eq, h]

theorem report_returned {result : a.R} (h : a.crash? (.returned result) = none) :
    a.report (.returned result) = .ok (a.resultCodec.encode result) := by
  have hcrash : a.registration.signature.resultParam.codec.encodeCrash result = none := h
  simp only [report, guarded, Registration.conclude, Registration.succeed, hcrash]
  rfl

/-- A failure that is an error of the interface is reported as that error, in whichever style it came. -/
theorem report_error {failure : a.F} {e : E} (h : a.crash? (.failed failure) = none)
    (he : a.error? failure = some e) :
    a.report (.failed failure) =
      .error (.implementation a.name (a.errors.text e) (a.errors.codec.encode e)) := by
  -- The error that the rule speaks of is the one that the bridge finds.
  have hfound : a.style.error? a.registration.bridge failure = some e := he
  simp only [crash?, he] at h
  -- That nothing gave up on the way means: neither the words nor the writing did.
  have hcrash : (a.registration.bridge.type.textCrash e).or
      (a.registration.bridge.type.codec.encodeCrash e) = none := h
  simp only [report, guarded, Registration.conclude, HandlerStyle.report_eq, hfound,
    Registration.fail_eq, hcrash]
  rfl

theorem report_text {failure : a.F} (h : a.crash? (.failed failure) = none)
    (he : a.error? failure = none) :
    a.report (.failed failure) = .error (.ofReason a.name (a.style.text a.errors failure)) := by
  have hnone : a.style.error? a.registration.bridge failure = none := he
  simp only [crash?, he] at h
  have hcrash : a.style.textCrash a.registration.bridge.type failure = none := h
  simp only [report, guarded, Registration.conclude, HandlerStyle.report_eq, hnone, hcrash]
  rfl

/-- Every outcome is reported: the rules leave none out, -/
theorem reports_report (a : Attempt m E) (outcome : Outcome a.R a.F) :
    a.Reports outcome (a.report outcome) := by
  -- The rule for crashes comes first; under the others nothing has given up.
  cases hcrash : a.crash? outcome with
  | some c =>
    rw [report_of_crash hcrash]
    exact .crash hcrash
  | none =>
    cases outcome with
    -- An outcome that is a crash cannot have passed.
    | crashed c => cases hcrash
    | returned result =>
      rw [report_returned hcrash]
      exact .result hcrash
    | failed failure =>
      cases he : a.error? failure with
      | some e =>
        rw [report_error hcrash he]
        exact .error hcrash he
      | none =>
        rw [report_text hcrash he]
        exact .text hcrash he

/-- and in one way only. -/
theorem reports_iff {result : Except DispatchError Value} :
    a.Reports outcome result ↔ a.report outcome = result := by
  -- There is one rule for each outcome, so the report is a function of it.
  constructor
  · intro h
    cases h with
    | crash h => exact report_of_crash h
    | result h => exact report_returned h
    | error h he => exact report_error h he
    | text h he => exact report_text h he
  · rintro rfl
    exact a.reports_report outcome

end Attempt

/-! ### Running a handler to the end -/

/-- Whether it is settled what a computation gives, whatever it does meanwhile. It may have any effects, but
its result must not depend on them: the computation is an effect, followed by a constant. -/
def Settled {m : Type → Type} [Functor m] {α : Type} (x : m α) : Prop :=
  ∃ (effect : m Unit) (a : α), x = (fun _ => a) <$> effect

section
variable {m : Type → Type} [Monad m] [LawfulMonad m] {α β : Type}

theorem settled_pure (a : α) : Settled (pure a : m α) :=
  ⟨pure (), a, (map_pure (fun _ => a) ()).symm⟩

theorem Settled.map {x : m α} (h : Settled x) (f : α → β) : Settled (f <$> x) := by
  obtain ⟨effect, a, rfl⟩ := h
  exact ⟨effect, f a, Functor.map_map _ _ _⟩

end

namespace Attempt

variable {m : Type → Type} [Monad m] {E : Type}

/-- Whether the remains of a crash go quietly, if an outcome leaves any that nobody can read. Messages always
do. -/
def Quiet (a : Attempt m E) (outcome : Outcome a.R a.F) : Prop :=
  ∀ remains, a.crash? outcome = some (.silent remains) → a.disposal remains = pure ()

/-- What happens after a handler has ended: the remains of a crash are put away, if there was one. The report
has been made by then, but it has not been handed out; if the remains give up, it never is. -/
def aftermath (a : Attempt m E) (outcome : Outcome a.R a.F) : m Unit :=
  match a.crash? outcome with
  | some c => c.putAway a.disposal
  | none => pure ()

/-- A handler with its aftermath. -/
def ended (a : Attempt m E) (as : a.A) : m (Outcome a.R a.F) := do
  let outcome ← a.handler as
  a.aftermath outcome
  return outcome

/-- Whether the handler has no state of its own: on each argument it is settled how it ends, and its remains
go quietly. -/
def Steady (a : Attempt m E) : Prop :=
  ∀ as, ∃ (effect : m Unit) (outcome : Outcome a.R a.F),
    a.Quiet outcome ∧ a.handler as = (fun _ => outcome) <$> effect

variable {a : Attempt m E}

/-- Where nothing ever happens when remains are put away, all of them go quietly. -/
theorem quiet_of_disposal (h : a.disposal = .quiet) (outcome : Outcome a.R a.F) : a.Quiet outcome :=
  fun remains _ => congrFun h remains

theorem aftermath_of_none {outcome : Outcome a.R a.F} (h : a.crash? outcome = none) :
    a.aftermath outcome = pure () := by
  rw [aftermath, h]

theorem aftermath_of_quiet {outcome : Outcome a.R a.F} (h : a.Quiet outcome) :
    a.aftermath outcome = pure () := by
  unfold aftermath
  cases hcrash : a.crash? outcome with
  | none => rfl
  | some c =>
    cases c with
    | message text => rfl
    | silent remains => exact h remains hcrash

variable [LawfulMonad m]

/-- A handler that leaves nothing but what goes quietly has no aftermath. -/
theorem ended_of_quiet (h : ∀ outcome, a.Quiet outcome) (as : a.A) : a.ended as = a.handler as := by
  unfold ended
  simp only [aftermath_of_quiet (h _), pure_bind, bind_pure]

theorem Steady.settled_ended (h : a.Steady) (as : a.A) : Settled (a.ended as) := by
  obtain ⟨effect, outcome, hquiet, hhandler⟩ := h as
  refine ⟨effect, outcome, ?_⟩
  rw [ended, hhandler, bind_map_left]
  simp only [aftermath_of_quiet hquiet, pure_bind]
  rw [map_eq_pure_bind]

/-- A report follows the aftermath, and does not depend on it. -/
theorem map_ended {α : Type} (f : Outcome a.R a.F → α) (as : a.A) :
    f <$> a.ended as = do
      let outcome ← a.handler as
      a.aftermath outcome
      return f outcome := by
  simp only [ended, map_bind, map_pure]

/-- Outside the guard, a crash is all that makes a difference: its remains are put away. -/
theorem settle_guarded (outcome : Outcome a.R a.F) :
    a.registration.settle a.disposal (a.guarded outcome) = do
      a.aftermath outcome
      return a.report outcome := by
  rw [guarded_eq]
  cases hcrash : a.crash? outcome with
  | none => rw [aftermath_of_none hcrash, pure_bind]; rfl
  | some c => rw [aftermath, hcrash, report_of_crash hcrash]; rfl

/-! ### The way to the handler -/

variable {args : Arguments}

/-- If the arguments can be read, what happens is the handler. -/
theorem procedure_of_reads {as : a.A} (h : a.registration.signature.Reads args as) :
    a.procedure args = a.report <$> a.ended as := by
  unfold procedure Registration.procedure
  rw [Signature.decodeArgs_eq_ok_iff.2 h, map_ended]
  exact bind_congr settle_guarded

omit [LawfulMonad m] in
/-- If not, nothing happens. -/
theorem procedure_of_decodeArgs {e : DispatchError}
    (h : a.registration.signature.decodeArgs args = .error e) :
    a.procedure args = pure (.error e) := by
  unfold procedure Registration.procedure
  rw [h]

end Attempt

namespace Server

variable {m : Type → Type} [Monad m] {s : Server m} {call : Call}

theorem tryDispatch_of_unknown (h : call.name ∉ s.methods) :
    s.tryDispatch call = pure (.error (.unknownMethod call.name)) := by
  rw [mem_methods_iff, Option.not_isSome_iff_eq_none] at h
  unfold tryDispatch
  rw [h]

theorem tryDispatch_of_misframed {procedure : Procedure m}
    (h : s.table.get? call.name = some procedure) (hparams : ∀ args, call.params ≠ [.dict args]) :
    s.tryDispatch call = pure (.error .argumentFraming) := by
  unfold tryDispatch
  rw [h]
  split
  -- The method is there, and the parameters are not one dictionary: one branch is left.
  next hnone => cases hnone
  next args _ hargs => exact absurd hargs (hparams args)
  next => rfl

/-- A call of a method is refused while nothing has happened yet, or it comes to what the handler ends in. -/
theorem tryDispatch_cases [LawfulMonad m] {E : Type} {a : Attempt m E}
    (h : s.table.get? call.name = some a.procedure) :
    (∃ e, s.tryDispatch call = pure (.error e) ∧
      (e = .argumentFraming ∨ ∃ args, a.registration.signature.decodeArgs args = .error e)) ∨
      ∃ as, s.tryDispatch call = a.report <$> a.ended as := by
  -- The checks in their order: the framing, then the arguments, then nothing else.
  by_cases hparams : ∃ args, call.params = [.dict args]
  · obtain ⟨args, hargs⟩ := hparams
    obtain ⟨name, params, notification⟩ := call
    cases hargs
    -- From here on only the arguments decide.
    rw [tryDispatch_of_get? h]
    cases hread : a.registration.signature.decodeArgs args with
    | error e => exact .inl ⟨e, Attempt.procedure_of_decodeArgs hread, .inr ⟨args, hread⟩⟩
    | ok as => exact .inr ⟨as, Attempt.procedure_of_reads (Signature.decodeArgs_eq_ok_iff.1 hread)⟩
  · exact .inl ⟨_, tryDispatch_of_misframed h (not_exists.1 hparams), .inl rfl⟩

end Server

/-! ### The statement, part by part -/

section
variable {m : Type → Type} [Monad m] {E : Type}

/-- Whether an answer is the handler of an attempt at some arguments, run once, with its outcome reported.
Remains are put away in between. All that is said of this is that nothing happens where nothing is left, or
where it goes quietly; if that is so for every outcome, then the answer is the handler under a function. -/
def Attempt.Answers (a : Attempt m E) (as : a.A) (answer : m (Except DispatchError Value)) : Prop :=
  ∃ (report : Outcome a.R a.F → Except DispatchError Value) (aftermath : Outcome a.R a.F → m Unit),
    (∀ outcome result, a.Reports outcome result ↔ report outcome = result) ∧
    (∀ outcome, a.Quiet outcome → aftermath outcome = pure ()) ∧
    (answer = do
      let outcome ← a.handler as
      aftermath outcome
      return report outcome) ∧
    ((∀ outcome, a.Quiet outcome) → answer = report <$> a.handler as)

/-- What a server makes of a call of the method that an attempt was accepted for. -/
structure Attempt.Handles (a : Attempt m E) (server : Server m) (call : Call) : Prop where
  /-- The parameters have to be exactly one dictionary. -/
  framing : (∀ args, call.params ≠ [.dict args]) →
    server.tryDispatch call = pure (.error .argumentFraming)
  /-- Then all arguments have to be there and readable. The first one that is not is reported. -/
  reading : ∀ args, call.params = [.dict args] →
    ∀ before p after e, a.registration.signature.places = before ++ p :: after →
      (∀ q ∈ before, q.Reads args) → p.param.read args = .error e →
      server.tryDispatch call = pure (.error e)
  /-- Only then the handler runs, on the arguments that were read. -/
  running : ∀ args, call.params = [.dict args] → ∀ as, a.registration.signature.Reads args as →
    a.Answers as (server.tryDispatch call)

/-- Whether a server responds to a call with what it makes of it: successfully where there is a result, and
with that result; otherwise with the payload of the error. -/
def Server.Responds (server : Server m) (call : Call) : Prop :=
  ∃ respond : Except DispatchError Value → Response,
    (∀ contents, respond (.ok contents) = ⟨true, contents⟩) ∧
    (∀ e, respond (.error e) = ⟨false, e.payload⟩) ∧
    server.dispatch call = respond <$> server.tryDispatch call

/-- Whether a server has one response to a call, whichever calls came before. -/
def Server.Repeats (server : Server m) (call : Call) : Prop :=
  ∃ (effect : m Unit) (response : Response), ∀ earlier : List Call,
    (do let _ ← earlier.mapM server.dispatch; server.dispatch call) =
      (do let _ ← earlier.mapM server.dispatch; effect; return response)

variable [LawfulMonad m] {a : Attempt m E}

theorem Attempt.answers_ended (as : a.A) : a.Answers as (a.report <$> a.ended as) := by
  refine ⟨a.report, a.aftermath, fun _ _ => reports_iff, fun _ => aftermath_of_quiet, ?_, ?_⟩
  · exact a.map_ended a.report as
  · intro h
    rw [ended_of_quiet h]

/-- A server that has the procedure of an attempt under the name of a call handles the call by it. -/
theorem Attempt.handles_of_get? {server : Server m} {call : Call}
    (h : server.table.get? call.name = some a.procedure) : a.Handles server call := by
  -- Behind a dictionary there is the procedure of the attempt and nothing else.
  have hcall (args : Arguments) (hargs : call.params = [.dict args]) :
      server.tryDispatch call = a.procedure args := by
    obtain ⟨name, params, notification⟩ := call
    cases hargs
    exact Server.tryDispatch_of_get? h args notification
  refine ⟨Server.tryDispatch_of_misframed h, ?_, ?_⟩
  · intro args hargs before p after e hplaces hbefore hp
    -- The first argument that cannot be read decides about all of them.
    have hread : a.registration.signature.decodeArgs args = .error e :=
      Signature.decodeArgs_eq_error_iff.2 ⟨before, p, after, hplaces, hbefore, hp⟩
    rw [hcall args hargs, procedure_of_decodeArgs hread]
  · intro args hargs as has
    rw [hcall args hargs, procedure_of_reads has]
    exact answers_ended as

end

namespace Session

variable {m : Type → Type} [Monad m] {E : Type} {heading : Heading} {bridge : ErrorBridge E}
  {events : List (Event m E)} {t : Session m E} {server : Server m}

/-- If it is settled how the handler of a call ends, the response is settled. -/
theorem Run.settled_dispatch [LawfulMonad m] (run : Run (start heading bridge) events t)
    (hserver : t.server = some server) {call : Call}
    (h : ∀ a, .attempted a (.ok ()) ∈ events → a.name = call.name → a.Steady) :
    Settled (server.dispatch call) := by
  -- A call that is refused is settled by itself; otherwise it is up to the handler.
  suffices hresult : Settled (server.tryDispatch call) from hresult.map Server.respond
  by_cases hname : call.name ∈ server.methods
  · obtain ⟨a, ha, haname⟩ := (run.mem_methods_iff hserver).1 hname
    have hget : server.table.get? call.name = some a.procedure := haname ▸ run.get?_of_mem hserver ha
    -- Either the call is refused, or all that happens is the handler with its aftermath.
    rcases Server.tryDispatch_cases hget with ⟨e, hrefused, -⟩ | ⟨as, hrun⟩
    · rw [hrefused]
      exact settled_pure _
    · rw [hrun]
      exact ((h a ha haname).settled_ended as).map _
  · rw [Server.tryDispatch_of_unknown hname]
    exact settled_pure _

/-- **What a call comes to.** A name that was never accepted is an unknown method, whatever the parameters
are; then these have to be exactly one dictionary; then the first argument that cannot be read is
reported. Otherwise the handler runs on the arguments that were read, once, and its outcome is reported.
What this comes to is the response, and if the handler has no state of its own, then that response stays the
same after any other calls. -/
theorem run_dispatches [LawfulMonad m] (run : Run (start heading bridge) events t)
    (hserver : t.server = some server) (call : Call) :
    (call.name ∈ server.methods ↔ ∃ a, .attempted a (.ok ()) ∈ events ∧ a.name = call.name) ∧
    (call.name ∉ server.methods →
      server.tryDispatch call = pure (.error (.unknownMethod call.name))) ∧
    (∀ a, .attempted a (.ok ()) ∈ events → a.name = call.name → a.Handles server call) ∧
    server.Responds call ∧
    ((∀ a, .attempted a (.ok ()) ∈ events → a.name = call.name → a.Steady) →
      server.Repeats call) := by
  refine ⟨run.mem_methods_iff hserver, Server.tryDispatch_of_unknown, ?_, ?_, ?_⟩
  · intro a ha hname
    -- The attempt that was accepted first is the one that the server has under this name.
    exact Attempt.handles_of_get? (hname ▸ run.get?_of_mem hserver ha)
  · -- This is how responses are made; nothing about the session is needed.
    exact ⟨Server.respond, fun _ => rfl, fun _ => rfl, rfl⟩
  · intro h
    obtain ⟨effect, response, hdispatch⟩ := run.settled_dispatch hserver h
    refine ⟨effect, response, ?_⟩
    intro earlier
    -- What a settled call gives was known before any of the earlier ones was made.
    rw [hdispatch, map_eq_pure_bind]

/-- A counter: nothing is added for calls that it refuses, and what it is called does not depend on
what was added. -/
theorem run_dispatches_counter :
    let heading : Heading := { name := "counter" }
    let bridge : ErrorBridge String := .direct .reason
    let add : Attempt (StateM Int64) String :=
      ⟨⟨"add", .ofSlots (.ofCodec (.ofType .int64)) [⟨.int64, some "amount", none⟩], bridge⟩, .plain,
        fun (amount, ()) => modifyGet fun n => (.returned (n + amount), n + amount), .quiet⟩
    let label : Attempt (StateM Int64) String :=
      ⟨⟨"label", .returning (.ofCodec (.ofType .string)), bridge⟩, .raising,
        fun () => pure (.returned "counter"), .quiet⟩
    ∃ server t,
      Run (start heading bridge)
        [.declared ⟨label.registration⟩, .declared ⟨add.registration⟩, .attempted add (.ok ()),
          .attempted label (.ok ()), .built server] t ∧
      t.server = some server ∧
      server.tryDispatch ⟨"reset", [], false⟩ = pure (.error (.unknownMethod "reset")) ∧
      server.tryDispatch ⟨"add", [.int 2], false⟩ = pure (.error .argumentFraming) ∧
      server.tryDispatch ⟨"add", [.dict [("Amount", .int 2)]], true⟩ =
        pure (.error (.missingArgument "amount")) ∧
      (∃ report, report (.returned 5) = .ok (.int 5) ∧
        server.tryDispatch ⟨"add", [.dict [("amount", .int 2)]], false⟩ =
          report <$> add.handler (2, ())) ∧
      server.Repeats ⟨"label", [], false⟩ := by
  intro heading bridge add label
  let empty : Builder (StateM Int64) String := { heading, bridge }
  let builder := (empty.attempt add).2
  have declared : Run (start heading bridge)
      [.declared ⟨label.registration⟩, .declared ⟨add.registration⟩]
      ⟨empty, [⟨add.registration⟩, ⟨label.registration⟩], none⟩ :=
    ((Run.nil _).snoc (.declare rfl "label" label.registration.signature)).snoc
      (.declare rfl "add" add.registration.signature)
  -- The answer to the first attempt is computed; of the second it is known by the rules.
  have added : Run (start heading bridge)
      [.declared ⟨label.registration⟩, .declared ⟨add.registration⟩, .attempted add (.ok ())]
      ⟨builder, [⟨label.registration⟩], none⟩ := by
    have step := Step.attempt (s := ⟨empty, [⟨add.registration⟩, ⟨label.registration⟩], none⟩) add
      (List.nil_append _).symm
    exact declared.snoc step
  have labelled := Step.attempt (s := ⟨builder, [⟨label.registration⟩], none⟩) label
    (List.nil_append _).symm
  rw [added.recorded.answer_eq label] at labelled
  have run := (added.snoc labelled).snoc (.build rfl)
  have dispatches := run_dispatches run rfl
  have hadd (params : List Value) (notification : Bool) :=
    (dispatches ⟨"add", params, notification⟩).2.2.1 add (by simp) rfl
  refine ⟨_, _, run, rfl, ?_, ?_, ?_, ?_, ?_⟩
  · -- Nobody was accepted under this name.
    obtain ⟨hmethods, hunknown, -⟩ := dispatches ⟨"reset", [], false⟩
    refine hunknown (mt hmethods.1 ?_)
    rintro ⟨a, ha, hname⟩
    simp only [List.mem_append, List.mem_cons, List.not_mem_nil, or_false, false_or,
      Event.attempted.injEq, reduceCtorEq] at ha
    rcases ha with ⟨rfl, -⟩ | ⟨rfl, -⟩
    · exact absurd (show "add" = "reset" from hname) (by decide)
    · exact absurd (show "label" = "reset" from hname) (by decide)
  · -- A number is no dictionary.
    refine (hadd [.int 2] false).framing ?_
    rintro args ⟨⟩
  · -- Names of arguments are compared as they are, and `Amount` is another one.
    exact (hadd _ true).reading _ rfl [] _ [] _ rfl (by simp) rfl
  · obtain ⟨report, -, hreport, -, -, hrun⟩ :=
      (hadd _ false).running [("amount", .int 2)] rfl (2, ()) ⟨rfl, trivial⟩
    exact ⟨report, (hreport _ _).1 (.result rfl), hrun (Attempt.quiet_of_disposal rfl)⟩
  · -- The handler of `label` has no state, although that of `add` has.
    refine (dispatches ⟨"label", [], false⟩).2.2.2.2 ?_
    intro a ha hname
    simp only [List.mem_append, List.mem_cons, List.not_mem_nil, or_false, false_or,
      Event.attempted.injEq, reduceCtorEq] at ha
    rcases ha with ⟨rfl, -⟩ | ⟨rfl, -⟩
    · exact absurd (show "add" = "label" from hname) (by decide)
    · exact fun _ => ⟨pure (), .returned "counter", Attempt.quiet_of_disposal rfl _, rfl⟩

/-- An error of the interface is not always what goes out when a handler fails with one: where the bridge
recognises no errors, it goes out in words. And not every call is answered: here a handler crashes, and the
remains of the crash give up when they are put away. -/
theorem words_for_an_error_and_no_answer :
    let heading : Heading := { name := "calc" }
    let bridge : ErrorBridge Sample.calcError.Carrier := Sample.textBridge Sample.calcErrors
    let signature : Signature Unit Unit := .returning (.ofCodec (.ofType .unit))
    let zero : Sample.calcError.Carrier := .inl ()
    let raising : Attempt (Except Crash) Sample.calcError.Carrier :=
      ⟨⟨"ping", signature, bridge⟩, .raising, fun () => pure (.failed { cause := .error zero }), .quiet⟩
    let crashing : Attempt (Except Crash) Sample.calcError.Carrier :=
      ⟨⟨"ping", signature, bridge⟩, .plain, fun () => pure (.crashed .silent), fun _ => .error .silent⟩
    let ping : Call := ⟨"ping", [.dict []], false⟩
    (Server.only heading bridge (some raising)).tryDispatch ping =
        pure (.error (.implementation "ping" "division by zero" (.string "division by zero"))) ∧
      bridge.type.codec.encode zero = .string "DivideByZero" ∧
      (Server.only heading bridge (some crashing)).dispatch ping = .error .silent := by
  intro heading bridge signature zero raising crashing ping
  have hget (a : Attempt (Except Crash) Sample.calcError.Carrier) (hname : a.name = "ping") :
      (Server.only heading bridge (some a)).table.get? ping.name = some a.procedure := by
    rw [Server.get?_only, hname]
    rfl
  refine ⟨?_, rfl, ?_⟩
  · -- This bridge raises errors as text, and does not find them again.
    rw [Server.tryDispatch_of_get? (hget raising rfl) [] false]
    rfl
  · -- The response is ready when the remains are put away, and is lost with them.
    rw [Server.dispatch, Server.tryDispatch_of_get? (hget crashing rfl) [] false]
    rfl

end Session
end Wirecall
