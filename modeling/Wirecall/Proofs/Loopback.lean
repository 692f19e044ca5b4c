import Wirecall.Client
import Wirecall.Proofs.Dispatching
import Wirecall.Proofs.RoundTrip
import Wirecall.Slot

/-!
# Calling a server in the same process

A client whose transport is a server of the same interface calls the handlers of the server, and one
cannot tell from the outside that anything was written or read in between
(`Client.call_eq_map_handler`).

The effects of handlers happen in a monad of which nothing is known but its laws. So the statement is an
equation in that monad: the call is the handler of that method at these arguments, with its outcome renamed.
Nothing is done before or besides, and nothing after it either, unless the handler crashes and its remains
are put away.

* `Codec.Carries` is what a value has to meet: it can be written and is read back. All values of the type
  language that cross without loss do (`DataType.Lossless.carries`, `Signature.carries_ofSlots`).
* `Signature.decodeArgs_encodeArgs` is the way of the arguments: what was sent under the names of the
  parameters is found under them, in any position.
* `Builder.get?_implementAll` is what a builder knows after some methods were implemented, in any order
  and under any names: the first implementation of each name.
* `ClientMethod.finish_returned` and `ClientMethod.finish_failed` are the way back.
-/

namespace Wirecall

/-! ### What crosses unchanged -/

/-- Whether a value crosses a connection unchanged: writing it does not give up, and it is read back. Codecs of
one's own may do neither, so this is asked of each value and not assumed. -/
def Codec.Carries {α : Type} (codec : Codec α) (a : α) : Prop :=
  codec.encodeCrash a = none ∧ codec.decode (codec.encode a) = .ok a

/-- Whether an interface error crosses unchanged. A server also puts it into words, for its own use, and
that must not give up either. -/
def ErrorType.Carries {E : Type} (type : ErrorType E) (e : E) : Prop :=
  type.textCrash e = none ∧ type.codec.Carries e

/-- Whether all arguments cross unchanged. -/
def Signature.Carries {A R : Type} : Signature A R → A → Prop
  | .returning _, _ => True
  | .arrow param rest, (a, as) => param.codec.Carries a ∧ rest.Carries as

/-- Reporting an error that crosses unchanged does not give up. -/
theorem Attempt.crash?_of_carries {m : Type → Type} {E : Type} {a : Attempt m E} {failure : a.F} {e : E}
    (he : a.error? failure = some e) (h : a.errors.Carries e) : a.crash? (.failed failure) = none := by
  simp only [crash?, he, h.1, h.2.1, Option.none_or]

/-- The codecs of the type language carry whatever crosses without loss. -/
theorem DataType.Lossless.carries {type : DataType} {x : type.Carrier} (h : type.Lossless x) :
    (Codec.ofType type).Carries x :=
  ⟨rfl, decode_of_spells type (spells_of_writes type h (writes_encode type x))⟩

/-- Whether the arguments for some slots cross without loss. -/
def Slot.Lossless : (slots : List Slot) → Slot.Carriers slots → Prop
  | [], _ => True
  | s :: rest, (a, as) => s.type.Lossless a ∧ Lossless rest as

/-- The signatures over the type language carry all arguments that cross without loss. -/
theorem Signature.carries_ofSlots {R : Type} (result : Param R) {slots : List Slot}
    {as : Slot.Carriers slots} (h : Slot.Lossless slots as) : (ofSlots result slots).Carries as := by
  induction slots with
  | nil => trivial
  | cons s rest ih =>
    -- Slots and parameters go along with each other, one by one.
    obtain ⟨hfirst, hrest⟩ := h
    exact ⟨hfirst.carries, ih hrest⟩

/-! ### The way of the arguments -/

/-- Under pairwise different names, those in front of a member have other names than it. -/
theorem exists_append_of_nodup_names {α : Type*} {nameOf : α → String} {members : List α}
    (hnames : (members.map nameOf).Nodup) {x : α} (hx : x ∈ members) :
    ∃ before after, members = before ++ x :: after ∧ ∀ y ∈ before, nameOf y ≠ nameOf x := by
  obtain ⟨before, after, rfl⟩ := List.append_of_mem hx
  rw [List.map_append, List.map_cons] at hnames
  -- Were there another one of that name in front, the name would be there twice.
  have hdisjoint := (List.nodup_append.1 hnames).2.2
  exact ⟨before, after, rfl, fun y hy => hdisjoint _ (List.mem_map_of_mem hy) _ List.mem_cons_self⟩

/-- Under pairwise different names, the entry of a name is the one that is found. -/
theorem Arguments.lookup_of_mem {args : Arguments} (hnames : (args.map (·.1)).Nodup) {name : String}
    {v : Value} (h : (name, v) ∈ args) : args.lookup name = some v := by
  obtain ⟨before, after, heq, hbefore⟩ := exists_append_of_nodup_names hnames h
  rw [List.lookup_eq_some_iff]
  exact ⟨before, after, heq, fun e he => bne_iff_ne.2 (hbefore e he).symm⟩

namespace Signature

variable {A R : Type}

theorem names_encodeArgs (s : Signature A R) (as : A) :
    (s.encodeArgs as).map (·.1) = s.params.map (·.name) := by
  induction s with
  | returning => rfl
  | arrow param rest ih =>
    rw [encodeArgs, params, List.map_cons, List.map_cons, ih as.2]
    rfl

/-- Arguments are found among others, and in any order. It is enough that all that was sent is there, and that
no name is there twice. -/
theorem decodeArgs_of_subset (s : Signature A R) {as : A} (h : s.Carries as) {args : Arguments}
    (hnames : (args.map (·.1)).Nodup) (hsub : s.encodeArgs as ⊆ args) :
    s.decodeArgs args = .ok as := by
  induction s with
  -- Where there are no parameters, the arguments are not looked at.
  | returning => rfl
  | arrow param rest ih =>
    obtain ⟨a, as⟩ := as
    obtain ⟨⟨_, hread⟩, hrest⟩ := h
    -- The first argument is one of the entries, and the others are among them as before.
    rw [encodeArgs, List.cons_subset] at hsub
    have hlookup := Arguments.lookup_of_mem hnames hsub.1
    have hparam : param.read args = .ok a := by
      simp only [Param.read, hlookup, hread]
    rw [decodeArgs, hparam, ih hrest hsub.2]
    rfl

/-- What is sent under the names of the parameters is what is received. -/
theorem decodeArgs_encodeArgs (s : Signature A R) (hnames : (s.params.map (·.name)).Nodup) {as : A}
    (h : s.Carries as) : s.decodeArgs (s.encodeArgs as) = .ok as := by
  refine s.decodeArgs_of_subset h ?_ (List.Subset.refl _)
  rwa [names_encodeArgs]

end Signature

/-! ### The way to the handler -/

/-- A method with a handler, which takes its arguments one by one. -/
structure Implementation (m : Type → Type) (E : Type) where
  {A R : Type}
  /-- The name of the method in the interface. -/
  name : String
  signature : Signature A R
  handler : signature.Function (m (Outcome R E))
  /-- What happens to the remains of crashes. -/
  disposal : Disposal m

/-- The attempt to implement a method on a builder with a heading and a bridge. -/
def Implementation.attempt {m : Type → Type} {E : Type} (x : Implementation m E) (heading : Heading)
    (bridge : ErrorBridge E) : Attempt m E :=
  ⟨⟨heading.wireName x.name, x.signature, bridge⟩, .plain, x.signature.apply x.handler, x.disposal⟩

section
variable {m : Type → Type} [Monad m] {E : Type}

/-- What a builder with a heading and a bridge installs for a method. -/
def Implementation.procedure (x : Implementation m E) (heading : Heading) (bridge : ErrorBridge E) :
    Procedure m :=
  (x.attempt heading bridge).procedure

namespace Builder

/-- Declares a method and implements it. -/
def put (b : Builder m E) (x : Implementation m E) : Builder m E :=
  (b.implement (b.declare x.name x.signature) (x.signature.apply x.handler) x.disposal).2

/-- Declares and implements some methods, one after the other. -/
def implementAll (b : Builder m E) (methods : List (Implementation m E)) : Builder m E :=
  methods.foldl put b

/-- Implementing a method changes nothing but the table. -/
theorem put_frame (b : Builder m E) (x : Implementation m E) :
    (b.put x).heading = b.heading ∧ (b.put x).bridge = b.bridge ∧ (b.put x).sealed = b.sealed :=
  b.install_frame (b.heading.wireName x.name) (x.procedure b.heading b.bridge)

/-- In the table, it shows only under its own name, and only if there was nothing. -/
theorem get?_put {b : Builder m E} (hopen : b.sealed = false) (x : Implementation m E)
    (name : String) :
    (b.put x).table.get? name =
      (b.table.get? name).or
        (if b.heading.wireName x.name = name then some (x.procedure b.heading b.bridge)
          else none) :=
  get?_install hopen (b.heading.wireName x.name) (x.procedure b.heading b.bridge) name

/-- After some methods were implemented, each name on the wire leads to the first of them with that
name, unless it was taken before. -/
theorem get?_implementAll (methods : List (Implementation m E)) {b : Builder m E}
    (hopen : b.sealed = false) (name : String) :
    (b.implementAll methods).table.get? name =
      (b.table.get? name).or
        ((methods.find? fun x => b.heading.wireName x.name == name).map fun x =>
          x.procedure b.heading b.bridge) := by
  induction methods generalizing b with
  | nil => rw [implementAll, List.foldl_nil, List.find?_nil, Option.map_none, Option.or_none]
  | cons x rest ih =>
    obtain ⟨hheading, hbridge, hsealed⟩ := put_frame b x
    -- What the first method leaves behind is a builder of the same heading and bridge, still open.
    have ih := ih (hsealed.trans hopen)
    rw [hheading, hbridge, get?_put hopen, Option.or_assoc] at ih
    refine ih.trans ?_
    rw [List.find?_cons]
    -- Either the first method has this name and takes it, or it is left to the others.
    by_cases hname : b.heading.wireName x.name = name
    · rw [if_pos hname, hname, beq_self_eq_true, Option.some_or]
      rfl
    · rw [if_neg hname, beq_eq_false_iff_ne.2 hname, Option.none_or]

end Builder

omit [Monad m] in
/-- Among methods of different names, a name on the wire leads to the method that has it. -/
theorem Implementation.find?_wireName (heading : Heading) {methods : List (Implementation m E)}
    (hnames : (methods.map (·.name)).Nodup) {x : Implementation m E} (hx : x ∈ methods) :
    methods.find? (fun y => heading.wireName y.name == heading.wireName x.name) = some x := by
  obtain ⟨before, after, heq, hbefore⟩ := exists_append_of_nodup_names hnames hx
  rw [List.find?_eq_some_iff_append]
  refine ⟨beq_self_eq_true _, before, after, heq, ?_⟩
  intro y hy
  -- The namespace is the same everywhere, so different names stay different.
  rw [beq_eq_false_iff_ne.2 fun h => hbefore y hy (heading.wireName_inj.1 h)]
  rfl

/-! ### The way back -/

namespace ClientMethod

variable {A R : Type}

/-- What a client makes of the answer of its transport. -/
def read (method : ClientMethod m E A R) :
    Except TransportError Response → Except (CallError E) R
  | .ok response => method.finish response
  | .error e => .error (.transport e)

/-- A call is one exchange and a reading of the answer. -/
theorem call_eq_map [LawfulMonad m] (method : ClientMethod m E A R) (args : A) :
    method.call args = method.read <$> method.transport (method.prepare args) := by
  unfold call
  rw [map_eq_pure_bind]
  refine bind_congr fun answer => ?_
  -- A transport that fails is reported, and what comes back otherwise is read.
  cases answer with
  | ok response => rfl
  | error e => rfl

/-- A call over a server is a dispatch, and a reading of what it gave. This holds of any server and of any
method, known to the server or not. -/
theorem call_eq_map_tryDispatch [LawfulMonad m] {method : ClientMethod m E A R} {s : Server m}
    (htransport : method.transport = s.transport) (args : A) :
    method.call args = (fun result => method.finish (Server.respond result)) <$>
      s.tryDispatch (method.prepare args) := by
  -- Such a transport never fails by itself, so there is always a response to read.
  rw [call_eq_map, htransport, Server.transport, Server.dispatch, Functor.map_map, Functor.map_map]
  rfl

/-- If the server has the method, it is the procedure of the method. -/
theorem call_transport [LawfulMonad m] {method : ClientMethod m E A R} {s : Server m}
    (htransport : method.transport = s.transport) {procedure : Procedure m}
    (hprocedure : s.table.get? method.name = some procedure) (args : A) :
    method.call args = (fun result => method.finish (Server.respond result)) <$>
      procedure (method.signature.encodeArgs args) := by
  rw [call_eq_map_tryDispatch htransport]
  unfold Server.tryDispatch prepare Call.named
  rw [hprocedure]

omit [Monad m] in
/-- A result that crosses unchanged is what the caller gets. The handler has been run in a monad of its own,
which need not be that of the transport. -/
theorem finish_returned {n : Type → Type} {a : Attempt n E} {method : ClientMethod m E A a.R}
    (hcodec : method.signature.resultParam.codec = a.resultCodec) {result : a.R}
    (h : a.resultCodec.Carries result) :
    method.finish (Server.respond (a.report (.returned result))) = .ok result := by
  obtain ⟨hcrash, hread⟩ := h
  -- The response is a success, and holds the result as it was written.
  rw [Attempt.report_returned hcrash]
  simp only [Server.respond, Response.ofResult, finish, if_true, hcodec, hread]
  rfl

omit [Monad m] in
/-- An error of the interface is told as the error that its wire form is read as, if it is read at all. -/
theorem finish_failed_iff {n : Type → Type} {a : Attempt n E} {method : ClientMethod m E A R}
    (herrors : method.errors = a.errors.codec) {failure : a.F} {e : E}
    (h : a.crash? (.failed failure) = none) (he : a.error? failure = some e) {e' : E} :
    method.finish (Server.respond (a.report (.failed failure))) = .error (.remote e') ↔
      a.errors.codec.decode (a.errors.codec.encode e) = .ok e' := by
  -- The response is a failure, and holds the error as it was written.
  rw [Attempt.report_error h he]
  unfold finish
  simp only [Server.respond, Response.ofFailure, DispatchError.payload, herrors, Bool.false_eq_true,
    if_false]
  -- If it cannot be read, a reason is told instead of an error.
  cases a.errors.codec.decode (a.errors.codec.encode e) <;> simp

omit [Monad m] in
/-- So an interface error that crosses unchanged is what the caller gets, as an error of the other side. -/
theorem finish_failed {n : Type → Type} {a : Attempt n E} {method : ClientMethod m E A R}
    (herrors : method.errors = a.errors.codec) {failure : a.F} {e : E} (he : a.error? failure = some e)
    (h : a.errors.Carries e) :
    method.finish (Server.respond (a.report (.failed failure))) = .error (.remote e) :=
  (finish_failed_iff herrors (Attempt.crash?_of_carries he h) he).2 h.2.2

end ClientMethod
end

/-! ### The whole way -/

/-- **A call over a server in the same process is a call of the handler.** It is run once, on the arguments
of the call, and the caller gets what it ended in. If that is a result or an error that crosses unchanged,
then nothing happens after the handler has ended; and where remains go quietly, nothing ever does. -/
theorem Client.call_eq_map_handler {m : Type → Type} [Monad m] [LawfulMonad m] {E : Type}
    (heading : Heading) (bridge : ErrorBridge E) (methods : List (Implementation m E))
    (hnames : (methods.map (·.name)).Nodup) (x : Implementation m E) (hx : x ∈ methods)
    (hparams : (x.signature.params.map (·.name)).Nodup) :
    let server := (Builder.implementAll ⟨heading, bridge, .empty, false⟩ methods).build.1
    let client : Client m E := ⟨heading, bridge.type.codec, server.transport⟩
    let method := client.declare x.name x.signature
    ∃ (answer : Outcome x.R E → Except (CallError E) x.R) (aftermath : Outcome x.R E → m Unit),
      (∀ result, x.signature.resultParam.codec.Carries result →
        answer (.returned result) = .ok result ∧ aftermath (.returned result) = pure ()) ∧
      (∀ e, bridge.type.Carries e →
        answer (.failed e) = .error (.remote e) ∧ aftermath (.failed e) = pure ()) ∧
      ∀ args, x.signature.Carries args →
        (method.call args = do
          let outcome ← x.signature.apply x.handler args
          aftermath outcome
          return answer outcome) ∧
        (x.disposal = .quiet → method.call args = answer <$> x.signature.apply x.handler args) ∧
        x.signature.apply method.function args = method.call args := by
  intro server client method
  let a := x.attempt heading bridge
  -- Client and server put the same namespace in front of the name, so the call ends up at `x`.
  have htable : server.table.get? method.name = some a.procedure := by
    refine (Builder.get?_implementAll methods rfl _).trans ?_
    rw [SortedMap.get?_empty, Option.none_or]
    rw [show method.name = heading.wireName x.name from rfl,
      Implementation.find?_wireName heading hnames hx]
    rfl
  -- The arguments arrive as they were sent, so there is nothing to be refused.
  have hcall (args : x.A) (h : x.signature.Carries args) :
      method.call args = (fun outcome => method.finish (Server.respond (a.report outcome))) <$>
        a.ended args := by
    have hreads : a.registration.signature.Reads (x.signature.encodeArgs args) args :=
      Signature.decodeArgs_eq_ok_iff.1 (x.signature.decodeArgs_encodeArgs hparams h)
    rw [ClientMethod.call_transport rfl htable, show method.signature = x.signature from rfl,
      Attempt.procedure_of_reads hreads, Functor.map_map]
  -- The answer to an outcome is what the client reads out of the response that reports it.
  refine ⟨fun outcome => method.finish (Server.respond (a.report outcome)), a.aftermath, ?_, ?_, ?_⟩
  · intro result h
    exact ⟨ClientMethod.finish_returned rfl h, Attempt.aftermath_of_none h.1⟩
  · intro e h
    have hcrash : a.crash? (.failed e) = none := Attempt.crash?_of_carries rfl h
    exact ⟨ClientMethod.finish_failed rfl rfl h, Attempt.aftermath_of_none hcrash⟩
  · intro args h
    refine ⟨?_, ?_, x.signature.apply_curry method.call args⟩
    · exact (hcall args h).trans (Attempt.map_ended (a := a) _ args)
    · intro hquiet
      have hended : a.ended args = a.handler args :=
        Attempt.ended_of_quiet (a := a) (Attempt.quiet_of_disposal hquiet) args
      exact (hcall args h).trans (congrArg _ hended)

namespace Sample

/-- All errors of a calculator cross without loss: no two of its tags are one in lower case. -/
theorem calcError_lossless : ∀ e : calcError.Carrier, calcError.Lossless e
  | .inl _ => List.not_mem_nil
  | .inr (.inl _) => by
    have htag : Text.lowerCase "Overflow" ∉ [Text.lowerCase "DivideByZero"] := by decide +kernel
    exact ⟨htag, trivial⟩
  | .inr (.inr (.inl _)) => by
    have htag : Text.lowerCase "Negative" ∉
        [Text.lowerCase "Overflow", Text.lowerCase "DivideByZero"] := by decide +kernel
    exact ⟨htag, trivial⟩

/-- The divisions that were asked for, the latest first. -/
abbrev Record := StateM (List (Int64 × Int64))

/-- Divides, and records what was asked. -/
def recordedQuotient (dividend divisor : Int64) : Record (Outcome Int64 calcError.Carrier) :=
  modifyGet fun record =>
    (if divisor = 0 then .failed (.inl ()) else .returned (dividend / divisor),
      (dividend, divisor) :: record)

def divide : Implementation Record calcError.Carrier where
  name := "divide"
  signature := .ofSlots (.ofCodec (.ofType .int64))
    [⟨.int64, some "dividend", none⟩, ⟨.int64, some "divisor", none⟩]
  handler := recordedQuotient
  disposal := .quiet

/-- Forgets all divisions. -/
def forget : Implementation Record calcError.Carrier where
  name := "forget"
  signature := .ofSlots (.ofCodec (.ofType .unit)) []
  handler := (modifyGet fun _ => (.returned (), []) : Record (Outcome Unit calcError.Carrier))
  disposal := .quiet

end Sample

/-- Two arguments of one type, behind a method of another name: the handler gets them in their places,
and runs once. -/
theorem Client.call_eq_map_handler_divide :
    let heading : Heading := { name := "calc", space := some "math" }
    let bridge := ErrorBridge.direct Sample.calcErrors
    let methods := [Sample.forget, Sample.divide]
    let server := (Builder.implementAll ⟨heading, bridge, .empty, false⟩ methods).build.1
    let client : Client Sample.Record _ := ⟨heading, bridge.type.codec, server.transport⟩
    let method := client.declare Sample.divide.name Sample.divide.signature
    (methods.map (·.name)).Nodup ∧ Sample.divide ∈ methods ∧
      (Sample.divide.signature.params.map (·.name)).Nodup ∧
      Sample.divide.signature.Carries (7, 0, ()) ∧
      (method.call (7, 0, ())).run [] = (.error (.remote (.inl ())), [(7, 0)]) := by
  intro heading bridge methods server client method
  have hnames : (methods.map (·.name)).Nodup := by decide
  have hmem : Sample.divide ∈ methods := List.mem_cons_of_mem _ List.mem_cons_self
  have hparams : (Sample.divide.signature.params.map (·.name)).Nodup := by decide
  have hargs : Sample.divide.signature.Carries (7, 0, ()) :=
    Signature.carries_ofSlots _ ⟨trivial, trivial, trivial⟩
  have hzero : bridge.type.Carries (.inl ()) :=
    ⟨rfl, DataType.Lossless.carries (Sample.calcError_lossless (.inl ()))⟩
  obtain ⟨answer, aftermath, -, herror, hcall⟩ :=
    Client.call_eq_map_handler heading bridge methods hnames Sample.divide hmem hparams
  refine ⟨hnames, hmem, hparams, hargs, ?_⟩
  have hrun := (hcall (7, 0, ()) hargs).2.1 rfl
  rw [hrun]
  show (answer (.failed (.inl ())), [(7, 0)]) = _
  rw [(herror _ hzero).1]

end Wirecall
