import Wirecall.Proofs.RaisingClients
import Wirecall.Proofs.WholeSeconds

/-!
# What a raising handler reports

A handler fails with errors of its interface, or with raised errors. Of the latter it does not matter how
many contexts were put on top of an error of the interface: the bridge that raises errors as they are finds
it under all of them, and it is reported in its own words. So a plain handler can be traded for a lifting
of it (`Lifts`), and nobody can tell from the server that is built (`Session.run_raises_alike`).

* `Registration.procedure_of_lifts` is the reason: both handlers make the same procedure.
* `Session.Event.effect` is what an event comes to on a builder. It depends on nothing but the builder, so
  two histories that differ in lifted handlers give the same answers and the same builder
  (`Session.Run.lifted`), and the builder determines the server.
* `Session.Keeps` is the invariant that every registration keeps the bridge under which it was declared,
  whichever bridges the builder gets later.
* `RaisingMethod.answer_of_error` is the way back to a raising caller.

What a raising caller finds at the bottom is the error as it is read back from the wire. That need not be the
error that the handler failed with: a moment inside it loses its part of a second
(`Session.raised_moment_is_cut`).

**Liftings.** What contexts a lifting puts on top may depend on anything, also on effects of its own. A
plain handler and a lifting of it are therefore two views of one joint computation, of outcomes together
with contexts. With contexts that hang on the arguments alone this is the handler followed by a function
(`lifts_of_contexts`).
-/

namespace Wirecall

/-! ### Lifting a handler -/

section
variable {m : Type → Type} {E A R : Type}

/-- An error of the interface as a raised error, with contexts put on top one after the other. -/
def Raised.ofError (e : E) (contexts : List String) : Raised E :=
  contexts.foldl Raised.withContext { cause := .error e }

/-- Contexts hide nothing, however many there are. -/
theorem Raised.error?_ofError (e : E) (contexts : List String) :
    (Raised.ofError e contexts).error? = some e := by
  -- A context is put around what there is; the bottom stays where it was.
  have hkept (r : Raised E) : (contexts.foldl Raised.withContext r).error? = r.error? := by
    induction contexts generalizing r with
    | nil => rfl
    | cons context rest ih => rw [List.foldl_cons, ih, error?_withContext]
  exact hkept _

/-- An outcome with its error, if it is one, raised under contexts. -/
def Outcome.lift (contexts : List String) : Outcome R E → Outcome R (Raised E)
  | .returned result => .returned result
  | .failed e => .failed (.ofError e contexts)
  | .crashed c => .crashed c

/-- Whether a raising handler is a lifting of a plain one: both are views of one computation, in which
contexts of any kind are thought up besides. -/
def Lifts [Functor m] (plain : A → m (Outcome R E)) (raising : A → m (Outcome R (Raised E))) : Prop :=
  ∃ joint : A → m (Outcome R E × List String), ∀ as,
    plain as = Prod.fst <$> joint as ∧ raising as = (fun o => o.1.lift o.2) <$> joint as

/-- A handler whose errors are raised under contexts that hang on the arguments. -/
theorem lifts_of_contexts [Functor m] [LawfulFunctor m] (plain : A → m (Outcome R E))
    (contexts : A → List String) : Lifts plain fun as => Outcome.lift (contexts as) <$> plain as := by
  -- The plain handler is run, and the contexts for its arguments are put beside.
  refine ⟨fun as => (·, contexts as) <$> plain as, fun as => ⟨?_, ?_⟩⟩
  · rw [← comp_map]
    exact (id_map (plain as)).symm
  · rw [← comp_map]
    rfl

namespace Registration

variable {r : Registration E A R} {type : ErrorType E}

theorem failRaised_of_recognised {raised : Raised E} {e : E} (h : r.bridge.recognise raised = some e) :
    r.failRaised raised = r.fail e := by
  unfold failRaised
  rw [h]

theorem failRaised_of_unrecognised {raised : Raised E} (h : r.bridge.recognise raised = none)
    (htext : raised.cause.textCrash r.bridge.type = none) :
    r.failRaised raised = .ok (.ofReason r.name (raised.text r.bridge.type)) := by
  unfold failRaised
  rw [h, htext]

/-- The bridge finds the error again, and reports it in its own words. -/
theorem conclude_lift (hbridge : r.bridge = .direct type) (outcome : Outcome R E)
    (contexts : List String) :
    r.conclude r.failRaised (outcome.lift contexts) = r.conclude r.fail outcome := by
  cases outcome with
  | returned result => rfl
  | crashed c => rfl
  | failed e =>
    -- Only a failure is lifted, and this bridge looks through contexts.
    have hfound : r.bridge.recognise (.ofError e contexts) = some e := by
      rw [hbridge]
      exact Raised.error?_ofError e contexts
    exact congrArg (Except.map Except.error) (failRaised_of_recognised hfound)

/-- A handler and its lifting make the same procedure. -/
theorem procedure_of_lifts [Monad m] [LawfulMonad m] (hbridge : r.bridge = .direct type)
    {plain : A → m (Outcome R E)} {raising : A → m (Outcome R (Raised E))} (h : Lifts plain raising)
    (disposal : Disposal m) :
    r.procedure r.failRaised raising disposal = r.procedure r.fail plain disposal := by
  obtain ⟨joint, hjoint⟩ := h
  funext args
  unfold procedure
  -- Arguments are read before there is any handler, so they are read alike.
  cases r.signature.decodeArgs args with
  | error e => rfl
  | ok as =>
    obtain ⟨hplain, hraising⟩ := hjoint as
    dsimp only
    -- Both sides are the joint computation, up to what is made of its outcome.
    rw [hplain, hraising, bind_map_left, bind_map_left]
    refine bind_congr fun o => ?_
    rw [conclude_lift hbridge]

end Registration

/-- Whether an attempt is another one with its handler lifted, under the bridge that raises errors as they
are. The handlers crash alike, and what is left behind is put away alike. -/
inductive Attempt.Lifted [Functor m] : Attempt m E → Attempt m E → Prop
  | lift {A R : Type} {r : Registration E A R} {type : ErrorType E} {plain : A → m (Outcome R E)}
    {raising : A → m (Outcome R (Raised E))} (disposal : Disposal m) (hbridge : r.bridge = .direct type)
    (h : Lifts plain raising) : Lifted ⟨r, .plain, plain, disposal⟩ ⟨r, .raising, raising, disposal⟩

/-- No builder sees a difference. -/
theorem Attempt.Lifted.attempt_eq [Monad m] [LawfulMonad m] {a a' : Attempt m E} (h : a.Lifted a')
    (b : Builder m E) : b.attempt a' = b.attempt a := by
  cases h with
  | lift disposal hbridge h =>
    exact congrArg (b.install _) (Registration.procedure_of_lifts hbridge h disposal)

end

namespace Session

variable {m : Type → Type} {E : Type}

/-! ### Lifting handlers in a history -/

/-- Whether an event is another one, or is one with a lifted handler in place of a plain one. Answers and
servers are left open, as they are what comes out. -/
inductive Event.Lifted [Functor m] : Event m E → Event m E → Prop
  | bridged (bridge : ErrorBridge E) : Lifted (.bridged bridge) (.bridged bridge)
  | declared (d : Declared E) : Lifted (.declared d) (.declared d)
  | attempted {a a' : Attempt m E} (h : a' = a ∨ a.Lifted a') (answer answer' : Except InstallError Unit) :
    Lifted (.attempted a answer) (.attempted a' answer')
  | built (server server' : Server m) : Lifted (.built server) (.built server')

/-- The answer that an event gave, if it was an attempt. -/
def Event.answer? : Event m E → Option (Except InstallError Unit)
  | .attempted _ answer => some answer
  | _ => none

section
variable [Monad m]

/-- What an event comes to on a builder: the answer, if it is an attempt, and the builder afterwards. The rest
of the session has no part in it, neither the registrations that wait nor the servers that were built. -/
def Event.effect (b : Builder m E) : Event m E → Option (Except InstallError Unit) × Builder m E
  | .bridged bridge => (none, b.withBridge bridge)
  | .declared _ => (none, b)
  | .attempted a _ => (some (b.attempt a).1, (b.attempt a).2)
  | .built _ => (none, b.build.2)

variable {heading : Heading} {bridge : ErrorBridge E} {events events' rest : List (Event m E)}
  {s s' t : Session m E} {e : Event m E}

theorem Step.effect_eq (step : Step s e t) : e.effect s.builder = (e.answer?, t.builder) := by
  cases step with
  | bridge => rfl
  | declare => rfl
  | attempt => rfl
  | build => rfl

theorem Run.eq_of_nil (run : Run s [] t) : t = s := by
  generalize hevents : [] = events at run
  cases run with
  | nil => rfl
  | snoc run step => simp at hevents

/-- The first event of a run is a step, and the others are a run. -/
theorem Run.first (run : Run s (e :: rest) t) : ∃ u, Step s e u ∧ Run u rest t := by
  have run : Run s ([] ++ e :: rest) t := run
  -- A run is split in front of its first event: what lies before that is nothing.
  obtain ⟨v, u, hnone, hstep, hrest⟩ := run.split
  rw [hnone.eq_of_nil] at hstep
  exact ⟨u, hstep, hrest⟩

/-- What is built is determined by the builder. -/
theorem Recorded.server_eq_of_builder (h : Recorded heading bridge events s)
    (h' : Recorded heading bridge events' s') (hbuilder : s'.builder = s.builder) :
    s'.server = s.server := by
  -- Whether there is a server shows in the seal, and what it has in the table.
  have hsome : s'.server.isSome = s.server.isSome := by
    rw [← h'.sealed_eq, ← h.sealed_eq, hbuilder]
  cases hserver : s.server with
  -- Neither builder is sealed.
  | none =>
    rwa [hserver, Option.isSome_none, Option.isSome_eq_false_iff, Option.isNone_iff_eq_none] at hsome
  -- Both are sealed, and a server has the table that its builder had.
  | some server =>
    rw [hserver, Option.isSome_some, Option.isSome_iff_exists] at hsome
    obtain ⟨server', hserver'⟩ := hsome
    rw [hserver', h'.server_eq server' hserver', h.server_eq server hserver, hbuilder]

end

variable [Monad m] [LawfulMonad m] {heading : Heading} {bridge : ErrorBridge E}
  {events events' : List (Event m E)} {e e' : Event m E} {s s' t t' : Session m E}

/-- To a builder, a lifted handler is the handler. -/
theorem Event.Lifted.effect_eq (h : e.Lifted e') (b : Builder m E) : e'.effect b = e.effect b := by
  cases h with
  | bridged bridge => rfl
  | declared d => rfl
  | attempted h answer answer' =>
    -- The attempt is the same one, or its handler has been lifted.
    rcases h with rfl | h
    · rfl
    · exact congrArg (fun r => (some r.1, r.2)) (h.attempt_eq b)
  | built server server' => rfl

/-- **Lifting handlers changes nothing in a run**, neither the answers nor the builder. -/
theorem Run.lifted (h : List.Forall₂ Event.Lifted events events') (run : Run s events t)
    (run' : Run s' events' t') (hbuilder : s'.builder = s.builder) :
    t'.builder = t.builder ∧ List.Forall₂ (fun e e' => e'.answer? = e.answer?) events events' := by
  -- Along both histories, from the front: the builders are the same before each pair of events.
  induction h generalizing s s' with
  | nil =>
    rw [run.eq_of_nil, run'.eq_of_nil]
    exact ⟨hbuilder, .nil⟩
  | cons hfirst _ ih =>
    obtain ⟨u, step, run⟩ := run.first
    obtain ⟨u', step', run'⟩ := run'.first
    -- Both steps have the same effect, since the builders before them are the same.
    have heffect := hfirst.effect_eq s.builder
    rw [step.effect_eq, ← hbuilder, step'.effect_eq, Prod.mk.injEq] at heffect
    obtain ⟨hanswer, hnext⟩ := heffect
    obtain ⟨hlast, hanswers⟩ := ih run run' hnext
    exact ⟨hlast, .cons hanswer hanswers⟩

/-! ### The bridge that was held -/

omit [Monad m] [LawfulMonad m]

/-- The bridge that an event gave to the builder, if it did. -/
def Event.bridge? : Event m E → Option (ErrorBridge E)
  | .bridged bridge => some bridge
  | _ => none

/-- The bridge that a builder holds after some events: the latest one that it was given, or the one that it
started with. -/
def held (bridge : ErrorBridge E) (events : List (Event m E)) : ErrorBridge E :=
  events.foldl (fun held e => e.bridge?.getD held) bridge

theorem held_snoc (bridge : ErrorBridge E) (events : List (Event m E)) (e : Event m E) :
    held bridge (events ++ [e]) = e.bridge?.getD (held bridge events) := by
  unfold held
  rw [List.foldl_append]
  rfl

/-- Whether a method was declared in some events, under the bridge that the builder held then. What the builder
held later does not count. -/
def DeclaredIn (bridge : ErrorBridge E) (events : List (Event m E)) (d : Declared E) : Prop :=
  ∃ before after, events = before ++ .declared d :: after ∧ d.registration.bridge = held bridge before

theorem DeclaredIn.snoc {d : Declared E} (h : DeclaredIn bridge events d) (e : Event m E) :
    DeclaredIn bridge (events ++ [e]) d := by
  obtain ⟨before, after, rfl, hheld⟩ := h
  exact ⟨before, after ++ [e], by simp, hheld⟩

variable [Monad m]

/-- Every registration keeps the bridge under which it was declared. -/
structure Keeps (bridge : ErrorBridge E) (events : List (Event m E)) (s : Session m E) : Prop where
  builder : s.builder.bridge = held bridge events
  waiting : ∀ d ∈ s.waiting, DeclaredIn bridge events d
  attempted : ∀ a answer, .attempted a answer ∈ events → DeclaredIn bridge events ⟨a.registration⟩

theorem Step.bridge_eq (step : Step s e t) :
    t.builder.bridge = e.bridge?.getD s.builder.bridge := by
  cases step with
  | bridge hopen bridge htype => rfl
  | declare hopen name signature => rfl
  | attempt a hsplit =>
    -- An attempt goes into the table only.
    rw [Builder.attempt_eq_install]
    exact (s.builder.install_frame a.name a.procedure).2.1
  | build hopen => rfl

theorem Keeps.step (h : Keeps bridge events s) (step : Step s e t) :
    Keeps bridge (events ++ [e]) t where
  builder := by rw [step.bridge_eq, held_snoc, h.builder]
  waiting d hd := by
    -- What waits has been waiting, or is declared just now.
    rcases step.mem_waiting hd with hd | ⟨rfl, hbridge⟩
    · exact (h.waiting d hd).snoc e
    · -- It gets the bridge of the builder, and by the invariant this is the latest one.
      exact ⟨events, [], rfl, hbridge.trans h.builder⟩
  attempted a answer hmem := by
    rcases List.mem_append.1 hmem with hmem | hmem
    · exact (h.attempted a answer hmem).snoc e
    · -- What is tried has been waiting until then.
      cases List.mem_singleton.1 hmem
      exact (h.waiting _ step.registration_waits).snoc _

theorem Run.keeps (run : Run (start heading bridge) events t) : Keeps bridge events t := by
  induction run with
  | nil => exact ⟨rfl, fun _ h => (nomatch h), fun _ _ h => (nomatch h)⟩
  | snoc run step ih => exact ih.step step

end Session

/-! ### What a raising caller is told -/

section
variable {m : Type → Type} {E A R : Type}

/-- What a raising caller learns of the outcome of a handler. -/
def RaisingMethod.answer (method : RaisingMethod m E A R) (a : Attempt m E)
    (outcome : Outcome a.R a.F) : Except (Raised E) R :=
  (method.inner.answer a outcome).mapError method.raise

/-- A raising caller learns all that a plain one would. -/
theorem RaisingMethod.retells_answer (method : RaisingMethod m E A R) {type : ErrorType E}
    (hbridge : method.bridge = .direct type) (a : Attempt m E) (outcome : Outcome a.R a.F) :
    Retells (method.inner.answer a outcome) (method.answer a outcome) :=
  method.retells_read hbridge (.ok (Server.respond (a.report outcome)))

/-- A failed response is never read as a result. -/
theorem ClientMethod.exists_finish_ofFailure (method : ClientMethod m E A R) (contents : Value) :
    ∃ c, method.finish (.ofFailure contents) = .error c := by
  unfold finish
  simp only [Response.ofFailure, Bool.false_eq_true, if_false]
  cases method.errors.decode contents with
  | ok e => exact ⟨_, rfl⟩
  | error _ => exact ⟨_, rfl⟩

/-- Of an error of the interface a raising caller learns by a raised error, and at its bottom is what the
wire form of the error is read as. -/
theorem RaisingMethod.answer_of_error (method : RaisingMethod m E A R) {type : ErrorType E}
    (hbridge : method.bridge = .direct type) {a : Attempt m E}
    (herrors : method.inner.errors = a.errors.codec) {failure : a.F} {e : E}
    (h : a.crash? (.failed failure) = none) (he : a.error? failure = some e) :
    ∃ told, method.answer a (.failed failure) = .error told ∧
      ∀ e', told.error? = some e' ↔ a.errors.codec.decode (a.errors.codec.encode e) = .ok e' := by
  -- An error of the interface goes out as a failed response.
  obtain ⟨c, hc⟩ : ∃ c, method.inner.answer a (.failed failure) = .error c := by
    rw [ClientMethod.answer, Attempt.reports_iff.1 (.error h he)]
    exact method.inner.exists_finish_ofFailure _
  have htold : method.answer a (.failed failure) = .error (method.raise c) := by
    rw [answer, hc]
    rfl
  refine ⟨method.raise c, htold, ?_⟩
  intro e'
  -- The error shows in what is raised if it shows in what a plain caller would be told.
  have hretells := method.retells_answer hbridge a (.failed failure)
  rw [← ClientMethod.answer_of_error herrors h he, ← hretells.error_iff, htold]
  simp

/-! ### The statement, part by part -/

variable [Monad m]

/-- Whether a server reports what a raising handler fails with as the bridge of its registration has it. What
the bridge recognises as an error of the interface is reported as that error, whatever that comes to. Anything
else goes out by its full text, as the reason and as what is sent. -/
def Server.ReportsRaised (server : Server m) (r : Registration E A R)
    (handler : A → m (Outcome R (Raised E))) (disposal : Disposal m) : Prop :=
  ∃ guarded : Outcome R (Raised E) → Except Crash (Except DispatchError Value),
    (∀ args as notification, r.signature.Reads args as →
      server.tryDispatch ⟨r.name, [.dict args], notification⟩ = do
        r.settle disposal (guarded (← handler as))) ∧
    (∀ raised e, r.bridge.recognise raised = some e →
      guarded (.failed raised) = (r.fail e).map .error) ∧
    ∀ raised, r.bridge.recognise raised = none → raised.cause.textCrash r.bridge.type = none →
      guarded (.failed raised) = .ok (.error (.implementation r.name (raised.text r.bridge.type)
        (.string (raised.text r.bridge.type))))

/-- Whether a raising caller finds, at the bottom of what it is told, the error that a handler failed with as it
is read back from the wire: if it is read back as it was, that very error. -/
def Attempt.RaisesIn (a : Attempt m E) (type : ErrorType E) (method : RaisingMethod m E A R)
    (args : A) : Prop :=
  ∀ as, a.registration.signature.Reads (method.inner.signature.encodeArgs args) as →
    ∃ answer, method.call args = answer <$> a.ended as ∧
      ∀ failure e, a.error? failure = some e → type.textCrash e = none →
        type.codec.encodeCrash e = none →
        ∃ told, answer (.failed failure) = .error told ∧
          ∀ e', told.error? = some e' ↔ type.codec.decode (type.codec.encode e) = .ok e'

/-- A server that has the procedure of a raising handler reports what this fails with. -/
theorem Server.reportsRaised_of_get? {server : Server m} {r : Registration E A R}
    {handler : A → m (Outcome R (Raised E))} {disposal : Disposal m}
    (h : server.table.get? r.name = some (r.procedure r.failRaised handler disposal)) :
    server.ReportsRaised r handler disposal := by
  refine ⟨r.conclude r.failRaised, ?_, ?_, ?_⟩
  · intro args as notification has
    rw [Server.tryDispatch_of_get? h]
    unfold Registration.procedure
    rw [Signature.decodeArgs_eq_ok_iff.2 has]
  · -- Recognised: the handler might as well have failed with the error itself.
    intro raised e he
    exact congrArg (Except.map Except.error) (Registration.failRaised_of_recognised he)
  · -- Not recognised: all that is left is the text.
    intro raised hnone htext
    exact congrArg (Except.map Except.error) (Registration.failRaised_of_unrecognised hnone htext)

/-- A method over a server calls the procedure of an attempt, and the caller is told what it ended in. -/
theorem RaisingMethod.call_eq_map_ended [LawfulMonad m] (method : RaisingMethod m E A R)
    {server : Server m} (htransport : method.inner.transport = server.transport) {a : Attempt m E}
    (hget : server.table.get? method.inner.name = some a.procedure) {args : A} {as : a.A}
    (has : a.registration.signature.Reads (method.inner.signature.encodeArgs args) as) :
    method.call args = method.answer a <$> a.ended as := by
  rw [call_eq_mapError, ClientMethod.call_transport htransport hget, Attempt.procedure_of_reads has,
    Functor.map_map, Functor.map_map]
  rfl

end

namespace Session

variable {m : Type → Type} [Monad m] [LawfulMonad m] {E : Type} {heading : Heading}
  {bridge : ErrorBridge E} {events : List (Event m E)} {t : Session m E}

/-- **A raising handler reports what a plain one reports.**

* Let two histories differ in that handlers of the first are replaced by liftings in the second, under the
  bridge that raises errors as they are. Then all answers are the same, and so is the server.
* A registration has the bridge that the builder held when it was declared. What a raising handler fails
  with is reported like the error of the interface that this bridge recognises in it, and if there is none
  by its full text, as the reason and as what is sent.
* Through a raising client, the caller finds at the bottom of what it is told the error that the handler
  failed with, in whatever style, as it is read back from the wire. -/
theorem run_raises_alike (run : Run (start heading bridge) events t) :
    (∀ events₀ t₀, Run (start heading bridge) events₀ t₀ →
      List.Forall₂ Event.Lifted events₀ events →
        t.server = t₀.server ∧
          List.Forall₂ (fun e₀ e => e.answer? = e₀.answer?) events₀ events) ∧
    ∀ server, t.server = some server →
      (∀ {A R : Type} (r : Registration E A R) (handler : A → m (Outcome R (Raised E))) (disposal),
        .attempted ⟨r, .raising, handler, disposal⟩ (.ok ()) ∈ events →
          DeclaredIn bridge events ⟨r⟩ ∧ server.ReportsRaised r handler disposal) ∧
      ∀ a, .attempted a (.ok ()) ∈ events → ∀ {A R : Type} (method : RaisingMethod m E A R),
        method.inner.name = a.name → method.inner.transport = server.transport →
        method.inner.errors = bridge.type.codec → method.bridge = .direct bridge.type →
        ∀ args, a.RaisesIn bridge.type method args := by
  refine ⟨?_, ?_⟩
  · intro events₀ t₀ run₀ h
    -- Both histories start with the same builder.
    obtain ⟨hbuilder, hanswers⟩ := Run.lifted h run₀ run rfl
    exact ⟨run₀.recorded.server_eq_of_builder run.recorded hbuilder, hanswers⟩
  · intro server hserver
    refine ⟨?_, ?_⟩
    · intro A R r handler disposal hmem
      have hget := run.get?_of_mem (a := ⟨r, .raising, handler, disposal⟩) hserver hmem
      exact ⟨run.keeps.attempted _ _ hmem, Server.reportsRaised_of_get? hget⟩
    · intro a hmem A R method hname htransport herrors hbridge args as has
      have htype : a.errors = bridge.type := run.recorded.attempt_type a _ hmem
      have hget : server.table.get? method.inner.name = some a.procedure :=
        hname ▸ run.get?_of_mem hserver hmem
      refine ⟨method.answer a, method.call_eq_map_ended htransport hget has, ?_⟩
      intro failure e he htext hcrash
      rw [← htype] at herrors htext hcrash ⊢
      -- Neither the words nor the writing gives up, so the error does go out.
      have hnone : a.crash? (.failed failure) = none := by
        simp only [Attempt.crash?, he, htext, hcrash, Option.none_or]
      exact method.answer_of_error hbridge herrors hnone he

/-- A square root that has none to give. Whether it says so in plain or under two contexts, the server is
the same, and the caller finds the error at the bottom. -/
theorem run_raises_alike_sqrt :
    let heading : Heading := { name := "calc" }
    let bridge : ErrorBridge Sample.calcError.Carrier := .direct Sample.calcErrors
    let signature : Signature (Int64 × Unit) Int64 :=
      .ofSlots (.ofCodec (.ofType .int64)) [⟨.int64, some "n", none⟩]
    let negative (n : Int64) : Sample.calcError.Carrier := .inr (.inr (.inl n))
    let plain : Attempt Id Sample.calcError.Carrier :=
      ⟨⟨"sqrt", signature, bridge⟩, .plain, fun (n, ()) => .failed (negative n), .quiet⟩
    let raising : Attempt Id Sample.calcError.Carrier :=
      ⟨⟨"sqrt", signature, bridge⟩, .raising, fun (n, ()) =>
        .failed (.ofError (negative n) ["no root", "calculating"]), .quiet⟩
    let server := Server.only heading bridge (some raising)
    let method : RaisingMethod Id Sample.calcError.Carrier (Int64 × Unit) Int64 :=
      ⟨⟨"sqrt", signature, .ofType Sample.calcError, server.transport⟩, bridge⟩
    server = Server.only heading bridge (some plain) ∧
      ∃ told, method.call (-4, ()) = pure (.error told) ∧ told.error? = some (negative (-4)) := by
  intro heading bridge signature negative plain raising server method
  obtain ⟨t₀, run₀, hserver₀⟩ :=
    run_only (m := Id) heading bridge "sqrt" signature .plain plain.handler .quiet
  obtain ⟨t, run, hserver⟩ :=
    run_only (m := Id) heading bridge "sqrt" signature .raising raising.handler .quiet
  have hlifts : Lifts plain.handler raising.handler :=
    lifts_of_contexts (m := Id) plain.handler fun _ => ["no root", "calculating"]
  have hattempt : plain.Lifted raising := .lift .quiet rfl hlifts
  -- The two histories differ in the one attempt.
  have hlifted := List.Forall₂.cons (Event.Lifted.declared (m := Id) ⟨plain.registration⟩)
    (.cons (.attempted (.inr hattempt) (.ok ()) (.ok ()))
      (.cons (.built (Server.only heading bridge (some plain)) server) .nil))
  obtain ⟨hsame, hraises⟩ := run_raises_alike run
  refine ⟨?_, ?_⟩
  · have heq := (hsame _ t₀ run₀ hlifted).1
    rw [hserver, hserver₀] at heq
    exact Option.some.inj heq
  · have hmem := List.mem_cons_of_mem (Event.declared ⟨raising.registration⟩)
      (List.mem_cons_self (a := Event.attempted raising (.ok ())) (l := [.built server]))
    have hreads : raising.registration.signature.Reads (signature.encodeArgs (-4, ())) (-4, ()) :=
      ⟨rfl, trivial⟩
    obtain ⟨answer, hcall, htold⟩ :=
      (hraises server hserver).2 raising hmem method rfl rfl rfl rfl (-4, ()) (-4, ()) hreads
    -- All errors of a calculator are read back as they were.
    have hlossless : Sample.calcError.Lossless (negative (-4)) := Sample.calcError_lossless _
    obtain ⟨told, hanswer, herror⟩ :=
      htold (.ofError (negative (-4)) ["no root", "calculating"]) (negative (-4)) rfl rfl rfl
    -- There is no crash, so nothing is left behind.
    have hended : raising.ended (-4, ()) =
        pure (.failed (.ofError (negative (-4)) ["no root", "calculating"])) :=
      Attempt.ended_of_quiet (Attempt.quiet_of_disposal rfl) _
    refine ⟨told, ?_, (herror _).2 hlossless.carries.2⟩
    rw [hcall, hended, map_pure, hanswer]

/-- An error that says when something expired, a quarter of a second past. The caller is told of the start of
that second. -/
theorem raised_moment_is_cut :
    let expired : DataType := .record "expired" "" [⟨"at", "", .timestamp⟩]
    let bridge : ErrorBridge expired.Carrier :=
      .direct { codec := .ofType expired, text := fun _ => "expired" }
    let signature : Signature Unit Unit := .returning (.ofCodec (.ofType .unit))
    let moment : Timestamp := ⟨2024, 2, 29, 12, 30, 5, 250000000, by decide⟩
    let start : Timestamp := ⟨2024, 2, 29, 12, 30, 5, 0, by decide⟩
    let ping : Attempt Id expired.Carrier :=
      ⟨⟨"ping", signature, bridge⟩, .raising, fun () => .failed (.ofError (moment, ()) ["looking"]),
        .quiet⟩
    let server := Server.only { name := "tickets" } bridge (some ping)
    let method : RaisingMethod Id expired.Carrier Unit Unit :=
      ⟨⟨"ping", signature, .ofType expired, server.transport⟩, bridge⟩
    ∃ told, method.call () = pure (.error told) ∧ told.error? = some (start, ()) ∧
      (start, ()) ≠ (moment, ()) := by
  intro expired bridge signature moment start ping server method
  have hget : server.table.get? method.inner.name = some ping.procedure := by
    rw [Server.get?_only]
    rfl
  have hreads : ping.registration.signature.Reads (method.inner.signature.encodeArgs ()) () := trivial
  have hcall := method.call_eq_map_ended rfl hget hreads
  have hended : ping.ended () = pure (.failed (.ofError (moment, ()) ["looking"])) :=
    Attempt.ended_of_quiet (Attempt.quiet_of_disposal rfl) _
  have hnone : ping.crash? (.failed (.ofError (moment, ()) ["looking"])) = none := rfl
  obtain ⟨told, hanswer, herror⟩ := method.answer_of_error (e := (moment, ())) rfl rfl hnone rfl
  -- Of the moment, the wire has the whole seconds.
  have hsendable : expired.Sendable (moment, ()) := by
    refine ⟨List.nodup_singleton _, ?_, trivial⟩
    exact DataType.sendable_timestamp_iff.2 ⟨by decide, by decide⟩
  have hread : expired.decode (expired.encode (moment, ())) = .ok (start, ()) :=
    expired.decode_of_writes hsendable (expired.writes_encode (moment, ()))
  refine ⟨told, ?_, (herror _).2 hread, ?_⟩
  · rw [hcall, hended, map_pure, hanswer]
  · simp [start, moment]

end Session
end Wirecall
