import Wirecall.Proofs.RemoteErrors

/-!
# What a raising client tells

A raising client passes its failures on as raised errors: an error of the interface as it is, any other
failure under a context that names the method. Nothing that a plain client tells is lost in this
(`Client.raising_retells`).

All that a call does is done by its transport, which is handed one call, once; the rest is a reading of the
answer. So two clients over one transport can be compared answer by answer, and nothing has to be known of
the transport:

* `ClientMethod.call_eq_map` and `RaisingMethod.call_eq_map` take a call apart into the exchange and the
  reading of its answer.
* `Retells` is what a plain and a raised result have to do with each other, and
  `RaisingMethod.retells_read` says that the two readings of any answer are related in this way.

**Two styles.** An exchange that is awaited later is an exchange in the monad of deferred computations.
What is said of clients holds in both styles for this reason alone. A call that is awaited is the call over
the transport that is awaited (`ClientMethod.await_call`), so the styles agree wherever the transports do.
-/

namespace Wirecall

/-! ### Deferred computations -/

section
variable {m : Type → Type} [Monad m] [LawfulMonad m]

/-- Deferred computations obey the laws that the computations themselves obey. -/
instance Deferred.instLawfulMonad : LawfulMonad (Deferred m) :=
  LawfulMonad.mk' (Deferred m)
    (fun x => congrArg Deferred.mk (bind_pure x.await))
    (fun a f => congrArg Deferred.mk (pure_bind a fun a => (f a).await))
    (fun x f g => congrArg Deferred.mk (bind_assoc x.await (fun a => (f a).await) fun b => (g b).await))

@[simp] theorem Deferred.await_map {α β : Type} (f : α → β) (x : Deferred m α) :
    (f <$> x).await = f <$> x.await :=
  (map_eq_pure_bind f x.await).symm

/-- A server as a transport whose responses are awaited. -/
def Server.deferredTransport (s : Server m) : Transport (Deferred m) := fun call =>
  .ok <$> ⟨s.dispatch call⟩

/-- A server answers alike in both styles. -/
theorem Server.await_deferredTransport (s : Server m) (call : Call) :
    (s.deferredTransport call).await = s.transport call :=
  Deferred.await_map Except.ok ⟨s.dispatch call⟩

end

/-! ### Calls as readings of an answer -/

section
variable {m : Type → Type} {E A R : Type}

/-- What a raising client makes of the answer of its transport. -/
def RaisingMethod.read (method : RaisingMethod m E A R) (answer : Except TransportError Response) :
    Except (Raised E) R :=
  (method.inner.read answer).mapError method.raise

variable [Monad m] [LawfulMonad m]

/-- A raising method calls the plain one that it has inside. -/
theorem RaisingMethod.call_eq_mapError (method : RaisingMethod m E A R) (args : A) :
    method.call args = (·.mapError method.raise) <$> method.inner.call args := by
  unfold call
  rw [map_eq_pure_bind]

theorem RaisingMethod.call_eq_map (method : RaisingMethod m E A R) (args : A) :
    method.call args = method.read <$> method.inner.transport (method.inner.prepare args) := by
  rw [call_eq_mapError, ClientMethod.call_eq_map, Functor.map_map]
  rfl

/-! ### Awaiting a call -/

/-- The method over another transport, perhaps of another style. -/
def ClientMethod.over {n : Type → Type} (method : ClientMethod m E A R) (transport : Transport n) :
    ClientMethod n E A R :=
  ⟨method.name, method.signature, method.errors, transport⟩

/-- A raising method over another transport. -/
def RaisingMethod.over {n : Type → Type} (method : RaisingMethod m E A R) (transport : Transport n) :
    RaisingMethod n E A R :=
  ⟨method.inner.over transport, method.bridge⟩

section
variable {deferred : Transport (Deferred m)}

/-- A call that is awaited is a call over the transport that is awaited. -/
theorem ClientMethod.await_call (method : ClientMethod m E A R)
    (h : ∀ call, (deferred call).await = method.transport call) (args : A) :
    ((method.over deferred).call args).await = method.call args := by
  -- Reading an answer has nothing to do with the transport that brought it.
  have hread : (method.over deferred).read = method.read := by
    funext answer
    cases answer with
    | ok response => rfl
    | error e => rfl
  have hexchange := h (method.prepare args)
  rw [call_eq_map, call_eq_map, Deferred.await_map, hread, ← hexchange]
  rfl

theorem RaisingMethod.await_call (method : RaisingMethod m E A R)
    (h : ∀ call, (deferred call).await = method.inner.transport call) (args : A) :
    ((method.over deferred).call args).await = method.call args := by
  have hplain := method.inner.await_call h args
  -- Nor has raising what was read.
  have hraise : (method.over deferred).raise = method.raise := by
    funext e
    cases e <;> rfl
  rw [call_eq_mapError, call_eq_mapError, Deferred.await_map, hraise, ← hplain]
  rfl

end

end

/-! ### What is told -/

section
variable {m : Type → Type} {E A R : Type}

/-- Whether a raised result tells what a plain one tells. Nothing is said of the contexts: what counts is which
result there is, and which error can be picked out where there is none. -/
structure Retells (plain : Except (CallError E) R) (raised : Except (Raised E) R) : Prop where
  /-- Both are the same result, or neither is one. -/
  result_iff (result : R) : raised = .ok result ↔ plain = .ok result
  /-- An error of the interface is picked out of the raised one if the plain one is that error, -/
  error_iff (e : E) : (∃ r, raised = .error r ∧ r.error? = some e) ↔ plain = .error (.remote e)
  /-- and a call error if the plain one is that call error, and none that tells of the former. -/
  call_iff (c : CallError E) :
    (∃ r, raised = .error r ∧ r.call? = some c) ↔ plain = .error c ∧ ∀ e, c ≠ .remote e
  /-- One of the two is picked out of every failure, and only one. -/
  one (r : Raised E) : raised = .error r → (r.error?.isSome = true ↔ r.call? = none)

namespace RaisingMethod

variable (method : RaisingMethod m E A R) {type : ErrorType E}

/-- An error of the interface is raised as it is, so it and nothing else is found at the bottom. -/
theorem raise_remote (h : method.bridge = .direct type) (e : E) :
    (method.raise (.remote e)).error? = some e ∧ (method.raise (.remote e)).call? = none := by
  unfold raise
  rw [h]
  exact ⟨rfl, rfl⟩

/-- Any other failure is raised as the call error that it is. The context on top does not hide it. -/
theorem raise_of_ne_remote {c : CallError E} (h : ∀ e, c ≠ .remote e) :
    (method.raise c).error? = none ∧ (method.raise c).call? = some c := by
  cases c with
  | remote e => exact absurd rfl (h e)
  | transport source => exact ⟨rfl, rfl⟩
  | failed reason => exact ⟨rfl, rfl⟩
  | malformed source => exact ⟨rfl, rfl⟩

/-- Whatever the transport answers, a raising method reads it as a plain one does. -/
theorem retells_read (h : method.bridge = .direct type) (answer : Except TransportError Response) :
    Retells (method.inner.read answer) (method.read answer) := by
  unfold read
  cases method.inner.read answer with
  -- A result has neither error to be picked out.
  | ok result => constructor <;> simp [Except.mapError]
  | error c =>
    -- A failure is an error of the interface or it is not, and either way one side is empty.
    by_cases hremote : ∃ e, c = .remote e
    · obtain ⟨e, rfl⟩ := hremote
      obtain ⟨herror, hcall⟩ := method.raise_remote h e
      constructor <;> simp [Except.mapError, herror, hcall]
    · have hne : ∀ e, c ≠ .remote e := not_exists.1 hremote
      obtain ⟨herror, hcall⟩ := method.raise_of_ne_remote hne
      constructor <;> simp [Except.mapError, herror, hcall, hne]

end RaisingMethod

variable [Monad m]

/-- Whether a plain and a raising computation hand one and the same call to a transport, once each, and make
of every answer what tells the same. -/
def Retold (transport : Transport m) (sent : Call) (plain : m (Except (CallError E) R))
    (raising : m (Except (Raised E) R)) : Prop :=
  ∃ (read : Except TransportError Response → Except (CallError E) R)
    (readRaised : Except TransportError Response → Except (Raised E) R),
    plain = read <$> transport sent ∧ raising = readRaised <$> transport sent ∧
      ∀ answer, Retells (read answer) (readRaised answer)

variable [LawfulMonad m]

/-- A method that was declared on both kinds of clients is told alike. -/
theorem Client.retold_call (heading : Heading) (type : ErrorType E) (transport : Transport m)
    (name : String) (signature : Signature A R) (args : A) :
    Retold transport (.named (heading.wireName name) (signature.encodeArgs args))
      ((Client.declare ⟨heading, type.codec, transport⟩ name signature).call args)
      ((RaisingClient.declare ⟨heading, .direct type, transport⟩ name signature).call args) := by
  let raising := RaisingClient.declare ⟨heading, .direct type, transport⟩ name signature
  -- The plain method is the one that the raising method has inside.
  exact ⟨raising.inner.read, raising.read, raising.inner.call_eq_map args, raising.call_eq_map args,
    raising.retells_read rfl⟩

/-- **A raising client tells all that a plain one tells.** Let a method be declared on a plain client and on
a raising one, over one transport.

* Whichever style the transport has, both hand it the same call, once, and what they make of its answer
  tells the same: results are the same, errors of the interface are picked out of the raised error as
  such, and so are the call errors of all other failures.
* As a function of single arguments the plain method does what it does on all of them together.
* Over a transport that answers alike when it is awaited, calls that are awaited are the calls. Servers
  are such transports. -/
theorem Client.raising_retells (heading : Heading) (type : ErrorType E) (name : String)
    (signature : Signature A R) (transport : Transport m) (deferred : Transport (Deferred m))
    (args : A) :
    let plain := Client.declare ⟨heading, type.codec, transport⟩ name signature
    let raising := RaisingClient.declare ⟨heading, .direct type, transport⟩ name signature
    let plainLater := Client.declare ⟨heading, type.codec, deferred⟩ name signature
    let raisingLater := RaisingClient.declare ⟨heading, .direct type, deferred⟩ name signature
    let sent : Call := ⟨heading.wireName name, [.dict (signature.encodeArgs args)], false⟩
    Retold transport sent (plain.call args) (raising.call args) ∧
      Retold deferred sent (plainLater.call args) (raisingLater.call args) ∧
      signature.apply plain.function args = plain.call args ∧
      ((∀ call, (deferred call).await = transport call) →
        (plainLater.call args).await = plain.call args ∧
          (raisingLater.call args).await = raising.call args) ∧
      ∀ (server : Server m) (call : Call),
        (server.deferredTransport call).await = server.transport call := by
  intro plain raising plainLater raisingLater sent
  refine ⟨?_, ?_, ?_, ?_, ?_⟩
  · exact Client.retold_call heading type transport name signature args
  · -- An awaited exchange is an exchange of its own monad, so nothing is new here.
    exact Client.retold_call heading type deferred name signature args
  · exact signature.apply_curry plain.call args
  · intro h
    -- What is awaited is the call over the transport that is awaited, on both sides.
    have hplain : (plainLater.call args).await = plain.call args :=
      plain.await_call h args
    have hraising : (raisingLater.call args).await = raising.call args :=
      raising.await_call h args
    exact ⟨hplain, hraising⟩
  · exact Server.await_deferredTransport

/-- A transport that breaks down the first time it is used. Awaited, the raising method tells of the
breakdown then, and of an error of the interface the next time. -/
theorem Client.raising_retells_breakdown :
    let heading : Heading := { name := "calc" }
    let signature : Signature (Int64 × Unit) Int64 :=
      .ofSlots (.ofCodec (.ofType .int64)) [⟨.int64, some "n", none⟩]
    let transport : Transport (StateM Nat) := fun _ => modifyGet fun used =>
      (if used = 0 then .error .timeout else .ok (.ofFailure (.string "DivideByZero")), used + 1)
    let deferred : Transport (Deferred (StateM Nat)) := fun call => ⟨transport call⟩
    let method := RaisingClient.declare ⟨heading, .direct Sample.calcErrors, deferred⟩ "sqrt" signature
    (∀ call, (deferred call).await = transport call) ∧
      (∃ r, (method.call (4, ())).await.run 0 = (.error r, 1) ∧
        r.call? = some (.transport .timeout)) ∧
      ∃ r, (method.call (4, ())).await.run 1 = (.error r, 2) ∧ r.error? = some (.inl ()) := by
  intro heading signature transport deferred method
  have halike : ∀ call, (deferred call).await = transport call := fun _ => rfl
  obtain ⟨⟨read, readRaised, hplain, hraising, hretells⟩, -, -, hawait, -⟩ :=
    Client.raising_retells heading Sample.calcErrors "sqrt" signature transport deferred (4, ())
  -- Awaited, the raising method reads the answer of the transport itself.
  have hmethod := (hawait halike).2.trans hraising
  let plain := Client.declare ⟨heading, Sample.calcErrors.codec, transport⟩ "sqrt" signature
  -- What the plain client makes of the two answers.
  have htimeout : read (.error .timeout) = .error (.transport .timeout) := by
    have hrun : (plain.call (4, ())).run 0 = (.error (.transport .timeout), 1) := rfl
    rw [hplain] at hrun
    exact congrArg Prod.fst hrun
  have hzero : read (.ok (.ofFailure (.string "DivideByZero"))) = .error (.remote (.inl ())) := by
    -- The tag is that of the first case, which has no payload.
    have htag : Sample.calcError.Spells (.string "DivideByZero") (.inl ()) :=
      DataType.spells_string_variant_iff.2 ⟨rfl, .inl rfl⟩
    have hfinish : plain.finish (.ofFailure (.string "DivideByZero")) = .error (.remote (.inl ())) := by
      rw [← DataType.told_of_spells htag]
      exact ClientMethod.finish_of_payload (d := .ofReason "sqrt" "DivideByZero") rfl
    have hrun : (plain.call (4, ())).run 1 =
        (plain.finish (.ofFailure (.string "DivideByZero")), 2) := rfl
    rw [hplain, hfinish] at hrun
    exact congrArg Prod.fst hrun
  refine ⟨halike, ?_, ?_⟩
  · obtain ⟨r, hr, hcall⟩ := ((hretells _).call_iff _).2 ⟨htimeout, by simp⟩
    refine ⟨r, ?_, hcall⟩
    rw [hmethod]
    exact congrArg (·, 1) hr
  · obtain ⟨r, hr, herror⟩ := ((hretells _).error_iff _).2 hzero
    refine ⟨r, ?_, herror⟩
    rw [hmethod]
    exact congrArg (·, 2) hr

end
end Wirecall
