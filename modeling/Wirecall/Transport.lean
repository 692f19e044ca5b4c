import Wirecall.Envelope
import Wirecall.Failure.Transport

/-!
# Transports

A transport takes a call and answers with a response, or fails because the exchange broke down. It
knows nothing of types. What it does meanwhile happens in a monad: a blocking exchange answers in the
monad of its effects, one that is awaited later answers with a `Deferred` computation.
-/

namespace Wirecall

/-- An exchange of a call for a response. -/
abbrev Transport (m : Type → Type) := Call → m (Except TransportError Response)

/-- A computation that does nothing until it is awaited. -/
structure Deferred (m : Type → Type) (α : Type) where
  await : m α

instance {m : Type → Type} [Monad m] : Monad (Deferred m) where
  pure a := ⟨pure a⟩
  bind first next := ⟨do (next (← first.await)).await⟩

@[simp] theorem Deferred.await_pure {m : Type → Type} [Monad m] {α : Type} (a : α) :
    (pure a : Deferred m α).await = pure a := rfl

@[simp] theorem Deferred.await_bind {m : Type → Type} [Monad m] {α β : Type} (x : Deferred m α)
    (f : α → Deferred m β) : (x >>= f).await = x.await >>= fun a => (f a).await := rfl

end Wirecall
