import Wirecall.Failure.Raised
import Wirecall.Heading
import Wirecall.Signature
import Wirecall.Transport

/-!
# Clients

A client turns declared methods into functions over a transport. A call sends every argument under the
name of its parameter, and reads the result by the signature. Of a failed response it tells an error of
the interface from a mere reason by reading it as the former.

A raising client passes failures on as raised errors: those of the interface by its bridge, all others
as call errors under a context that names the method.
-/

namespace Wirecall

/-- A declared method over a transport. -/
structure ClientMethod (m : Type → Type) (E A R : Type) where
  /-- The name of the method on the wire. -/
  name : String
  signature : Signature A R
  errors : Codec E
  transport : Transport m

namespace ClientMethod

variable {m : Type → Type} {E A R : Type}

/-- The call that carries some arguments. -/
def prepare (method : ClientMethod m E A R) (args : A) : Call :=
  .named method.name (method.signature.encodeArgs args)

/-- The reason that a failed response carries. -/
def reason : Value → String
  | .string reason => reason
  | contents => contents.text

/-- What a response means. A success is read as a result, and is malformed if it cannot be read. A failure does
not say whether it carries an error of the interface: it does if it can be read as one. -/
def finish (method : ClientMethod m E A R) (response : Response) : Except (CallError E) R :=
  if response.success then
    (method.signature.resultParam.codec.decode response.contents).mapError .malformed
  else
    match method.errors.decode response.contents with
    | .ok e => .error (.remote e)
    | .error _ => .error (.failed (reason response.contents))

/-- Calls the method: one exchange over the transport, whatever comes back. Nothing is tried again. -/
def call [Monad m] (method : ClientMethod m E A R) (args : A) : m (Except (CallError E) R) := do
  match ← method.transport (method.prepare args) with
  | .ok response => return method.finish response
  | .error e => return .error (.transport e)

/-- The method as a function of its arguments one by one. -/
def function [Monad m] (method : ClientMethod m E A R) :
    method.signature.Function (m (Except (CallError E) R)) :=
  method.signature.curry method.call

end ClientMethod

/-- A client of an interface with errors of type `E`. -/
structure Client (m : Type → Type) (E : Type) where
  heading : Heading
  errors : Codec E
  transport : Transport m

/-- Declares a method. -/
def Client.declare {m : Type → Type} {E A R : Type} (c : Client m E) (name : String)
    (signature : Signature A R) : ClientMethod m E A R where
  name := c.heading.wireName name
  signature
  errors := c.errors
  transport := c.transport

/-! ### Raising clients -/

/-- A declared method that fails with raised errors. -/
structure RaisingMethod (m : Type → Type) (E A R : Type) where
  inner : ClientMethod m E A R
  bridge : ErrorBridge E

namespace RaisingMethod

variable {m : Type → Type} {E A R : Type}

/-- The raised form of a call error. An error of the interface is raised by the bridge, and nothing is put on
top of it. -/
def raise (method : RaisingMethod m E A R) : CallError E → Raised E
  | .remote e => method.bridge.raise e
  | e => Raised.withContext { cause := .call e } ("calling '" ++ method.inner.name ++ "'")

/-- Calls the method. -/
def call [Monad m] (method : RaisingMethod m E A R) (args : A) : m (Except (Raised E) R) := do
  return (← method.inner.call args).mapError method.raise

end RaisingMethod

/-- A client that fails with raised errors. -/
structure RaisingClient (m : Type → Type) (E : Type) where
  heading : Heading
  bridge : ErrorBridge E
  transport : Transport m

/-- Declares a method. -/
def RaisingClient.declare {m : Type → Type} {E A R : Type} (c : RaisingClient m E) (name : String)
    (signature : Signature A R) : RaisingMethod m E A R where
  inner := Client.declare ⟨c.heading, c.bridge.type.codec, c.transport⟩ name signature
  bridge := c.bridge

end Wirecall
