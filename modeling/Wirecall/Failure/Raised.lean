import Wirecall.Codec
import Wirecall.Descriptor.Dump
import Wirecall.Failure.Call

/-!
# Raised errors

Code that knows nothing of an interface passes errors on as `Raised`: a cause with any number of
contexts put on top of it. Contexts never hide the cause, so an error of the interface or of a call can
be picked out again (`Raised.error?`, `Raised.call?`).

An `ErrorType` is a type of interface errors, and an `ErrorBridge` says how its errors become raised
ones and how they are recognised among raised ones.
-/

namespace Wirecall

/-- A type of errors that an interface may report: how they travel and how they read. -/
structure ErrorType (E : Type) where
  codec : Codec E
  text : E → String
  /-- How putting an error into words gives up, if it does. -/
  textCrash : E → Option Crash := fun _ => none

/-- The type of plain reasons. -/
def DataType.reason : DataType :=
  .named "internal error" "Reason the call failed" .string

/-- The least that an interface error can be: a reason. -/
def ErrorType.reason : ErrorType String where
  codec := .ofType .reason
  text := id

/-- What lies at the bottom of a raised error. -/
inductive Cause (E : Type) where
  | message (text : String)
  | error (error : E)
  | call (error : CallError E)

/-- The texts of a cause and of the errors behind it. -/
def Cause.chain {E : Type} (type : ErrorType E) : Cause E → List String
  | .message text => [text]
  | .error e => [type.text e]
  | .call e => e.message type.text :: e.sources

/-- How putting a cause into words gives up, if it does: as its interface error does. -/
def Cause.textCrash {E : Type} (type : ErrorType E) : Cause E → Option Crash
  | .error e | .call (.remote e) => type.textCrash e
  | _ => none

/-- A cause under contexts, the outermost context first. -/
structure Raised (E : Type) where
  contexts : List String := []
  cause : Cause E

namespace Raised

variable {E : Type}

/-- Puts a context on top of an error. -/
def withContext (r : Raised E) (context : String) : Raised E :=
  { r with contexts := context :: r.contexts }

/-- The texts of an error from the outermost context down to the innermost cause. -/
def chain (type : ErrorType E) (r : Raised E) : List String :=
  r.contexts ++ r.cause.chain type

/-- An error in one line. -/
def text (type : ErrorType E) (r : Raised E) : String :=
  ": ".intercalate (r.chain type)

/-- The interface error at the bottom, if there is one. -/
def error? (r : Raised E) : Option E :=
  match r.cause with
  | .error e => some e
  | _ => none

/-- The call error at the bottom, if there is one. -/
def call? (r : Raised E) : Option (CallError E) :=
  match r.cause with
  | .call e => some e
  | _ => none

@[simp] theorem error?_withContext (r : Raised E) (context : String) :
    (r.withContext context).error? = r.error? := rfl

@[simp] theorem call?_withContext (r : Raised E) (context : String) :
    (r.withContext context).call? = r.call? := rfl

end Raised

/-- How the errors of an interface are raised, and how they are recognised among raised errors. -/
structure ErrorBridge (E : Type) where
  type : ErrorType E
  raise : E → Raised E
  recognise : Raised E → Option E

namespace ErrorBridge

variable {E : Type}

/-- Raises an error as it is, and recognises it under any contexts. -/
def direct (type : ErrorType E) : ErrorBridge E where
  type
  raise e := { cause := .error e }
  recognise := Raised.error?

/-- The descriptor of the errors. -/
def descriptor (bridge : ErrorBridge E) : Descriptor :=
  bridge.type.codec.descriptor

/-- The one-line form of a bridge for debugging. -/
def dump (bridge : ErrorBridge E) : String :=
  Dump.partialFields "ErrorDef" [("def", Text.quote bridge.descriptor.name)]

end ErrorBridge
end Wirecall
