import Wirecall.Failure.Install
import Wirecall.Failure.Raised
import Wirecall.Heading
import Wirecall.Signature
import Wirecall.SortedMap
import Wirecall.Transport

/-!
# Servers

Methods are declared on a `Builder`, implemented one by one, and `Builder.build` seals the builder and
gives the `Server`, whose methods never change again. The first implementation of a name counts; later
ones are refused, and so is everything after sealing.

A handler runs only when the method exists and all arguments have been read, and whatever it ends in, crashes
included, becomes part of the response. What handlers do besides happens in a monad `m`.

**The guard.** A handler runs under a guard that catches its crashes, and so do writing its result and
reporting its error; what comes of this is an `Except Crash`. The guard ends there. When a crash has been
reported, its remains are put away outside (`Registration.settle`), and a disposal that gives up in `m` takes
the whole call with it. Otherwise dispatching always comes to a response.
-/

namespace Wirecall

/-- How a handler ends. -/
inductive Outcome (R E : Type) where
  | returned (result : R)
  | failed (error : E)
  | crashed (crash : Crash)

/-- An installed method: from named arguments to a result on the wire. -/
abbrev Procedure (m : Type → Type) := Arguments → m (Except DispatchError Value)

/-- A declared method that waits for its implementation. -/
structure Registration (E A R : Type) where
  /-- The name of the method on the wire. -/
  name : String
  signature : Signature A R
  bridge : ErrorBridge E

namespace Registration

variable {m : Type → Type} {E A R : Type}

/-- Writes a result. -/
def succeed (r : Registration E A R) (result : R) : Except Crash Value :=
  let codec := r.signature.resultParam.codec
  match codec.encodeCrash result with
  | some c => .error c
  | none => .ok (codec.encode result)

/-- Reports an error of the interface: it is put into words, and written. -/
def fail (r : Registration E A R) (e : E) : Except Crash DispatchError :=
  let type := r.bridge.type
  match type.textCrash e, type.codec.encodeCrash e with
  | some c, _ => .error c
  | none, some c => .error c
  | none, none => .ok (.implementation r.name (type.text e) (type.codec.encode e))

/-- Reports a raised error: as an error of the interface if the bridge recognises one, and otherwise
by its full text. -/
def failRaised (r : Registration E A R) (e : Raised E) : Except Crash DispatchError :=
  match r.bridge.recognise e, e.cause.textCrash r.bridge.type with
  | some error, _ => r.fail error
  | none, some c => .error c
  | none, none => .ok (.ofReason r.name (e.text r.bridge.type))

/-- What comes of how a handler ended, unless something gave up: the handler itself, or writing its result,
or reporting its error. -/
def conclude {F : Type} (r : Registration E A R) (report : F → Except Crash DispatchError) :
    Outcome R F → Except Crash (Except DispatchError Value)
  | .returned result => (r.succeed result).map .ok
  | .failed e => (report e).map .error
  | .crashed c => .error c

/-- Reports a crash by its reason, and then puts its remains away. This is no longer guarded: a disposal that
gives up in `m` leaves nothing to answer with. -/
def settle [Monad m] (r : Registration E A R) (disposal : Disposal m) :
    Except Crash (Except DispatchError Value) → m (Except DispatchError Value)
  | .ok result => pure result
  | .error c => do
    c.putAway disposal
    return .error (.ofReason r.name c.reason)

/-- The procedure that reads the arguments, runs a handler and reports how it ended. -/
def procedure [Monad m] {F : Type} (r : Registration E A R) (report : F → Except Crash DispatchError)
    (handler : A → m (Outcome R F)) (disposal : Disposal m) : Procedure m := fun args =>
  match r.signature.decodeArgs args with
  | .error e => pure (.error e)
  | .ok args => do r.settle disposal (r.conclude report (← handler args))

end Registration

/-! ### Servers -/

/-- A server with its methods by their names on the wire. -/
structure Server (m : Type → Type) where
  heading : Heading
  table : SortedMap String (Procedure m)

namespace Server

variable {m : Type → Type}

/-- The names of the methods on the wire, in ascending order. -/
def methods (s : Server m) : List String :=
  s.table.keys

/-- Runs the method of a call. That there is one is checked first: of an unknown method it does not matter what
its parameters look like. -/
def tryDispatch [Monad m] (s : Server m) (call : Call) : m (Except DispatchError Value) :=
  match s.table.get? call.name, call.params with
  | none, _ => pure (.error (.unknownMethod call.name))
  | some procedure, [.dict args] => procedure args
  | some _, _ => pure (.error .argumentFraming)

/-- The response to what running a method gave. -/
def respond : Except DispatchError Value → Response
  | .ok contents => .ofResult contents
  | .error e => .ofFailure e.payload

/-- Answers a call. -/
def dispatch [Monad m] (s : Server m) (call : Call) : m Response :=
  respond <$> s.tryDispatch call

/-- The server as a transport, for clients in the same process. -/
def transport [Monad m] (s : Server m) : Transport m := fun call =>
  .ok <$> s.dispatch call

/-- The complete one-line form of a server for debugging. -/
def dump (s : Server m) : String :=
  Dump.fields "Server"
    [("info", s.heading.dump), ("methods", Dump.list (s.methods.map Text.quote))]

end Server

/-! ### Builders -/

/-- A server under construction. The heading never changes; the bridge may, and a method keeps the one that
was there when it was declared. -/
structure Builder (m : Type → Type) (E : Type) where
  heading : Heading
  bridge : ErrorBridge E
  table : SortedMap String (Procedure m) := .empty
  /-- Whether the server has been built. -/
  sealed : Bool := false

namespace Builder

variable {m : Type → Type} {E A R : Type}

/-- The builder with another bridge for the methods declared from now on. -/
def withBridge (b : Builder m E) (bridge : ErrorBridge E) : Builder m E :=
  { b with bridge }

/-- Declares a method. -/
def declare (b : Builder m E) (name : String) (signature : Signature A R) : Registration E A R where
  name := b.heading.wireName name
  signature
  bridge := b.bridge

/-- Installs a procedure, unless the server has been built or the name is taken. The seal is looked at before
the name, and a refusal leaves the builder as it was. -/
def install (b : Builder m E) (name : String) (procedure : Procedure m) :
    Except InstallError Unit × Builder m E :=
  if b.sealed then (.error (.sealed name), b)
  else if (b.table.get? name).isSome then (.error (.duplicate name), b)
  else (.ok (), { b with table := b.table.insertNew name procedure })

/-- Implements a method with a handler that fails with errors of the interface. The disposal is that of
everything unreadable that the handler may leave behind, or writing its results and errors. -/
def implement [Monad m] (b : Builder m E) (r : Registration E A R)
    (handler : A → m (Outcome R E)) (disposal : Disposal m := .quiet) :
    Except InstallError Unit × Builder m E :=
  b.install r.name (r.procedure r.fail handler disposal)

/-- Implements a method with a handler that fails with raised errors. -/
def implementRaising [Monad m] (b : Builder m E) (r : Registration E A R)
    (handler : A → m (Outcome R (Raised E))) (disposal : Disposal m := .quiet) :
    Except InstallError Unit × Builder m E :=
  b.install r.name (r.procedure r.failRaised handler disposal)

/-- Builds the server and seals the builder. -/
def build (b : Builder m E) : Server m × Builder m E :=
  (⟨b.heading, b.table⟩, { b with sealed := true })

end Builder
end Wirecall
