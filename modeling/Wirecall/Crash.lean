/-!
# Crashes

A method may end without a result and without an error: it gives up. What is left then is what it said
while going down, or something that nobody can read.

A crash that is caught is data, and `Crash` is that data. It is over only when what it left behind has been
put away, and doing so runs code that belongs to the remains and not to whoever caught the crash. Such code
is a `Disposal`. It happens in the monad of handlers and may do anything that is possible there, so where
there is a way to give up, it may be taken once more.
-/

namespace Wirecall

/-- How a computation gave up. -/
inductive Crash where
  /-- It left a message. Messages are put away without a trace. -/
  | message (text : String)
  /-- It left something that nobody can read. The number tells such remains apart. -/
  | silent (remains : Nat := 0)
deriving DecidableEq

/-- The text by which a crash is reported. -/
def Crash.reason : Crash → String
  | .message text => "handler panicked: " ++ text
  | .silent _ => "handler panicked"

/-- What happens when remains that nobody can read are put away. -/
abbrev Disposal (m : Type → Type) := Nat → m Unit

/-- Nothing happens when remains are put away. -/
def Disposal.quiet {m : Type → Type} [Pure m] : Disposal m := fun _ => pure ()

/-- Puts away what a crash left behind. -/
def Crash.putAway {m : Type → Type} [Pure m] (disposal : Disposal m) : Crash → m Unit
  | .message _ => pure ()
  | .silent remains => disposal remains

end Wirecall
