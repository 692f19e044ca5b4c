import Wirecall.Codec
import Wirecall.Descriptor.Dump
import Wirecall.Descriptor.Equality
import Wirecall.Failure.Dispatch

/-!
# Parameters

A parameter is a named place of a native type in the signature of a method: one of its arguments, or
its result. Arguments arrive by name; names match exactly, and the first argument of a name counts.
-/

namespace Wirecall

/-- Named arguments on the wire. -/
abbrev Arguments := List (String × Value)

/-- What is published about a parameter. -/
structure ParamDescription where
  name : String
  description : String
  type : Descriptor
deriving DecidableEq

/-- A named, described place of type `α`. -/
structure Param (α : Type) where
  name : String
  description : String
  codec : Codec α

namespace Param

variable {α : Type}

/-- A parameter that takes its name and description from its type where none is given. -/
def ofCodec (codec : Codec α) (name description : Option String := none) : Param α where
  name := name.getD codec.descriptor.name
  description := description.getD codec.descriptor.description
  codec

/-- What is published about the parameter. -/
def describe (p : Param α) : ParamDescription :=
  ⟨p.name, p.description, p.codec.descriptor⟩

/-- Reads the parameter from named arguments. Unlike the fields of records, arguments are looked up by the
very name, upper and lower case included. -/
def read (p : Param α) (args : Arguments) : Except DispatchError α :=
  match args.lookup p.name, p.codec.absent with
  | some v, _ =>
    match p.codec.decode v with
    | .ok a => .ok a
    | .error source => .error (.invalidArgument p.name source)
  | none, some a => .ok a
  | none, none => .error (.missingArgument p.name)

end Param

/-- The complete form of a parameter for debugging. -/
def ParamDescription.dump (p : ParamDescription) : String :=
  Dump.fields "Param"
    [("name", Text.quote p.name), ("description", Text.quote p.description), ("def", p.type.dump)]

end Wirecall
