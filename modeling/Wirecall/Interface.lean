import Wirecall.Failure.Raised
import Wirecall.Heading
import Wirecall.Signature

/-!
# Descriptions of interfaces

What generators and gateways learn of an interface: its methods in the order of their declaration, and
the declarations of the records and variants that occur in them. The errors of an interface are
repeated in every method, and `withErrors` changes all of them together.
-/

namespace Wirecall

/-- What is published about a method. -/
structure MethodDescription where
  name : String
  description : String
  params : List ParamDescription
  result : ParamDescription
  errors : Descriptor
deriving DecidableEq

/-- The descriptors of a method, arguments before the result. -/
def MethodDescription.types (m : MethodDescription) : List Descriptor :=
  m.params.map (·.type) ++ [m.result.type]

/-- What is published about an interface. -/
structure Interface where
  heading : Heading
  errors : Descriptor
  methods : List MethodDescription
deriving DecidableEq

/-! ### Declarations of types -/

namespace Descriptor

/-- Adds a declaration behind others, unless there is one of its name. Whether the two say the same is not
looked at: the one that came first stays. -/
def addDeclaration (found : List Descriptor) (d : Descriptor) : List Descriptor :=
  if found.any (·.name == d.name) then found else found ++ [d]

/-- The declarations of records and variants in a descriptor, added to those found before. -/
def collect (found : List Descriptor) (d : Descriptor) : List Descriptor :=
  (d.visit.filter isDeclaration).foldl addDeclaration found

end Descriptor

namespace Interface

/-- An interface without methods. Its errors are plain reasons. -/
def new (heading : Heading) : Interface :=
  ⟨heading, ErrorType.reason.codec.descriptor, []⟩

/-- The interface with other errors, also in the methods that it has already. So all of its methods always
have the same errors, those of the interface. -/
def withErrors (i : Interface) (errors : Descriptor) : Interface :=
  { i with errors, methods := i.methods.map fun m => { m with errors } }

/-- Describes a method without recording it. -/
def describe {A R : Type} (i : Interface) (name description : String) (signature : Signature A R) :
    MethodDescription where
  name
  description
  params := signature.params
  result := signature.result
  errors := i.errors

/-- Records a method behind the others. -/
def declare {A R : Type} (i : Interface) (name description : String) (signature : Signature A R) :
    Interface :=
  { i with methods := i.methods ++ [i.describe name description signature] }

/-- The first method of a name. -/
def method? (i : Interface) (name : String) : Option MethodDescription :=
  i.methods.find? fun m => m.name == name

/-- All descriptors of an interface: method by method, the errors last. -/
def types (i : Interface) : List Descriptor :=
  i.methods.flatMap (·.types) ++ [i.errors]

/-- The declarations of records and variants of an interface, each at its first occurrence. -/
def typeDeclarations (i : Interface) : List Descriptor :=
  i.types.foldl Descriptor.collect []

end Interface

/-- Interfaces that are published together. -/
structure InterfaceGroup where
  name : String
  title : String
  description : String
  interfaces : List Interface := []

namespace InterfaceGroup

/-- Adds an interface behind the others. -/
def add (g : InterfaceGroup) (i : Interface) : InterfaceGroup :=
  { g with interfaces := g.interfaces ++ [i] }

/-- The declarations of all interfaces, each name at its first occurrence. -/
def typeDeclarations (g : InterfaceGroup) : List Descriptor :=
  (g.interfaces.flatMap Interface.typeDeclarations).foldl Descriptor.addDeclaration []

end InterfaceGroup
end Wirecall
