import Wirecall.Decoder
import Wirecall.Layout.Record
import Wirecall.Layout.Variant

/-!
# Validation against a descriptor

Whoever knows a type only by its descriptor can still tell whether a value is one of it, and if not,
why. Validation reads a value the way a decoder would: containers in order, records by the names of
their fields, variants by the first case of the tag, and it stops at the first error. References are
looked up among declarations.

Following references need not end: declarations that are nothing but references to one another may
run in a circle. `checkWithin` therefore counts how many descriptors may be entered one inside the
other, and answers `none` when that is not enough. `check` allows as many as any value can need if
no such circle is met: between two steps down into the value, every declaration once.
-/

namespace Wirecall

/-- What validation says: nothing, an error, or that it did not come to an end. -/
abbrev Verdict := Option (Except DecodeError Unit)

namespace Verdict

/-- The verdict on a value that is in order. -/
def accepted : Verdict := some (.ok ())

/-- The verdict on a value with an error. -/
def refused (e : DecodeError) : Verdict := some (.error e)

/-- The verdict of a question with two answers. -/
def ofBool (ok : Bool) (e : DecodeError) : Verdict :=
  if ok then accepted else refused e

/-- Goes on to the next part only if the part before it is in order. An error, or an end that was not come to,
is final. -/
def andThen (first : Verdict) (next : Unit → Verdict) : Verdict :=
  match first with
  | some (.ok ()) => next ()
  | verdict => verdict

/-- Asks about each item in turn, up to the first that is not in order. -/
def each {α : Type} (ask : α → Verdict) : List α → Verdict
  | [] => accepted
  | a :: rest => (ask a).andThen fun _ => each ask rest

end Verdict

/-- Whether a value is of a plain kind. -/
def Scalar.accepts : Scalar → Value → Bool
  | .int64, .int _ | .int, .int _ => true
  | .int32, .int32 _ => true
  | .string, .string _ => true
  | .float, .float _ => true
  | .bool, .bool _ => true
  | .char, .int code => (charOfCode? code).isSome
  | _, _ => false

/-- A validator: the declarations that references are looked up among. -/
structure Validator where
  declarations : List Descriptor := []

namespace Validator

/-- The validator without declarations, for which every reference is an error. -/
def empty : Validator := {}

/-- Adds a declaration. It replaces an earlier one of the same name. -/
def declare (c : Validator) (d : Descriptor) : Validator :=
  ⟨d :: c.declarations⟩

/-- The declaration of a name: the latest one. -/
def declaration? (c : Validator) (name : String) : Option Descriptor :=
  c.declarations.find? fun d => d.name == name

/-- The mismatch of a value with a descriptor. -/
def mismatch (d : Descriptor) (v : Value) : DecodeError :=
  .mismatch (d.name ++ " (" ++ d.shape.label ++ ")") v

/-- Validates a key of a dictionary. -/
def checkKey (kind : Scalar) (key : String) : Verdict :=
  .ofBool (kind.acceptsKey key) (.mismatch (kind.name ++ " key") (.string key))

/-- Validates the entry of a field, if there is one. Only an option may be left out, and whether a field is one
is seen from its own shape: a reference to an option is none. -/
def checkField (ask : Descriptor → Value → Verdict) (entries : List (String × Value)) (f : Field) :
    Verdict :=
  match entries.lookup (Text.lowerCase f.name) with
  | some v => ask f.type v
  | none => .ofBool f.type.shape.isOption (.missingField f.owner f.name)

/-- Validates a tag and its payload, against the first case of that tag. -/
def checkCase (ask : Descriptor → Value → Verdict) (cases : List Case) (r : VariantReader) :
    Verdict :=
  match cases.find? fun c => r.is c.name with
  | none => .refused r.unknown
  | some ⟨_, _, some payload⟩ => ask payload r.payloadOrNull
  | some ⟨_, _, none⟩ => some r.unit

/-- Validates a value, entering at most the given number of descriptors one inside the other. The recursion is
on that number, as neither the value nor the descriptor need get smaller. -/
def checkWithin (c : Validator) : Nat → Descriptor → Value → Verdict
  | 0, _, _ => none
  | depth + 1, d, v =>
    match d.shape, v with
    | .scalar kind, v => .ofBool (kind.accepts v) (.mismatch kind.name v)
    | .timestamp, .timestamp text =>
      .ofBool (Timestamp.isText text) (.mismatch "datetime (yyyymmddThh:mm:ss)" v)
    | .unit, .null => .accepted
    | .record fields, .dict entries =>
      -- The names of fields are compared in lower case, so the keys are lowered once.
      let lowered := entries.map fun e => (Text.lowerCase e.1, e.2)
      .each (checkField (c.checkWithin depth) lowered) fields
    | .variant cases, .string tag => checkCase (c.checkWithin depth) cases ⟨d.name, tag, none⟩
    | .variant cases, .seq [.string tag] =>
      checkCase (c.checkWithin depth) cases ⟨d.name, tag, none⟩
    | .variant cases, .seq [.string tag, payload] =>
      checkCase (c.checkWithin depth) cases ⟨d.name, tag, some payload⟩
    | .array item, .seq values | .list item, .seq values => .each (c.checkWithin depth item) values
    | .dict kind item, .dict entries =>
      .each (fun e => (checkKey kind e.1).andThen fun _ => c.checkWithin depth item e.2) entries
    | .option _, .seq [] => .accepted
    | .option item, .seq [v] => c.checkWithin depth item v
    | .pair first second, .seq [v, w] =>
      (c.checkWithin depth first v).andThen fun _ => c.checkWithin depth second w
    -- Following a reference leaves the value as it is: only the depth gets smaller.
    | .ref name, v =>
      match c.declaration? name with
      | some target => c.checkWithin depth target v
      | none => .refused (.mismatch ("declaration of " ++ name) v)
    | _, _ => .refused (mismatch d v)

/-- How many descriptors validation can enter one inside the other. For each level of the value there may be a
reference, references to references as many as there are declarations, and the descriptor that goes down. -/
def depth (c : Validator) (v : Value) : Nat :=
  (v.height + 1) * (c.declarations.length + 2)

/-- Validates a value against a descriptor. -/
def check (c : Validator) (d : Descriptor) (v : Value) : Verdict :=
  c.checkWithin (c.depth v) d v

end Validator
end Wirecall
