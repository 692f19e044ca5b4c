import Wirecall.DecodeError
import Wirecall.Text.LowerCase

/-!
# Records on the wire

A record is written as a dictionary of its fields in order. Reading is more lenient: names meet in
lower case, the first entry of a name counts, other entries are ignored, and a field whose type has a
value for absence may be left out.
-/

namespace Wirecall

/-- A record on its way in: its entries under lower-cased keys, and the name it goes by in errors. It is the
name of the type that reads, not one that is found on the wire. -/
structure RecordReader where
  owner : String
  entries : List (String × Value)

namespace RecordReader

/-- Reads a value as a record. Only a dictionary is one. -/
def ofValue (owner : String) : Value → Except DecodeError RecordReader
  | .dict entries => .ok ⟨owner, entries.map fun e => (Text.lowerCase e.1, e.2)⟩
  | v => .error (.mismatch ("struct " ++ owner) v)

/-- The value under a name: that of the first entry whose key is the name in lower case. -/
def entry? (r : RecordReader) (name : String) : Option Value :=
  r.entries.lookup (Text.lowerCase name)

/-- Decodes the field of a name. A field that is left out has the value for absence, or is an error
if its type has none. -/
def field {α : Type} (r : RecordReader) (decode : Value → Except DecodeError α)
    (absent : Option α) (name : String) : Except DecodeError α :=
  match r.entry? name, absent with
  | some v, _ => decode v
  | none, some a => .ok a
  | none, none => .error (.missingField r.owner name)

end RecordReader
end Wirecall
