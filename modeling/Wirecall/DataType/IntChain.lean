import Wirecall.Decoder
import Wirecall.Layout.Record

/-!
# Chains of integers

A recursive type with a record for its wire form. Its descriptor closes the circle by the name
`chain`, so a validator has to know the declaration of that name.

`IntChain.decode` recurses on the value itself. `decode_eq` says that it reads a chain as any record is
read.
-/

namespace Wirecall

/-- A linked chain of integers, with at least one link. -/
structure IntChain where
  head : Int64
  tail : Option IntChain

namespace IntChain

/-- The descriptor of chains. -/
def descriptor : Descriptor where
  name := "chain"
  description := "A linked chain"
  shape := .record
    [⟨"head", "", .ofScalar .int64, "chain"⟩,
      ⟨"tail", "", .optionOf ⟨"chain", "", .ref "chain"⟩, "chain"⟩]

/-- The wire form of a chain. -/
def encode : IntChain → Value
  | ⟨head, none⟩ => .dict [("head", .int head), ("tail", .seq [])]
  | ⟨head, some tail⟩ => .dict [("head", .int head), ("tail", .seq [tail.encode])]

mutual
/-- Reads a chain: its head first, then its tail. -/
def decode : Value → Except DecodeError IntChain
  | .dict entries => do
    let r ← RecordReader.ofValue "chain" (.dict entries)
    let head ← r.field Decoder.int64 none "head"
    -- The tail is looked up by recursion on the entries, so that reading it is part of the recursion.
    return ⟨head, ← decodeTail entries⟩
  | v => .error (.mismatch "struct chain" v)
/-- Reads the tail of a chain from the first entry of its name. A tail that is left out is none. -/
def decodeTail : List (String × Value) → Except DecodeError (Option IntChain)
  | [] => .ok none
  | (key, v) :: rest =>
    if Text.lowerCase "tail" == Text.lowerCase key then
      match v with
      | .seq [] => .ok none
      | .seq [link] => some <$> decode link
      | .seq values => .error (.mismatch "option (zero or one element)" (.seq values))
      | v => .error (.mismatch "option" v)
    else decodeTail rest
end

/-- The tail is the field of its name, an option that may be left out. -/
theorem decodeTail_eq (owner : String) (entries : List (String × Value)) :
    decodeTail entries =
      RecordReader.field ⟨owner, entries.map fun e => (Text.lowerCase e.1, e.2)⟩
        (Decoder.option decode) (some none) "tail" := by
  induction entries with
  | nil => rfl
  | cons e rest ih =>
    obtain ⟨key, v⟩ := e
    unfold decodeTail
    simp only [RecordReader.field, RecordReader.entry?, List.map_cons, List.lookup_cons] at ih ⊢
    split
    next h =>
      simp only [h]
      split <;> simp_all [Decoder.option]
    next h =>
      simp only [h]
      exact ih

/-- A chain is read as a record with two fields: an integer, and an option of a chain. -/
theorem decode_eq (v : Value) :
    decode v = RecordReader.ofValue "chain" v >>= fun r => do
      let head ← r.field Decoder.int64 none "head"
      return ⟨head, ← r.field (Decoder.option decode) (some none) "tail"⟩ := by
  cases v with
  | dict entries =>
    simp only [decode, decodeTail_eq "chain"]
    rfl
  | _ => rfl

end IntChain
end Wirecall
