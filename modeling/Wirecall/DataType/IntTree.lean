import Wirecall.Decoder
import Wirecall.Layout.Variant

/-!
# Binary trees of integers

A recursive type with a variant for its wire form. Its descriptor closes the circle by the name
`tree`, so a validator has to know the declaration of that name.

`IntTree.decode` recurses on the value itself. `decode_eq` says that it reads a tree as any variant is
read.
-/

namespace Wirecall

/-- A binary tree with integers at its leaves. -/
inductive IntTree where
  | leaf (n : Int64)
  | node (left right : IntTree)
deriving DecidableEq

namespace IntTree

/-- The descriptor of a subtree: a reference to the declaration. -/
def reference : Descriptor :=
  ⟨"tree", "", .ref "tree"⟩

/-- The descriptor of trees. -/
def descriptor : Descriptor where
  name := "tree"
  description := "A binary tree of integers"
  shape := .variant
    [⟨"Leaf", "", some (.ofScalar .int64)⟩,
      ⟨"Node", "", some ⟨"branches", "", .pair reference reference⟩⟩]

/-- The wire form of a tree. -/
def encode : IntTree → Value
  | .leaf n => .tagged "Leaf" (some (.int n))
  | .node left right => .tagged "Node" (some (.seq [left.encode, right.encode]))

/-- What a tag without a payload reads as: no tree at all. -/
def decodeBare (r : VariantReader) : Except DecodeError IntTree :=
  if r.is "Leaf" then leaf <$> Decoder.int64 .null
  else if r.is "Node" then .error (.mismatch "tuple" .null)
  else .error r.unknown

/-- Reads a tree. -/
def decode : Value → Except DecodeError IntTree
  | .string tag => decodeBare ⟨"tree", tag, none⟩
  | .seq [.string tag] => decodeBare ⟨"tree", tag, none⟩
  | .seq [.string tag, payload] =>
    let r : VariantReader := ⟨"tree", tag, some payload⟩
    if r.is "Leaf" then leaf <$> Decoder.int64 payload
    else if r.is "Node" then
      match payload with
      | .seq [left, right] => do return node (← decode left) (← decode right)
      | .seq values => .error (.mismatch "tuple of 2" (.seq values))
      | v => .error (.mismatch "tuple" v)
    else .error r.unknown
  | v => .error (.mismatch "variant tree" v)

/-- A tree is read as a variant with two cases: an integer, or a pair of trees. -/
theorem decode_eq (v : Value) :
    decode v = VariantReader.ofValue "tree" v >>= fun r =>
      if r.is "Leaf" then leaf <$> Decoder.int64 r.payloadOrNull
      else if r.is "Node" then
        (fun branches => node branches.1 branches.2) <$>
          Decoder.pair decode decode r.payloadOrNull
      else .error r.unknown := by
  cases v with
  | string tag => rfl
  | seq items =>
    match items with
    | [] => rfl
    | [w] => cases w <;> rfl
    | [w, payload] =>
      cases w with
      | string tag =>
        unfold decode VariantReader.ofValue
        show (if _ then _ else _) = (if _ then _ else _)
        simp only [VariantReader.payloadOrNull, Option.getD_some]
        congr 2
        -- Below a node, the two sides differ only in how they put the branches together.
        match payload with
        | .seq [left, right] =>
          simp only [Decoder.pair]
          cases decode left <;> cases decode right <;> rfl
        | .seq [] | .seq [_] | .seq (_ :: _ :: _ :: _) => rfl
        | .int _ | .int32 _ | .bool _ | .float _ | .string _ | .timestamp _ | .dict _ | .null => rfl
      | _ => rfl
    | w :: _ :: _ :: _ => cases w <;> rfl
  | _ => rfl

end IntTree
end Wirecall
