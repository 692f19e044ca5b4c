import Wirecall.Sample.Variants
import Wirecall.Slot

/-!
# Sample methods

The argument and result types of methods to try the library out on. One of them has a result that
cannot be written.
-/

namespace Wirecall.Sample

/-- The codec of results that give up when they are written. -/
def fragile : Codec Unit where
  descriptor := ⟨"fragile", "", .unit⟩
  encode _ := .null
  decode _ := .ok ()
  encodeCrash _ := some (.message "cannot marshal")

/-- The type of a result. -/
inductive ResultType where
  | data (type : DataType)
  | fragile

namespace ResultType

/-- The results of a type. -/
@[reducible] def Carrier : ResultType → Type
  | .data type => type.Carrier
  | .fragile => Unit

/-- The codec of results of a type. -/
def codec : (type : ResultType) → Codec type.Carrier
  | .data type => .ofType type
  | .fragile => Sample.fragile

end ResultType

/-- The types of a method. -/
structure MethodType where
  arguments : List DataType
  result : ResultType

/-- The methods by name. -/
def methods : List (String × MethodType) :=
  [("ping", ⟨[], .data .unit⟩),
    ("now", ⟨[], .data .int64⟩),
    ("fragile", ⟨[], .fragile⟩),
    ("echo", ⟨[.string], .data .string⟩),
    ("sqrt", ⟨[.int64], .data .int64⟩),
    ("summarize", ⟨[.list .int64], .data summary⟩),
    ("alternate", ⟨[.option status], .data otherSummary⟩),
    ("binop", ⟨[.int, .int], .data .int⟩),
    ("labelled", ⟨[.int64, .string], .data .bool⟩),
    ("greet", ⟨[.string, .option .string], .data .string⟩),
    ("opts",
      ⟨[.option .int64, .boxed (.option .string), .list (.option .int64)],
        .data (.option (.option .int64))⟩),
    ("transfer", ⟨[account, status, .pair .int64 .string], .data account⟩),
    ("mix", ⟨[.int32, .float, .char, .bool], .data (.pair .float .string)⟩),
    ("five", ⟨[.timestamp, .map .byKey .int64 .string, .tree, .array .int64, .unit], .data .tree⟩),
    ("six", ⟨List.replicate 6 .int64, .data .int64⟩),
    ("seven", ⟨[shape, outer, greek, clash, empty, .chain, point], .data shape⟩),
    ("eight", ⟨List.replicate 7 .int64 ++ [.option .int64], .data (.list .int64)⟩),
    ("report",
      ⟨[.list account, .map .byKey .string summary], .data (.map .byKey .int32 (.list status))⟩)]

/-- The types of the method of a name. -/
def method? (name : String) : Option MethodType :=
  methods.lookup name

end Wirecall.Sample
