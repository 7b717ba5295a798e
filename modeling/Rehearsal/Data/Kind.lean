import Rehearsal.Chat.Message
import Rehearsal.Json.Basic
import Rehearsal.OrderedMap

/-!
# Kinds of data

The kinds of values that messages carry, stores keep and requests hold, each with its type of
values and with the name under which diagnostics show it. Two kinds are different even where their
values are the same: a sixty-four bit word and a size are not interchangeable.
-/

namespace Rehearsal

/-- The formats of whole numbers. -/
inductive IntFormat where
  | u8 | u32 | u64 | usize | u128 | i32 | i64 | i128
  deriving DecidableEq

namespace IntFormat

/-- The least number of a format. -/
def low : IntFormat → Int
  | u8 | u32 | u64 | usize | u128 => 0
  | i32 => -2147483648
  | i64 => -9223372036854775808
  | i128 => -170141183460469231731687303715884105728

/-- The greatest number of a format. -/
def high : IntFormat → Int
  | u8 => 255
  | u32 => 4294967295
  | u64 | usize => 18446744073709551615
  | u128 => 340282366920938463463374607431768211455
  | i32 => 2147483647
  | i64 => 9223372036854775807
  | i128 => 170141183460469231731687303715884105727

/-- The name of a format. -/
def name : IntFormat → String
  | u8 => "u8"
  | u32 => "u32"
  | u64 => "u64"
  | usize => "usize"
  | u128 => "u128"
  | i32 => "i32"
  | i64 => "i64"
  | i128 => "i128"

/-- The numbers of a format. -/
structure Value (f : IntFormat) where
  val : Int
  low_le : f.low ≤ val
  le_high : val ≤ f.high
  deriving DecidableEq

/-- The number, if the format has it. -/
def ofInt? (f : IntFormat) (i : Int) : Option f.Value :=
  if h : f.low ≤ i ∧ i ≤ f.high then some ⟨i, h.1, h.2⟩ else none

namespace Value

variable {f : IntFormat}

instance : LE f.Value := ⟨fun a b => a.val ≤ b.val⟩
instance : LT f.Value := ⟨fun a b => a.val < b.val⟩
instance : DecidableLT f.Value := fun a b => inferInstanceAs (Decidable (a.val < b.val))

theorem ext {a b : f.Value} (h : a.val = b.val) : a = b := by
  cases a; cases b; cases h; rfl

instance : Std.IsLinearOrder f.Value where
  le_refl a := Int.le_refl a.val
  le_trans _ _ _ := Int.le_trans
  le_antisymm _ _ h h' := ext (Int.le_antisymm h h')
  le_total a b := Int.le_total a.val b.val

instance : Std.LawfulOrderLT f.Value where
  lt_iff _ _ := Int.lt_iff_le_and_not_ge

end Value

end IntFormat

/-- The kinds of data. -/
inductive Kind where
  | integer (f : IntFormat)
  | bool
  | float
  | char
  | unit
  | text
  /-- A text that is only lent; it can be sent but not read back. -/
  | lentText
  | integers
  | texts
  | optionalText
  | pair
  /-- Numbers by name. -/
  | tally
  /-- Texts by number. -/
  | labels
  /-- Texts by pairs of numbers, which no JSON text can hold unless there are none. -/
  | pairLabels
  | json
  | chatRequest
  | chatMessage
  | chatDirection
  | chatRecord
  deriving DecidableEq

namespace Kind

/-- The values of a kind. -/
@[reducible] def Value : Kind → Type
  | integer f => f.Value
  | bool => Bool
  | float => Float
  | char => Char
  | unit => Unit
  | text => String
  | lentText => String
  | integers => List IntFormat.i64.Value
  | texts => List String
  | optionalText => Option String
  | pair => IntFormat.i64.Value × String
  | tally => OrderedMap String IntFormat.i64.Value
  | labels => OrderedMap IntFormat.i64.Value String
  | pairLabels => List ((Int × Int) × String)
  | json => Json
  | chatRequest => Chat.Request
  | chatMessage => Chat.Message
  | chatDirection => Chat.Direction
  | chatRecord => Chat.Record

/-- The name of a kind in diagnostics. -/
def name : Kind → String
  | integer f => f.name
  | bool => "bool"
  | float => "f64"
  | char => "char"
  | unit => "()"
  | text => "alloc::string::String"
  | lentText => "&str"
  | integers => "alloc::vec::Vec<i64>"
  | texts => "alloc::vec::Vec<alloc::string::String>"
  | optionalText => "core::option::Option<alloc::string::String>"
  | pair => "(i64, alloc::string::String)"
  | tally => "alloc::collections::btree::map::BTreeMap<alloc::string::String, i64>"
  | labels => "alloc::collections::btree::map::BTreeMap<i64, alloc::string::String>"
  | pairLabels => "alloc::collections::btree::map::BTreeMap<(i64, i64), alloc::string::String>"
  | json => "serde_json::value::Value"
  | chatRequest => "oracle_driver::fixtures::ChatOutgoingFlowParameter"
  | chatMessage => "oracle_driver::fixtures::MessageContainer"
  | chatDirection => "oracle_driver::fixtures::Direction"
  | chatRecord => "oracle_driver::fixtures::ChatRecord"

end Kind

end Rehearsal
