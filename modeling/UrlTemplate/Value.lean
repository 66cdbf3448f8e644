import UrlTemplate.Double

/-!
# Values

The data that templates, filters and settings work on: the values of JSON, with whole numbers of
any size apart from floating-point numbers and with the keys of an object in their order.
-/

namespace UrlTemplate

/-- A JSON value. -/
inductive Value
  | null
  | bool (b : Bool)
  | int (n : Int)
  | float (x : Double)
  | str (s : String)
  /-- A string that holds half of a surrogate pair, so that it is no text. It comes up in settings,
  which refuse it; what reads texts or writes values refuses it as well, and nothing looks into
  it. -/
  | brokenText
  | list (items : List Value)
  | object (fields : List (String × Value))
deriving Repr, Inhabited

/-- Named values in order. -/
abbrev Fields := List (String × Value)

namespace Value

mutual

/-- Equality of values is decided constructor by constructor. -/
def decEq : (a b : Value) → Decidable (a = b)
  | .null, .null => isTrue rfl
  | .bool a, .bool b => decidable_of_iff (a = b) (by simp)
  | .int a, .int b => decidable_of_iff (a = b) (by simp)
  | .float a, .float b => decidable_of_iff (a = b) (by simp)
  | .str a, .str b => decidable_of_iff (a = b) (by simp)
  | .brokenText, .brokenText => isTrue rfl
  | .list a, .list b =>
    have := decEqItems a b
    decidable_of_iff (a = b) (by simp)
  | .object a, .object b =>
    have := decEqFields a b
    decidable_of_iff (a = b) (by simp)
  | .null, .bool _ | .null, .int _ | .null, .float _ | .null, .str _ | .null, .list _
  | .null, .object _ | .null, .brokenText => isFalse nofun
  | .bool _, .null | .bool _, .int _ | .bool _, .float _ | .bool _, .str _ | .bool _, .list _
  | .bool _, .object _ | .bool _, .brokenText => isFalse nofun
  | .int _, .null | .int _, .bool _ | .int _, .float _ | .int _, .str _ | .int _, .list _
  | .int _, .object _ | .int _, .brokenText => isFalse nofun
  | .float _, .null | .float _, .bool _ | .float _, .int _ | .float _, .str _ | .float _, .list _
  | .float _, .object _ | .float _, .brokenText => isFalse nofun
  | .str _, .null | .str _, .bool _ | .str _, .int _ | .str _, .float _ | .str _, .list _
  | .str _, .object _ | .str _, .brokenText => isFalse nofun
  | .brokenText, .null | .brokenText, .bool _ | .brokenText, .int _ | .brokenText, .float _
  | .brokenText, .str _ | .brokenText, .list _ | .brokenText, .object _ => isFalse nofun
  | .list _, .null | .list _, .bool _ | .list _, .int _ | .list _, .float _ | .list _, .str _
  | .list _, .object _ | .list _, .brokenText => isFalse nofun
  | .object _, .null | .object _, .bool _ | .object _, .int _ | .object _, .float _
  | .object _, .str _ | .object _, .list _ | .object _, .brokenText => isFalse nofun

/-- Equality of lists of values. -/
def decEqItems : (a b : List Value) → Decidable (a = b)
  | [], [] => isTrue rfl
  | [], _ :: _ => isFalse nofun
  | _ :: _, [] => isFalse nofun
  | a :: as, b :: bs =>
    have := decEq a b
    have := decEqItems as bs
    decidable_of_iff (a = b ∧ as = bs) (by simp)

/-- Equality of fields. -/
def decEqFields : (a b : List (String × Value)) → Decidable (a = b)
  | [], [] => isTrue rfl
  | [], _ :: _ => isFalse nofun
  | _ :: _, [] => isFalse nofun
  | (k, a) :: as, (l, b) :: bs =>
    have := decEq a b
    have := decEqFields as bs
    decidable_of_iff (k = l ∧ a = b ∧ as = bs) (by simp [and_assoc])

end

instance : DecidableEq Value := decEq

/-- Whether a value counts as present: `null`, `false`, zero and everything empty do not. -/
def truthy : Value → Bool
  | .null => false
  | .bool b => b
  | .int n => n ≠ 0
  | .float x => !x.isZero
  | .str s => s ≠ ""
  | .brokenText => true
  | .list items => !items.isEmpty
  | .object fields => !fields.isEmpty

/-- What stands for a string that is no text where values are shown without a look at whether they
can be written. -/
def replacementText : String := "\ufffd"

/-- The first value if it counts as present, the second one otherwise. -/
def orElse (a b : Value) : Value :=
  if a.truthy then a else b

/-- The name of the kind of a value in messages. -/
def kind : Value → String
  | .null => "NoneType"
  | .bool _ => "bool"
  | .int _ => "int"
  | .float _ => "float"
  | .str _ => "str"
  | .brokenText => "str"
  | .list _ => "list"
  | .object _ => "dict"

end Value

end UrlTemplate
