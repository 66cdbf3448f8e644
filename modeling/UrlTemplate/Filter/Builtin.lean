import UrlTemplate.Double.Reader
import UrlTemplate.Filter.Item
import UrlTemplate.Text.Base64
import UrlTemplate.Text.Blank
import UrlTemplate.Text.Case
import UrlTemplate.Text.Percent

/-!
# Built-in filters

The filters that every service has, as functions of a value and its arguments. Arguments beyond
those a filter knows are ignored. `Builtin.apply` covers the filters that need nothing but these;
the filter `hash` needs a digest and has its place in `UrlTemplate.Filter.Registry`.
`Builtin.applyItem` says what the same filters make of items that are not ready.
-/

namespace UrlTemplate

/-- The filters that are plain functions. -/
inductive Builtin
  | default
  | substr
  | trim
  | json
  | toLowerCase
  | toUpperCase
  | not
  | base64
  | if
deriving DecidableEq, Repr

namespace Builtin

/-- The name by which templates call a filter. -/
def name : Builtin → String
  | .default => "default"
  | .substr => "substr"
  | .trim => "trim"
  | .json => "json"
  | .toLowerCase => "toLowerCase"
  | .toUpperCase => "toUpperCase"
  | .not => "not"
  | .base64 => "base64"
  | .if => "if"

/-- All of them, in the order in which a service registers them. -/
def all : List Builtin :=
  [.default, .substr, .trim, .json, .toLowerCase, .toUpperCase, .not, .base64, .if]

/-- The filter of a name. -/
def ofName? (name : String) : Option Builtin :=
  all.find? (·.name = name)

/-- What is wrong with a value that is no text. -/
def notText (filter : Builtin) : Value → FilterError
  | .brokenText => .expectsUnicode filter.name
  | v => .expectsText filter.name v.kind

/-- The value if it is a text. -/
def requireText (filter : Builtin) : Value → Except FilterError String
  | .str s => .ok s
  | v => .error (filter.notText v)

/-- The number that an argument stands for: a text is read as a numeral, a boolean is one or zero.
-/
def number : Value → Except FilterError Double
  | .str s => .ok ((Double.read? s).getD .nan)
  | .int n => (Double.ofInt? n).elim (.error .outOfRange) .ok
  | .bool b => .ok ((Double.ofInt? (if b then 1 else 0)).getD .nan)
  | .float x => .ok x
  | _ => .ok .nan

/-- What is wrong with an argument that is no finite number: the message shows it, if it can be
written. -/
def notFinite (label : String) (arg : Value) : FilterError :=
  match arg.written .message with
  | .ok shown => .notANumber label shown
  | .error fault => .unwritable fault

/-- An argument as a whole number, its fractional part cut off. -/
def wholeNumber (label : String) (arg : Value) : Except FilterError Int := do
  match (← number arg).truncate? with
  | some n => .ok n
  | none => .error (notFinite label arg)

/-- Where a slice of a text of `length` characters begins: a negative start counts from the end, and
from the beginning at the earliest. -/
def sliceStart (length : Nat) (start : Int) : Nat :=
  if start < 0 then (length + start).toNat else start.toNat

/-- The slice of a text from a start on, all of it or a count of characters. -/
def slice (s : String) (start : Int) (count : Option Int) : String :=
  let cs := s.toList
  let rest := cs.drop (sliceStart cs.length start)
  String.ofList (match count with
    | none => rest
    | some n => rest.take n.toNat)

/-- The slice that the arguments `start` and `length` describe; without a length it reaches to the
end. -/
def substring (s : String) (start length : Value) : Except FilterError String := do
  let start ← wholeNumber "Start index" start
  match length with
  | .null => return slice s start none
  | length =>
    let count ← wholeNumber "Length" length
    return slice s start (some count)

/-- The bytes of a text in base 64. -/
def base64Text (s : String) : String :=
  String.ofList (Base64.encode (Text.bytes s))

/-- Applies a filter to a value. -/
def apply (filter : Builtin) (v : Value) (args : List Value) : Except FilterError Value :=
  let first (missing : Value) := args.headD missing
  let second (missing : Value) := args.tail.headD missing
  match filter with
  | .default => .ok (v.orElse ((first (.str "")).orElse (.str "")))
  | .substr => do return .str (← substring (← requireText .substr v) (first .null) (second .null))
  | .trim => do return .str (Text.trim (← requireText .trim v))
  | .json => do return .str (← (v.written .json).mapError .unwritable)
  | .toLowerCase => do return .str (Text.lower (← requireText .toLowerCase v))
  | .toUpperCase => do return .str (Text.upper (← requireText .toUpperCase v))
  | .not => .ok (.str (if v.truthy then "false" else "true"))
  | .base64 => do return .str (base64Text (← (v.written .text).mapError .unwritable))
  | .if => .ok (if v.truthy then first (.str "") else second (.str ""))

/-- Applies a filter to an item. One that is not ready is no text and counts as present. -/
def applyItem (filter : Builtin) (item : Item) (args : List String) : Except FilterError Item :=
  match item, filter with
  | .ready v, _ => (filter.apply v (args.map .str)).map .ready
  | item, .default => .ok item
  | _, .not => .ok (.ready (.str "false"))
  | _, .if => .ok (.ready (.str (args.headD "")))
  | _, .json => .error .notSerializable
  | item, .base64 => item.text.map fun s => .ready (.str (base64Text s))
  | item, _ => .error (.expectsText filter.name item.kind)

end Builtin

end UrlTemplate
