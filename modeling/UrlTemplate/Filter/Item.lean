import UrlTemplate.Filter.Error

/-!
# Items of filter chains

What travels through a filter chain is mostly a value, but a filter may also answer with a pending
item, which has to be awaited before its result is there. It can be awaited once; after that it is
spent. Nothing can look into an item that is not ready: it counts as present, and it cannot be
written as JSON.
-/

namespace UrlTemplate

/-- What travels through a filter chain. -/
inductive Item
  | ready (v : Value)
  /-- An item that has to be awaited first. -/
  | pending (result : Item)
  /-- A pending item that has been awaited. -/
  | spent
  /-- An object with a part that is not ready. -/
  | holding
deriving DecidableEq, Repr

namespace Item

/-- The name of the kind of an item in messages. -/
def kind : Item → String
  | .ready v => v.kind
  | .holding => (Value.object []).kind
  | _ => "coroutine"

/-- Whether an item counts as present: one that is not ready does. -/
def truthy : Item → Bool
  | .ready v => v.truthy
  | _ => true

/-- The value that stands for an item where a value is needed at once: one that is not ready shows
as a mark. -/
def shown : Item → Value
  | .ready v => v
  | _ => .str "<pending>"

/-- The value whose text an item has; an object with a part that is not ready has none. -/
def readable : Item → Except FilterError Value
  | .holding => .error .notSerializable
  | item => .ok item.shown

/-- The text of an item. -/
def text (item : Item) : Except FilterError String := do
  ((← item.readable).written .text).mapError .unwritable

/-- How often waiting for an item gives way to other work. -/
def pauses : Item → Nat
  | .pending _ => 1
  | _ => 0

/-- The item that is there after waiting. -/
def await : Item → Except FilterError Item
  | .pending result => .ok result
  | .spent => .error .alreadyAwaited
  | item => .ok item

/-- What waiting leaves of an item. -/
def awaited : Item → Item
  | .pending _ => .spent
  | item => item

end Item

end UrlTemplate
