import UrlTemplate.Entries
import UrlTemplate.Value

/-!
# Merging objects

`merge base override` lets one object override another: where both have an object under a key the
two are merged in turn, any other value of `override` takes the place of the one in `base`. The
keys of `base` keep their order and the new keys follow.
-/

namespace UrlTemplate.Fields

mutual

/-- Overrides fields by others. -/
def merge (base : Fields) : (override : List (String × Value)) → Fields
  | [] => base
  | (key, v) :: rest => merge (Entries.put base key (mergeValue (base.lookup key) v)) rest

/-- Overrides a value, if there is one, by another. -/
def mergeValue : (base : Option Value) → (override : Value) → Value
  | some (.object base), .object override => .object (merge base override)
  | _, v => v

end

end UrlTemplate.Fields
