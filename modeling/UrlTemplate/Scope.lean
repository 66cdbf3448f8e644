import UrlTemplate.Value

/-!
# Scopes

A scope is an object whose field `vars` holds variables by name. A reference is looked up in the
scopes of the event, of the trigger and of the configuration, in this order, and the first value
that counts as present wins. An absent scope may be any value that does not count as present; any
other value in the place of an object is a fault of the caller.
-/

namespace UrlTemplate

/-- A value of a given kind stands where an object of variables should be. -/
structure ScopeFault where
  kind : String
deriving DecidableEq, Repr

/-- The message for a scope that is no object. -/
def ScopeFault.message (fault : ScopeFault) : String :=
  "'" ++ fault.kind ++ "' object has no attribute 'get'"

/-- The field of an object, `null` if the object or the field is absent. -/
def Value.field (v : Value) (name : String) : Except ScopeFault Value :=
  if !v.truthy then .ok .null
  else
    match v with
    | .object fields => .ok ((fields.lookup name).getD .null)
    | v => .error ⟨v.kind⟩

/-- The variable of a name in one scope, `null` if there is none. -/
def lookup (scope : Value) (name : String) : Except ScopeFault Value := do
  (← scope.field "vars").field name

/-- The three scopes of an expansion. -/
structure Scopes where
  event : Value
  trigger : Value
  config : Value
deriving DecidableEq, Repr

namespace Scopes

/-- The scopes in the order in which they are consulted. -/
def inOrder (scopes : Scopes) : List Value :=
  [scopes.event, scopes.trigger, scopes.config]

/-- The first value that counts as present in some scopes, the empty text if there is none. A scope
after the first such value is not consulted. -/
def firstPresent (name : String) : List Value → Except ScopeFault Value
  | [] => .ok (.str "")
  | scope :: rest => do
    let v ← lookup scope name
    if v.truthy then .ok v else firstPresent name rest

/-- The value of a variable. -/
def resolve (scopes : Scopes) (name : String) : Except ScopeFault Value :=
  firstPresent name scopes.inOrder

end Scopes

end UrlTemplate
