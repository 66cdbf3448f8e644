import UrlTemplate.Entries
import UrlTemplate.Filter.Handler

/-!
# The filter registry

A registry binds filter names to handlers, in the order of registration. It starts with the built-in
filters. A name can be bound only once, and only to a handler; any other registration is a
violation, and changes nothing.
-/

namespace UrlTemplate

/-- Names of filters with their handlers, in order of registration. -/
structure Registry where
  filters : List (String × Handler)
  context : FilterContext

namespace Registry

/-- The handler of a built-in filter: `if` is asynchronous, so it does not wait for the item that it
tests. -/
def builtinHandler : Builtin → Handler
  | .if => .async fun item args => ⟨0, Builtin.if.applyItem item args⟩
  | filter => .sync filter.applyItem

/-- The built-in filters in the order of registration. -/
def builtins : List (String × Handler) :=
  [.default, .substr, .trim, .json, .toLowerCase, .toUpperCase, .not, .base64].map
      (fun filter : Builtin => (filter.name, builtinHandler filter))
    ++ [("hash", .hash), (Builtin.if.name, builtinHandler .if)]

/-- A registry that holds the built-in filters. -/
def new (context : FilterContext) : Registry :=
  ⟨builtins, context⟩

/-- The bound names in order of registration. -/
def names (r : Registry) : List String :=
  Entries.keys r.filters

/-- The handler of a name. -/
def get? (r : Registry) (name : String) : Option Handler :=
  r.filters.lookup name

/-- Gives the filter `hash` another digest, or none. -/
def attachDigest (r : Registry) (digest : Option Digest) : Registry :=
  { r with context := { r.context with digest } }

/-- Why a registration is refused. -/
inductive Refusal
  | nameTaken
  | noHandler
deriving DecidableEq, Repr

/-- The violation that a refusal of a name is. -/
def Refusal.violation (refusal : Refusal) (name : String) : Violation :=
  ⟨match refusal with
    | .nameTaken => "filter_already_registered"
    | .noHandler => "invalid_filter_handler",
  [("filter", .str name)]⟩

/-- Why a registration is refused, if it is. A registration of a synchronous handler asks for the
handler before the name. -/
def refusal? (r : Registry) (name : String) (sync : Bool)
    (handler : Option (Handler.OfKind sync)) : Option Refusal :=
  let taken := if name ∈ r.names then some .nameTaken else none
  let missing := if handler.isNone then some .noHandler else none
  if sync then missing.or taken else taken.or missing

/-- Binds a name, `none` standing for anything that is no handler. -/
def register (r : Registry) (name : String) (sync : Bool)
    (handler : Option (Handler.OfKind sync)) : List Observation × Except Violation Registry :=
  match r.refusal? name sync handler with
  | some refusal =>
    let violation := refusal.violation name
    ([Diagnostics.critical violation], .error violation)
  | none =>
    let added := handler.toList.map fun handler => (name, handler.val)
    ([], .ok { r with filters := r.filters ++ added })

end Registry

end UrlTemplate
