import UrlTemplate.Value.Written

/-!
# Failures of filters

Why a filter may refuse its value or its arguments, with the messages that reports carry.
-/

namespace UrlTemplate

/-- Why a filter failed. -/
inductive FilterError
  /-- The filter works on texts and got a value of another kind. -/
  | expectsText (filter kind : String)
  /-- The filter works on texts and got a string that is none. -/
  | expectsUnicode (filter : String)
  /-- An argument of `substr`, shown as in messages, is no finite number. -/
  | notANumber (label shown : String)
  /-- A whole number lies outside the range of floating-point numbers. -/
  | outOfRange
  /-- A pending item was awaited once before and cannot be awaited again. -/
  | alreadyAwaited
  /-- An item that is not ready, or has a part that is not, cannot be written as JSON. -/
  | notSerializable
  /-- A value that the filter writes cannot be written. -/
  | unwritable (fault : WriteFault)
  /-- A filter that the host registered failed with a message of its own. -/
  | raised (message : String)
  /-- A filter that the host registered refused its arguments with a message of its own. -/
  | refused (message : String)
deriving DecidableEq, Repr

/-- The message of a failure. -/
def FilterError.message : FilterError → String
  | .expectsText filter kind => "Filter " ++ filter ++ " expects a string, got " ++ kind
  | .expectsUnicode filter => "Filter " ++ filter ++ " expects a string without surrogates"
  | .notANumber label shown => label ++ " " ++ shown ++ " in substr filter should be a number"
  | .outOfRange => "int too large to convert to float"
  | .alreadyAwaited => "cannot reuse already awaited coroutine"
  | .notSerializable => "Object of type coroutine is not JSON serializable"
  | .unwritable fault => fault.message
  | .raised message => message
  | .refused message => message

end UrlTemplate
