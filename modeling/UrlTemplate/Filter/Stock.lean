import UrlTemplate.Filter.Handler
import UrlTemplate.Text.Numeral
import UrlTemplate.Text.Split

/-!
# Stock handlers

Small handlers that a host can register under a name of its choice: they pass, wrap, split, count or
collect what they get, fail with a message, give way, or answer with a pending item.
-/

namespace UrlTemplate.Stock

/-- An argument by position. -/
def argument (args : List String) (i : Nat) (missing : String) : String :=
  args.getD i missing

/-- Splits a text at the first argument. -/
def split (s : String) (args : List String) : Except FilterError Value :=
  match Text.splitOnText? (argument args 0 ",") s with
  | some parts => .ok (.list (parts.map .str))
  | none => .error (.raised "empty separator")

/-- The object of an item and the arguments. -/
def object (item : Item) (args : List String) : Item :=
  match item with
  | .ready v => .ready (.object [("value", v), ("args", .list (args.map .str))])
  | _ => .holding

/-- The handlers that are functions of an item. -/
def functions : List (String × (Item → List String → Except FilterError Item)) := [
  ("identity", fun item _ => .ok item),
  ("wrap", fun item args => do
    return .ready (.str (argument args 0 "[" ++ (← item.text) ++ argument args 1 "]"))),
  ("split", fun item args => do return .ready (← split (← item.text) args)),
  ("args", fun _ args => .ok (.ready (.list (args.map .str)))),
  ("length", fun item _ => do return .ready (.int (← item.text).length)),
  ("object", fun item args => .ok (object item args)),
  ("none", fun _ _ => .ok (.ready .null)),
  ("fail", fun _ args => .error (.raised ("boom" ++ String.join args))),
  ("argfail", fun _ args => .error (.refused ("bad argument " ++ ",".intercalate args)))]

/-- The message for a text that is no whole number. Only the start of a long text is shown. -/
def intMessage (written : String) : Text.IntFault → String
  | .malformed => "invalid literal for int() with base 10: " ++
      String.ofList ((Text.quoted written).toList.take 200)
  | .overlong digits => Text.overlongMessage digits

/-- Gives way as often as the first argument says. -/
def yield (item : Item) (args : List String) : Reply :=
  let count := argument args 0 "0"
  match Text.readInt count with
  | .ok n => ⟨n.toNat, .ok item⟩
  | .error fault => ⟨0, .error (.raised (intMessage count fault))⟩

/-- Answers with the item as a pending one. -/
def defer (item : Item) (_ : List String) : Reply :=
  ⟨0, .ok (.pending item)⟩

/-- The handler of a name, synchronous or not. -/
def handler? (name : String) (sync : Bool) : Option (Handler.OfKind sync) :=
  match sync, functions.lookup name with
  | true, some f => some ⟨.sync f, rfl⟩
  | true, none => none
  | false, some f => some ⟨.async fun item args => ⟨0, f item args⟩, rfl⟩
  | false, none =>
    if name = "yield" then some ⟨.async yield, rfl⟩
    else if name = "defer" then some ⟨.async defer, rfl⟩
    else none

end UrlTemplate.Stock
