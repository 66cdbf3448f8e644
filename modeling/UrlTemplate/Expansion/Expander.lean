import UrlTemplate.Expansion.Task
import UrlTemplate.Filter.Chain
import UrlTemplate.Template.Segmentation

/-!
# Expanding a template

Every slot of a template is resolved by a task of its own: its variable is looked up, a text found
there is expanded in turn, the filters are applied, and the result is encoded. The texts then take
the places of the slots. `Expander.expand` nests as deep as its fuel allows: the depth budget plus
one for the template itself. Where the fuel is used up, the text stays as it is and the lack of
depth is reported.
-/

namespace UrlTemplate

open Template

/-- What the expansion of a template depends on besides the template and the depth budget. -/
structure Expander where
  registry : Registry
  scopes : Scopes
  /-- Whether results are percent-encoded. -/
  encode : Bool
  /-- Whether placeholders that got a text are counted. -/
  recordMetrics : Bool

namespace Expander

/-- The explanation in the report of a depth budget that ran out. -/
def depthDetail : String :=
  "Maximum depth reached while expanding variables. " ++
    "Please ensure that the variables are not recursive."

/-- The text of the final value of a placeholder: encoded or plain, and followed by the suffix of
the reference unless it is empty. -/
def finalText (x : Expander) (reference : Reference) (v : Value) : List Char :=
  let text := if x.encode then encodeValue v else v.text
  if text = "" then [] else text.toList ++ reference.suffix.toList

/-- Applies the filters of a placeholder to its value, writes the result and ends with the final
text.
-/
def filtered (x : Expander) (p : Placeholder) (v : Value) (exhausted : Bool) : Task :=
  let (steps, item) := x.registry.applyFilters (.ready v) p.segments
  let counted := if x.recordMetrics then [.observe (.count .placeholders)] else []
  .after steps (match item.readable with
    | .ok v => .after (.write v :: counted) (.done ⟨x.finalText p.reference v, exhausted⟩)
    | .error e => .fail (.noText e))

/-- Resolves the slot with a given body; `nested` expands the texts of variables. -/
def resolveSlot (x : Expander) (nested : List Char → Task) (body : List Char) : Task :=
  let source := String.ofList (slotSource body)
  match Placeholder.parse source (String.ofList body) with
  | .error e =>
    .after (x.registry.report "invalid_placeholder"
      [("placeholder", .str source), ("error", .str e.message)]) (.done ⟨[], false⟩)
  | .ok p =>
    match x.scopes.resolve p.reference.name with
    | .error fault => .fail (.scope fault)
    | .ok (.str s) =>
      (nested s.toList).bind fun piece =>
        x.filtered p (.str (String.ofList piece.text)) piece.exhausted
    | .ok v => x.filtered p v false

/-- The text of a template whose slots have got their pieces. -/
def splice (s : Segmentation) (pieces : List Piece) : Piece :=
  ⟨Segmentation.fill s.slots s.tail (pieces.map Piece.text), pieces.any Piece.exhausted⟩

/-- Expands a template; the fuel is the number of levels that may be expanded. -/
def expand (x : Expander) : (fuel : Nat) → (template : List Char) → Task
  | 0, template =>
    .after (x.registry.report "max_depth_reached"
        [("detail", .str depthDetail), ("template", .str (String.ofList template))])
      (.done ⟨template, true⟩)
  | fuel + 1, template =>
    let s := scan template
    if s.slots = [] then .done ⟨template, false⟩
    else
      .step (.observe (Diagnostics.debug "expanding_template"
          [("placeholders", .int s.slots.length), ("iterations", .int fuel)]))
        (.fork (s.slots.map fun slot => x.resolveSlot (x.expand fuel) slot.body) fun pieces =>
          .done (splice s pieces))

end Expander

end UrlTemplate
