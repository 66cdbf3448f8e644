import UrlTemplate.Filter.Registry
import UrlTemplate.Template.Placeholder

/-!
# Filter chains

A chain threads an item through segments from left to right. A segment that does not parse, names no
filter or fails is reported and skipped: what it received goes on.
-/

namespace UrlTemplate.Registry

open Template

/-- Reports a problem with a segment as steps. -/
def report (r : Registry) (event : String) (details : Fields) : List Step :=
  (r.context.diagnostics.userError event details).map .observe

/-- Counts an application of a filter if the registry records metrics. -/
def countApplication (r : Registry) (name : String) (ok : Bool) : List Step :=
  if r.context.recordMetrics then [.observe (.count (.filter name ok))] else []

/-- Applies a filter that is bound to a handler. -/
def applyHandler (r : Registry) (call : FilterCall) (handler : Handler) (item : Item) :
    List Step × Item :=
  let application := handler.run r.context item call.args
  match application.outcome with
  | .ok next => (application.steps ++ r.countApplication call.name true, next)
  | .error e =>
    (application.steps ++ r.countApplication call.name false
      ++ r.report "filter_failed" [("filter", .str call.name), ("error", .str e.message)],
      application.left)

/-- Applies one segment. -/
def applySegment (r : Registry) (item : Item) (segment : String) : List Step × Item :=
  match FilterCall.parse segment with
  | .error e =>
    (r.report "invalid_filter" [("segment", .str segment), ("error", .str e.message)], item)
  | .ok call =>
    match r.get? call.name with
    | none => (r.report "invalid_filter_name" [("filter", .str call.name)], item)
    | some handler => r.applyHandler call handler item

/-- Applies segments one after the other. -/
def applyFilters (r : Registry) (item : Item) : List String → List Step × Item
  | [] => ([], item)
  | segment :: rest =>
    let (steps, next) := r.applySegment item segment
    let (later, final) := r.applyFilters next rest
    (steps ++ later, final)

/-- Two chains in a row are one chain: the second starts from what the first leaves. -/
theorem applyFilters_append (r : Registry) (item : Item) (first second : List String) :
    r.applyFilters item (first ++ second) =
      ((r.applyFilters item first).1 ++ (r.applyFilters (r.applyFilters item first).2 second).1,
        (r.applyFilters (r.applyFilters item first).2 second).2) := by
  induction first generalizing item with
  | nil => simp [applyFilters]
  | cons segment rest ih => simp [applyFilters, ih, List.append_assoc]

end UrlTemplate.Registry
