import Mathlib
import UrlTemplate.Diagnostics

/-!
# Views of what runs show

The entries and the counts of what several runs show together, in any order (`perm_logs`,
`tally_eq_of_perm`) and one run after the other (`logs_flatMap`, `tally_flatMap`). `errors` are the
problems in templates among what is shown, and `RanOut` says that one of them is the lack of depth.
`reports` leaves the notes of the work out; problems and counts can be read from it alone
(`errors_reports`, `tally_reports`).
-/

namespace UrlTemplate

/-- The counters of what happens inside an expansion, as opposed to those of its end. -/
def Counter.isInner : Counter → Bool
  | .expansions _ => false
  | .placeholders => true
  | .filter _ _ => true
  | .diagnostics _ => true
  | .latency => false

namespace Observation

/-! ### In any order, and several runs -/

/-- What is logged does not depend on the order of what is shown, but for its own order. -/
theorem perm_logs {as bs : List Observation} (h : as.Perm bs) : (logs as).Perm (logs bs) := by
  unfold logs
  exact h.filterMap _

/-- What is counted does not depend on the order of what is shown. -/
theorem tally_eq_of_perm {as bs : List Observation} (h : as.Perm bs) (counter : Counter) :
    tally as counter = tally bs counter := by
  unfold tally increments
  exact (h.filterMap _).count_eq counter

variable {α : Type}

/-- The entries of several runs are those of each of them. -/
theorem logs_flatMap (xs : List α) (f : α → List Observation) :
    logs (xs.flatMap f) = xs.flatMap fun x => logs (f x) := by
  unfold logs
  exact List.filterMap_flatMap

/-- Counts are not logged. -/
theorem logs_map_count (counters : List Counter) : logs (counters.map .count) = [] := by
  unfold logs
  rw [List.filterMap_map, List.filterMap_eq_nil_iff]
  intro counter _
  rfl

/-- Counts increment their counters. -/
theorem increments_map_count (counters : List Counter) :
    increments (counters.map .count) = counters := by
  unfold increments
  rw [List.filterMap_map]
  exact List.filterMap_some

/-! ### Problems and notes -/

/-- The problems in templates that are reported. -/
def errors (os : List Observation) : List LogEntry :=
  (logs os).filter (·.level = .error)

/-- The problems of two runs are those of the first and then those of the second. -/
@[simp] theorem errors_append (as bs : List Observation) :
    errors (as ++ bs) = errors as ++ errors bs := by
  simp [errors]

/-- The depth budget has run out somewhere. -/
def RanOut (os : List Observation) : Prop :=
  ∃ entry ∈ errors os, entry.event = "max_depth_reached"

instance decidableRanOut (os : List Observation) : Decidable (RanOut os) :=
  inferInstanceAs (Decidable (∃ entry ∈ errors os, entry.event = "max_depth_reached"))

/-- The budget has run out in two runs if it has run out in one of them. -/
@[simp] theorem ranOut_append {as bs : List Observation} :
    RanOut (as ++ bs) ↔ RanOut as ∨ RanOut bs := by
  simp [RanOut, or_and_right, exists_or]

/-- The budget has run out in several runs if it has run out in one of them. -/
theorem ranOut_flatMap {α : Type} {xs : List α} {f : α → List Observation} :
    RanOut (xs.flatMap f) ↔ ∃ x ∈ xs, RanOut (f x) := by
  induction xs with
  | nil => simp [RanOut, errors, logs]
  | cons x xs ih => rw [List.flatMap_cons, ranOut_append, ih, List.exists_mem_cons_iff]

/-- Whether the budget has run out can be seen from the problems. -/
theorem ranOut_congr {as bs : List Observation} (h : errors as = errors bs) :
    RanOut as ↔ RanOut bs := by
  unfold RanOut
  rw [h]

/-- A report logs the problem that it is about. -/
theorem logs_userError (d : Diagnostics) (event : String) (context : Fields) :
    logs (d.userError event context) = [Diagnostics.entry .error event context] := by
  rcases d with _ | _ <;> rfl

/-- A problem that is reported is the one problem of its report. -/
theorem errors_userError (d : Diagnostics) (event : String) (context : Fields) :
    errors (d.userError event context) = [Diagnostics.entry .error event context] := by
  rcases d with _ | _ <;> rfl

/-- Notes of the work, as opposed to problems and counts. -/
def isNote : Observation → Bool
  | .log entry => entry.level = .debug
  | .count _ => false

/-- What is shown apart from notes. -/
def reports (os : List Observation) : List Observation :=
  os.filter fun o => !o.isNote

/-- The reports of two runs are those of the first and then those of the second. -/
@[simp] theorem reports_append (as bs : List Observation) :
    reports (as ++ bs) = reports as ++ reports bs := by
  simp [reports]

/-- Notes hold no problems. -/
theorem errors_reports (os : List Observation) : errors (reports os) = errors os := by
  induction os with
  | nil => rfl
  | cons o os ih =>
    have hone : errors (reports [o]) = errors [o] := by
      rcases o with ⟨level, event, context⟩ | counter
      · cases level <;> rfl
      · rfl
    rw [← List.singleton_append, reports_append, errors_append, errors_append, hone, ih]

/-- Notes count nothing. -/
theorem tally_reports (os : List Observation) (counter : Counter) :
    tally (reports os) counter = tally os counter := by
  induction os with
  | nil => rfl
  | cons o os ih =>
    have hone : tally (reports [o]) counter = tally [o] counter := by
      rcases o with ⟨level, event, context⟩ | counter'
      · cases level <;> rfl
      · rfl
    rw [← List.singleton_append, reports_append, tally_append, tally_append, hone, ih]

end Observation

end UrlTemplate
