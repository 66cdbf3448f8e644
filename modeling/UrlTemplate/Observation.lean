import UrlTemplate.Log.Entry

/-!
# What a run shows

Besides its result a run shows log entries and increments of counters. Both are observations, in one
list in the order in which they happen; `logs` and `tally` are the two views of it.
-/

namespace UrlTemplate

/-- The counters of the service. -/
inductive Counter
  /-- Expansions, by whether the depth budget ran out. -/
  | expansions (exhausted : Bool)
  /-- Placeholders that got a text. -/
  | placeholders
  /-- Applications of a filter, by whether they succeeded. -/
  | filter (name : String) (ok : Bool)
  /-- Reported problems, by event. -/
  | diagnostics (event : String)
  /-- Measurements of the duration of an expansion. -/
  | latency
deriving DecidableEq, Repr

/-- A counter's name with its labels in order. -/
def Counter.label : Counter → String
  | .expansions exhausted =>
    "tagvars_expansions_total\x7boutcome=" ++
      (if exhausted then "depth_exceeded" else "ok") ++ "\x7d"
  | .placeholders => "tagvars_placeholders_resolved_total"
  | .filter name ok =>
    "tagvars_filter_invocations_total\x7bfilter=" ++ name ++ ",status=" ++
      (if ok then "ok" else "error") ++ "\x7d"
  | .diagnostics event => "tagvars_diagnostics_total\x7bevent=" ++ event ++ "\x7d"
  | .latency => "tagvars_expansion_latency_seconds_count"

/-- Something that a run shows. -/
inductive Observation
  | log (entry : LogEntry)
  | count (counter : Counter)
deriving DecidableEq, Repr

namespace Observation

/-- The log entry of an observation, if it is one. -/
def entry? : Observation → Option LogEntry
  | .log entry => some entry
  | .count _ => none

/-- The counter that an observation increments, if it is an increment. -/
def counter? : Observation → Option Counter
  | .log _ => none
  | .count counter => some counter

/-- The log entries among some observations. -/
def logs (os : List Observation) : List LogEntry :=
  os.filterMap entry?

/-- The increments among some observations. -/
def increments (os : List Observation) : List Counter :=
  os.filterMap counter?

/-- How often some observations increment a counter. -/
def tally (os : List Observation) (counter : Counter) : Nat :=
  (increments os).count counter

/-- The counters that some observations increment, with the number of times. -/
def totals (os : List Observation) : List (Counter × Nat) :=
  (increments os).eraseDups.map fun counter => (counter, tally os counter)

/-- The entries of two runs are those of the first and then those of the second. -/
@[simp] theorem logs_append (as bs : List Observation) : logs (as ++ bs) = logs as ++ logs bs := by
  simp [logs]

/-- The increments of two runs are those of the first and then those of the second. -/
@[simp] theorem increments_append (as bs : List Observation) :
    increments (as ++ bs) = increments as ++ increments bs := by
  simp [increments]

/-- Increments add up over two runs. -/
@[simp] theorem tally_append (as bs : List Observation) (counter : Counter) :
    tally (as ++ bs) counter = tally as counter + tally bs counter := by
  simp [tally]

end Observation

end UrlTemplate
