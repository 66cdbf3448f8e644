import Mathlib.Data.List.Nodup
import UrlTemplate.Proofs.Value.Merge
import UrlTemplate.Settings

/-!
# Settings leaf by leaf

The settings that have values of their own are the leaves of the sections (`Settings.Leaf`), each
with its path, its check and its default. A leaf comes out as its default if it has no value and as
the checked value otherwise (`Leaf.outcome`). **Theorem** (`Settings.check_eq_valid_iff`): where the
sections that are present are objects, checking settings gives some exactly if all leaves come out
as theirs; and otherwise (`Settings.check_eq_invalid`) it gives one problem for every leaf that does
not come out, at the path of the leaf, and no other.
-/

namespace UrlTemplate

/-! ### Checks together -/

namespace Checked

variable {α β : Type}

/-- Whether a check found no problem. -/
def isValid : Checked α → Bool
  | .valid _ => true
  | .invalid _ => false

/-- A check without problems gives what was wanted. -/
theorem isValid_iff {c : Checked α} : c.isValid ↔ ∃ a, c = .valid a := by
  cases c <;> simp [isValid]

/-- An applied check is passed exactly if both its parts are. -/
@[simp] theorem isValid_apply (f : Checked (α → β)) (a : Checked α) :
    (f.apply a).isValid = (f.isValid && a.isValid) := by
  cases f <;> cases a <;> rfl

/-- The problems of both parts are reported, those of the function first. -/
@[simp] theorem problems_apply (f : Checked (α → β)) (a : Checked α) :
    (f.apply a).problems = f.problems ++ a.problems := by
  cases f <;> cases a <;> rfl

/-- What is valid passes. -/
@[simp] theorem isValid_valid (a : α) : (Checked.valid a).isValid = true :=
  rfl

/-- What is valid has no problems. -/
@[simp] theorem problems_valid (a : α) : (Checked.valid a).problems = [] :=
  rfl

end Checked

/-! ### Leaves -/

namespace Settings

/-- The settings that have values of their own. -/
inductive Leaf
  | appName
  | debug
  | maxIterations
  | encode
  | digestEnabled
  | algorithm
  | level
  | format
  | metricsEnabled
deriving DecidableEq, Repr

namespace Leaf

/-- The leaves in the order of the sections. -/
def all : List Leaf :=
  [appName, debug, maxIterations, encode, digestEnabled, algorithm, level, format, metricsEnabled]

/-- Every leaf is one of them. -/
theorem mem_all (l : Leaf) : l ∈ all := by
  cases l <;> decide

/-- None comes twice. -/
theorem nodup_all : all.Nodup := by
  decide

/-- What holds of all leaves can be decided leaf by leaf. -/
instance {p : Leaf → Prop} [DecidablePred p] : Decidable (∀ l, p l) :=
  decidable_of_iff (∀ l ∈ all, p l) ⟨fun h l => h l (mem_all l), fun h l _ => h l⟩

/-- What the value of a leaf is. -/
@[reducible] def Kind : Leaf → Type
  | appName => String
  | debug | encode | digestEnabled | metricsEnabled => Bool
  | maxIterations => Nat
  | algorithm => Algorithm
  | level => Level
  | format => LogFormat

instance (l : Leaf) : DecidableEq l.Kind :=
  match l with
  | appName => inferInstanceAs (DecidableEq String)
  | debug | encode | digestEnabled | metricsEnabled => inferInstanceAs (DecidableEq Bool)
  | maxIterations => inferInstanceAs (DecidableEq Nat)
  | algorithm => inferInstanceAs (DecidableEq Algorithm)
  | level => inferInstanceAs (DecidableEq Level)
  | format => inferInstanceAs (DecidableEq LogFormat)

/-- The names that lead to the section of a leaf. -/
def sectionPath : Leaf → List String
  | appName | debug => []
  | maxIterations | encode => ["expansion"]
  | digestEnabled | algorithm => ["digest"]
  | level | format => ["observability", "logging"]
  | metricsEnabled => ["observability", "metrics"]

/-- The name of a leaf in its section. -/
def name : Leaf → String
  | appName => "app_name"
  | debug => "debug"
  | maxIterations => "max_iterations"
  | encode => "encode"
  | digestEnabled | metricsEnabled => "enabled"
  | algorithm => "algorithm"
  | level => "level"
  | format => "format"

/-- The names that lead to a leaf. -/
def path (l : Leaf) : List String :=
  l.sectionPath ++ [l.name]

/-- The check for the value of a leaf. -/
def check : (l : Leaf) → Value → Except Defect l.Kind
  | appName => Setting.text
  | debug | encode | digestEnabled | metricsEnabled => Setting.flag
  | maxIterations => Setting.count
  | algorithm => Setting.choice Algorithm.all Algorithm.name
  | level => Setting.choice Level.all Level.capitalName
  | format => Setting.choice LogFormat.all LogFormat.name

/-- The default of a leaf. -/
def default : (l : Leaf) → l.Kind
  | appName => "tagvars"
  | debug => false
  | maxIterations => 2
  | encode | digestEnabled | metricsEnabled => true
  | algorithm => .sha384
  | level => .info
  | format => .json

/-- Every leaf has a name. -/
theorem path_ne_nil (l : Leaf) : l.path ≠ [] := by
  simp [path]

/-- Paths tell leaves apart. -/
theorem path_injective {l m : Leaf} (h : l.path = m.path) : l = m := by
  cases l <;> cases m <;> simp_all [path, sectionPath, name]

end Leaf

/-- The value of a leaf in settings. -/
def get (s : Settings) : (l : Leaf) → l.Kind
  | .appName => s.appName
  | .debug => s.debug
  | .maxIterations => s.expansion.maxIterations
  | .encode => s.expansion.encode
  | .digestEnabled => s.digest.enabled
  | .algorithm => s.digest.algorithm
  | .level => s.observability.logging.level
  | .format => s.observability.logging.format
  | .metricsEnabled => s.observability.metrics.enabled

/-- Every choice of values for the leaves is made by some settings. -/
theorem exists_get_eq (value : (l : Leaf) → l.Kind) : ∃ s : Settings, ∀ l, s.get l = value l := by
  refine ⟨⟨value .appName, value .debug, ⟨value .maxIterations, value .encode⟩,
    ⟨value .digestEnabled, value .algorithm⟩,
    ⟨⟨value .level, value .format⟩, ⟨value .metricsEnabled⟩⟩⟩, fun l => ?_⟩
  cases l <;> rfl

namespace Leaf

/-- What a leaf comes out as: its default if it has no value, the checked value otherwise. -/
def outcome (l : Leaf) (v? : Option Value) : Except Defect l.Kind :=
  v?.elim (.ok l.default) l.check

/-- The problem with the value of a leaf, if it has one. -/
def problem? (l : Leaf) (v? : Option Value) : Option Problem :=
  match l.outcome v? with
  | .ok _ => none
  | .error defect => some ⟨l.path, defect⟩

/-- No check looks at the fields of an object. -/
theorem check_emptied (l : Leaf) (v : Value) : l.check v.emptied = l.check v := by
  cases v with
  | object fields => cases l <;> rfl
  | _ => rfl

/-- A leaf comes out the same whatever the fields of an object are. -/
theorem outcome_congr (l : Leaf) {v? w? : Option Value}
    (h : v?.map Value.emptied = w?.map Value.emptied) : l.outcome v? = l.outcome w? := by
  have hforget (v? : Option Value) : l.outcome v? = l.outcome (v?.map Value.emptied) := by
    cases v? with
    | none => rfl
    | some v => exact (check_emptied l v).symm
  rw [hforget v?, hforget w?, h]

/-- A leaf as a check of its own. -/
def checked (l : Leaf) (v? : Option Value) : Checked l.Kind :=
  match l.outcome v? with
  | .ok a => .valid a
  | .error defect => .invalid [⟨l.path, defect⟩]

/-- A leaf passes its check with what it comes out as. -/
theorem checked_eq_valid_iff {l : Leaf} {v? : Option Value} {a : l.Kind} :
    l.checked v? = .valid a ↔ l.outcome v? = .ok a := by
  unfold checked
  cases l.outcome v? <;> simp

/-- A leaf reports its problem. -/
@[simp] theorem problems_checked (l : Leaf) (v? : Option Value) :
    (l.checked v?).problems = (l.problem? v?).toList := by
  unfold checked problem?
  cases l.outcome v? <;> rfl

/-- A leaf as it is checked in the section it belongs to. -/
def inPlace (l : Leaf) (fields : Fields) : Checked l.Kind :=
  (fields.inside l.sectionPath).leaf l.sectionPath l.name l.default l.check

/-- The check in the section is the check of what the path of the leaf leads to. -/
theorem inPlace_eq (l : Leaf) (fields : Fields) :
    l.inPlace fields = l.checked ((Value.object fields).at? l.path) := by
  rw [path, Fields.at?_concat]
  unfold inPlace Fields.leaf checked outcome
  rcases (fields.inside l.sectionPath).lookup l.name with _ | v
  · rfl
  · simp only [Option.elim_some]
    cases l.check v <;> rfl

end Leaf

/-! ### Checking -/

/-- Checks of all leaves as a check of settings. -/
def assemble (parts : (l : Leaf) → Checked l.Kind) : Checked Settings :=
  (Checked.valid Settings.mk).apply (parts .appName)
  |>.apply (parts .debug)
  |>.apply ((Checked.valid ExpansionSettings.mk).apply (parts .maxIterations)
    |>.apply (parts .encode))
  |>.apply ((Checked.valid DigestSettings.mk).apply (parts .digestEnabled)
    |>.apply (parts .algorithm))
  |>.apply ((Checked.valid ObservabilitySettings.mk).apply
      ((Checked.valid LoggingSettings.mk).apply (parts .level) |>.apply (parts .format))
    |>.apply ((Checked.valid MetricsSettings.mk).apply (parts .metricsEnabled)))

/-- Leaves that all pass give settings. -/
theorem assemble_eq_valid {parts : (l : Leaf) → Checked l.Kind} {s : Settings}
    (h : ∀ l, parts l = .valid (s.get l)) : assemble parts = .valid s := by
  simp [assemble, h, Checked.apply, get]

/-- Settings pass the check exactly if all leaves do. -/
theorem isValid_assemble (parts : (l : Leaf) → Checked l.Kind) :
    (assemble parts).isValid = Leaf.all.all fun l => (parts l).isValid := by
  simp [assemble, Leaf.all, Bool.and_assoc]

/-- Settings come out of the check exactly if all their leaves do. -/
theorem assemble_eq_valid_iff {parts : (l : Leaf) → Checked l.Kind} {s : Settings} :
    assemble parts = .valid s ↔ ∀ l, parts l = .valid (s.get l) := by
  refine ⟨fun h => ?_, assemble_eq_valid⟩
  have hvalid : (assemble parts).isValid := Checked.isValid_iff.mpr ⟨s, h⟩
  rw [isValid_assemble, List.all_eq_true] at hvalid
  obtain ⟨value, hvalue⟩ := Classical.axiomOfChoice fun l =>
    Checked.isValid_iff.mp (hvalid l (Leaf.mem_all l))
  obtain ⟨t, ht⟩ := exists_get_eq value
  have hparts : ∀ l, parts l = .valid (t.get l) := fun l => (hvalue l).trans (ht l ▸ rfl)
  obtain rfl : s = t := Checked.valid.inj (h.symm.trans (assemble_eq_valid hparts))
  exact hparts

/-- The problems of all leaves are reported, in the order of the leaves. -/
theorem problems_assemble (parts : (l : Leaf) → Checked l.Kind) :
    (assemble parts).problems = Leaf.all.flatMap fun l => (parts l).problems := by
  simp [assemble, Leaf.all]

/-- The problems of leaves that are checked by themselves are those of their values. -/
theorem problems_assemble_checked (v? : Leaf → Option Value) :
    (assemble fun l => l.checked (v? l)).problems =
      Leaf.all.filterMap fun l => l.problem? (v? l) := by
  rw [problems_assemble]
  induction Leaf.all with
  | nil => rfl
  | cons l rest ih =>
    rw [List.flatMap_cons, ih, Leaf.problems_checked]
    cases hproblem : l.problem? (v? l) <;> simp [hproblem]

/-- No path is reported twice. -/
theorem nodup_paths_problems (v? : Leaf → Option Value) :
    ((Leaf.all.filterMap fun l => l.problem? (v? l)).map Problem.path).Nodup := by
  have hpath {l : Leaf} {path : List String}
      (h : path ∈ (l.problem? (v? l)).map Problem.path) : path = l.path := by
    unfold Leaf.problem? at h
    cases hl : l.outcome (v? l) <;> simp_all
  rw [List.map_filterMap]
  refine List.Nodup.filterMap (fun l m path hl hm => ?_) Leaf.nodup_all
  exact Leaf.path_injective ((hpath hl).symm.trans (hpath hm))

/-- A section that is missing is checked as an empty one. -/
theorem sectionAt_eq {α : Type} {fields : Fields} {path : List String} {name : String}
    {default : α} {check : Fields → List String → Checked α}
    (hdefault : check [] (path ++ [name]) = .valid default)
    (hobject : ∀ v ∈ fields.lookup name, ∃ inner, v = .object inner) :
    fields.sectionAt path name default check = check (fields.objectAt name) (path ++ [name]) := by
  unfold Fields.sectionAt Fields.objectAt
  rcases hv : fields.lookup name with _ | v
  · exact hdefault.symm
  · obtain ⟨inner, rfl⟩ := hobject v hv
    rfl

/-- **Settings are checked leaf by leaf** where the sections that are present are objects. -/
theorem check_eq {fields : Fields} (h : ∀ l : Leaf, (Value.object fields).Opens l.path) :
    check fields = assemble fun l => l.checked ((Value.object fields).at? l.path) := by
  have hobject {fields : Fields} {name next : String} {rest : List String}
      (hopen : (Value.object fields).Opens (name :: next :: rest)) :
      ∀ v ∈ fields.lookup name, ∃ inner, v = .object inner :=
    fun v hv => ((Value.opens_cons _ _ _).mp hopen).2 v hv |>.eq_object
  have hlogging := hobject (Fields.opens_objectAt (h .level))
  have hmetrics := hobject (Fields.opens_objectAt (h .metricsEnabled))
  unfold check
  rw [sectionAt_eq rfl (hobject (h .encode)), sectionAt_eq rfl (hobject (h .algorithm)),
    sectionAt_eq rfl (hobject (h .level)), ObservabilitySettings.check, sectionAt_eq rfl hlogging,
    sectionAt_eq rfl hmetrics]
  calc _ = assemble fun l => l.inPlace fields := rfl
    _ = assemble fun l => l.checked ((Value.object fields).at? l.path) :=
      congrArg assemble (funext fun l => l.inPlace_eq fields)

/-- **Checking gives settings** exactly if all leaves come out as theirs. -/
theorem check_eq_valid_iff {fields : Fields} {s : Settings}
    (h : ∀ l : Leaf, (Value.object fields).Opens l.path) :
    check fields = .valid s ↔
      ∀ l : Leaf, l.outcome ((Value.object fields).at? l.path) = .ok (s.get l) := by
  rw [check_eq h, assemble_eq_valid_iff]
  exact forall_congr' fun l => Leaf.checked_eq_valid_iff

/-- **Checking gives problems** if some leaf does not come out: one for every such leaf, at its
path, and no other. -/
theorem check_eq_invalid {fields : Fields} (h : ∀ l : Leaf, (Value.object fields).Opens l.path)
    {l : Leaf} {defect : Defect}
    (hl : l.outcome ((Value.object fields).at? l.path) = .error defect) :
    check fields =
      .invalid (Leaf.all.filterMap fun l => l.problem? ((Value.object fields).at? l.path)) := by
  have hproblems := problems_assemble_checked fun l => (Value.object fields).at? l.path
  have hinvalid (s : Settings) : check fields ≠ .valid s := by
    intro hs
    cases hl.symm.trans ((check_eq_valid_iff h).mp hs l)
  rw [← check_eq h] at hproblems
  rcases hcheck : check fields with s | problems
  · exact absurd hcheck (hinvalid s)
  · rw [hcheck] at hproblems
    exact congrArg Checked.invalid hproblems

end Settings

end UrlTemplate
