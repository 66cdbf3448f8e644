import UrlTemplate.Proofs.Settings.Leaves
import UrlTemplate.Proofs.Settings.Sections

/-!
# Settings from the environment

An environment is well-formed (`Environment.WellFormed`) if its JSON texts for sections are objects
in which every section present is an object and no two names are equal up to letter case, and if the
variables inside sections lead to settings, or to names that are like none. **Theorem**
(`Environment.settings_spec`): such an environment can be read, and at the path of a setting it has
the text of the variable for that setting (`Environment.boundAt?`), and without one what the JSON
text of its section has (`Environment.inText?`).
-/

namespace UrlTemplate

/-! ### The settings -/

namespace Outline

/-- All settings as one section. -/
def root : Outline := .sections settings

/-- A section of settings is regular if its names are. -/
theorem Regular.of_leaves {entries : List (String × Outline)}
    (hleaves : ∀ entry ∈ entries, entry.2 = .leaf)
    (small : ∀ entry ∈ entries, Text.lower entry.1 = entry.1)
    (unlike : ∀ entry ∈ entries, ∀ other ∈ entries, Environment.lead ++ other.1 ≠ entry.1) :
    (Outline.sections entries).Regular :=
  .sections small unlike fun entry hentry => hleaves entry hentry ▸ .leaf

/-- The names of all settings are in small letters, and none is another with the lead in front. -/
theorem regular_root : root.Regular := by
  refine .sections (by decide +kernel) (by decide +kernel) ?_
  simp only [settings, List.forall_mem_cons, List.not_mem_nil, false_implies, implies_true,
    and_true]
  refine ⟨.leaf, .leaf, .of_leaves (by simp) (by decide +kernel) (by decide +kernel),
    .of_leaves (by simp) (by decide +kernel) (by decide +kernel),
    .sections (by decide +kernel) (by decide +kernel) ?_⟩
  simp only [List.forall_mem_cons, List.not_mem_nil, false_implies, implies_true, and_true]
  exact ⟨.of_leaves (by simp) (by decide +kernel) (by decide +kernel),
    .of_leaves (by simp) (by decide +kernel) (by decide +kernel)⟩

end Outline

namespace Settings.Leaf

/-- A leaf is one of the settings. -/
theorem at?_path (l : Leaf) : Outline.root.at? l.path = some .leaf := by
  cases l <;> rfl

/-- The first name of a leaf is that of a setting or of a section. -/
theorem exists_path_eq (l : Leaf) : ∃ name inner rest, l.path = name :: rest ∧
    Outline.settings.lookup name = some inner ∧ inner.at? rest = some .leaf := by
  obtain ⟨name, rest, hpath⟩ := List.exists_cons_of_ne_nil l.path_ne_nil
  have hleaf := l.at?_path
  rw [hpath] at hleaf
  obtain ⟨inner, hinner, hrest⟩ := Option.bind_eq_some_iff.mp hleaf
  exact ⟨name, inner, rest, hpath, hinner, hrest⟩

/-- No leaf lies deeper than sections nest. -/
theorem length_path (l : Leaf) : l.path.length ≤ Environment.depth + 1 := by
  cases l <;> decide

/-- The path of a leaf inside its section can be read from the name of its variable. -/
theorem pathOf_tail (l : Leaf) (h : l.path.tail ≠ []) :
    Environment.pathOf ("__".intercalate l.path.tail) = l.path.tail := by
  cases l <;> first | exact absurd rfl h | decide +kernel

end Settings.Leaf

/-! ### What the environment has at a path -/

namespace Environment

variable {vars : Environment} {name : String} {entries : List (String × Outline)}
  {path : List String}

/-- The text of the variable for the setting at a path. -/
def boundAt? (vars : Environment) (path : List String) : Option Value :=
  (vars.lookup (lead ++ "__".intercalate path)).map .str

/-- The fields of an object that is written as JSON text. -/
def jsonObject? (text : String) : Option Fields :=
  match Json.read jsonRoom text with
  | .ok (.object fields) => some fields
  | _ => none

/-- A text that holds the fields of an object is read as that object. -/
theorem read_of_jsonObject? {text : String} {fields : Fields} (h : jsonObject? text = some fields) :
    Json.read jsonRoom text = .ok (.object fields) := by
  unfold jsonObject? at h
  split at h
  · rename_i hread
    obtain rfl := Option.some.inj h
    exact hread
  · cases h

/-- What the JSON text for a section, beneath the variables inside it, has at a path that starts
with the name of the section. -/
def inText? (vars : Environment) : (path : List String) → Option Value
  | name :: next :: rest =>
    ((vars.lookup (lead ++ name)).bind jsonObject?).bind fun fields =>
      (Value.object fields).beneath? (vars.inside name) (next :: rest)
  | _ => none

/-- An environment whose JSON texts for sections are objects that are open along the paths to
leaves, and whose variables inside sections lead to settings or to names that are like none. -/
structure WellFormed (vars : Environment) : Prop where
  object : ∀ entry ∈ Outline.settings, entry.2.isSection →
    ∀ text ∈ vars.lookup (lead ++ entry.1), ∃ fields ∈ jsonObject? text,
      ∀ l : Settings.Leaf, l.path.head? = some entry.1 →
        (Value.object fields).OpensInAnyCase l.path.tail
  leads : ∀ entry ∈ Outline.settings, entry.2.isSection →
    ∀ binding ∈ vars.inside entry.1, entry.2.leads binding.1

instance (vars : Environment) : Decidable vars.WellFormed :=
  decidable_of_iff (_ ∧ _) ⟨fun h => ⟨h.1, h.2⟩, fun h => ⟨h.object, h.leads⟩⟩

/-- **One section of the environment**: it can be read, and along the path to a leaf it has the text
of the variable inside it, and without one what its JSON text has. -/
theorem section?_spec (hname : (name, .sections entries) ∈ Outline.settings)
    (h : vars.WellFormed) :
    ∃ found, section? vars name (.sections entries) = .ok found ∧
      ∀ (l : Settings.Leaf) (next : String) (rest : List String), l.path = name :: next :: rest →
        found.bind (·.at? (next :: rest)) =
            (((vars.inside name).textAt? (next :: rest)).map .str).or (vars.inText? l.path) ∧
          ∀ v ∈ found, v.Opens (next :: rest) := by
  have hlookup : Outline.settings.lookup name = some (.sections entries) :=
    Entries.lookup_of_mem (by decide) hname
  have hregular : (Outline.sections entries).Regular := Outline.regular_root.of_lookup hlookup
  have hleads := h.leads _ hname rfl
  have hnested := nested_eq hregular hleads
  have hleaf {l : Settings.Leaf} {next : String} {rest : List String}
      (hpath : l.path = name :: next :: rest) :
      (Outline.sections entries).at? (next :: rest) = some .leaf ∧
        (next :: rest).length ≤ depth := by
    have hat := l.at?_path
    have hlength := l.length_path
    rw [hpath] at hat hlength
    rw [Outline.root, Outline.at?_cons, hlookup] at hat
    exact ⟨hat, by simpa using hlength⟩
  rcases htext : vars.lookup (lead ++ name) with _ | text
  · have hsection : section? vars name (.sections entries) =
        .ok (if Bindings.bindAll [] (vars.inside name) = [] then none else
          some (.object (sectionFields depth (.sections entries) [] (vars.inside name)))) := by
      simp only [section?, htext, hnested, sectionFields,
        Fields.merge_nil_left (vars.inside name).nodup_bindAll_nil]
      rfl
    refine ⟨_, hsection, fun l next rest hpath => ?_⟩
    obtain ⟨hat, hdepth⟩ := hleaf hpath
    have hspec := at?_sectionFields hregular hat hdepth hleads
      (Value.opensInAnyCase_object_nil (next :: rest))
    rw [Value.beneath?_object_nil, Option.or_none] at hspec
    have hnone : vars.inText? l.path = none := by simp [hpath, inText?, htext]
    rw [hnone, Option.or_none]
    split
    · rename_i hempty
      rw [sectionFields, hempty] at hspec
      refine ⟨?_, by simp⟩
      rw [← hspec.1]
      rfl
    · exact ⟨hspec.1, by simpa using hspec.2⟩
  · obtain ⟨fields, hfields, hopens⟩ := h.object _ hname rfl text htext
    have hsection : section? vars name (.sections entries) = .ok (some (.object
        (sectionFields depth (.sections entries) fields (vars.inside name)))) := by
      simp only [section?, htext, read_of_jsonObject? hfields, hnested, sectionFields]
      rfl
    refine ⟨_, hsection, fun l next rest hpath => ?_⟩
    obtain ⟨hat, hdepth⟩ := hleaf hpath
    have hopen := hopens l (by rw [hpath]; rfl)
    rw [hpath] at hopen
    have hspec := at?_sectionFields hregular hat hdepth hleads hopen
    have hfound : vars.inText? l.path =
        (Value.object fields).beneath? (vars.inside name) (next :: rest) := by
      have hobject : jsonObject? text = some fields := hfields
      simp [hpath, inText?, htext, hobject]
    rw [hfound]
    exact ⟨hspec.1, by simpa using hspec.2⟩

/-- The names of variables in small letters are distinct. -/
theorem nodup_lowered (env : Environment) : (Entries.keys env.lowered).Nodup :=
  List.foldlRecOn (motive := fun vars => (Entries.keys vars).Nodup) env _ List.nodup_nil
    fun _ h _ _ => Entries.nodup_put h _ _

/-- What the environment gives each setting or section is bound to its name. -/
theorem foldlM_value? {vars : Environment} (found : String → Option Value)
    (outlines : List (String × Outline))
    (h : ∀ entry ∈ outlines, value? vars entry.1 entry.2 = .ok (found entry.1)) (fields : Fields)
    (hnodup : (Entries.keys fields).Nodup) :
    ∃ bound, (outlines.foldlM (fun fields (name, outline) =>
        match value? vars name outline with
        | .error fault => .error (name, fault)
        | .ok none => .ok fields
        | .ok (some v) => .ok (Entries.put fields name v)) fields :
          Except (String × Json.Fault) Fields) = .ok bound ∧
      (Entries.keys bound).Nodup ∧
      ∀ name, bound.lookup name =
        (if name ∈ Entries.keys outlines then found name else none).or (fields.lookup name) := by
  induction outlines generalizing fields with
  | nil => exact ⟨fields, rfl, hnodup, fun name => by simp [Entries.keys]⟩
  | cons entry rest ih =>
    obtain ⟨known, outline⟩ := entry
    obtain ⟨hfirst, hrest⟩ := List.forall_mem_cons.mp h
    have hkeys (name : String) : name ∈ Entries.keys ((known, outline) :: rest) ↔
        name = known ∨ name ∈ Entries.keys rest := List.mem_cons
    simp only [List.foldlM_cons, hfirst]
    rcases hfound : found known with _ | v
    · obtain ⟨bound, hbound, hbnodup, hlookup⟩ := ih hrest fields hnodup
      refine ⟨bound, hbound, hbnodup, fun name => ?_⟩
      rw [hlookup]
      by_cases hname : name = known <;> simp [hkeys, hname, hfound]
    · obtain ⟨bound, hbound, hbnodup, hlookup⟩ :=
        ih hrest (Entries.put fields known v) (Entries.nodup_put hnodup known v)
      refine ⟨bound, hbound, hbnodup, fun name => ?_⟩
      rw [hlookup, Entries.lookup_put]
      by_cases hname : name = known
      · by_cases hmem : known ∈ Entries.keys rest <;> simp [hkeys, hname, hmem, hfound]
      · simp [hkeys, hname]

/-- **Settings from a well-formed environment**: they can be read, and along the path to a leaf they
have the text of the variable for it, and without one what the JSON text of its section has. -/
theorem settings_spec {env : Environment} (h : env.lowered.WellFormed) :
    ∃ fields, env.settings = .ok fields ∧ ∀ l : Settings.Leaf,
      (Value.object fields).at? l.path =
          (env.lowered.boundAt? l.path).or (env.lowered.inText? l.path) ∧
        (Value.object fields).Opens l.path := by
  have hvalue : ∀ entry ∈ Outline.settings,
      ∃ found, value? env.lowered entry.1 entry.2 = .ok found := by
    rintro ⟨name, outline⟩ hentry
    cases outline with
    | leaf => exact ⟨_, rfl⟩
    | sections entries =>
      obtain ⟨found, hfound, -⟩ := section?_spec hentry h
      exact ⟨found, hfound⟩
  let found (name : String) : Option Value :=
    (Outline.settings.lookup name).bind fun outline =>
      (value? env.lowered name outline).toOption.join
  have hfound : ∀ entry ∈ Outline.settings,
      value? env.lowered entry.1 entry.2 = .ok (found entry.1) := by
    intro entry hentry
    obtain ⟨v, hv⟩ := hvalue entry hentry
    have hname : Outline.settings.lookup entry.1 = some entry.2 :=
      Entries.lookup_of_mem (by decide) hentry
    simp only [found, hname, Option.bind_some, hv]
    rfl
  obtain ⟨fields, hfields, hnodup, hlookup⟩ :=
    foldlM_value? found Outline.settings hfound [] List.nodup_nil
  refine ⟨fields, hfields, fun l => ?_⟩
  obtain ⟨name, inner, rest, hpath, hname, hrest⟩ := l.exists_path_eq
  have hentry := Entries.mem_of_lookup hname
  have hmem : name ∈ Entries.keys Outline.settings := List.mem_map.mpr ⟨_, hentry, rfl⟩
  have hread := l.pathOf_tail
  rw [hpath] at hread ⊢
  rw [Value.at?_cons, Value.opens_cons, hlookup, if_pos hmem, List.lookup_nil, Option.or_none]
  cases inner with
  | leaf =>
    obtain rfl := Outline.eq_nil_of_at?_leaf hrest
    have hvariable : found name = boundAt? env.lowered [name] :=
      (Except.ok.inj ((hfound _ hentry).symm.trans rfl)).trans (by simp [boundAt?])
    rw [hvariable]
    exact ⟨by simp [inText?], hnodup, by simp⟩
  | sections entries =>
    obtain ⟨next, rest, rfl⟩ := Outline.exists_cons_of_at?_sections hrest
    obtain ⟨v?, hv?, hspec⟩ := section?_spec hentry h
    have heq : found name = v? := Except.ok.inj ((hfound _ hentry).symm.trans hv?)
    obtain ⟨hat, hopens⟩ := hspec l next rest hpath
    have hvariable : ((env.lowered.inside name).textAt? (next :: rest)).map Value.str =
        boundAt? env.lowered (name :: next :: rest) := by
      have hpathOf : pathOf ("__".intercalate (next :: rest)) = next :: rest :=
        hread (List.cons_ne_nil _ _)
      rw [textAt_inside (nodup_lowered env) hpathOf, boundAt?]
      simp [String.append_assoc]
    rw [heq, hat, hvariable, hpath]
    exact ⟨rfl, hnodup, hopens⟩

end Environment

end UrlTemplate
