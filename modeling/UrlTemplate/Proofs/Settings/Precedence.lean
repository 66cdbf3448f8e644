import UrlTemplate.Proofs.Settings.Environment
import UrlTemplate.Proofs.Settings.Leaves
import UrlTemplate.Settings.Layers

/-!
# Which layer decides a setting

A leaf has its value from the first of the layers that has one for it (`Settings.effective?`): the
values given in code, the variable of the leaf, the JSON text of its section, the files. **Theorem**
(`Settings.ofLayers_leaf_by_leaf`): settings are made exactly if the effective values of all leaves
pass their checks, whatever stands below them in other layers, and they hold the checked values and
the defaults of leaves without one; otherwise there is one problem for each leaf whose effective
value does not pass, at the path of the leaf, and no other. The layers may be partial and may hold
names that mean nothing, but the sections in them are objects.
-/

namespace UrlTemplate

namespace Settings

variable {given files : Fields} {env : Environment} {name : String}

/-! ### Values given in code -/

/-- What the values given in code have at a path. The name of a setting or of a section counts in
any letter case, and a name inside a section as it is. -/
def givenAt? (given : Fields) : (path : List String) → Option Value
  | [] => none
  | name :: rest => (given.inAnyCase? name).bind (Value.at? · rest)

/-- Whether the sections given in code on the way along a path are objects. -/
def GivenOpens (given : Fields) : (path : List String) → Prop
  | [] => True
  | name :: rest => ∀ v ∈ given.inAnyCase? name, v.Opens rest

instance (given : Fields) (path : List String) : Decidable (GivenOpens given path) :=
  match path with
  | [] => isTrue trivial
  | name :: rest => inferInstanceAs (Decidable (∀ v ∈ given.inAnyCase? name, v.Opens rest))

/-- The usual names of given values are distinct. -/
theorem nodup_underUsualNames (given : Fields) : (Entries.keys (underUsualNames given)).Nodup := by
  induction given with
  | nil => exact List.nodup_nil
  | cons field rest ih =>
    refine List.nodup_cons.mpr ⟨?_, Entries.nodup_erase ih _⟩
    have hnone := Entries.lookup_erase (underUsualNames rest) (Outline.usualName field.1)
      (Outline.usualName field.1)
    rw [if_pos rfl] at hnone
    exact Entries.lookup_eq_none_iff.mp hnone

/-- The usual name of a setting stands for it in any letter case. -/
theorem usualName_eq_iff {outline : Outline} (hname : Outline.settings.lookup name = some outline)
    (written : String) : Outline.usualName written = name ↔ Text.lower written = name := by
  have hsmall := Outline.regular_root.small hname
  unfold Outline.usualName
  split
  · rfl
  · rename_i hunknown
    constructor
    · rintro rfl
      exact hsmall
    · rintro rfl
      simp [hname] at hunknown

/-- Under the name of a setting or of a section stands the first value that is given for it in any
letter case. -/
theorem lookup_underUsualNames {outline : Outline}
    (hname : Outline.settings.lookup name = some outline) (given : Fields) :
    (underUsualNames given).lookup name = given.inAnyCase? name := by
  induction given with
  | nil => rfl
  | cons field rest ih =>
    have hstep : underUsualNames (field :: rest) = (Outline.usualName field.1, field.2) ::
        Entries.erase (underUsualNames rest) (Outline.usualName field.1) := rfl
    rw [hstep, Entries.lookup_cons, Entries.lookup_erase, Fields.inAnyCase?, List.find?_cons]
    by_cases hfield : Text.lower field.1 = name
    · simp [(usualName_eq_iff hname field.1).mpr hfield, hfield]
    · have hne : name ≠ Outline.usualName field.1 := fun heq =>
        hfield ((usualName_eq_iff hname field.1).mp heq.symm)
      simp [hne, hfield, ih, Fields.inAnyCase?]

/-- Given values under their usual names hold along the path of a leaf what is given there. -/
theorem at?_underUsualNames (given : Fields) (l : Leaf) :
    (Value.object (underUsualNames given)).at? l.path = givenAt? given l.path := by
  obtain ⟨name, inner, rest, hpath, hname, -⟩ := l.exists_path_eq
  rw [hpath, Value.at?_cons, lookup_underUsualNames hname, givenAt?]

/-- Given values under their usual names are open where the given values are. -/
theorem opens_underUsualNames {l : Leaf} (h : GivenOpens given l.path) :
    (Value.object (underUsualNames given)).Opens l.path := by
  obtain ⟨name, inner, rest, hpath, hname, -⟩ := l.exists_path_eq
  rw [hpath] at h ⊢
  rw [Value.opens_cons, lookup_underUsualNames hname]
  exact ⟨nodup_underUsualNames given, h⟩

/-! ### All layers -/

/-- The value of a leaf in the first layer that has one: the values given in code, the variable of
the leaf, the JSON text of its section, the files. -/
def effective? (given : Fields) (env : Environment) (files : Fields) (l : Leaf) : Option Value :=
  (givenAt? given l.path).or <| (env.lowered.boundAt? l.path).or <|
    (env.lowered.inText? l.path).or <| (Value.object files).at? l.path

/-- Layers give settings exactly if the merged layers pass the check with them. -/
theorem ofLayers_eq_ok_iff {fromEnvironment : Fields} {s : Settings}
    (h : env.settings = .ok fromEnvironment) :
    ofLayers given env files = .ok s ↔
      check (Fields.merge files (Fields.merge fromEnvironment (underUsualNames given))) =
        .valid s := by
  simp only [ofLayers, h]
  split <;> simp_all

/-- The problems of the merged layers are those of the layers. -/
theorem ofLayers_eq_invalid {fromEnvironment : Fields} {problems : List Problem}
    (h : env.settings = .ok fromEnvironment)
    (hcheck : check (Fields.merge files (Fields.merge fromEnvironment (underUsualNames given))) =
      .invalid problems) :
    ofLayers given env files = .error (.invalid problems) := by
  simp only [ofLayers, h, hcheck]

/-- **Which layer decides a setting.** Settings are made exactly if the effective value of every
leaf passes, and hold what comes of it; otherwise every leaf whose effective value does not pass is
reported, and no path twice. -/
theorem ofLayers_leaf_by_leaf (hgiven : ∀ l : Leaf, GivenOpens given l.path)
    (henv : env.lowered.WellFormed) (hfiles : ∀ l : Leaf, (Value.object files).Opens l.path) :
    (∀ s, ofLayers given env files = .ok s ↔
      ∀ l : Leaf, l.outcome (effective? given env files l) = .ok (s.get l)) ∧
    ((∀ l : Leaf, ∃ a, l.outcome (effective? given env files l) = .ok a) →
      ∃ s, ofLayers given env files = .ok s) ∧
    ((∃ l : Leaf, ∃ defect, l.outcome (effective? given env files l) = .error defect) →
      ofLayers given env files = .error (.invalid
        (Leaf.all.filterMap fun l => l.problem? (effective? given env files l)))) ∧
    ((Leaf.all.filterMap fun l =>
      l.problem? (effective? given env files l)).map Problem.path).Nodup := by
  obtain ⟨fromEnvironment, hsettings, henvironment⟩ := Environment.settings_spec henv
  have habove (l : Leaf) := Fields.opens_merge (henvironment l).2 (opens_underUsualNames (hgiven l))
  have hopens (l : Leaf) := Fields.opens_merge (hfiles l) (habove l)
  have houtcome (l : Leaf) : l.outcome ((Value.object (Fields.merge files
      (Fields.merge fromEnvironment (underUsualNames given)))).at? l.path) =
        l.outcome (effective? given env files l) := by
    refine l.outcome_congr ?_
    rw [Fields.at?_merge (hfiles l) (habove l) l.path_ne_nil, Option.map_or,
      Fields.at?_merge (henvironment l).2 (opens_underUsualNames (hgiven l)) l.path_ne_nil,
      at?_underUsualNames, (henvironment l).1, effective?]
    simp only [Option.map_or, Option.or_assoc]
  have hok (s : Settings) : ofLayers given env files = .ok s ↔
      ∀ l : Leaf, l.outcome (effective? given env files l) = .ok (s.get l) := by
    simp only [ofLayers_eq_ok_iff hsettings, check_eq_valid_iff hopens, houtcome]
  refine ⟨hok, fun hall => ?_, ?_, nodup_paths_problems _⟩
  · obtain ⟨value, hvalue⟩ := Classical.axiomOfChoice hall
    obtain ⟨s, hs⟩ := exists_get_eq value
    exact ⟨s, (hok s).mpr fun l => (hvalue l).trans (hs l ▸ rfl)⟩
  · rintro ⟨l, defect, hl⟩
    have hproblems := ofLayers_eq_invalid hsettings
      (check_eq_invalid hopens ((houtcome l).trans hl))
    simpa only [Leaf.problem?, houtcome] using hproblems

/-- An attempt comes to what it gives. -/
theorem eq_ok_of_toOption {ε α : Type} {attempt : Except ε α} {a : α}
    (h : attempt.toOption = some a) : attempt = .ok a := by
  cases attempt with
  | error e => cases h
  | ok b => exact congrArg Except.ok (Option.some.inj h)

/-- Four partial layers: what they shadow would not pass, and is never looked at. -/
theorem ofLayers_of_partial_layers :
    ofLayers
      [("Debug", .str "yes"), ("digest", .object [("algorithm", .str "sha512")])]
      [("TAGVARS_EXPANSION", "\x7b\"ENCODE\": false, \"max_iterations\": -1\x7d"),
        ("Tagvars_Expansion__Max_Iterations", "5"),
        ("TAGVARS_OBSERVABILITY__LOGGING__FORMAT", "console")]
      [("digest", .object [("algorithm", .str "md5"), ("enabled", .int 0)]), ("other", .null)] =
      .ok { debug := true, expansion := ⟨5, false⟩, digest := ⟨false, .sha512⟩,
            observability := ⟨⟨.info, .console⟩, ⟨true⟩⟩ } := by
  refine ((ofLayers_leaf_by_leaf (by decide +kernel) (by decide +kernel)
    (by decide +kernel)).1 _).mpr fun l => eq_ok_of_toOption ?_
  revert l
  decide +kernel

/-- Names inside a JSON text count in any letter case, but the section that is written in capitals
gives way as a whole to a variable below it, so that its level is lost. -/
theorem ofLayers_loses_level_of_capital_section :
    ((Environment.jsonObject? "\x7b\"LOGGING\":\x7b\"level\":\"ERROR\"\x7d\x7d").bind fun fields =>
      (Value.object fields).beneath? [] ["logging", "level"]) = some (.str "ERROR") ∧
    ((Environment.jsonObject? "\x7b\"ENABLED\": false\x7d").bind fun fields =>
      (Value.object fields).at? ["enabled"]) = none ∧
    (ofLayers []
        [("TAGVARS_DIGEST", "\x7b\"ENABLED\": false\x7d"),
          ("TAGVARS_OBSERVABILITY", "\x7b\"LOGGING\":\x7b\"level\":\"ERROR\"\x7d\x7d"),
          ("TAGVARS_OBSERVABILITY__LOGGING__FORMAT", "console")] []).toOption.map
        (fun s => (s.get .level, s.get .digestEnabled)) = some (.info, false) := by
  decide +kernel

end Settings

end UrlTemplate
