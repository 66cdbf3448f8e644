import UrlTemplate.Host.Configuration
import UrlTemplate.Proofs.Toml.Distinct

/-!
# The configuration as an override along paths

Configuration that was read has distinct names (`Configuration.distinct_readOptional`), so the laws
of merging hold for it; a deployment whose file is that of the defaults gets the defaults as they
are (`Configuration.read_of_default_deployment`).

**Theorem** (`Fields.merge_along_paths`): what merging is along every path of names, with the laws
that follow. A path that leads to objects on both sides leads to an object with the names of both,
and a name that has no object on both sides there holds what the override holds, or else what the
base holds.
-/

namespace UrlTemplate

namespace Configuration

/-- A file that was read has distinct names. -/
theorem distinct_readToml {files : Files} {l : Location} {fields : Fields}
    (h : readToml files l = .ok fields) : (Value.object fields).Distinct := by
  obtain ⟨node, -, h⟩ := Toml.exists_of_bind_eq_ok h
  split at h
  · cases h
  · cases h
  · rename_i text
    cases hread : Toml.read text with
    | error fault =>
      rw [hread] at h
      cases h
    | ok found =>
      rw [hread] at h
      obtain rfl : found = fields := Except.ok.inj h
      exact Toml.distinct_read hread

/-- A file that was read, or is not there, has distinct names. -/
theorem distinct_readOptional {files : Files} {l : Location} {fields : Fields}
    (h : readOptional files l = .ok fields) : (Value.object fields).Distinct := by
  obtain ⟨node, -, h⟩ := Toml.exists_of_bind_eq_ok h
  split at h
  · obtain rfl := Except.ok.inj h
    exact Value.distinct_object_nil
  · exact distinct_readToml h

/-- A deployment that is called like the defaults gets the defaults as they are. -/
theorem read_of_default_deployment {env : Environment} (h : deployment env = "default")
    (files : Files) :
    read env files =
      (directory env files).bind fun d => readOptional files (d.append "default.toml") := by
  have hread (d : Location) :
      (do
        let defaults ← readOptional files (d.append "default.toml")
        let overrides ← readOptional files (d.append "default.toml")
        return Fields.merge defaults overrides) = readOptional files (d.append "default.toml") := by
    cases hdefaults : readOptional files (d.append "default.toml") with
    | error e => rfl
    | ok defaults => exact congrArg Except.ok (Fields.merge_self (distinct_readOptional hdefaults))
  unfold read
  rw [h]
  exact congrArg (directory env files).bind (funext hread)

end Configuration

namespace Fields

/-- **Merging overrides along every path of names.** A path that leads to an object on both sides
leads to an object with the names of the base in their order and then the new names of the override
in theirs; a name that has no object on both sides there holds what the override holds, or else what
the base holds. So no fields are neutral on either side; fields override themselves without effect,
as those of a deployment that is called like the defaults do; overriding twice by the same is
overriding once; and merging is associative as far as the side in the middle clashes with neither of
the others. -/
theorem merge_along_paths {base override : Fields} (hbase : (Value.object base).Distinct)
    (hoverride : (Value.object override).Distinct) :
    (∀ path b o, (Value.object base).at? path = some (.object b) →
      (Value.object override).at? path = some (.object o) →
      ∃ merged, (Value.object (merge base override)).at? path = some (.object merged) ∧
        Entries.keys merged =
          Entries.keys b ++ (Entries.keys o).filter (· ∉ Entries.keys b) ∧
        ∀ name, ¬ BothObjects b o name →
          merged.lookup name = (o.lookup name).or (b.lookup name)) ∧
    merge [] base = base ∧ merge base [] = base ∧ merge base base = base ∧
    (∀ env files, Configuration.deployment env = "default" →
      Configuration.read env files = (Configuration.directory env files).bind fun d =>
        Configuration.readOptional files (d.append "default.toml")) ∧
    merge (merge base override) override = merge base override ∧
    ∀ last, (Value.object last).Distinct → (Value.object base).NoClash (.object override) →
      (Value.object override).NoClash (.object last) →
      merge (merge base override) last = merge base (merge override last) := by
  refine ⟨?_, ?_, ?_, merge_self hbase, ?_, merge_merge_self hbase hoverride, ?_⟩
  · intro path b o hb ho
    have hnodup : (Entries.keys o).Nodup := hoverride path o ho
    exact ⟨merge b o, at?_merge_objects hoverride hb ho, keys_merge hnodup b,
      fun name hname => lookup_merge_of_not_both hnodup hname⟩
  · exact merge_nil_left (hbase [] base (Value.at?_nil _))
  · rw [merge]
  · intro env files hdeployment
    exact Configuration.read_of_default_deployment hdeployment files
  · intro last hlast hclash hclash'
    exact merge_assoc hbase hoverride hlast hclash hclash'

/-- Two objects under one name are merged, the new name behind the others, and so are three. -/
theorem merge_along_paths_nested :
    let base : Fields :=
      [("log", .object [("level", .str "INFO"), ("color", .null)]), ("n", .int 1)]
    let override : Fields :=
      [("m", .null), ("log", .object [("file", .str "f"), ("color", .int 0)])]
    let last : Fields := [("log", .object [("level", .bool false)])]
    (∃ merged, (Value.object (merge base override)).at? ["log"] = some (.object merged) ∧
      Entries.keys merged = ["level", "color", "file"] ∧ merged.lookup "color" = some (.int 0)) ∧
    merge (merge base override) override = merge base override ∧
    merge (merge base override) last = merge base (merge override last) := by
  intro base override last
  have hflat {fields : Fields} (hnodup : (Entries.keys fields).Nodup)
      (h : fields.all (!·.2.isObject)) : (Value.object fields).Distinct := by
    refine Value.distinct_object_of_mem hnodup fun entry hmem => ?_
    exact Value.distinct_of_not_object (by simpa using List.all_eq_true.mp h entry hmem)
  have hbase : (Value.object base).Distinct := by
    refine Value.distinct_object_of_mem (by decide) (List.forall_mem_cons.mpr ⟨?_, ?_⟩)
    · exact hflat (by decide) rfl
    · exact List.forall_mem_singleton.mpr (Value.distinct_of_not_object rfl)
  have hoverride : (Value.object override).Distinct := by
    refine Value.distinct_object_of_mem (by decide) (List.forall_mem_cons.mpr ⟨?_, ?_⟩)
    · exact Value.distinct_of_not_object rfl
    · exact List.forall_mem_singleton.mpr (hflat (by decide) rfl)
  have hlast : (Value.object last).Distinct :=
    Value.distinct_object_of_mem (by decide) (List.forall_mem_singleton.mpr (hflat (by decide) rfl))
  have hclash : (Value.object base).NoClash (.object override) := by
    -- the two have one name in common, and the objects under it have another one
    have hcolor : Value.null.NoClash (.int 0) := Value.noClash_of_not_object rfl rfl
    have hlog : (Value.object [("level", .str "INFO"), ("color", .null)]).NoClash
        (.object [("file", .str "f"), ("color", .int 0)]) :=
      Value.noClash_object_of_mem (by simpa [Entries.lookup_cons] using hcolor)
    exact Value.noClash_object_of_mem (by simpa [base, override, Entries.lookup_cons] using hlog)
  have hclash' : (Value.object override).NoClash (.object last) := by
    have hlog : (Value.object [("file", .str "f"), ("color", .int 0)]).NoClash
        (.object [("level", .bool false)]) :=
      Value.noClash_object_of_mem (by simp [Entries.lookup_cons])
    exact Value.noClash_object_of_mem (by simpa [override, last, Entries.lookup_cons] using hlog)
  obtain ⟨hpaths, -, -, -, -, htwice, hassoc⟩ := merge_along_paths hbase hoverride
  obtain ⟨merged, hat, hkeys, hlookup⟩ := hpaths ["log"] _ _ rfl rfl
  refine ⟨⟨merged, hat, hkeys, ?_⟩, htwice, hassoc last hlast hclash hclash'⟩
  refine hlookup "color" ?_
  rintro ⟨b, o, hb, -⟩
  cases hb

end Fields

end UrlTemplate
