import UrlTemplate.Host.Files

/-!
# Where written locations lead

Fewer names take no more bytes in the written form of a location (`Location.size_join_le`), so a
location is not too long if one with more names is not (`Files.writtenFault?_of_sublist`). Plain
names are followed as they stand: the path that they make is where they lead if something is there
(`Files.follow_plain`), and if nothing is there they lead nowhere (`Files.follow_plain_missing`).
-/

namespace UrlTemplate

/-- A name that an entry of a directory can have. -/
structure IsPlainName (name : String) : Prop where
  ne_up : name ≠ ".."
  not_null : '\x00' ∉ name.toList
  size_le : name.utf8ByteSize ≤ Files.maxNameBytes

/-! ### Written forms -/

namespace Location

/-- In front of other names, a name takes its bytes and one for the slash behind it. -/
theorem size_join_cons (name : String) {rest : List String} (hne : rest ≠ []) :
    (Text.join '/' (name :: rest)).utf8ByteSize =
      name.utf8ByteSize + 1 + (Text.join '/' rest).utf8ByteSize := by
  obtain ⟨next, rest, rfl⟩ := List.exists_cons_of_ne_nil hne
  have hjoin : Text.join '/' (name :: next :: rest) =
      name ++ "/" ++ Text.join '/' (next :: rest) := by
    simp [← String.toList_inj, Text.join, Text.joinChars]
  rw [hjoin, String.utf8ByteSize_append, String.utf8ByteSize_append]
  rfl

/-- Fewer names take no more bytes. -/
theorem size_join_le {names others : List String} (h : names.Sublist others) :
    (Text.join '/' names).utf8ByteSize ≤ (Text.join '/' others).utf8ByteSize := by
  induction h with
  | slnil => exact Nat.le_refl _
  | @cons names others name h ih =>
    by_cases hothers : others = []
    · subst hothers
      rw [List.sublist_nil.mp h]
      exact Nat.zero_le _
    · have hsize := size_join_cons name hothers
      omega
  | @cons_cons names others name h ih =>
    by_cases hnames : names = []
    · subst hnames
      have hone : Text.join '/' [name] = name := String.ofList_toList
      by_cases hothers : others = []
      · subst hothers
        exact Nat.le_refl _
      · have hsize := size_join_cons name hothers
        rw [hone]
        omega
    · have hothers : others ≠ [] := fun heq => hnames (List.sublist_nil.mp (heq ▸ h))
      have hsize := size_join_cons name hnames
      have hsize' := size_join_cons name hothers
      omega

/-- A location from the root is written as a slash and its names. -/
theorem text_root (names : List String) :
    (⟨.root, names⟩ : Location).text = "/" ++ Text.join '/' names := by
  have hne : "/" ++ Text.join '/' names ≠ "" := by
    simp [← String.toList_inj]
  unfold text
  exact if_neg hne

/-- A written name that is no path leads from a directory to the entry with this name. -/
theorem append_of_not_mem {written : String} (hne : written ≠ "") (hdot : written ≠ ".")
    (hslash : '/' ∉ written.toList) (directory : Location) :
    directory.append written = { directory with names := directory.names ++ [written] } := by
  have hnames : (parse written).names = [written] := by
    simp [parse, Text.splitAt, Text.splitChars_of_not_mem hslash, hne, hdot]
  have hanchor : (parse written).isAbsolute = false := by
    have hlead : written.toList.takeWhile (· = '/') = [] := by
      cases hchars : written.toList with
      | nil => rfl
      | cons c rest =>
        refine List.takeWhile_cons_of_neg fun hc => hslash ?_
        rw [hchars, of_decide_eq_true hc]
        exact List.mem_cons_self
    simp [isAbsolute, parse, hlead, Anchor.ofSlashes]
  unfold append
  simp only [hanchor, hnames, Bool.false_eq_true, if_false]

end Location

/-! ### Paths of plain names -/

namespace Node

/-- A path that goes on leads on from where its first part leads. -/
theorem at?_append (p q : List String) (root : Node) :
    root.at? (p ++ q) = (root.at? p).bind (at? q) := by
  induction p generalizing root with
  | nil => rfl
  | cons name p ih =>
    cases root with
    | file text => rfl
    | directory entries =>
      rw [List.cons_append, at?, at?]
      cases entries.lookup name with
      | none => rfl
      | some node => exact ih node

/-- In a directory a name leads to its entry. -/
theorem at?_concat {root : Node} {p : List String} {entries : List (String × Node)}
    (h : root.at? p = some (.directory entries)) (name : String) :
    root.at? (p ++ [name]) = entries.lookup name := by
  rw [at?_append, h, Option.bind_some, at?]
  cases entries.lookup name <;> rfl

/-- A path that goes on leads through a directory. -/
theorem exists_directory {root : Node} {p : List String} {name : String} {rest : List String}
    (h : (root.at? (p ++ name :: rest)).isSome) :
    ∃ entries, root.at? p = some (.directory entries) := by
  rw [at?_append] at h
  rcases hp : root.at? p with _ | ⟨text⟩ | ⟨entries⟩
  · rw [hp] at h
    cases h
  · rw [hp] at h
    cases h
  · exact ⟨entries, rfl⟩

end Node

namespace Files

/-- A location can be written down if one with more names can, from the root. -/
theorem writtenFault?_of_sublist {l : Location} {names : List String}
    (hanchor : l.anchor = .here ∨ l.anchor = .root) (hsub : l.names.Sublist names)
    (hnull : ∀ name ∈ names, '\x00' ∉ name.toList)
    (hfits : (⟨.root, names⟩ : Location).text.utf8ByteSize ≤ maxLocationBytes) :
    writtenFault? l.text = none := by
  have hlead : '\x00' ∉ l.anchor.text.toList ∧ l.anchor.text.utf8ByteSize ≤ 1 := by
    rcases hanchor with h | h <;> rw [h] <;> decide
  have hjoin : '\x00' ∉ (Text.join '/' l.names).toList := by
    intro hmem
    rw [Text.join, String.toList_ofList] at hmem
    rcases Text.mem_joinChars hmem with heq | ⟨part, hpart, hmem⟩
    · exact absurd heq (by decide)
    · obtain ⟨name, hname, rfl⟩ := List.mem_map.mp hpart
      exact hnull name (hsub.subset hname) hmem
  have hsize := Location.size_join_le hsub
  rw [Location.text_root, String.utf8ByteSize_append] at hfits
  have hslash : "/".utf8ByteSize = 1 := by decide
  unfold Location.text
  simp only
  split
  · decide
  · have hclean : '\x00' ∉ (l.anchor.text ++ Text.join '/' l.names).toList := by
      rw [String.toList_append, List.mem_append]
      exact not_or.mpr ⟨hlead.1, hjoin⟩
    have hshort : ¬ maxLocationBytes < (l.anchor.text ++ Text.join '/' l.names).utf8ByteSize := by
      rw [String.utf8ByteSize_append]
      omega
    rw [writtenFault?, if_neg hclean, if_neg hshort]

/-! ### Where names lead -/

variable {root : Node}

/-- Names are followed one after the other. -/
theorem follow_append (root : Node) (place as bs : List String) :
    follow root place (as ++ bs) = (follow root place as).bind fun p => follow root p bs := by
  induction as generalizing place with
  | nil => rfl
  | cons name as ih =>
    rw [List.cons_append, follow, follow]
    split
    · simp only
      generalize (if name = ".." then place.dropLast else place ++ [name]) = next
      by_cases hlong : maxNameBytes < name.utf8ByteSize
      · rw [if_pos hlong, if_pos hlong]
        rfl
      · rw [if_neg hlong, if_neg hlong]
        by_cases hnext : (root.at? next).isSome
        · rw [if_pos hnext, if_pos hnext, ih next]
        · rw [if_neg hnext, if_neg hnext]
          rfl
    · rfl
    · rfl

/-- Plain names that lead somewhere are followed as they stand. -/
theorem follow_plain (place : List String) {names : List String}
    (hplain : ∀ name ∈ names, IsPlainName name) (hat : (root.at? (place ++ names)).isSome) :
    follow root place names = .ok (place ++ names) := by
  induction names generalizing place with
  | nil => rw [follow, List.append_nil]
  | cons name names ih =>
    obtain ⟨hname, hrest⟩ := List.forall_mem_cons.mp hplain
    obtain ⟨entries, hplace⟩ := Node.exists_directory hat
    rw [List.append_cons] at hat
    have hnext : (root.at? (place ++ [name])).isSome := by
      rw [Node.at?_append] at hat
      cases hnode : root.at? (place ++ [name]) with
      | none =>
        rw [hnode] at hat
        cases hat
      | some node => rfl
    rw [follow, hplace]
    simp only [if_neg hname.ne_up, if_neg (Nat.not_lt.mpr hname.size_le), hnext, if_true,
      ih _ hrest hat, List.append_assoc, List.singleton_append]

/-- Plain names that lead to nothing are missed, or there is a file in the way. -/
theorem follow_plain_missing (place : List String) {names : List String}
    (hplain : ∀ name ∈ names, IsPlainName name) (hplace : (root.at? place).isSome)
    (hat : root.at? (place ++ names) = none) :
    follow root place names = .error .missing ∨
      follow root place names = .error .notADirectory := by
  induction names generalizing place with
  | nil =>
    rw [List.append_nil] at hat
    rw [hat] at hplace
    cases hplace
  | cons name names ih =>
    obtain ⟨hname, hrest⟩ := List.forall_mem_cons.mp hplain
    obtain ⟨node, hnode⟩ := Option.isSome_iff_exists.mp hplace
    rw [List.append_cons] at hat
    rw [follow, hnode]
    cases node with
    | file text => exact .inr rfl
    | directory entries =>
      simp only [if_neg hname.ne_up, if_neg (Nat.not_lt.mpr hname.size_le)]
      by_cases hnext : (root.at? (place ++ [name])).isSome
      · rw [if_pos hnext]
        exact ih _ hrest hnext hat
      · rw [if_neg hnext]
        exact .inl rfl

/-- A location that can be written down and starts from the root is followed from there. -/
theorem node_root {files : Files} {names : List String}
    (hwritten : writtenFault? (⟨.root, names⟩ : Location).text = none) :
    files.node ⟨.root, names⟩ =
      (follow files.root [] names).bind fun path =>
        (files.root.at? path).elim (.error .missing) .ok := by
  have hresolve : files.resolve ⟨.root, names⟩ = follow files.root [] names := by
    rw [resolve, hwritten]
    rfl
  rw [node, hresolve]
  refine congrArg (follow files.root [] names).bind (funext fun path => ?_)
  cases files.root.at? path <;> rfl

end Files

end UrlTemplate
