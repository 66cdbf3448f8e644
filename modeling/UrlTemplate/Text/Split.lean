/-!
# Cutting a text at separators

`cutAt? mark cs` cuts once, at the first occurrence of a character. `splitAt sep s` cuts a text at
every occurrence of one character, so that parts without that character, joined with it, are found
again (`splitAt_join`). `splitOnText?` cuts at the occurrences of a longer separator, found from
left to right without overlap.
-/

namespace UrlTemplate.Text

/-- What comes before the first occurrence of `mark` and what comes after it. -/
def cutAt? (mark : Char) : List Char → Option (List Char × List Char)
  | [] => none
  | c :: rest =>
    if c = mark then some ([], rest)
    else (cutAt? mark rest).map fun (before, after) => (c :: before, after)

/-- A cut is made at the first mark: the parts and the mark give the text, and the first part has no
mark. -/
theorem cutAt?_eq_some_iff {mark : Char} {cs before after : List Char} :
    cutAt? mark cs = some (before, after) ↔ cs = before ++ mark :: after ∧ mark ∉ before := by
  induction cs generalizing before with
  | nil => simp [cutAt?]
  | cons c rest ih =>
    rw [cutAt?]
    split
    · subst c
      cases before with
      | nil => simp [eq_comm]
      | cons b before => simp; rintro rfl _ h; exact absurd rfl h
    · rename_i hc
      cases before with
      | nil => simp [hc]
      | cons b before =>
        simp only [Option.map_eq_some_iff, Prod.mk.injEq, List.cons.injEq, Prod.exists,
          List.cons_append, List.mem_cons, not_or]
        constructor
        · rintro ⟨a, b', h, ⟨rfl, rfl⟩, rfl⟩
          obtain ⟨hrest, hmem⟩ := ih.1 h
          exact ⟨⟨rfl, hrest⟩, Ne.symm hc, hmem⟩
        · rintro ⟨⟨rfl, hrest⟩, _, hmem⟩
          exact ⟨before, after, ih.2 ⟨hrest, hmem⟩, ⟨rfl, rfl⟩, rfl⟩

/-- No cut is made exactly in a text without the mark. -/
theorem cutAt?_eq_none_iff {mark : Char} {cs : List Char} :
    cutAt? mark cs = none ↔ mark ∉ cs := by
  induction cs with
  | nil => simp [cutAt?]
  | cons c rest ih =>
    rw [cutAt?]
    split
    · simp [*]
    · rename_i hc
      simp [ih, Ne.symm hc]

/-- What comes after the mark is shorter than the text. -/
theorem length_of_cutAt? {mark : Char} {cs before after : List Char}
    (h : cutAt? mark cs = some (before, after)) : after.length < cs.length := by
  rw [(cutAt?_eq_some_iff.1 h).1]
  simp
  omega

/-- The parts of `cs` between the occurrences of `sep`: one more than there are occurrences. -/
def splitChars (sep : Char) : List Char → List (List Char)
  | [] => [[]]
  | c :: rest =>
    if c = sep then [] :: splitChars sep rest
    else
      match splitChars sep rest with
      | [] => [[c]]
      | part :: parts => (c :: part) :: parts

/-- There is always a part. -/
theorem splitChars_ne_nil (sep : Char) (cs : List Char) : splitChars sep cs ≠ [] := by
  cases cs with
  | nil => simp [splitChars]
  | cons c rest =>
    rw [splitChars]
    split
    · simp
    · split <;> simp

/-- Joins parts by writing `sep` between neighbours. -/
def joinChars (sep : Char) : List (List Char) → List Char
  | [] => []
  | [part] => part
  | part :: next :: parts => part ++ sep :: joinChars sep (next :: parts)

/-- Joining the parts with the separator gives the text back. -/
theorem joinChars_splitChars (sep : Char) (cs : List Char) :
    joinChars sep (splitChars sep cs) = cs := by
  induction cs with
  | nil => rfl
  | cons c rest ih =>
    have hne := splitChars_ne_nil sep rest
    rw [splitChars]
    split
    · subst c
      cases h : splitChars sep rest with
      | nil => exact absurd h hne
      | cons part parts => rw [h] at ih; simp [joinChars, ih]
    · cases h : splitChars sep rest with
      | nil => exact absurd h hne
      | cons part parts =>
        rw [h] at ih
        cases parts with
        | nil => simpa [joinChars] using ih
        | cons next parts => simpa [joinChars] using ih

/-- A text without the separator is one part. -/
theorem splitChars_of_not_mem {sep : Char} {cs : List Char} (h : sep ∉ cs) :
    splitChars sep cs = [cs] := by
  induction cs with
  | nil => rfl
  | cons c rest ih =>
    obtain ⟨hc, hrest⟩ := not_or.mp (mt List.mem_cons.mpr h)
    rw [splitChars, if_neg (Ne.symm hc), ih hrest]

/-- The first part reaches to the first separator. -/
theorem splitChars_append_cons {sep : Char} {part : List Char} (h : sep ∉ part)
    (rest : List Char) : splitChars sep (part ++ sep :: rest) = part :: splitChars sep rest := by
  induction part with
  | nil => rw [List.nil_append, splitChars, if_pos rfl]
  | cons c part ih =>
    obtain ⟨hc, hrest⟩ := not_or.mp (mt List.mem_cons.mpr h)
    rw [List.cons_append, splitChars, if_neg (Ne.symm hc), ih hrest]

/-- Joined parts are the parts of the text if none of them contains the separator. -/
theorem splitChars_joinChars {sep : Char} {parts : List (List Char)} (hne : parts ≠ [])
    (h : ∀ part ∈ parts, sep ∉ part) : splitChars sep (joinChars sep parts) = parts := by
  induction parts with
  | nil => exact absurd rfl hne
  | cons part parts ih =>
    have hpart := h part List.mem_cons_self
    cases parts with
    | nil => exact splitChars_of_not_mem hpart
    | cons next parts =>
      have hrest := ih (List.cons_ne_nil _ _) fun p hp => h p (List.mem_cons_of_mem _ hp)
      rw [joinChars, splitChars_append_cons hpart, hrest]

/-- A part never contains the separator. -/
theorem not_mem_of_mem_splitChars {sep : Char} {cs part : List Char}
    (h : part ∈ splitChars sep cs) : sep ∉ part := by
  induction cs generalizing part with
  | nil => simp_all [splitChars]
  | cons c rest ih =>
    rw [splitChars] at h
    split at h
    · rcases List.mem_cons.1 h with rfl | h
      · simp
      · exact ih h
    · rename_i hc
      split at h
      · simp_all
        exact fun h => hc h.symm
      · rename_i first parts hs
        rcases List.mem_cons.1 h with rfl | h
        · have hfirst : sep ∉ first := ih (by simp [hs])
          simp [hfirst, Ne.symm hc]
        · exact ih (by simp [hs, h])

/-- A character of joined parts is the separator or stands in a part. -/
theorem mem_joinChars {sep c : Char} {parts : List (List Char)} (h : c ∈ joinChars sep parts) :
    c = sep ∨ ∃ part ∈ parts, c ∈ part := by
  fun_induction joinChars sep parts with
  | case1 => cases h
  | case2 part => exact .inr ⟨part, List.mem_singleton_self part, h⟩
  | case3 part next parts ih =>
    rcases List.mem_append.mp h with hpart | hrest
    · exact .inr ⟨part, List.mem_cons_self, hpart⟩
    · rcases List.mem_cons.mp hrest with hsep | hrest
      · exact .inl hsep
      · obtain hsep | ⟨part', hpart', hc⟩ := ih hrest
        · exact .inl hsep
        · exact .inr ⟨part', List.mem_cons_of_mem _ hpart', hc⟩

/-- Parts that are empty exactly if others are make an empty text exactly if these do. -/
theorem joinChars_map_eq_nil_iff {f : List Char → List Char} (hf : ∀ part, f part = [] ↔ part = [])
    {sep : Char} {parts : List (List Char)} :
    joinChars sep (parts.map f) = [] ↔ joinChars sep parts = [] := by
  cases parts with
  | nil => exact Iff.rfl
  | cons part parts =>
    cases parts with
    | nil => exact hf part
    | cons next parts => simp [joinChars]

/-- The parts of a text between the occurrences of `sep`. -/
def splitAt (sep : Char) (s : String) : List String :=
  (splitChars sep s.toList).map String.ofList

/-- The parts of a text with `sep` written between neighbours. -/
def join (sep : Char) (parts : List String) : String :=
  String.ofList (joinChars sep (parts.map String.toList))

/-- Joined parts are the parts of the text if none of them contains the separator. -/
theorem splitAt_join {sep : Char} {parts : List String} (hne : parts ≠ [])
    (h : ∀ part ∈ parts, sep ∉ part.toList) : splitAt sep (join sep parts) = parts := by
  have hparts : parts.map String.toList ≠ [] := mt List.map_eq_nil_iff.mp hne
  have hfree : ∀ part ∈ parts.map String.toList, sep ∉ part := by
    intro part hpart
    obtain ⟨text, htext, rfl⟩ := List.mem_map.mp hpart
    exact h text htext
  simp only [splitAt, join, String.toList_ofList, splitChars_joinChars hparts hfree, List.map_map]
  have hid : String.ofList ∘ String.toList = id := by funext; simp
  rw [hid, List.map_id]

/-- What follows `lead` in `cs`, if `cs` begins with it. -/
def dropLead? : (lead cs : List Char) → Option (List Char)
  | [], cs => some cs
  | _ :: _, [] => none
  | l :: lead, c :: cs => if l = c then dropLead? lead cs else none

/-- What follows a lead is shorter than the text by the length of the lead. -/
theorem length_of_dropLead? {lead cs rest : List Char} (h : dropLead? lead cs = some rest) :
    rest.length + lead.length = cs.length := by
  fun_induction dropLead? lead cs with
  | case1 => simp_all
  | case2 => simp at h
  | case3 l lead cs ih => simp [← ih h, Nat.add_assoc]
  | case4 => simp at h

/-- What follows a lead is what the text has behind it. -/
theorem dropLead?_eq_some_iff {lead cs rest : List Char} :
    dropLead? lead cs = some rest ↔ cs = lead ++ rest := by
  fun_induction dropLead? lead cs with
  | case1 cs => simp
  | case2 => simp
  | case3 l lead cs ih => simp [ih]
  | case4 l lead c cs hne => simp [Ne.symm hne]

/-- The parts of `cs` between the occurrences of a separator of one or more characters. -/
def splitOnChars (first : Char) (others : List Char) (cs : List Char) : List (List Char) :=
  match cs with
  | [] => [[]]
  | c :: rest =>
    match _hlead : dropLead? (first :: others) (c :: rest) with
    | some after => [] :: splitOnChars first others after
    | none =>
      match splitOnChars first others rest with
      | [] => [[c]]
      | part :: parts => (c :: part) :: parts
  termination_by cs.length
  decreasing_by
    · have := length_of_dropLead? _hlead
      simp at this ⊢
      omega
    · simp

/-- There is always a part. -/
theorem splitOnChars_ne_nil (first : Char) (others cs : List Char) :
    splitOnChars first others cs ≠ [] := by
  fun_induction splitOnChars first others cs <;> simp

/-- The parts with the separator between them are the whole. -/
theorem intercalate_splitOnChars (first : Char) (others cs : List Char) :
    (first :: others).intercalate (splitOnChars first others cs) = cs := by
  fun_induction splitOnChars first others cs with
  | case1 => simp
  | case2 c rest after hlead ih =>
    rw [List.intercalate_cons_of_ne_nil (splitOnChars_ne_nil _ _ _), ih,
      dropLead?_eq_some_iff.mp hlead, List.nil_append]
  | case3 c rest hlead hnil => exact absurd hnil (splitOnChars_ne_nil _ _ _)
  | case4 c rest hlead part parts hparts ih =>
    rw [hparts] at ih
    cases parts with
    | nil => simpa using ih
    | cons next parts => simpa using ih

/-- The parts of a text between the occurrences of `sep`; an empty separator has none. -/
def splitOnText? (sep s : String) : Option (List String) :=
  match sep.toList with
  | [] => none
  | first :: others => some ((splitOnChars first others s.toList).map String.ofList)

end UrlTemplate.Text
