import Mathlib.Data.List.TakeWhile
import UrlTemplate.Template.Placeholder

/-!
# Bodies without a name

Whether the body of a slot has a reference, and whether that reference has a name, shows in the
first character of the body that is no blank (`Template.lead?`). Without such a character, or with
`|` for one, there is no reference (`NoKey`) and the body is malformed
(`Placeholder.parse_of_noKey`). Every other body is a placeholder, and its variable has a name
unless the character is an opening parenthesis (`NoName`), with which the suffix of a reference
begins (`Placeholder.exists_parse_eq_ok`).
-/

namespace UrlTemplate

namespace Text

/-- A character out of the class ends what is removed from the end of a text. -/
theorem dropEndWhile_cons_of_neg {p : Char → Bool} {c : Char} (h : p c = false)
    (rest : List Char) : dropEndWhile p (c :: rest) = c :: dropEndWhile p rest := by
  have hc : [c].dropWhile p = [c] := List.dropWhile_cons_of_neg (by simp [h])
  rw [dropEndWhile, List.reverse_cons, List.dropWhile_append]
  by_cases hrest : (rest.reverse.dropWhile p).isEmpty
  · rw [if_pos hrest, hc, dropEndWhile, List.isEmpty_iff.mp hrest]
    rfl
  · rw [if_neg hrest, List.reverse_append, dropEndWhile]
    rfl

/-- What is left between the ends of a text begins with its first character out of the class. -/
theorem head?_stripWhile (p : Char → Bool) (cs : List Char) :
    (stripWhile p cs).head? = cs.find? (!p ·) := by
  rw [List.find?_not_eq_head?_dropWhile, stripWhile]
  cases hdrop : cs.dropWhile p with
  | nil => rfl
  | cons c rest =>
    have hc : p c = false := by
      have hhead := List.head?_dropWhile_not p cs
      rw [hdrop] at hhead
      exact hhead
    rw [dropEndWhile_cons_of_neg hc]
    rfl

/-- The first part of a text reaches to its end or to the first separator. -/
theorem exists_splitChars_eq (sep : Char) (cs : List Char) :
    ∃ part parts, splitChars sep cs = part :: parts ∧ sep ∉ part ∧
      (cs = part ∨ ∃ rest, cs = part ++ sep :: rest) := by
  have hjoin := joinChars_splitChars sep cs
  cases hsplit : splitChars sep cs with
  | nil => exact absurd hsplit (splitChars_ne_nil sep cs)
  | cons part parts =>
    have hpart : sep ∉ part := not_mem_of_mem_splitChars (hsplit ▸ List.mem_cons_self)
    refine ⟨part, parts, rfl, hpart, ?_⟩
    rw [hsplit] at hjoin
    cases parts with
    | nil => exact .inl hjoin.symm
    | cons next parts => exact .inr ⟨_, hjoin.symm⟩

end Text

namespace Template

/-! ### The lead of a body -/

/-- The first character of a body that is no blank. -/
def lead? (body : List Char) : Option Char :=
  body.find? (!Text.isBlank ·)

/-- There are only blanks in the body in front of the filters. -/
def NoKey (body : List Char) : Prop :=
  lead? body = none ∨ lead? body = some '|'

instance (body : List Char) : Decidable (NoKey body) :=
  instDecidableOr

/-- There is a reference in the body, and it begins with its suffix. -/
def NoName (body : List Char) : Prop :=
  lead? body = some '('

instance (body : List Char) : Decidable (NoName body) :=
  inferInstanceAs (Decidable (_ = _))

/-- The lead of a body is that of its key, or the separator behind the key. -/
theorem head?_key {body key : List Char} (hkey : '|' ∉ key)
    (hbody : body = key ∨ ∃ rest, body = key ++ '|' :: rest) :
    (Text.stripWhile Text.isBlank key).head? = (lead? body).filter (· ≠ '|') := by
  have hfound : ∀ c, key.find? (!Text.isBlank ·) = some c → c ≠ '|' := by
    rintro c hc rfl
    exact hkey (List.mem_of_find?_eq_some hc)
  have hbar : Text.isBlank '|' = false := by decide
  rw [Text.head?_stripWhile]
  obtain rfl | ⟨rest, rfl⟩ := hbody
  · unfold lead?
    cases hc : body.find? (!Text.isBlank ·) with
    | none => rfl
    | some c => simp [Option.filter_some, hfound c hc]
  · have hlead : lead? (key ++ '|' :: rest) =
        (key.find? (!Text.isBlank ·)).or (some '|') := by
      rw [lead?, List.find?_append, List.find?_cons_of_pos (by simp [hbar])]
    rw [hlead]
    cases hc : key.find? (!Text.isBlank ·) with
    | none => rfl
    | some c => simp [Option.filter_some, hfound c hc]

/-- A text that is not empty has an empty name if it begins with an opening parenthesis. -/
theorem splitReference_name_eq_nil_iff {cs : List Char} (h : cs ≠ []) :
    (splitReference cs).1 = [] ↔ cs.head? = some '(' := by
  unfold splitReference
  cases hopen : Text.cutAt? '(' cs with
  | none =>
    refine iff_of_false h fun hhead => ?_
    exact Text.cutAt?_eq_none_iff.mp hopen (List.mem_of_head? hhead)
  | some cut =>
    obtain ⟨hcs, hname⟩ := Text.cutAt?_eq_some_iff.mp hopen
    have hiff : cut.1 = [] ↔ cs.head? = some '(' := by
      rw [hcs]
      cases hcut : cut.1 with
      | nil => simp
      | cons c name =>
        have hc : c ≠ '(' := by
          rintro rfl
          exact hname (hcut ▸ List.mem_cons_self)
        simp [hc]
    cases hclose : Text.cutAt? ')' cut.2 <;> simpa only [hclose] using hiff

namespace Placeholder

variable (source : String) {body : String}

/-- A body is read as its key is; the first character of that is the lead, unless it is the
separator. -/
theorem exists_key (body : String) :
    ∃ key segments, key.toList.head? = (lead? body.toList).filter (· ≠ '|') ∧
      parse source body =
        if key = "" then .error (.noVariable source)
        else .ok ⟨source, Reference.parse key, segments⟩ := by
  obtain ⟨part, parts, hsplit, hbar, hbody⟩ := Text.exists_splitChars_eq '|' body.toList
  refine ⟨Text.trim (String.ofList part), (parts.map String.ofList).map Text.trim, ?_, ?_⟩
  · rw [Text.toList_trim, String.toList_ofList]
    exact head?_key hbar hbody
  · have hparts : Text.splitAt '|' body = String.ofList part :: parts.map String.ofList := by
      rw [Text.splitAt, hsplit, List.map_cons]
    simp only [parse, hparts]

/-- A body without reference is malformed. -/
theorem parse_of_noKey (h : NoKey body.toList) :
    parse source body = .error (.noVariable source) := by
  obtain ⟨key, segments, hhead, hparse⟩ := exists_key source body
  have hkey : key = "" := by
    obtain h | h := h <;> simpa [h, Option.filter_some] using hhead
  rw [hparse, if_pos hkey]

/-- Every other body is a placeholder, and it has a name unless that is left out. -/
theorem exists_parse_eq_ok (h : ¬ NoKey body.toList) :
    ∃ p, parse source body = .ok p ∧ (p.reference.name = "" ↔ NoName body.toList) := by
  obtain ⟨key, segments, hhead, hparse⟩ := exists_key source body
  obtain ⟨hnone, hbar⟩ := not_or.mp h
  obtain ⟨c, hc⟩ := Option.ne_none_iff_exists'.mp hnone
  have hlead : key.toList.head? = lead? body.toList := by
    have hne : c ≠ '|' := by
      rintro rfl
      exact hbar hc
    rw [hhead, hc, Option.filter_some, if_pos (by simpa using hne)]
  have hkey : key.toList ≠ [] := by
    intro hnil
    rw [hnil, hc] at hlead
    cases hlead
  have hkey' : key ≠ "" := mt (congrArg String.toList) hkey
  refine ⟨_, by rw [hparse, if_neg hkey'], ?_⟩
  have hname : (Reference.parse key).name = String.ofList (splitReference key.toList).1 := rfl
  rw [hname, NoName, ← hlead, ← splitReference_name_eq_nil_iff hkey]
  simp

end Placeholder

end Template

end UrlTemplate
