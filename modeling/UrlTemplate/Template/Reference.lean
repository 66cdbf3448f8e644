import UrlTemplate.Text.Split

/-!
# References to variables

A reference is the name of a variable with an optional suffix of arguments, as in `name(a,b)`. The
name is the longest run of characters without an opening parenthesis; the suffix reaches from there
to the first closing parenthesis and is kept word for word. Text after the suffix is ignored.
-/

namespace UrlTemplate.Template

/-- A variable's name and the suffix in parentheses that followed it, empty if there was none. -/
structure Reference where
  name : String
  suffix : String
deriving DecidableEq, Repr

/-- Splits a text into the name and the suffix of a reference. -/
def splitReference (cs : List Char) : List Char × List Char :=
  match Text.cutAt? '(' cs with
  | none => (cs, [])
  | some (name, rest) =>
    match Text.cutAt? ')' rest with
    | none => (name, [])
    | some (args, _) => (name, '(' :: args ++ [')'])

/-- The form of a suffix: nothing, or arguments without a closing parenthesis in parentheses. -/
inductive IsSuffix : List Char → Prop
  | none : IsSuffix []
  | arguments {args : List Char} (h : ')' ∉ args) : IsSuffix ('(' :: args ++ [')'])

/-- A suffix that is not empty ends with a parenthesis. -/
theorem IsSuffix.eq_nil_or_getLast? {suffix : List Char} (h : IsSuffix suffix) :
    suffix = [] ∨ suffix.getLast? = some ')' := by
  cases h with
  | none => exact .inl rfl
  | arguments h => exact .inr List.getLast?_concat

/-- A name and a suffix in a row are split into the two. -/
theorem splitReference_append {name suffix : List Char} (hname : '(' ∉ name)
    (hsuffix : IsSuffix suffix) : splitReference (name ++ suffix) = (name, suffix) := by
  cases hsuffix with
  | none =>
    have hcut : Text.cutAt? '(' name = none := Text.cutAt?_eq_none_iff.mpr hname
    rw [List.append_nil, splitReference, hcut]
  | @arguments args hargs =>
    have hopen : Text.cutAt? '(' (name ++ '(' :: (args ++ [')'])) = some (name, args ++ [')']) :=
      Text.cutAt?_eq_some_iff.mpr ⟨rfl, hname⟩
    have hclose : Text.cutAt? ')' (args ++ [')']) = some (args, []) :=
      Text.cutAt?_eq_some_iff.mpr ⟨rfl, hargs⟩
    rw [List.cons_append, splitReference, hopen]
    simp only [hclose, List.cons_append]

/-- Every text is split into a name and a suffix. -/
theorem splitReference_spec (cs : List Char) :
    '(' ∉ (splitReference cs).1 ∧ IsSuffix (splitReference cs).2 := by
  unfold splitReference
  cases hopen : Text.cutAt? '(' cs with
  | none => exact ⟨Text.cutAt?_eq_none_iff.mp hopen, .none⟩
  | some cut =>
    have hname := (Text.cutAt?_eq_some_iff.mp hopen).2
    cases hclose : Text.cutAt? ')' cut.2 with
    | none => simpa only [hclose] using ⟨hname, .none⟩
    | some cut' =>
      simpa only [hclose] using ⟨hname, .arguments (Text.cutAt?_eq_some_iff.mp hclose).2⟩

/-- Reads a text as a reference; every text is one. -/
def Reference.parse (key : String) : Reference :=
  let (name, suffix) := splitReference key.toList
  ⟨String.ofList name, String.ofList suffix⟩

end UrlTemplate.Template
