import UrlTemplate.Text.Case.Table

/-!
# Letter case

`upper` and `lower` are the full case mappings of Unicode 14.0: a character may map to several,
and a capital sigma takes its final form at the end of a word.
-/

namespace UrlTemplate.Text

/-- Whether a code point lies in one of the closed ranges. -/
def inRanges (ranges : List (Nat × Nat)) (c : Char) : Bool :=
  ranges.any fun (first, last) => first ≤ c.toNat && c.toNat ≤ last

/-- The capital form of one character. -/
def upperChar (c : Char) : List Char :=
  match upperExpansions.lookup c.toNat with
  | some codes => codes.map Char.ofNat
  | none => [CaseRange.apply upperRanges c]

/-- The text in capital letters. -/
def upper (s : String) : String :=
  String.ofList (s.toList.flatMap upperChar)

/-- Whether the nearest character that is not skipped exists and has case. -/
def startsCased (cs : List Char) : Bool :=
  match cs.dropWhile (inRanges ignorableRanges) with
  | [] => false
  | c :: _ => inRanges casedRanges c

/-- The small form of one character that stands after `before` (nearest first) and before `after`:
a capital sigma is final when a letter precedes it and none follows. -/
def lowerChar (before : List Char) (c : Char) (after : List Char) : List Char :=
  if c = 'Σ' then
    if startsCased before && !startsCased after then ['ς'] else ['σ']
  else if c = 'İ' then ['i', '\u0307']
  else [CaseRange.apply lowerRanges c]

/-- The small form of `cs`, which stands after `before` (nearest first). -/
def lowerChars (before : List Char) : List Char → List Char
  | [] => []
  | c :: after => lowerChar before c after ++ lowerChars (c :: before) after

/-- The text in small letters. -/
def lower (s : String) : String :=
  String.ofList (lowerChars [] s.toList)

end UrlTemplate.Text
