import UrlTemplate.Text.Hex

/-!
# Percent-encoding

`percentEncode` writes the UTF-8 bytes of a text: an unreserved character stands for itself, every
other byte is written `%HH` with capital digits. `percentDecode?` reads such a text back
(`percentDecodeChars?_percentChars`); it also accepts reserved characters that stand for themselves.
The marks that need no escape occur in an encoded text as they do in the text
(`mem_percentChars_iff`), and no other character but letters, digits and `%` occurs in one.
-/

namespace UrlTemplate.Text

/-- The UTF-8 bytes of a text. -/
def bytes (s : String) : List UInt8 :=
  s.toList.flatMap String.utf8EncodeChar

/-- The marks that need no escape besides letters and digits. -/
def unreservedMarks : List Char := ['-', '_', '.', '!', '~', '*', '\'', '(', ')']

/-- Whether percent-encoding leaves the character as it stands. -/
def isUnreserved (c : Char) : Bool :=
  c.isAlphanum || unreservedMarks.contains c

/-- The written form of one byte. -/
def percentByte (b : UInt8) : List Char :=
  let c := Char.ofNat b.toNat
  if isUnreserved c then [c]
  else ['%', hexDigitUpper (b.toNat / 16), hexDigitUpper (b.toNat % 16)]

/-- The written form of some characters. -/
def percentChars (cs : List Char) : List Char :=
  (cs.flatMap String.utf8EncodeChar).flatMap percentByte

/-- Nothing is encoded as nothing. -/
@[simp] theorem percentChars_nil : percentChars [] = [] := rfl

/-- Texts in a row are encoded one after the other. -/
@[simp] theorem percentChars_append (as bs : List Char) :
    percentChars (as ++ bs) = percentChars as ++ percentChars bs := by
  simp [percentChars]

/-- The text with every byte of a reserved character escaped. -/
def percentEncode (s : String) : String :=
  String.ofList (percentChars s.toList)

/-- The bytes that a percent-encoded text stands for; `none` if an escape is malformed. -/
def percentBytes? : List Char → Option (List UInt8)
  | [] => some []
  | '%' :: high :: low :: rest => do
    let byte := 16 * (← hexValue? high) + (← hexValue? low)
    return UInt8.ofNat byte :: (← percentBytes? rest)
  | c :: rest =>
    if c = '%' then none
    else return String.utf8EncodeChar c ++ (← percentBytes? rest)

/-- The characters that a percent-encoded text stands for; `none` if an escape is malformed or the
bytes are no text. -/
def percentDecodeChars? (cs : List Char) : Option (List Char) := do
  let chars ← (← percentBytes? cs).toByteArray.utf8Decode?
  return chars.toList

/-- The text that a percent-encoded text stands for. -/
def percentDecode? (s : String) : Option String :=
  (percentDecodeChars? s.toList).map String.ofList

/-! ### Reading an encoded text back -/

/-- A character that stands for itself is one byte, and that byte is its number. -/
theorem utf8EncodeChar_of_isUnreserved : ∀ n < 256, isUnreserved (Char.ofNat n) = true →
    n < 128 ∧ String.utf8EncodeChar (Char.ofNat n) = [UInt8.ofNat n] := by
  decide +kernel

/-- The written form of a byte is read back as that byte. -/
theorem percentBytes?_percentByte (b : UInt8) (rest : List Char) :
    percentBytes? (percentByte b ++ rest) = (percentBytes? rest).map (b :: ·) := by
  have hlt : b.toNat < 256 := b.toNat_lt
  unfold percentByte
  by_cases hkept : isUnreserved (Char.ofNat b.toNat) = true
  · have hbyte := (utf8EncodeChar_of_isUnreserved b.toNat hlt hkept).2
    have hne : Char.ofNat b.toNat ≠ '%' := by
      intro heq
      rw [heq] at hkept
      exact absurd hkept (by decide)
    simp only [hkept, if_true, List.cons_append, List.nil_append]
    rw [percentBytes?]
    · rw [if_neg hne, hbyte, UInt8.ofNat_toNat]
      cases percentBytes? rest <;> rfl
    · intro high low rest' heq
      exact absurd heq hne
  · have hhigh := hexValue?_hexDigitUpper (b.toNat / 16) (by omega)
    have hlow := hexValue?_hexDigitUpper (b.toNat % 16) (by omega)
    have hsum : 16 * (b.toNat / 16) + b.toNat % 16 = b.toNat := Nat.div_add_mod b.toNat 16
    simp only [hkept, Bool.false_eq_true, if_false, List.cons_append, List.nil_append]
    rw [percentBytes?, hhigh, hlow]
    simp only [Option.bind_eq_bind, Option.bind_some, hsum, UInt8.ofNat_toNat]
    cases percentBytes? rest <;> rfl

/-- The written forms of bytes are read back as those bytes. -/
theorem percentBytes?_flatMap (bs : List UInt8) :
    percentBytes? (bs.flatMap percentByte) = some bs := by
  induction bs with
  | nil => rfl
  | cons b bs ih => rw [List.flatMap_cons, percentBytes?_percentByte, ih, Option.map_some]

/-- **An encoded text is read back as the text.** -/
theorem percentDecodeChars?_percentChars (cs : List Char) :
    percentDecodeChars? (percentChars cs) = some cs := by
  have hbytes : percentBytes? (percentChars cs) = some (cs.flatMap String.utf8EncodeChar) :=
    percentBytes?_flatMap _
  have hchars : (cs.flatMap String.utf8EncodeChar).toByteArray.utf8Decode? = some cs.toArray :=
    List.utf8Decode?_utf8Encode
  simp only [percentDecodeChars?, hbytes, hchars, Option.bind_eq_bind, Option.bind_some]
  rfl

/-- An encoded text stands for the text. -/
theorem percentDecode?_percentEncode (s : String) : percentDecode? (percentEncode s) = some s := by
  simp only [percentDecode?, percentEncode, String.toList_ofList, percentDecodeChars?_percentChars,
    Option.map_some, String.ofList_toList]

/-- Texts that are encoded alike are alike. -/
theorem percentChars_inj {as bs : List Char} (h : percentChars as = percentChars bs) : as = bs := by
  have hread := congrArg percentDecodeChars? h
  rw [percentDecodeChars?_percentChars, percentDecodeChars?_percentChars] at hread
  exact Option.some.inj hread

/-- Only nothing is encoded as nothing. -/
theorem percentChars_eq_nil_iff {cs : List Char} : percentChars cs = [] ↔ cs = [] := by
  constructor
  · intro h
    exact percentChars_inj (h.trans percentChars_nil.symm)
  · rintro rfl
    exact percentChars_nil

/-! ### The characters of an encoded text -/

/-- A mark that needs no escape stands for itself. -/
theorem percentChars_mark {mark : Char} (h : mark ∈ unreservedMarks) (rest : List Char) :
    percentChars (mark :: rest) = mark :: percentChars rest := by
  have hmarks : (unreservedMarks.all fun m => decide (percentChars [m] = [m])) = true := by
    decide +kernel
  have hself : percentChars [mark] = [mark] :=
    of_decide_eq_true (List.all_eq_true.mp hmarks mark h)
  rw [← List.singleton_append, percentChars_append, hself, List.singleton_append]

/-- A byte below 128 occurs in the code of its own character alone. -/
theorem eq_of_mem_utf8EncodeChar {c : Char} {b : UInt8} (h : b ∈ String.utf8EncodeChar c)
    (hb : b.toNat < 128) : c = Char.ofNat b.toNat := by
  have hhigh (n : Nat) (hmin : 128 ≤ n) (hmax : n < 256) : b ≠ UInt8.ofNat n := by
    rintro rfl
    rw [UInt8.toNat_ofNat', Nat.mod_eq_of_lt hmax] at hb
    omega
  unfold String.utf8EncodeChar at h
  simp only at h
  split at h
  · have hcode : c.val.toNat < 256 := by omega
    rw [List.mem_singleton.mp h, UInt8.toNat_ofNat', Nat.mod_eq_of_lt hcode]
    exact (Char.ofNat_toNat c).symm
  · -- the other codes have no byte below 128
    exfalso
    split at h
    · simp only [List.mem_cons, List.not_mem_nil, or_false] at h
      rcases h with h | h <;> exact hhigh _ (by omega) (by omega) h
    · split at h
      · simp only [List.mem_cons, List.not_mem_nil, or_false] at h
        rcases h with h | h | h <;> exact hhigh _ (by omega) (by omega) h
      · simp only [List.mem_cons, List.not_mem_nil, or_false] at h
        rcases h with h | h | h | h <;> exact hhigh _ (by omega) (by omega) h

/-- A character of the written form of a byte belongs to an escape, or it stands for itself. -/
theorem mem_percentByte {c : Char} {b : UInt8} (h : c ∈ percentByte b) :
    c = '%' ∨ c.isAlphanum = true ∨ c = Char.ofNat b.toNat ∧ isUnreserved c = true := by
  have hdigit : ∀ n < 16, (hexDigitUpper n).isAlphanum = true := by decide
  have hlt : b.toNat < 256 := b.toNat_lt
  unfold percentByte at h
  by_cases hkept : isUnreserved (Char.ofNat b.toNat) = true
  · simp only [hkept, if_true, List.mem_singleton] at h
    subst h
    exact .inr (.inr ⟨rfl, hkept⟩)
  · simp only [hkept, Bool.false_eq_true, if_false, List.mem_cons, List.not_mem_nil, or_false] at h
    rcases h with rfl | rfl | rfl
    · exact .inl rfl
    · exact .inr (.inl (hdigit _ (by omega)))
    · exact .inr (.inl (hdigit _ (by omega)))

/-- A character that needs an escape occurs in no encoded text, but for the one that begins
escapes. -/
theorem not_mem_percentChars {c : Char} (h : isUnreserved c = false) (hne : c ≠ '%')
    (cs : List Char) : c ∉ percentChars cs := by
  intro hmem
  obtain ⟨b, -, hb⟩ := List.mem_flatMap.mp hmem
  rcases mem_percentByte hb with rfl | halnum | ⟨-, hkept⟩
  · exact hne rfl
  · simp [isUnreserved, halnum] at h
  · rw [h] at hkept
    cases hkept

/-- A mark that needs no escape occurs in an encoded text as it does in the text. -/
theorem mem_percentChars_iff {mark : Char} (h : mark ∈ unreservedMarks) {cs : List Char} :
    mark ∈ percentChars cs ↔ mark ∈ cs := by
  have hmarks : (unreservedMarks.all fun m => m ≠ '%' ∧ m.isAlphanum = false) = true := by decide
  obtain ⟨hpercent, halnum⟩ := of_decide_eq_true (List.all_eq_true.mp hmarks mark h)
  constructor
  · intro hmem
    obtain ⟨b, hcode, hb⟩ := List.mem_flatMap.mp hmem
    obtain ⟨c, hc, hbc⟩ := List.mem_flatMap.mp hcode
    rcases mem_percentByte hb with heq | halnum' | ⟨heq, hkept⟩
    · exact absurd heq hpercent
    · rw [halnum] at halnum'
      cases halnum'
    · rw [heq] at hkept
      have hlow := (utf8EncodeChar_of_isUnreserved b.toNat b.toNat_lt hkept).1
      rw [heq, ← eq_of_mem_utf8EncodeChar hbc hlow]
      exact hc
  · intro hmem
    obtain ⟨before, after, rfl⟩ := List.append_of_mem hmem
    rw [percentChars_append, percentChars_mark h]
    exact List.mem_append_right _ List.mem_cons_self

end UrlTemplate.Text
