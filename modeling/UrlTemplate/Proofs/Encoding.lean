import UrlTemplate.Encoding

/-!
# Encoding loses nothing

Percent-encoding keeps parentheses and brings none in, so the name and the suffix that are found in
an encoded text are those of the text, encoded (`splitReference_percentChars`). A text that is no
name and suffix in a row is therefore not encoded as one (`NoReference.percentChars`), and decoding
takes the same way back that encoding came (`decodeText?_encodeText`). No encoded item has a comma,
so the items of a list are found between the commas (`splitAt_encodeValue_list`).

**Theorem** (`encodeValue_lossless`): texts, other values and lists can be told from what they are
encoded as.
-/

namespace UrlTemplate

open Template Text

/-! ### Texts -/

/-- An encoded text is cut at a mark that needs no escape as the text is. -/
theorem cutAt?_percentChars {mark : Char} (h : mark ∈ unreservedMarks) (cs : List Char) :
    cutAt? mark (percentChars cs) = (cutAt? mark cs).map (Prod.map percentChars percentChars) := by
  cases hcut : cutAt? mark cs with
  | none =>
    have hmark : mark ∉ cs := cutAt?_eq_none_iff.mp hcut
    exact cutAt?_eq_none_iff.mpr (mt (mem_percentChars_iff h).mp hmark)
  | some cut =>
    obtain ⟨before, after⟩ := cut
    obtain ⟨rfl, hmark⟩ := cutAt?_eq_some_iff.mp hcut
    refine cutAt?_eq_some_iff.mpr ⟨?_, mt (mem_percentChars_iff h).mp hmark⟩
    rw [percentChars_append, percentChars_mark h]

/-- The name and the suffix in an encoded text are those in the text, encoded. -/
theorem splitReference_percentChars (cs : List Char) :
    splitReference (percentChars cs) =
      Prod.map percentChars percentChars (splitReference cs) := by
  have hopen : '(' ∈ unreservedMarks := by decide
  have hclose : ')' ∈ unreservedMarks := by decide
  unfold splitReference
  rw [cutAt?_percentChars hopen]
  cases cutAt? '(' cs with
  | none => rfl
  | some cut =>
    simp only [Option.map_some, Prod.map, cutAt?_percentChars hclose]
    cases cutAt? ')' cut.2 with
    | none => rfl
    | some cut' =>
      simp only [Option.map_some, Prod.map, List.cons_append, percentChars_mark hopen,
        percentChars_append, percentChars_mark hclose, percentChars_nil]

variable {name suffix cs : List Char}

/-- The name of a reference is encoded, and its suffix is kept. -/
theorem encodeText_append (hname : '(' ∉ name) (hsuffix : IsSuffix suffix) :
    encodeText (name ++ suffix) = percentChars name ++ suffix := by
  unfold encodeText
  simp only [splitReference_append hname hsuffix, if_true]

/-- A text without an opening parenthesis is encoded as a whole. -/
theorem encodeText_of_not_mem (h : '(' ∉ cs) : encodeText cs = percentChars cs := by
  have hwhole := encodeText_append h .none
  rwa [List.append_nil, List.append_nil] at hwhole

/-- The name of a reference is decoded, and its suffix is kept. -/
theorem decodeText?_append (hname : '(' ∉ name) (hsuffix : IsSuffix suffix) :
    decodeText? (name ++ suffix) = (percentDecodeChars? name).map (· ++ suffix) := by
  unfold decodeText?
  simp only [splitReference_append hname hsuffix, if_true]

/-- The text is not a name and a suffix in a row. -/
def NoReference (cs : List Char) : Prop :=
  ∀ name suffix, '(' ∉ name → IsSuffix suffix → cs ≠ name ++ suffix

/-- A text is a name and a suffix in a row in one way at most, that in which it is split. -/
theorem noReference_iff : NoReference cs ↔ (splitReference cs).1 ++ (splitReference cs).2 ≠ cs := by
  constructor
  · intro h heq
    obtain ⟨hname, hsuffix⟩ := splitReference_spec cs
    exact h _ _ hname hsuffix heq.symm
  · rintro h name suffix hname hsuffix rfl
    rw [splitReference_append hname hsuffix] at h
    exact h rfl

/-- Any other text is encoded as a whole. -/
theorem encodeText_of_noReference (h : NoReference cs) : encodeText cs = percentChars cs := by
  unfold encodeText
  exact if_neg (noReference_iff.mp h)

/-- Any other text is decoded as a whole. -/
theorem decodeText?_of_noReference (h : NoReference cs) :
    decodeText? cs = percentDecodeChars? cs := by
  unfold decodeText?
  exact if_neg (noReference_iff.mp h)

/-- Encoding as a whole makes no reference of another text. -/
theorem NoReference.percentChars (h : NoReference cs) : NoReference (percentChars cs) := by
  rw [noReference_iff] at h ⊢
  intro heq
  rw [splitReference_percentChars, Prod.map_fst, Prod.map_snd, ← percentChars_append] at heq
  exact h (percentChars_inj heq)

/-- **An encoded text stands for the text.** -/
theorem decodeText?_encodeText (cs : List Char) : decodeText? (encodeText cs) = some cs := by
  by_cases hcs : (splitReference cs).1 ++ (splitReference cs).2 = cs
  · obtain ⟨hname, hsuffix⟩ := splitReference_spec cs
    have hname' : '(' ∉ Text.percentChars (splitReference cs).1 :=
      mt (mem_percentChars_iff (by decide)).mp hname
    rw [← hcs, encodeText_append hname hsuffix, decodeText?_append hname' hsuffix,
      percentDecodeChars?_percentChars, Option.map_some]
  · have href : NoReference cs := noReference_iff.mpr hcs
    rw [encodeText_of_noReference href, decodeText?_of_noReference href.percentChars,
      percentDecodeChars?_percentChars]

/-- Only nothing is encoded as nothing. -/
theorem encodeText_eq_nil_iff : encodeText cs = [] ↔ cs = [] := by
  have hnil : encodeText [] = [] := by decide +kernel
  constructor
  · intro h
    have hread := decodeText?_encodeText cs
    rw [h, ← hnil, decodeText?_encodeText, Option.some.injEq] at hread
    exact hread.symm
  · rintro rfl
    exact hnil

/-! ### Values -/

/-- A value that is present and no list is encoded as its text. -/
theorem toList_encodeValue {v : Value} (ht : v.truthy = true) (hv : ∀ items, v ≠ .list items) :
    (encodeValue v).toList = encodeText v.textChars := by
  unfold encodeValue
  cases v with
  | list items => exact absurd rfl (hv items)
  | _ => simp only [ht, Bool.not_true, Bool.false_eq_true, if_false, String.toList_ofList]

/-- A text is encoded as such, the empty one too, which does not count as present. -/
theorem toList_encodeValue_str (s : String) :
    (encodeValue (.str s)).toList = encodeText s.toList := by
  by_cases hs : s = ""
  · subst hs
    decide +kernel
  · have ht : (Value.str s).truthy = true := decide_eq_true hs
    exact toList_encodeValue ht (by simp)

/-- A list that has an item is encoded as its items. -/
theorem toList_encodeValue_list {items : List Value} (hne : items ≠ []) :
    (encodeValue (.list items)).toList = encodeItems items := by
  have htruthy : (Value.list items).truthy = true := by
    simpa [Value.truthy] using hne
  unfold encodeValue
  simp only [htruthy, Bool.not_true, Bool.false_eq_true, if_false, String.toList_ofList]

/-- The text of a list is the texts of its items with commas between them. -/
theorem Value.itemTextChars_eq (items : List Value) :
    Value.itemTextChars items = joinChars ',' (items.map Value.textChars) := by
  induction items with
  | nil => simp only [Value.itemTextChars, List.map_nil, joinChars]
  | cons item items ih =>
    cases items with
    | nil => simp only [Value.itemTextChars, List.map_cons, List.map_nil, joinChars]
    | cons next items =>
      rw [Value.itemTextChars, ih]
      simp only [List.map_cons, joinChars]

/-- The items of a list are encoded between commas. -/
theorem splitAt_encodeValue_list {items : List Value} (hne : items ≠ []) :
    splitAt ',' (encodeValue (.list items)) = items.map fun item => percentEncode item.text := by
  have hparts : (items.map fun item => percentChars item.textChars) ≠ [] := by
    simpa using hne
  have hcomma : ∀ part ∈ items.map fun item => percentChars item.textChars, ',' ∉ part := by
    intro part hpart
    obtain ⟨item, -, rfl⟩ := List.mem_map.mp hpart
    exact not_mem_percentChars (by decide) (by decide) _
  unfold splitAt
  simp only [toList_encodeValue_list hne, encodeItems, splitChars_joinChars hparts hcomma,
    List.map_map, percentEncode, Value.toList_text]
  rfl

/-- A value that is present and no list is read back as its text. -/
theorem decodeText?_encodeValue {v : Value} (ht : v.truthy = true)
    (hv : ∀ items, v ≠ .list items) :
    decodeText? (encodeValue v).toList = some v.text.toList := by
  rw [toList_encodeValue ht hv, decodeText?_encodeText, Value.toList_text]

/-- A text is read back, the empty one too, which does not count as present. -/
theorem decodeText?_encodeValue_str (s : String) :
    decodeText? (encodeValue (.str s)).toList = some s.toList := by
  rw [toList_encodeValue_str, decodeText?_encodeText]

/-- The items of a list are read back as their texts. -/
theorem map_percentDecode?_encodeValue_list {items : List Value} (hne : items ≠ []) :
    (splitAt ',' (encodeValue (.list items))).map percentDecode? =
      items.map fun item => some item.text := by
  rw [splitAt_encodeValue_list hne, List.map_map]
  refine List.map_congr_left ?_
  intro item _
  rw [Function.comp_apply, percentDecode?_percentEncode]

/-- **Encoding loses nothing: a text and every other value that is present can be read back as its
text, and a list as the texts of its items. So different texts are encoded differently, and so are
different lists of texts that have an item.** -/
theorem encodeValue_lossless :
    (∀ s : String, decodeText? (encodeValue (.str s)).toList = some s.toList) ∧
    (∀ v : Value, v.truthy = true → (∀ items, v ≠ .list items) →
      decodeText? (encodeValue v).toList = some v.text.toList) ∧
    (∀ items : List Value, items ≠ [] →
      (splitAt ',' (encodeValue (.list items))).map percentDecode? =
        items.map fun item => some item.text) ∧
    (∀ s t : String, encodeValue (.str s) = encodeValue (.str t) → s = t) ∧
    ∀ ss ts : List String, ss ≠ [] → ts ≠ [] →
      encodeValue (.list (ss.map .str)) = encodeValue (.list (ts.map .str)) → ss = ts := by
  refine ⟨decodeText?_encodeValue_str, fun v => decodeText?_encodeValue,
    fun items => map_percentDecode?_encodeValue_list, ?_, ?_⟩
  · intro s t heq
    have hread := decodeText?_encodeValue_str s
    rw [heq, decodeText?_encodeValue_str, Option.some.injEq, String.toList_inj] at hread
    exact hread.symm
  · intro ss ts hss hts heq
    have hread {texts : List String} (hne : texts ≠ []) :
        (splitAt ',' (encodeValue (.list (texts.map .str)))).map percentDecode? =
          texts.map some := by
      rw [map_percentDecode?_encodeValue_list (mt List.map_eq_nil_iff.mp hne), List.map_map]
      refine List.map_congr_left ?_
      intro text _
      rw [Function.comp_apply, Value.text_str]
    have hsame := hread hss
    rw [heq, hread hts] at hsame
    exact ((List.map_inj_right fun _ _ => Option.some.inj).mp hsame).symm

/-- A blank is escaped in a name and kept in a suffix; a comma inside an item separates nothing. -/
theorem encodeValue_lossless_reference :
    encodeValue (.str "a b(c d)") = "a%20b(c d)" ∧
    decodeText? "a%20b(c d)".toList = some "a b(c d)".toList ∧
    (splitAt ',' (encodeValue (.list [.str "a,b", .str "("]))).map percentDecode? =
      [some "a,b", some "("] := by
  have hencoded : encodeValue (.str "a b(c d)") = "a%20b(c d)" := by decide +kernel
  obtain ⟨-, hvalue, hitems, -, -⟩ := encodeValue_lossless
  have hread := hvalue (.str "a b(c d)") (by decide) (by simp)
  rw [hencoded, Value.text_str] at hread
  have hlist := hitems [.str "a,b", .str "("] (by simp)
  simp only [List.map_cons, List.map_nil, Value.text_str] at hlist
  exact ⟨hencoded, hread, hlist⟩

end UrlTemplate
