import UrlTemplate.Proofs.Encoding
import UrlTemplate.Proofs.Filter.Chain
import UrlTemplate.Proofs.Session

/-!
# Base 64 in URLs

The bytes of a text are read back from their code in base 64 (`Base64.decode?_encode`). Of its
alphabet only `+`, `/` and `=` are escaped in a URL, so the encoded code consists of letters, digits
and three escapes (`UrlCode`), and no part of it can be taken for a suffix of arguments. A chain
that ends in the filter `base64` ends with the code of the text of the value that reaches that
filter (`Registry.applySegment_base64`).

**Theorem** (`Service.base64_from_url`): at every point of every session, that text can be read back
from the URL.
-/

namespace UrlTemplate

open Template Text

/-! ### Reading the code back -/

namespace Base64

/-- Padding is no digit. -/
theorem digit_ne_padding : ∀ n < 64, digit n ≠ '=' := by decide

/-- A byte is the last byte of a number. -/
theorem ofNat_eq_of_mod {n : Nat} {b : UInt8} (h : n % 256 = b.toNat) : UInt8.ofNat n = b := by
  rw [← UInt8.toNat_inj, UInt8.toNat_ofNat', h]

/-- Two digits with padding are one byte, if they leave nothing. -/
theorem decode?_one {p q : Nat} (hp : p < 64) (hq : q < 64) (h : (p * 64 + q) % 16 = 0) :
    decode? [digit p, digit q, '=', '='] = some [UInt8.ofNat ((p * 64 + q) / 16)] := by
  simp only [decode?, value?_digit p hp, value?_digit q hq, Option.bind_eq_bind, Option.bind_some,
    if_pos h]
  rfl

/-- Three digits with padding are two bytes, if they leave nothing. -/
theorem decode?_two {p q r : Nat} (hp : p < 64) (hq : q < 64) (hr : r < 64)
    (h : ((p * 64 + q) * 64 + r) % 4 = 0) :
    decode? [digit p, digit q, digit r, '='] =
      some [UInt8.ofNat (((p * 64 + q) * 64 + r) / 1024),
        UInt8.ofNat (((p * 64 + q) * 64 + r) / 4)] := by
  rw [decode?]
  · simp only [value?_digit p hp, value?_digit q hq, value?_digit r hr, Option.bind_eq_bind,
      Option.bind_some, if_pos h]
    rfl
  · exact digit_ne_padding r hr

/-- Four digits are three bytes. -/
theorem decode?_three {p q r s : Nat} (hp : p < 64) (hq : q < 64) (hr : r < 64) (hs : s < 64)
    (rest : List Char) :
    let n := ((p * 64 + q) * 64 + r) * 64 + s
    decode? (digit p :: digit q :: digit r :: digit s :: rest) =
      (decode? rest).map fun bytes =>
        UInt8.ofNat (n / 65536) :: UInt8.ofNat (n / 256) :: UInt8.ofNat n :: bytes := by
  intro n
  rw [decode?]
  · simp only [value?_digit p hp, value?_digit q hq, value?_digit r hr, value?_digit s hs,
      Option.bind_eq_bind, Option.bind_some]
    cases decode? rest <;> rfl
  · exact fun _ hpadding => absurd hpadding (digit_ne_padding s hs)
  · exact fun hpadding => absurd hpadding (digit_ne_padding s hs)

/-- **The code of some bytes is read back as those bytes.** -/
theorem decode?_encode (bs : List UInt8) : decode? (encode bs) = some bs := by
  induction bs using encode.induct with
  | case1 => rfl
  | case2 a =>
    have ha := a.toNat_lt
    rw [encode, decode?_one (by omega) (by omega) (by omega), ofNat_eq_of_mod (b := a) (by omega)]
  | case3 a b =>
    have ha := a.toNat_lt
    have hb := b.toNat_lt
    rw [encode, decode?_two (by omega) (by omega) (by omega) (by omega),
      ofNat_eq_of_mod (b := a) (by omega), ofNat_eq_of_mod (b := b) (by omega)]
  | case4 a b c rest ih =>
    have ha := a.toNat_lt
    have hb := b.toNat_lt
    have hc := c.toNat_lt
    rw [encode, decode?_three (by omega) (by omega) (by omega) (by omega), ih, Option.map_some,
      ofNat_eq_of_mod (b := a) (by omega), ofNat_eq_of_mod (b := b) (by omega),
      ofNat_eq_of_mod (b := c) (by omega)]

/-- A code consists of digits and padding. -/
theorem mem_encode (bs : List UInt8) : ∀ c ∈ encode bs, c = '=' ∨ ∃ n < 64, c = digit n := by
  have hdigit {n : Nat} (hn : n < 64) : digit n = '=' ∨ ∃ m < 64, digit n = digit m :=
    .inr ⟨n, hn, rfl⟩
  induction bs using encode.induct with
  | case1 => simp [encode]
  | case2 a =>
    have ha := a.toNat_lt
    simp only [encode, List.forall_mem_cons]
    exact ⟨hdigit (by omega), hdigit (by omega), .inl trivial, .inl trivial, by simp⟩
  | case3 a b =>
    have ha := a.toNat_lt
    have hb := b.toNat_lt
    simp only [encode, List.forall_mem_cons]
    exact ⟨hdigit (by omega), hdigit (by omega), hdigit (by omega), .inl trivial, by simp⟩
  | case4 a b c rest ih =>
    have ha := a.toNat_lt
    have hb := b.toNat_lt
    have hc := c.toNat_lt
    simp only [encode, List.forall_mem_cons]
    exact ⟨hdigit (by omega), hdigit (by omega), hdigit (by omega), hdigit (by omega), ih⟩

end Base64

/-! ### The code in a URL -/

/-- What stands for `+`, `/` and `=` in a URL. -/
def codeEscapes : List (List Char) :=
  [['%', '2', 'B'], ['%', '2', 'F'], ['%', '3', 'D']]

/-- A text of letters, digits and the escapes for the other characters of codes. -/
inductive UrlCode : List Char → Prop
  | nil : UrlCode []
  | kept {c : Char} {rest : List Char} (hc : c.isAlphanum = true) (h : UrlCode rest) :
      UrlCode (c :: rest)
  | escape {code rest : List Char} (hcode : code ∈ codeEscapes) (h : UrlCode rest) :
      UrlCode (code ++ rest)

/-- Such a text has letters, digits and percent signs only. -/
theorem UrlCode.isAlphanum_of_mem {cs : List Char} (h : UrlCode cs) :
    ∀ c ∈ cs, c.isAlphanum = true ∨ c = '%' := by
  have hescapes : ∀ code ∈ codeEscapes, code.all fun c => c.isAlphanum || c == '%' := by decide
  induction h with
  | nil => simp
  | kept hc _ ih => exact List.forall_mem_cons.mpr ⟨.inl hc, ih⟩
  | escape hcode _ ih =>
    refine List.forall_mem_append.mpr ⟨fun c hc => ?_, ih⟩
    have hone := List.all_eq_true.mp (hescapes _ hcode) c hc
    rwa [Bool.or_eq_true, beq_iff_eq] at hone

/-- Digits and padding are encoded as letters, digits and those escapes. -/
theorem urlCode_percentChars {cs : List Char}
    (h : ∀ c ∈ cs, c = '=' ∨ ∃ n < 64, c = Base64.digit n) : UrlCode (percentChars cs) := by
  have hdigit : ∀ n < 64, percentChars [Base64.digit n] ∈ codeEscapes ∨
      (Base64.digit n).isAlphanum = true ∧ percentChars [Base64.digit n] = [Base64.digit n] := by
    decide +kernel
  induction cs with
  | nil => exact .nil
  | cons c cs ih =>
    obtain ⟨hc, hrest⟩ := List.forall_mem_cons.mp h
    rw [← List.singleton_append, percentChars_append]
    rcases hc with rfl | ⟨n, hn, rfl⟩
    · exact .escape (by decide +kernel) (ih hrest)
    · rcases hdigit n hn with hescape | ⟨halnum, hself⟩
      · exact .escape hescape (ih hrest)
      · rw [hself]
        exact .kept halnum (ih hrest)

namespace Builtin

variable (t : String)

/-- The code of a text is encoded for a URL as a whole, and nothing of it is kept for arguments. -/
theorem encodeValue_base64Text :
    encodeValue (.str (base64Text t)) = percentEncode (base64Text t) := by
  have hopen : '(' ∉ Base64.encode (bytes t) := by
    have hdigit : ∀ n < 64, Base64.digit n ≠ '(' := by decide
    intro hmem
    rcases Base64.mem_encode _ _ hmem with heq | ⟨n, hn, heq⟩
    · exact absurd heq (by decide)
    · exact hdigit n hn heq.symm
  rw [← String.toList_inj, toList_encodeValue_str, base64Text, String.toList_ofList,
    encodeText_of_not_mem hopen, percentEncode, String.toList_ofList, String.toList_ofList]

/-- The code of a text in a URL. -/
theorem urlCode_base64Text : UrlCode (encodeValue (.str (base64Text t))).toList := by
  rw [encodeValue_base64Text, percentEncode, base64Text, String.toList_ofList,
    String.toList_ofList]
  exact urlCode_percentChars (Base64.mem_encode _)

/-- The code of a text in a URL has no parenthesis. -/
theorem not_mem_encodeValue_base64Text : '(' ∉ (encodeValue (.str (base64Text t))).toList := by
  intro hmem
  rcases (urlCode_base64Text t).isAlphanum_of_mem _ hmem with halnum | heq
  · exact absurd halnum (by decide)
  · exact absurd heq (by decide)

/-- The bytes of a text are read back from its code in a URL. -/
theorem decode?_encodeValue_base64Text :
    (percentDecode? (encodeValue (.str (base64Text t)))).bind (Base64.decode? ·.toList) =
      some (bytes t) := by
  rw [encodeValue_base64Text, percentDecode?_percentEncode, Option.bind_some, base64Text,
    String.toList_ofList, Base64.decode?_encode]

end Builtin

/-- Texts with the same bytes are the same. -/
theorem bytes_injective {s t : String} (h : bytes s = bytes t) : s = t := by
  have hread (u : String) : (bytes u).toByteArray.utf8Decode? = some u.toList.toArray :=
    List.utf8Decode?_utf8Encode
  have hsame := hread s
  rw [h, hread t] at hsame
  exact String.toList_inj.mp (List.toArray_inj (Option.some.inj hsame)).symm

/-! ### Chains that end in the filter -/

/-- A segment that calls `base64` makes the code of the text of a value that can be written, also of
one that is pending. -/
theorem Registry.applySegment_base64 {r : Registry}
    (hr : r.get? "base64" = some (builtinHandler .base64)) {segment : String}
    (hsegment : Calls "base64" segment) {item : Item} {w : Value}
    (hitem : item = .ready w ∨ item = .pending (.ready w)) (hw : w.fault? .text = none) :
    (r.applySegment item segment).2 = .ready (.str (Builtin.base64Text w.text)) := by
  obtain ⟨call, hparse, hname⟩ := hsegment
  have hget : r.get? call.name = some (builtinHandler .base64) := by rw [hname, hr]
  have hrun : ((builtinHandler .base64).run r.context item call.args).outcome =
      .ok (.ready (.str (Builtin.base64Text w.text))) := by
    have happly : Builtin.base64.apply w (call.args.map .str) =
        .ok (.str (Builtin.base64Text w.text)) := by
      unfold Builtin.apply
      rw [Value.written_of_none hw]
      rfl
    have hready : Builtin.base64.applyItem (.ready w) call.args =
        .ok (.ready (.str (Builtin.base64Text w.text))) := by
      rw [Registry.applyItem_ready, happly]
      rfl
    rcases hitem with rfl | rfl <;> exact hready
  rw [applySegment_of_handler hparse hget, applyHandler_of_ok hrun]

/-- **A text that passes through `base64` can be read back from a URL.** At every point of every
session, a chain that ends in `base64` ends with the code of the text of the value that reaches this
filter, pending or not, unless the value cannot be written; as long as all filters answer values
with values, there always is one. The URL for it has letters, digits and the escapes for the other
characters of codes only, so nothing of it is kept for arguments. Decoding the URL and then the code
gives the bytes of the text, so values with another text have another URL. -/
theorem Service.base64_from_url {s : Service} (hs : s.Reachable) {segment : String}
    (hsegment : Calls "base64" segment) (v : Value) (front : List String) :
    (s.registry.ReturnsValues → ∃ w, (s.registry.applyFilters (.ready v) front).2 = .ready w) ∧
    ∀ w, (s.registry.applyFilters (.ready v) front).2 = .ready w ∨
        (s.registry.applyFilters (.ready v) front).2 = .pending (.ready w) →
      let code := Builtin.base64Text w.text
      (w.fault? .text = none →
          (s.registry.applyFilters (.ready v) (front ++ [segment])).2 = .ready (.str code)) ∧
        (percentDecode? (encodeValue (.str code))).bind (Base64.decode? ·.toList) =
          some (bytes w.text) ∧
        UrlCode (encodeValue (.str code)).toList ∧ '(' ∉ (encodeValue (.str code)).toList ∧
        ∀ w' : Value, encodeValue (.str (Builtin.base64Text w'.text)) = encodeValue (.str code) →
          w'.text = w.text := by
  refine ⟨fun hvalues => hvalues.applyFilters v front, fun w hw => ?_⟩
  have hbase64 : s.registry.get? "base64" = some (Registry.builtinHandler .base64) :=
    hs.get?_builtin rfl
  refine ⟨fun hfault => ?_, Builtin.decode?_encodeValue_base64Text _,
    Builtin.urlCode_base64Text _, Builtin.not_mem_encodeValue_base64Text _, fun w' heq => ?_⟩
  · rw [Registry.applyFilters_append, Registry.applyFilters_cons, Registry.applyFilters_nil]
    exact Registry.applySegment_base64 hbase64 hsegment hw hfault
  · have hread := Builtin.decode?_encodeValue_base64Text w'.text
    rw [heq, Builtin.decode?_encodeValue_base64Text, Option.some.injEq] at hread
    exact (bytes_injective hread).symm

/-- Behind a filter that refuses the value, the items of a list go through `base64`; they could be
taken for arguments. -/
theorem Service.base64_from_url_past_refusal :
    let s := Service.new none 2 true true none
    let items := Value.list [.str "f(?", .str "x)", .null]
    items.text = "f(?,x)," ∧
    (s.registry.applyFilters (.ready items) ["trim"]).2 = .ready items ∧
    let code := Builtin.base64Text items.text
    (s.registry.applyFilters (.ready items) (["trim"] ++ ["base64:y"])).2 = .ready (.str code) ∧
      (percentDecode? (encodeValue (.str code))).bind (Base64.decode? ·.toList) =
        some (bytes items.text) ∧
      UrlCode (encodeValue (.str code)).toList := by
  intro s items
  have hs : s.Reachable := .new none 2 true true none
  have hcalls : Calls "base64" "base64:y" := by decide +kernel
  have htext : items.text = "f(?,x)," := by decide +kernel
  have htrim : (s.registry.applyFilters (.ready items) ["trim"]).2 = .ready items := by
    decide +kernel
  obtain ⟨hcode, hread, hurl, -, -⟩ :=
    (base64_from_url hs hcalls items ["trim"]).2 items (.inl htrim)
  exact ⟨htext, htrim, hcode (by decide +kernel), hread, hurl⟩

end UrlTemplate
