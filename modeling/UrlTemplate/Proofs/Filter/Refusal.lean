import UrlTemplate.Filter.Builtin
import UrlTemplate.Proofs.Double

/-!
# What built-in filters refuse

A built-in filter refuses a value that is no text, or an argument that is no number. There are two
failures of another kind. A whole number can be beyond the range of doubles, and `substr` converts
its arguments to doubles before it looks at them. And there are values that cannot be written
(`Value.fault?`): `json` and `base64` write their value, and `substr` writes the argument that it
refuses into its message.

`Builtin.Refuses` lists all the ways of failing, and a filter fails exactly in these ways
(`Builtin.apply_eq_error_iff`). **Theorem** (`Builtin.apply_refusals`): which failures are not about
the kind of the value or of an argument, and when each of them comes up.
-/

namespace UrlTemplate

/-- Whether a failure reports that the value or an argument is not of the kind that is asked for. -/
def FilterError.isArgument : FilterError → Bool
  | .expectsText _ _ | .expectsUnicode _ | .notANumber _ _ | .refused _ => true
  | .outOfRange | .alreadyAwaited | .notSerializable | .unwritable _ | .raised _ => false

/-! ### Strings that are texts -/

namespace Value

mutual

/-- Whether every string inside a value is a text. -/
def isUnicode : Value → Bool
  | .brokenText => false
  | .list items => itemsAreUnicode items
  | .object fields => fieldsAreUnicode fields
  | _ => true

/-- Whether every string inside the items of a list is a text. -/
def itemsAreUnicode : List Value → Bool
  | [] => true
  | v :: rest => isUnicode v && itemsAreUnicode rest

/-- Whether every string inside the fields of an object is a text. -/
def fieldsAreUnicode : List (String × Value) → Bool
  | [] => true
  | (_, v) :: rest => isUnicode v && fieldsAreUnicode rest

end

mutual

/-- A value whose strings are texts has no string that cannot be written. -/
theorem faultWithin_ne_brokenText (writing : Writing) (room : Nat) :
    (v : Value) → v.isUnicode = true → faultWithin writing room v ≠ some .brokenText
  | .null, _ | .bool _, _ | .float _, _ | .str _, _ => by simp [faultWithin]
  | .brokenText, h => by simp [isUnicode] at h
  | .int n, _ => by
    rw [faultWithin]
    split <;> simp
  | .list items, h => by
    rw [isUnicode] at h
    rw [faultWithin]
    split
    · simp
    · exact itemsFaultWithin_ne_brokenText writing _ items h
  | .object fields, h => by
    rw [isUnicode] at h
    rw [faultWithin]
    split
    · simp
    · exact fieldsFaultWithin_ne_brokenText writing.inObjects _ fields h

/-- Items whose strings are texts have no string that cannot be written. -/
theorem itemsFaultWithin_ne_brokenText (writing : Writing) (room : Nat) :
    (items : List Value) → itemsAreUnicode items = true →
      itemsFaultWithin writing room items ≠ some .brokenText
  | [], _ => by simp [itemsFaultWithin]
  | v :: rest, h => by
    rw [itemsAreUnicode, Bool.and_eq_true] at h
    rw [itemsFaultWithin, Ne, Option.or_eq_some_iff]
    rintro (hv | ⟨-, hrest⟩)
    · exact faultWithin_ne_brokenText writing room v h.1 hv
    · exact itemsFaultWithin_ne_brokenText writing room rest h.2 hrest

/-- Fields whose strings are texts have no string that cannot be written. -/
theorem fieldsFaultWithin_ne_brokenText (writing : Writing) (room : Nat) :
    (fields : List (String × Value)) → fieldsAreUnicode fields = true →
      fieldsFaultWithin writing room fields ≠ some .brokenText
  | [], _ => by simp [fieldsFaultWithin]
  | (_, v) :: rest, h => by
    rw [fieldsAreUnicode, Bool.and_eq_true] at h
    rw [fieldsFaultWithin, Ne, Option.or_eq_some_iff]
    rintro (hv | ⟨-, hrest⟩)
    · exact faultWithin_ne_brokenText writing room v h.1 hv
    · exact fieldsFaultWithin_ne_brokenText writing room rest h.2 hrest

end

end Value

namespace Builtin

/-! ### Numbers -/

/-- Why an argument is no whole number. -/
inductive Faulty (label : String) : Value → FilterError → Prop
  /-- The argument stands for no number, or for one that is not finite. -/
  | notFinite {arg : Value} {x : Double} (hnumber : number arg = .ok x) (hx : ¬ x.isFinite) :
      Faulty label arg (notFinite label arg)
  /-- The argument is a whole number beyond the range of doubles. -/
  | oversize {n : Int} (hn : Double.Oversize n) : Faulty label (.int n) .outOfRange

variable {label : String} {arg : Value}

/-- An argument stands for a double unless it is a whole number beyond their range. -/
theorem number_eq_error_iff {e : FilterError} :
    number arg = .error e ↔ e = .outOfRange ∧ ∃ n, arg = .int n ∧ Double.Oversize n := by
  cases arg with
  | int n =>
    have hnumber : number (.int n) = (Double.ofInt? n).elim (.error .outOfRange) .ok := rfl
    rw [hnumber]
    cases hn : Double.ofInt? n with
    | none => simp [Double.ofInt?_eq_none_iff.mp hn, eq_comm]
    | some x => simp [← Double.ofInt?_eq_none_iff, hn]
  | _ => simp [number]

/-- An argument that is not finite is refused, or cannot be written into the message. -/
theorem notFinite_eq (label : String) (arg : Value) :
    notFinite label arg =
      (arg.fault? .message).elim (.notANumber label arg.quoted) .unwritable := by
  unfold notFinite
  cases h : arg.fault? .message with
  | none =>
    rw [Value.written_of_none h]
    rfl
  | some fault =>
    rw [Value.written_of_some h]
    rfl

/-- An argument as a whole number is the number that it stands for, cut off. -/
theorem wholeNumber_of_number {x : Double} (h : number arg = .ok x) :
    wholeNumber label arg = x.truncate?.elim (.error (notFinite label arg)) .ok := by
  unfold wholeNumber
  rw [h]
  cases hx : x.truncate? <;> simp [bind, Except.bind, hx]

/-- The faults are what keeps an argument from being a whole number. -/
theorem wholeNumber_eq_error_iff {e : FilterError} :
    wholeNumber label arg = .error e ↔ Faulty label arg e := by
  constructor
  · intro h
    cases hnumber : number arg with
    | error e' =>
      obtain ⟨rfl, n, rfl, hn⟩ := number_eq_error_iff.mp hnumber
      unfold wholeNumber at h
      rw [hnumber] at h
      obtain rfl := Except.error.inj h
      exact .oversize hn
    | ok x =>
      rw [wholeNumber_of_number hnumber] at h
      cases hx : x.truncate? with
      | none =>
        rw [hx] at h
        obtain rfl := Except.error.inj h
        exact .notFinite hnumber (Double.truncate?_eq_none_iff.mp hx)
      | some n =>
        rw [hx] at h
        cases h
  · intro h
    cases h with
    | notFinite hnumber hx =>
      rw [wholeNumber_of_number hnumber, Double.truncate?_eq_none_iff.mpr hx]
      rfl
    | oversize hn =>
      unfold wholeNumber
      rw [number_eq_error_iff.mpr ⟨rfl, _, rfl, hn⟩]
      rfl

/-- The argument is no finite number, and cannot be written into the message that says so. -/
def Unshown (arg : Value) (fault : WriteFault) : Prop :=
  (∃ x, number arg = .ok x ∧ ¬ x.isFinite) ∧ arg.fault? .message = some fault

/-- A faulty argument is reported, but for a whole number beyond the range of doubles and for an
argument that cannot be written. -/
theorem Faulty.isArgument {e : FilterError} (h : Faulty label arg e) :
    e.isArgument ∨ e = .outOfRange ∨ ∃ fault, e = .unwritable fault := by
  cases h with
  | notFinite =>
    rw [notFinite_eq]
    cases arg.fault? .message with
    | none => exact .inl rfl
    | some fault => exact .inr (.inr ⟨fault, rfl⟩)
  | oversize => exact .inr (.inl rfl)

/-- An argument is beyond the range of doubles exactly if it is a whole number that is. -/
theorem faulty_outOfRange_iff :
    Faulty label arg .outOfRange ↔ ∃ n, arg = .int n ∧ Double.Oversize n := by
  constructor
  · intro h
    generalize he : FilterError.outOfRange = e at h
    cases h with
    | notFinite =>
      rw [notFinite_eq] at he
      cases hfault : arg.fault? .message <;> simp [hfault] at he
    | oversize hn => exact ⟨_, rfl, hn⟩
  · rintro ⟨n, rfl, hn⟩
    exact .oversize hn

/-- An argument cannot be shown exactly if it is not finite and cannot be written. -/
theorem faulty_unwritable_iff {fault : WriteFault} :
    Faulty label arg (.unwritable fault) ↔ Unshown arg fault := by
  constructor
  · intro h
    generalize he : FilterError.unwritable fault = e at h
    cases h with
    | notFinite hnumber hx =>
      rw [notFinite_eq] at he
      cases hfault : arg.fault? .message with
      | none => simp [hfault] at he
      | some other =>
        simp only [hfault, Option.elim_some, FilterError.unwritable.injEq] at he
        exact ⟨⟨_, hnumber, hx⟩, hfault.trans (congrArg some he.symm)⟩
    | oversize => cases he
  · rintro ⟨⟨x, hnumber, hx⟩, hfault⟩
    have hfaulty : Faulty label arg (notFinite label arg) := .notFinite hnumber hx
    rw [notFinite_eq, hfault] at hfaulty
    exact hfaulty

/-! ### The ways of failing -/

/-- A computation in two parts fails in the first one or in the second one. -/
theorem bind_eq_error_iff {α β : Type} {x : Except FilterError α} {f : α → Except FilterError β}
    {e : FilterError} :
    (x >>= f) = .error e ↔ x = .error e ∨ ∃ a, x = .ok a ∧ f a = .error e := by
  cases x <;> simp [bind, Except.bind]

/-- What is made of a result does not fail by itself. -/
theorem map_eq_error_iff {α β : Type} {x : Except FilterError α} {f : α → β} {e : FilterError} :
    x.map f = .error e ↔ x = .error e := by
  cases x <;> simp [Except.map]

/-- The count of characters that a length stands for; `null` stands for none. -/
def count (length : Value) : Except FilterError (Option Int) :=
  if length = .null then .ok none else (wholeNumber "Length" length).map some

/-- A slice needs a start, and then a count. -/
theorem substring_eq (s : String) (start length : Value) :
    substring s start length = wholeNumber "Start index" start >>= fun begin =>
      (count length).map fun count => slice s begin count := by
  unfold substring
  refine congrArg (wholeNumber "Start index" start).bind (funext fun begin => ?_)
  split
  · rfl
  · rename_i hlength
    rw [count, if_neg hlength]
    cases wholeNumber "Length" length <;> rfl

/-- A length that is given is refused for its faults. -/
theorem count_eq_error_iff {length : Value} {e : FilterError} :
    count length = .error e ↔ length ≠ .null ∧ Faulty "Length" length e := by
  by_cases hlength : length = .null
  · simp [count, hlength]
  · simp [count, hlength, map_eq_error_iff, wholeNumber_eq_error_iff]

/-- A slice fails for the faults of its start, and behind a start without one for those of its
length. -/
theorem substring_eq_error_iff {s : String} {start length : Value} {e : FilterError} :
    substring s start length = .error e ↔
      Faulty "Start index" start e ∨
        ∃ begin, wholeNumber "Start index" start = .ok begin ∧
          length ≠ .null ∧ Faulty "Length" length e := by
  simp only [substring_eq, bind_eq_error_iff, map_eq_error_iff, wholeNumber_eq_error_iff,
    count_eq_error_iff]

/-- A filter that works on texts refuses everything else. -/
theorem requireText_eq_error_iff {filter : Builtin} {v : Value} {e : FilterError} :
    requireText filter v = .error e ↔ (∀ s, v ≠ .str s) ∧ filter.notText v = e := by
  cases v <;> simp [requireText]

/-- A filter that works on texts takes every text. -/
theorem requireText_eq_ok_iff {filter : Builtin} {v : Value} {s : String} :
    requireText filter v = .ok s ↔ v = .str s := by
  cases v <;> simp [requireText]

/-- A refused value is reported. -/
theorem isArgument_notText (filter : Builtin) (v : Value) : (filter.notText v).isArgument := by
  cases v <;> rfl

/-- Whether a filter works on texts only. -/
def readsText : Builtin → Bool
  | .substr | .trim | .toLowerCase | .toUpperCase => true
  | .default | .json | .not | .base64 | .if => false

/-- How a filter writes its value, if it does. -/
def writing? : Builtin → Option Writing
  | .json => some .json
  | .base64 => some .text
  | _ => none

/-- The ways in which a built-in filter can fail on a value and arguments. -/
inductive Refuses (v : Value) (args : List Value) : Builtin → FilterError → Prop
  /-- The filter works on texts and the value is none. -/
  | value {filter : Builtin} (hfilter : filter.readsText) (hv : ∀ s, v ≠ .str s) :
      Refuses v args filter (filter.notText v)
  /-- The filter writes its value and that cannot be written. -/
  | unwritable {filter : Builtin} {writing : Writing} {fault : WriteFault}
      (hfilter : filter.writing? = some writing) (hfault : v.fault? writing = some fault) :
      Refuses v args filter (.unwritable fault)
  /-- The start of a slice is not given, or is no whole number. -/
  | start {s : String} {e : FilterError} (hv : v = .str s)
      (hstart : Faulty "Start index" (args.headD .null) e) : Refuses v args .substr e
  /-- The length of a slice is given and is no whole number. -/
  | length {s : String} {begin : Int} {e : FilterError} (hv : v = .str s)
      (hstart : wholeNumber "Start index" (args.headD .null) = .ok begin)
      (hgiven : args.tail.headD .null ≠ .null)
      (hlength : Faulty "Length" (args.tail.headD .null) e) : Refuses v args .substr e

variable {v : Value} {args : List Value} {e : FilterError}

/-- What works on a text, other than `substr`, fails exactly if the value is none. -/
theorem refuses_iff_of_readsText {filter : Builtin} (hsubstr : filter ≠ .substr)
    (h : filter.readsText) : Refuses v args filter e ↔ requireText filter v = .error e := by
  rw [requireText_eq_error_iff]
  constructor
  · intro hrefuses
    cases hrefuses with
    | value _ hv => exact ⟨hv, rfl⟩
    | unwritable hfilter =>
      revert h hfilter
      cases filter <;> simp [readsText, writing?]
    | start => exact absurd rfl hsubstr
    | length => exact absurd rfl hsubstr
  · rintro ⟨hv, rfl⟩
    exact .value h hv

/-- What writes its value fails exactly if that cannot be written. -/
theorem refuses_iff_of_writing {filter : Builtin} {writing : Writing}
    (h : filter.writing? = some writing) :
    Refuses v args filter e ↔ (v.written writing).mapError .unwritable = .error e := by
  constructor
  · intro hrefuses
    cases hrefuses with
    | value hfilter =>
      revert h hfilter
      cases filter <;> simp [readsText, writing?]
    | unwritable hfilter hfault =>
      obtain rfl := Option.some.inj (h.symm.trans hfilter)
      rw [Value.written_of_some hfault]
      rfl
    | start => cases h
    | length => cases h
  · intro hrefuses
    cases hfault : v.fault? writing with
    | none =>
      rw [Value.written_of_none hfault] at hrefuses
      cases hrefuses
    | some fault =>
      rw [Value.written_of_some hfault] at hrefuses
      rw [← Except.error.inj hrefuses]
      exact .unwritable h hfault

/-- What neither works on texts nor writes its value does not fail. -/
theorem not_refuses {filter : Builtin} (hreads : filter.readsText = false)
    (hwrites : filter.writing? = none) : ¬ Refuses v args filter e := by
  rintro (⟨hfilter, -⟩ | ⟨hfilter, -⟩ | _ | _)
  · simp [hreads] at hfilter
  · simp [hwrites] at hfilter
  · cases hreads
  · cases hreads

/-- The filter `substr` asks for a text and cuts a slice out of it. -/
theorem apply_substr (v : Value) (args : List Value) :
    substr.apply v args = requireText .substr v >>= fun s =>
      substring s (args.headD .null) (args.tail.headD .null) >>= fun slice => .ok (.str slice) :=
  rfl

/-- The filter `substr` fails exactly in the ways that are listed for it. -/
theorem refuses_substr_iff : Refuses v args .substr e ↔ substr.apply v args = .error e := by
  rw [apply_substr, bind_eq_error_iff, requireText_eq_error_iff]
  simp only [requireText_eq_ok_iff, bind_eq_error_iff, substring_eq_error_iff, reduceCtorEq,
    and_false, exists_false, or_false]
  constructor
  · rintro (⟨_, hv⟩ | ⟨hfilter, -⟩ | ⟨hv, hstart⟩ | ⟨hv, hstart, hgiven, hlength⟩)
    · exact .inl ⟨hv, rfl⟩
    · cases hfilter
    · exact .inr ⟨_, hv, .inl hstart⟩
    · exact .inr ⟨_, hv, .inr ⟨_, hstart, hgiven, hlength⟩⟩
  · rintro (⟨hv, rfl⟩ | ⟨s, hv, hstart | ⟨begin, hstart, hgiven, hlength⟩⟩)
    · exact .value rfl hv
    · exact .start hv hstart
    · exact .length hv hstart hgiven hlength

/-- **A built-in filter fails exactly in the ways that are listed.** -/
theorem apply_eq_error_iff {filter : Builtin} :
    filter.apply v args = .error e ↔ Refuses v args filter e := by
  have htext (text : String → String) (x : Except FilterError String) :
      (do return Value.str (text (← x))) = Except.error e ↔ x = .error e := by
    simp [bind_eq_error_iff, pure, Except.pure]
  cases filter with
  | substr => exact refuses_substr_iff.symm
  | trim => exact (htext _ _).trans (refuses_iff_of_readsText (by decide) rfl).symm
  | toLowerCase => exact (htext _ _).trans (refuses_iff_of_readsText (by decide) rfl).symm
  | toUpperCase => exact (htext _ _).trans (refuses_iff_of_readsText (by decide) rfl).symm
  | json => exact (htext id _).trans (refuses_iff_of_writing rfl).symm
  | base64 => exact (htext _ _).trans (refuses_iff_of_writing rfl).symm
  | default => exact iff_of_false nofun (not_refuses rfl rfl)
  | not => exact iff_of_false nofun (not_refuses rfl rfl)
  | «if» => exact iff_of_false nofun (not_refuses rfl rfl)

/-- A failure that reports neither the value nor an argument is that of a number beyond the range of
doubles, or of a value that cannot be written. -/
theorem Refuses.isArgument {filter : Builtin} (h : Refuses v args filter e) :
    e.isArgument ∨ e = .outOfRange ∨ ∃ fault, e = .unwritable fault := by
  cases h with
  | value => exact .inl (isArgument_notText filter v)
  | unwritable => exact .inr (.inr ⟨_, rfl⟩)
  | start _ hstart => exact hstart.isArgument
  | length _ _ _ hlength => exact hlength.isArgument

/-- When a number beyond the range of doubles makes a filter fail. -/
theorem refuses_outOfRange_iff {filter : Builtin} :
    Refuses v args filter .outOfRange ↔
      filter = .substr ∧ (∃ s, v = .str s) ∧ ∃ n, Double.Oversize n ∧
        (args.headD .null = .int n ∨
          (∃ begin, wholeNumber "Start index" (args.headD .null) = .ok begin) ∧
            args.tail.headD .null = .int n) := by
  constructor
  · intro h
    generalize he : FilterError.outOfRange = e at h
    cases h with
    | value => exact absurd (isArgument_notText filter v) (by rw [← he]; decide)
    | unwritable => cases he
    | start hv hstart =>
      obtain ⟨n, hn, hsize⟩ := faulty_outOfRange_iff.mp (he ▸ hstart)
      exact ⟨rfl, ⟨_, hv⟩, n, hsize, .inl hn⟩
    | length hv hstart _ hlength =>
      obtain ⟨n, hn, hsize⟩ := faulty_outOfRange_iff.mp (he ▸ hlength)
      exact ⟨rfl, ⟨_, hv⟩, n, hsize, .inr ⟨⟨_, hstart⟩, hn⟩⟩
  · rintro ⟨rfl, ⟨s, hv⟩, n, hsize, hn | ⟨⟨begin, hstart⟩, hn⟩⟩
    · exact .start hv (faulty_outOfRange_iff.mpr ⟨n, hn, hsize⟩)
    · exact .length hv hstart (hn.trans_ne (by simp)) (faulty_outOfRange_iff.mpr ⟨n, hn, hsize⟩)

/-- When a value that cannot be written makes a filter fail. -/
theorem refuses_unwritable_iff {filter : Builtin} {fault : WriteFault} :
    Refuses v args filter (.unwritable fault) ↔
      (∃ writing, filter.writing? = some writing ∧ v.fault? writing = some fault) ∨
      filter = .substr ∧ (∃ s, v = .str s) ∧
        (Unshown (args.headD .null) fault ∨
          (∃ begin, wholeNumber "Start index" (args.headD .null) = .ok begin) ∧
            args.tail.headD .null ≠ .null ∧ Unshown (args.tail.headD .null) fault) := by
  constructor
  · intro h
    generalize he : FilterError.unwritable fault = e at h
    cases h with
    | value => exact absurd (isArgument_notText filter v) (by rw [← he]; exact Bool.false_ne_true)
    | unwritable hfilter hfault =>
      obtain rfl := FilterError.unwritable.inj he
      exact .inl ⟨_, hfilter, hfault⟩
    | start hv hstart =>
      exact .inr ⟨rfl, ⟨_, hv⟩, .inl (faulty_unwritable_iff.mp (he ▸ hstart))⟩
    | length hv hstart hgiven hlength =>
      exact .inr ⟨rfl, ⟨_, hv⟩,
        .inr ⟨⟨_, hstart⟩, hgiven, faulty_unwritable_iff.mp (he ▸ hlength)⟩⟩
  · rintro (⟨writing, hfilter, hfault⟩ |
      ⟨rfl, ⟨s, hv⟩, hstart | ⟨⟨begin, hstart⟩, hgiven, hlength⟩⟩)
    · exact .unwritable hfilter hfault
    · exact .start hv (faulty_unwritable_iff.mpr hstart)
    · exact .length hv hstart hgiven (faulty_unwritable_iff.mpr hlength)

/-- The values that a filter may write are its value and its arguments. -/
theorem ne_brokenText_of_refuses {filter : Builtin} {fault : WriteFault}
    (h : Refuses v args filter (.unwritable fault)) (hv : v.isUnicode = true)
    (hargs : ∀ arg ∈ args, arg.isUnicode = true) : fault ≠ .brokenText := by
  have hgiven (args : List Value) (hargs : ∀ arg ∈ args, arg.isUnicode = true) :
      (args.headD .null).isUnicode = true := by
    cases args with
    | nil => rfl
    | cons arg rest => exact hargs arg List.mem_cons_self
  rintro rfl
  rcases refuses_unwritable_iff.mp h with
    ⟨writing, -, hfault⟩ | ⟨-, -, ⟨-, hfault⟩ | ⟨-, -, -, hfault⟩⟩
  · exact Value.faultWithin_ne_brokenText writing _ v hv hfault
  · exact Value.faultWithin_ne_brokenText .message _ _ (hgiven args hargs) hfault
  · exact Value.faultWithin_ne_brokenText .message _ _
      (hgiven args.tail fun arg harg => hargs arg (List.mem_of_mem_tail harg)) hfault

/-- **What built-in filters refuse.** On values whose strings are texts a failure reports the value
or an argument, with two exceptions. The conversion to a double fails exactly in `substr` of a text,
if the first argument is a whole number that is too large for a double, or if the second one is such
a number and the first one is a number. And a value cannot be written, because a whole number in it
has too many digits or because it nests too deep: exactly in `json` and `base64` of such a value,
and in `substr` of a text for an argument that is no number. A string that is no text fails in
`base64` too. -/
theorem apply_refusals (filter : Builtin) (hv : v.isUnicode = true)
    (hargs : ∀ arg ∈ args, arg.isUnicode = true) :
    ((∃ w, filter.apply v args = .ok w) ∨
      (∃ e, filter.apply v args = .error e ∧ e.isArgument) ∨
      filter.apply v args = .error .outOfRange ∨
      ∃ fault, filter.apply v args = .error (.unwritable fault) ∧ fault ≠ .brokenText) ∧
    (filter.apply v args = .error .outOfRange ↔
      filter = .substr ∧ (∃ s, v = .str s) ∧ ∃ n, Double.Oversize n ∧
        (args.headD .null = .int n ∨
          (∃ begin, wholeNumber "Start index" (args.headD .null) = .ok begin) ∧
            args.tail.headD .null = .int n)) ∧
    (∀ fault, filter.apply v args = .error (.unwritable fault) ↔
      (∃ writing, filter.writing? = some writing ∧ v.fault? writing = some fault) ∨
      filter = .substr ∧ (∃ s, v = .str s) ∧
        (Unshown (args.headD .null) fault ∨
          (∃ begin, wholeNumber "Start index" (args.headD .null) = .ok begin) ∧
            args.tail.headD .null ≠ .null ∧ Unshown (args.tail.headD .null) fault)) ∧
    base64.apply .brokenText args = .error (.unwritable .brokenText) := by
  refine ⟨?_, apply_eq_error_iff.trans refuses_outOfRange_iff,
    fun fault => apply_eq_error_iff.trans refuses_unwritable_iff, rfl⟩
  cases h : filter.apply v args with
  | ok w => exact .inl ⟨w, rfl⟩
  | error e =>
    have hrefuses := apply_eq_error_iff.mp h
    rcases hrefuses.isArgument with he | rfl | ⟨fault, rfl⟩
    · exact .inr (.inl ⟨e, rfl, he⟩)
    · exact .inr (.inr (.inl rfl))
    · exact .inr (.inr (.inr ⟨fault, rfl, ne_brokenText_of_refuses hrefuses hv hargs⟩))

/-- A number of 5001 digits is refused by the filters that write it, and in a list by `substr`,
which cannot show the list. -/
theorem apply_refusals_of_overlong :
    json.apply (.int (10 ^ 5000)) [] = .error (.unwritable .overlong) ∧
    base64.apply (.int (10 ^ 5000)) [] = .error (.unwritable .overlong) ∧
    substr.apply (.str "a") [.list [.int (10 ^ 5000)]] = .error (.unwritable .overlong) := by
  have hlong : Value.isOverlong (10 ^ 5000) = true := by decide +kernel
  have hfault (writing : Writing) :
      (Value.int (10 ^ 5000)).fault? writing = some .overlong := by
    rw [Value.fault?_int, if_pos hlong]
  have hshown : Unshown (.list [.int (10 ^ 5000)]) .overlong := by
    refine ⟨⟨.nan, rfl, by decide⟩, ?_⟩
    decide +kernel
  have hnone : ∀ arg ∈ ([] : List Value), arg.isUnicode = true := by simp
  refine ⟨?_, ?_, ?_⟩
  · exact ((apply_refusals json rfl hnone).2.2.1 _).mpr (.inl ⟨.json, rfl, hfault .json⟩)
  · exact ((apply_refusals base64 rfl hnone).2.2.1 _).mpr (.inl ⟨.text, rfl, hfault .text⟩)
  · have hargs : ∀ arg ∈ [Value.list [.int (10 ^ 5000)]], arg.isUnicode = true :=
      List.forall_mem_singleton.mpr rfl
    exact ((apply_refusals substr (v := .str "a") rfl hargs).2.2.1 _).mpr
      (.inr ⟨rfl, ⟨"a", rfl⟩, .inl hshown⟩)

/-- A start of 401 digits is refused with a failure that reports neither the value nor an
argument. -/
theorem apply_substr_of_oversize :
    ∃ e, substr.apply (.str "a") [.int (10 ^ 400)] = .error e ∧ ¬ e.isArgument := by
  refine ⟨.outOfRange, ?_, by decide⟩
  have hsize : Double.Oversize (10 ^ 400) := by decide +kernel
  exact apply_eq_error_iff.mpr (.start rfl (.oversize hsize))

end Builtin

end UrlTemplate
