import UrlTemplate.Proofs.Encoding
import UrlTemplate.Proofs.Expansion.Tree
import UrlTemplate.Proofs.Template.RoundTrip

/-!
# Variables that refer to each other in a circle

The text of each variable of a circle is a text that opens no slot, its lead, and then the reference
to the next variable. Such a circle has no last variable, so every budget runs out in it, and the
budget can be read off the answer: each level puts one lead in front of what the levels below it
have left (`Expander.expand_text`), and a level that encodes encodes all of that once more
(`Circle.unrolled_eq`).

**Theorem** (`Service.expandWithin_circle`): a budget `n` yields the leads of the first `n + 1`
variables and then the reference to the next one, and one problem is reported, the text that was
left over. Where answers are encoded, a lead has been encoded once for every reference on the way
to it.
-/

namespace UrlTemplate

open Template Text Observation

/-! ### Circles -/

/-- A variable of a circle: its name, and the text in front of its reference to the next one. -/
structure Link where
  name : String
  lead : String
  named : name ≠ ""
  unpadded : Unpadded name.toList
  free : Free ['(', '|', '}'] name.toList
  plain : Plain lead.toList

/-- Variables of which each one refers to the next one, and the last one to the first one. -/
structure Circle where
  links : List Link
  nonempty : links ≠ []
  distinct : (links.map Link.name).Nodup

namespace Link

variable (link : Link)

/-- The reference to a variable. -/
def slot : String :=
  String.ofList (slotSource link.name.toList)

/-- The reference to a variable as a placeholder, with nothing around the name. -/
def tree : PlaceholderTree :=
  ⟨⟨[], ⟨⟨link.name, ""⟩, link.named, link.unpadded, link.free, .none, free_no_suffix⟩, [],
    .nil, .nil⟩, []⟩

/-- What is written for a reference is the name of the variable. -/
theorem body_tree : link.tree.body = link.name.toList := by
  simp [PlaceholderTree.body, PlaceholderTree.segments, tree, Padded.chars, Reference.text,
    joinChars]

/-- The reference to a variable is read as its name, without suffix and filters. -/
theorem readSlot_name :
    readSlot link.name.toList = .ok ⟨link.slot, ⟨link.name, ""⟩, []⟩ := by
  have hparse := link.tree.parse_body link.slot
  rw [body_tree] at hparse
  exact hparse

/-- A lead and the reference to a variable are one gap and one slot. -/
theorem scan_lead_slot {lead : String} (h : Plain lead.toList) :
    scan (lead ++ link.slot).toList = ⟨[⟨lead.toList, link.name.toList⟩], []⟩ := by
  have hbody : '}' ∉ link.name.toList := link.free.not_mem (by decide)
  rw [String.toList_append, slot, String.toList_ofList, scan_gap_slot h hbody]

end Link

namespace Circle

variable (c : Circle)

/-- The variable that is reached after a number of steps around the circle. -/
def link (i : Nat) : Link :=
  c.links.get ⟨i % c.links.length, Nat.mod_lt i (List.length_pos_iff.mpr c.nonempty)⟩

/-- The reference to a variable of the circle. -/
def slot (i : Nat) : String :=
  (c.link i).slot

/-- The text of a variable of the circle. -/
def text (i : Nat) : String :=
  (c.link i).lead ++ c.slot (i + 1)

/-- The variables of the circle have these texts in some scopes. -/
def Holds (scopes : Scopes) : Prop :=
  ∀ i, scopes.resolve (c.link i).name = .ok (.str (c.text i))

/-- The variables of the circle with their texts. -/
def fields : Fields :=
  List.ofFn fun i : Fin c.links.length => ((c.link i).name, .str (c.text i))

/-- The variables of the circle in the scope of the event. -/
def scopes : Scopes :=
  .ofEvent c.fields

/-- No name stands for two variables of the circle. -/
theorem keys_fields : Entries.keys c.fields = c.links.map Link.name := by
  have hlink : (fun i : Fin c.links.length => (c.link i).name) = Link.name ∘ c.links.get := by
    funext i
    simp only [link, Nat.mod_eq_of_lt i.isLt, Fin.eta, Function.comp_apply]
  rw [Entries.keys, fields, List.map_ofFn]
  exact (congrArg List.ofFn hlink).trans
    (List.map_ofFn.symm.trans (congrArg (List.map Link.name) (List.ofFn_get c.links)))

/-- The name of a variable of the circle stands for its text. -/
theorem lookup_fields (i : Nat) :
    c.fields.lookup (c.link i).name = some (.str (c.text i)) := by
  have hlt : i % c.links.length < c.links.length :=
    Nat.mod_lt i (List.length_pos_iff.mpr c.nonempty)
  have hlink : c.link (i % c.links.length) = c.link i := by
    simp only [link, Nat.mod_mod]
  have hnext : c.link (i % c.links.length + 1) = c.link (i + 1) := by
    simp only [link, Nat.mod_add_mod]
  -- a variable is listed once, under the steps that lead to it on the first way around
  refine Entries.lookup_of_mem (by rw [keys_fields]; exact c.distinct) ?_
  refine List.mem_ofFn.mpr ⟨⟨i % c.links.length, hlt⟩, ?_⟩
  simp only [text, slot, hlink, hnext]

/-- The variables of every circle can have their texts. -/
theorem holds_scopes : c.Holds c.scopes := by
  intro i
  have hevent : lookup c.scopes.event (c.link i).name = .ok (.str (c.text i)) := by
    rw [scopes, Scopes.lookup_ofEvent, c.lookup_fields i, Option.getD_some]
  have hpresent : (Value.str (c.text i)).truthy = true := by
    refine decide_eq_true ?_
    intro hempty
    have hnil := congrArg String.toList hempty
    simp [text, slot, Link.slot, slotSource] at hnil
  rw [Scopes.resolve, Scopes.inOrder, Scopes.firstPresent_cons, hevent]
  simp only [hpresent, if_true]

/-! ### Levels of a circle -/

/-- What becomes of a text on its way through a level. -/
def layer (encode : Bool) (text : String) : String :=
  if encode then percentEncode text else text

/-- What some levels make of the text of a variable of the circle. -/
def unrolled (encode : Bool) : (levels : Nat) → (i : Nat) → String
  | 0, i => c.text i
  | levels + 1, i => (c.link i).lead ++ layer encode (unrolled encode levels (i + 1))

/-- No lead has an opening parenthesis that an encoder could take for a suffix. -/
def Encodable : Prop :=
  ∀ link ∈ c.links, '(' ∉ link.lead.toList

variable {encode : Bool}

/-- A level makes of texts in a row what it makes of each. -/
theorem layer_append (first second : String) :
    layer encode (first ++ second) = layer encode first ++ layer encode second := by
  cases encode with
  | false => rfl
  | true =>
    simp only [layer, if_true, percentEncode, String.toList_append, percentChars_append,
      String.ofList_append]

/-- A level brings no opening parenthesis in. -/
theorem not_mem_layer {text : String} (h : '(' ∉ text.toList) :
    '(' ∉ (layer encode text).toList := by
  cases encode with
  | false => exact h
  | true =>
    rw [layer, if_pos rfl, percentEncode, String.toList_ofList]
    exact mt (mem_percentChars_iff (by decide)).mp h

variable {c}

/-- Levels bring no opening parenthesis in. -/
theorem Encodable.not_mem_unrolled (h : c.Encodable) (levels i : Nat) :
    '(' ∉ (c.unrolled encode levels i).toList := by
  have hlead (i : Nat) : '(' ∉ (c.link i).lead.toList := h _ (List.get_mem _ _)
  induction levels generalizing i with
  | zero =>
    have hname : '(' ∉ (c.link (i + 1)).name.toList := (c.link (i + 1)).free.not_mem (by decide)
    rw [unrolled, text, String.toList_append, List.mem_append, not_or]
    refine ⟨hlead i, ?_⟩
    simp [slot, Link.slot, slotSource, hname]
  | succ levels ih =>
    rw [unrolled, String.toList_append, List.mem_append, not_or]
    exact ⟨hlead i, not_mem_layer (ih (i + 1))⟩

/-- A level makes of joined texts what it makes of each. -/
theorem layer_join (texts : List String) :
    layer encode (String.join texts) = String.join (texts.map (layer encode)) := by
  induction texts with
  | nil => cases encode <;> rfl
  | cons text texts ih => rw [String.join_cons, layer_append, ih, List.map_cons, String.join_cons]

/-- What some levels make of the text of a variable are the leads, each one as it comes through the
levels above it, and the reference that is left, as it comes through all of them. -/
theorem unrolled_eq (levels i : Nat) :
    c.unrolled encode levels i =
      String.join ((List.range (levels + 1)).map fun j =>
        (layer encode)^[j] (c.link (i + j)).lead) ++
      (layer encode)^[levels] (c.slot (i + levels + 1)) := by
  induction levels generalizing i with
  | zero =>
    simp [unrolled, text, String.join_cons]
  | succ levels ih =>
    have hleads : (List.range (levels + 1 + 1)).map (fun j =>
          (layer encode)^[j] (c.link (i + j)).lead) =
        (c.link i).lead :: ((List.range (levels + 1)).map fun j =>
          (layer encode)^[j] (c.link (i + 1 + j)).lead).map (layer encode) := by
      rw [List.range_succ_eq_map, List.map_cons, List.map_map, List.map_map]
      refine congrArg (List.cons _) (List.map_congr_left ?_)
      intro j _
      simp only [Function.comp_apply, Nat.succ_eq_add_one, Function.iterate_succ_apply',
        Nat.add_right_comm, Nat.add_assoc]
    have hnext : i + (levels + 1) + 1 = i + 1 + levels + 1 := by omega
    rw [unrolled, ih, layer_append, layer_join, hleads, String.join_cons,
      Function.iterate_succ_apply', hnext, String.append_assoc]

/-- What the levels make of the reference to the first variable of the circle. -/
theorem layer_unrolled (n : Nat) :
    layer encode (c.unrolled encode n 0) =
      String.join ((List.range (n + 1)).map fun i => (layer encode)^[i + 1] (c.link i).lead) ++
        (layer encode)^[n + 1] (c.slot (n + 1)) := by
  have hleads : ((List.range (n + 1)).map fun i =>
        (layer encode)^[i] (c.link (0 + i)).lead).map (layer encode) =
      (List.range (n + 1)).map fun i => (layer encode)^[i + 1] (c.link i).lead := by
    rw [List.map_map]
    refine List.map_congr_left ?_
    intro i _
    rw [Function.comp_apply, Function.iterate_succ_apply', Nat.zero_add]
  rw [unrolled_eq, layer_append, layer_join, hleads, Function.iterate_succ_apply', Nat.zero_add]

end Circle

namespace Expander

variable {x : Expander}

/-! ### The levels of an expansion -/

/-- A text takes the place of a reference without suffix as it comes through the level. -/
theorem finalText_bare (name : String) {text : String}
    (h : x.encode = true → '(' ∉ text.toList) :
    x.finalText ⟨name, ""⟩ (.str text) = (Circle.layer x.encode text).toList := by
  have hbare (s : String) : (if s = "" then [] else s.toList ++ "".toList) = s.toList := by
    by_cases hs : s = ""
    · subst hs
      rfl
    · rw [if_neg hs]
      exact List.append_nil _
  cases hencode : x.encode with
  | false =>
    unfold finalText
    simp only [hencode, Bool.false_eq_true, if_false, Value.text_str]
    exact hbare text
  | true =>
    unfold finalText
    simp only [hencode, if_true]
    rw [hbare, toList_encodeValue_str, encodeText_of_not_mem (h hencode), Circle.layer, if_pos rfl,
      percentEncode, String.toList_ofList]

/-- A lead and the reference to a variable become the lead and what the levels below have made of
the text of that variable, and report what these report. -/
theorem expand_lead_slot {link : Link} {text : String}
    (hres : x.scopes.resolve link.name = .ok (.str text)) {lead : String}
    (hlead : Plain lead.toList) {levels : Nat} {inner : String} {exhausted : Bool}
    (hinner : (x.expand levels text.toList).run.result = .ok ⟨inner.toList, exhausted⟩)
    (hfree : x.encode = true → '(' ∉ inner.toList) :
    (x.expand (levels + 1) (lead ++ link.slot).toList).run.result =
      .ok ⟨(lead ++ Circle.layer x.encode inner).toList, exhausted⟩ ∧
    errors (x.expand (levels + 1) (lead ++ link.slot).toList).run.observations =
      errors (x.expand levels text.toList).run.observations := by
  have hslot : (x.resolveSlot (x.expand levels) link.name.toList).run =
      ⟨(x.expand levels text.toList).run.observations ++ x.resolvedCount,
        .ok ⟨(Circle.layer x.encode inner).toList, exhausted⟩⟩ := by
    rw [resolveSlot_of_text link.readSlot_name hres, Task.run_bind, Outcome.andThen_of_ok hinner,
      run_filtered, String.ofList_toList, ← finalText_bare link.name hfree]
    rfl
  have hall : Task.runAll (x.slotTasks levels (lead ++ link.slot).toList) =
      ⟨(x.expand levels text.toList).run.observations ++ x.resolvedCount,
        .ok [⟨(Circle.layer x.encode inner).toList, exhausted⟩]⟩ := by
    rw [slotTasks, link.scan_lead_slot hlead, List.map_cons, List.map_nil, Task.runAll_cons, hslot,
      Outcome.andThen_of_ok rfl, Task.runAll_nil, Outcome.ok_andThen, List.append_nil]
  have hcount : errors x.resolvedCount = [] := by
    unfold resolvedCount
    cases x.recordMetrics <;> rfl
  have hnote (event : String) (context : Fields) (os : List Observation) :
      errors (Diagnostics.debug event context :: os) = errors os := rfl
  have hslots : (scan (lead ++ link.slot).toList).slots ≠ [] := by
    rw [link.scan_lead_slot hlead]
    exact List.cons_ne_nil _ _
  rw [run_expand_of_slots hslots, hall, hnote, errors_append, hcount, List.append_nil,
    link.scan_lead_slot hlead]
  refine ⟨?_, rfl⟩
  simp [Except.map, splice, Segmentation.fill]

/-- **Levels run through a circle: each one leaves the lead of its variable, and the text at which
they run out is reported and left over.** -/
theorem expand_text {c : Circle} (h : c.Holds x.scopes)
    (hencode : x.encode = true → c.Encodable) (levels i : Nat) :
    (x.expand levels (c.text i).toList).run.result =
      .ok ⟨(c.unrolled x.encode levels i).toList, true⟩ ∧
    errors (x.expand levels (c.text i).toList).run.observations =
      [depthEntry (c.text (i + levels))] := by
  induction levels generalizing i with
  | zero =>
    rw [run_expand_zero, String.ofList_toList, errors_userError]
    exact ⟨rfl, rfl⟩
  | succ levels ih =>
    -- a level less is left for the next variable, so the text that is reported stays the same
    obtain ⟨hinner, hreported⟩ := ih (i + 1)
    obtain ⟨hresult, herrors⟩ := expand_lead_slot (h (i + 1)) (c.link i).plain hinner
      fun hx => (hencode hx).not_mem_unrolled levels (i + 1)
    have hnext : i + 1 + levels = i + (levels + 1) := by omega
    rw [hreported, hnext] at herrors
    exact ⟨hresult, herrors⟩

end Expander

/-! ### Requests for a circle -/

namespace Service

variable (s : Service) {c : Circle} {scopes : Scopes}

/-- A budget unrolls a circle one level deeper than its number says, and reports the text at which
it runs out. -/
theorem expandWithin_slot (h : c.Holds scopes) {encode : Bool}
    (hencode : encode = true → c.Encodable) (n : Nat) :
    (s.expandWithin (c.slot 0) scopes (some encode) n).result =
      .ok (String.join ((List.range (n + 1)).map fun i =>
          (Circle.layer encode)^[i + 1] (c.link i).lead) ++
        (Circle.layer encode)^[n + 1] (c.slot (n + 1))) ∧
    errors (s.expandWithin (c.slot 0) scopes (some encode) n).observations =
      [depthEntry (c.text n)] := by
  have hempty : Plain "".toList := by decide
  have hrun : s.runWithin (c.slot 0) scopes (some encode) n =
      (Expander.expand ⟨s.registry, scopes, encode, s.recordMetrics⟩ (n + 1)
        ("" ++ (c.link 0).slot).toList).run := by
    rw [String.empty_append]
    rfl
  obtain ⟨hinner, hreported⟩ :=
    Expander.expand_text (x := ⟨s.registry, scopes, encode, s.recordMetrics⟩) h hencode n 0
  obtain ⟨hresult, herrors⟩ :=
    Expander.expand_lead_slot (h 0) hempty hinner fun hx => (hencode hx).not_mem_unrolled n 0
  rw [hreported, Nat.zero_add] at herrors
  rw [result_expandWithin, errors_expandWithin, hrun, hresult, herrors, String.empty_append,
    Circle.layer_unrolled]
  refine ⟨?_, rfl⟩
  simp only [Except.map, String.ofList_toList]

/-- **A budget `n` unrolls a circle to the leads of its first `n + 1` variables and the reference to
the next one, and one problem is reported, the text of the variable that this budget does not reach.
Where the answer is encoded and no lead has an opening parenthesis, the lead that stands `i` levels
below the first one is encoded `i + 1` times, and the reference that is left `n + 1` times.** -/
theorem expandWithin_circle (h : c.Holds scopes) (n : Nat) :
    ((s.expandWithin (c.slot 0) scopes (some false) n).result =
      .ok (String.join ((List.range (n + 1)).map fun i => (c.link i).lead) ++ c.slot (n + 1)) ∧
    errors (s.expandWithin (c.slot 0) scopes (some false) n).observations =
      [depthEntry (c.text n)]) ∧
    (c.Encodable →
      (s.expandWithin (c.slot 0) scopes (some true) n).result =
        .ok (String.join ((List.range (n + 1)).map fun i =>
            percentEncode^[i + 1] (c.link i).lead) ++
          percentEncode^[n + 1] (c.slot (n + 1))) ∧
      errors (s.expandWithin (c.slot 0) scopes (some true) n).observations =
        [depthEntry (c.text n)]) := by
  refine ⟨?_, ?_⟩
  · have hplain : Circle.layer false = id := rfl
    have hslot := s.expandWithin_slot h (show false = true → c.Encodable by simp) n
    simp only [hplain, Function.iterate_id, id] at hslot
    exact hslot
  · intro hencode
    exact s.expandWithin_slot h (fun _ => hencode) n

/-- Two variables that refer to each other. -/
def pingPong : Circle where
  links := [⟨"ping", "to ", by decide, by decide, by decide, by decide⟩,
    ⟨"pong", "fro ", by decide, by decide, by decide, by decide⟩]
  nonempty := List.cons_ne_nil _ _
  distinct := by decide

/-- The budget 2 unrolls two variables to three leads, and the budget 1 to two, of which the second
one is encoded twice. -/
theorem expandWithin_circle_two :
    (metered.expandWithin "${ping}" pingPong.scopes (some false) 2).result =
      .ok "to fro to ${pong}" ∧
    errors (metered.expandWithin "${ping}" pingPong.scopes (some false) 2).observations =
      [depthEntry "to ${pong}"] ∧
    (metered.expandWithin "${ping}" pingPong.scopes (some true) 1).result =
      .ok "to%20fro%2520%2524%257Bping%257D" := by
  have hslot : pingPong.slot 0 = "${ping}" := by decide +kernel
  have hopen : pingPong.Encodable := by
    unfold Circle.Encodable
    decide
  obtain ⟨⟨hplain, hreported⟩, -⟩ := metered.expandWithin_circle pingPong.holds_scopes 2
  obtain ⟨hencoded, -⟩ := (metered.expandWithin_circle pingPong.holds_scopes 1).2 hopen
  rw [hslot] at hplain hreported hencoded
  refine ⟨hplain.trans ?_, hreported.trans ?_, hencoded.trans ?_⟩
  · exact congrArg Except.ok (by decide +kernel)
  · exact congrArg (fun text => [depthEntry text]) (by decide +kernel)
  · exact congrArg Except.ok (by decide +kernel)

end Service

end UrlTemplate
