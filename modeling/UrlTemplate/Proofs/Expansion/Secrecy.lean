import UrlTemplate.Filter.Stock
import UrlTemplate.Proofs.Expansion.Containment
import UrlTemplate.Proofs.Expansion.Writing
import UrlTemplate.Proofs.Session
import UrlTemplate.Proofs.Template.RoundTrip

/-!
# A hashed variable stays secret

A service that cannot hash leaves the empty text in the place of every value that is to be hashed
(`FilterContext.hash_of_cannotHash`), so a chain with the filter `hash` ends with the same value
whatever it started from (`Registry.applyFilters_eq_of_hash`). If every slot that refers to a
variable hashes it, in the template and in the texts of the other variables, then the expansion is
the same whatever that variable holds (`Service.expand_eq_of_hashed`).

What the variable holds can still be seen from whether there is an answer: its own text may refer to
a value that cannot be written (`Service.answer_of_boxes`). **Theorem**
(`Service.answer_eq_of_hashed`): there is one text that each of the two answers is, unless it comes
upon such a value.

The two runs are compared level by level by their texts alone (`Expander.text_expand_eq`): what they
report, and whether their levels run out, may well depend on the variable.
-/

namespace UrlTemplate

open Template

/-! ### Chains that hash -/

/-- There is no digest, or one that never answers. -/
def FilterContext.CannotHash (context : FilterContext) : Prop :=
  ∀ d, context.digest = some d → ∀ s, ∃ e, d.digest s = .error e

/-- Where hashing is not possible the result is empty. -/
theorem FilterContext.hash_of_cannotHash {context : FilterContext} (h : context.CannotHash)
    (item : Item) : (context.hash item).2 = .str "" := by
  obtain ⟨result, hresult⟩ := context.exists_hashesTo item
  rw [hresult.hash_eq]
  cases hresult with
  | hashed hdigest _ hhash =>
    obtain ⟨e, he⟩ := h _ hdigest _
    rw [he] at hhash
    cases hhash
  | _ => rfl

namespace Registry

variable {r : Registry}

/-- A segment that hashes leaves the empty text where hashing is not possible. -/
theorem applySegment_of_hash (hget : r.get? "hash" = some .hash) (hc : r.context.CannotHash)
    {segment : String} (h : Calls "hash" segment) (item : Item) :
    (r.applySegment item segment).2 = .ready (.str "") := by
  obtain ⟨call, hparse, hname⟩ := h
  rw [applySegment_of_handler hparse (by rw [hname, hget])]
  have houtcome : (Handler.hash.run r.context item call.args).outcome = .ok (.ready (.str "")) := by
    show Except.ok (Item.ready (r.context.hash item).2) = _
    rw [FilterContext.hash_of_cannotHash hc]
  rw [applyHandler_of_ok houtcome]

/-- A chain that hashes ends in the same way from every item where hashing is not possible. -/
theorem applyFilters_eq_of_hash (hget : r.get? "hash" = some .hash) (hc : r.context.CannotHash)
    {segments : List String} (h : ∃ segment ∈ segments, Calls "hash" segment) (item item' : Item) :
    (r.applyFilters item segments).2 = (r.applyFilters item' segments).2 := by
  obtain ⟨segment, hmem, hcalls⟩ := h
  obtain ⟨before, after, rfl⟩ := List.append_of_mem hmem
  simp only [applyFilters_append, applyFilters_cons, applySegment_of_hash hget hc hcalls]

end Registry

/-! ### Templates that hash -/

/-- Every slot of a template that refers to a variable has a segment that hashes it. -/
def Hashes (name : String) (template : List Char) : Prop :=
  ∀ slot ∈ (scan template).slots, ∀ p, readSlot slot.body = .ok p → p.reference.name = name →
    ∃ segment ∈ p.segments, Calls "hash" segment

instance decidableHashes (name : String) (template : List Char) :
    Decidable (Hashes name template) :=
  decidable_of_iff (∀ slot ∈ (scan template).slots, ∀ p ∈ (readSlot slot.body).toOption,
      p.reference.name = name → ∃ segment ∈ p.segments, Calls "hash" segment) <| by
    simp only [mem_toOption_readSlot, Hashes]

/-- The texts of all other variables hash the variable of a name, in every scope. -/
def Scopes.Hashes (scopes : Scopes) (name : String) : Prop :=
  ∀ scope ∈ scopes.inOrder, ∀ other, other ≠ name → ∀ text,
    lookup scope other = .ok (.str text) → UrlTemplate.Hashes name text.toList

/-- The scopes have the same variables, but for the one of a name. -/
structure Scopes.AgreeExcept (name : String) (scopes scopes' : Scopes) : Prop where
  event : ∀ other, other ≠ name → lookup scopes.event other = lookup scopes'.event other
  trigger : ∀ other, other ≠ name → lookup scopes.trigger other = lookup scopes'.trigger other
  config : ∀ other, other ≠ name → lookup scopes.config other = lookup scopes'.config other

/-- A template without slots hashes every variable. -/
theorem hashes_nil (name : String) : Hashes name [] := by
  intro slot hslot
  rw [scan] at hslot
  cases hslot

/-- The text that another variable has hashes the variable. -/
theorem Scopes.Hashes.text {scopes : Scopes} {name other text : String} (h : scopes.Hashes name)
    (hother : other ≠ name) (hres : scopes.resolve other = .ok (.str text)) :
    UrlTemplate.Hashes name text.toList := by
  rcases resolve_eq_ok hres with hempty | ⟨scope, hmem, hlookup⟩
  · cases hempty
    exact hashes_nil name
  · exact h scope hmem other hother text hlookup

/-- A variable other than the one of the name has one value in scopes that agree on it. -/
theorem Scopes.AgreeExcept.resolve_eq {name other : String} {scopes scopes' : Scopes}
    (h : scopes.AgreeExcept name scopes') (hother : other ≠ name) :
    scopes.resolve other = scopes'.resolve other :=
  resolve_congr (h.event other hother) (h.trigger other hother) (h.config other hother)

/-- Variables of the event agree except for the first one. -/
theorem Scopes.agreeExcept_ofEvent {name : String} {v v' : Value} {rest : Fields} :
    (ofEvent ((name, v) :: rest)).AgreeExcept name (ofEvent ((name, v') :: rest)) := by
  refine ⟨?_, fun _ _ => rfl, fun _ _ => rfl⟩
  intro other hother
  rw [lookup_ofEvent, lookup_ofEvent, Entries.lookup_cons, Entries.lookup_cons, if_neg hother,
    if_neg hother]

/-- Variables of the event hash the first one if the texts behind it do. -/
theorem Scopes.hashes_ofEvent {name : String} {v : Value} {rest : Fields}
    (h : ∀ other text, (other, Value.str text) ∈ rest → UrlTemplate.Hashes name text.toList) :
    (ofEvent ((name, v) :: rest)).Hashes name := by
  intro scope hscope other hother text htext
  rcases List.mem_cons.mp hscope with rfl | hscope
  · rw [lookup_ofEvent, Entries.lookup_cons, if_neg hother] at htext
    cases hlookup : rest.lookup other with
    | none =>
      rw [hlookup] at htext
      cases htext
    | some w =>
      rw [hlookup, Option.getD_some, Except.ok.injEq] at htext
      exact h other text (htext ▸ Entries.mem_of_lookup hlookup)
  · simp only [ofEvent, List.mem_cons, List.not_mem_nil, or_false, or_self] at hscope
    rw [hscope] at htext
    cases htext

/-! ### Two runs -/

/-- Two runs with one registry that differ in a variable only, and hash it wherever they can. -/
structure Hidden (registry : Registry) (name : String) (scopes scopes' : Scopes) : Prop where
  hash : registry.get? "hash" = some .hash
  cannotHash : registry.context.CannotHash
  returnsValues : registry.ReturnsValues
  wellFormed : scopes.WellFormed
  wellFormed' : scopes'.WellFormed
  agree : scopes.AgreeExcept name scopes'
  vars : scopes.Hashes name

namespace Expander

/-- The text of a placeholder that hashes is the one that its chain makes of the empty text. -/
theorem text_resolveSlot_of_hash {x : Expander} {nested : List Char → Task} {body : List Char}
    {p : Placeholder} (hread : readSlot body = .ok p) {w : Value}
    (hchain : ∀ v, (x.registry.applyFilters (.ready v) p.segments).2 = .ready w)
    (hw : x.scopes.WellFormed)
    (hnested : ∀ text, ∃ piece, (nested text).run.result = .ok piece) :
    (x.resolveSlot nested body).run.result.map Piece.text = .ok (x.finalText p.reference w) := by
  obtain ⟨v, hres⟩ := hw.exists_resolve p.reference.name
  by_cases hv : ∃ s, v = .str s
  · obtain ⟨s, rfl⟩ := hv
    obtain ⟨piece, hpiece⟩ := hnested s.toList
    rw [resolveSlot_of_text hread hres, Task.run_bind, Outcome.andThen_of_ok hpiece]
    show (x.filtered p _ _).run.result.map Piece.text = _
    rw [x.result_filtered_of_ready (hchain _)]
    rfl
  · have hv' : ∀ s, v ≠ .str s := fun s hs => hv ⟨s, hs⟩
    rw [resolveSlot_of_value hread hres hv', x.result_filtered_of_ready (hchain _)]
    rfl

/-- A text depends on the value of a placeholder only. -/
theorem text_filtered {x x' : Expander} (hregistry : x.registry = x'.registry)
    (hencode : x.encode = x'.encode) (p : Placeholder) (v : Value) (exhausted exhausted' : Bool) :
    (x.filtered p v exhausted).run.result.map Piece.text =
      (x'.filtered p v exhausted').run.result.map Piece.text := by
  have hfinal : x.finalText p.reference = x'.finalText p.reference := by
    funext w
    unfold finalText
    rw [hencode]
  rw [text_filtered_eq_map, text_filtered_eq_map, hregistry, hfinal]

variable {registry : Registry} {encode recordMetrics : Bool} {scopes scopes' : Scopes}
  {name : String}

/-- The texts of a slot in two runs are the same if the texts of what is nested in it are. -/
theorem text_resolveSlot_eq (h : Hidden registry name scopes scopes')
    {nested nested' : List Char → Task}
    (hnested : ∀ text, ∃ piece, (nested text).run.result = .ok piece)
    (hnested' : ∀ text, ∃ piece, (nested' text).run.result = .ok piece)
    (htext : ∀ text, Hashes name text →
      (nested text).run.result.map Piece.text = (nested' text).run.result.map Piece.text)
    {body : List Char}
    (hbody : ∀ p, readSlot body = .ok p → p.reference.name = name →
      ∃ segment ∈ p.segments, Calls "hash" segment) :
    ((⟨registry, scopes, encode, recordMetrics⟩ : Expander).resolveSlot nested
        body).run.result.map Piece.text =
      ((⟨registry, scopes', encode, recordMetrics⟩ : Expander).resolveSlot nested'
        body).run.result.map Piece.text := by
  cases hread : readSlot body with
  | error e => rw [resolveSlot_of_malformed hread, resolveSlot_of_malformed hread]
  | ok p =>
    by_cases hname : p.reference.name = name
    · -- the variable itself: its chain forgets what it starts from
      obtain ⟨w, hchain⟩ := h.returnsValues.applyFilters (.str "") p.segments
      have hforgets : ∀ v, (registry.applyFilters (.ready v) p.segments).2 = .ready w := by
        intro v
        rw [Registry.applyFilters_eq_of_hash h.hash h.cannotHash (hbody p hread hname) _
          (.ready (.str "")), hchain]
      rw [text_resolveSlot_of_hash hread hforgets h.wellFormed hnested,
        text_resolveSlot_of_hash hread hforgets h.wellFormed' hnested']
      rfl
    · obtain ⟨v, hres⟩ := h.wellFormed.exists_resolve p.reference.name
      have hres' : scopes'.resolve p.reference.name = .ok v :=
        (h.agree.resolve_eq hname).symm.trans hres
      by_cases hv : ∃ s, v = .str s
      · obtain ⟨s, rfl⟩ := hv
        have heq := htext s.toList (h.vars.text hname hres)
        obtain ⟨piece, hpiece⟩ := hnested s.toList
        obtain ⟨piece', hpiece'⟩ := hnested' s.toList
        rw [hpiece, hpiece'] at heq
        have hpieces : piece.text = piece'.text := Except.ok.inj heq
        rw [resolveSlot_of_text hread hres, resolveSlot_of_text hread hres', Task.run_bind,
          Task.run_bind, Outcome.andThen_of_ok hpiece, Outcome.andThen_of_ok hpiece', hpieces]
        exact text_filtered rfl rfl p _ _ _
      · have hv' : ∀ s, v ≠ .str s := fun s hs => hv ⟨s, hs⟩
        rw [resolveSlot_of_value hread hres hv', resolveSlot_of_value hread hres' hv']
        exact text_filtered rfl rfl p v _ _

/-- A template that hashes the variable gets the same text in both runs. -/
theorem text_expand_eq (h : Hidden registry name scopes scopes') (levels : Nat)
    {template : List Char} (htemplate : Hashes name template) :
    ((⟨registry, scopes, encode, recordMetrics⟩ : Expander).expand levels
        template).run.result.map Piece.text =
      ((⟨registry, scopes', encode, recordMetrics⟩ : Expander).expand levels
        template).run.result.map Piece.text := by
  induction levels generalizing template with
  | zero => rw [run_expand_zero, run_expand_zero]
  | succ levels ih =>
    have hsplice : ∀ (result : Except ExpansionError (List Piece)),
        (result.map (splice (scan template))).map Piece.text =
          (result.map (List.map Piece.text)).map
            (Segmentation.fill (scan template).slots (scan template).tail) := by
      intro result
      cases result <;> rfl
    rw [result_expand_succ, result_expand_succ, hsplice, hsplice]
    congr 1
    refine Task.map_result_runAll_congr Piece.text ?_
    intro slot hslot
    exact text_resolveSlot_eq h
      (fun text => expand_succeeds h.returnsValues h.wellFormed levels text)
      (fun text => expand_succeeds h.returnsValues h.wellFormed' levels text)
      (fun text htext => ih htext) (htemplate slot hslot)

end Expander

/-! ### Requests -/

namespace Service

/-- If every slot that refers to a variable hashes it and the service cannot hash, then the
expansion is the same text whatever the variable holds. -/
theorem expand_eq_of_hashed {s : Service} {name : String} {scopes scopes' : Scopes}
    (h : Hidden s.registry name scopes scopes') {template : String}
    (htemplate : Hashes name template.toList) (iterations : Option Int) (encode : Option Bool) :
    ∃ text, ∀ variant ∈ [scopes, scopes'],
      (s.expand ⟨.str template, variant, iterations, encode⟩).result = .ok text := by
  have htexts : ∀ result : Except ExpansionError Piece,
      (result.map fun piece => String.ofList piece.text) =
        (result.map Piece.text).map String.ofList := by
    intro result
    cases result <;> rfl
  have hsame : (s.expand ⟨.str template, scopes, iterations, encode⟩).result =
      (s.expand ⟨.str template, scopes', iterations, encode⟩).result := by
    rw [result_expand rfl, result_expand rfl, htexts, htexts]
    exact congrArg _ (Expander.text_expand_eq h _ htemplate)
  obtain ⟨text, htext⟩ := s.expand_succeeds h.returnsValues
    ⟨.str template, scopes, iterations, encode⟩ h.wellFormed rfl
  exact ⟨text, List.forall_mem_cons.mpr
    ⟨htext, List.forall_mem_singleton.mpr (hsame.symm.trans htext)⟩⟩

/-- **If every slot that refers to a variable hashes it and the service cannot hash, then there is
one text such that each answer, whatever the variable holds, is that text or fails at the first
value that cannot be written. It is that text if all variables can be written and the handlers make
such values of such values.** -/
theorem answer_eq_of_hashed {s : Service} (hs : s.Reachable) (hr : s.registry.ReturnsValues)
    (hc : s.registry.context.CannotHash) {name : String} {scopes scopes' : Scopes}
    (hw : scopes.WellFormed) (hw' : scopes'.WellFormed) (hagree : scopes.AgreeExcept name scopes')
    (hvars : scopes.Hashes name) {template : String} (htemplate : Hashes name template.toList)
    (iterations : Option Int) (encode : Option Bool) :
    ∃ text, ∀ variant ∈ [scopes, scopes'],
      let request : Request := ⟨.str template, variant, iterations, encode⟩
      ((s.answer request).result = (s.fault? request).elim (.ok text)
        fun fault => .error (.noText (.unwritable fault))) ∧
      (s.registry.Keeps Value.Writable → variant.Writable →
        (s.answer request).result = .ok text) := by
  obtain ⟨text, htext⟩ := expand_eq_of_hashed
    ⟨hs.get?_hash, hc, hr, hw, hw', hagree, hvars⟩ htemplate iterations encode
  refine ⟨text, fun variant hvariant => ?_⟩
  intro request
  have hanswer := s.result_answer request
  rw [htext variant hvariant] at hanswer
  refine ⟨hanswer, fun hkeeps hwritable => ?_⟩
  have hnone : s.fault? request = none := fault?_eq_none hr hkeeps hwritable
  rw [hanswer, hnone, Option.elim_none]

/-- A service whose digest always fails. -/
def undigested : Service :=
  new (some ⟨fun _ => .error (.failed "broken")⟩) 4 false false none

/-- Scopes in which the text of `y` hashes `x`. -/
def veiled (x : Value) : Scopes :=
  .ofEvent [("x", x), ("y", .str "<${x|toUpperCase|hash}>")]

/-- A text and a list under the name `x` give one answer, although only the text can be raised to
upper case. -/
theorem answer_eq_of_hashed_text_and_list : ∃ text,
    (undigested.answer ⟨.str "${y}${x|hash|default:-}", veiled (.str "${z}"), none, none⟩).result =
      .ok text ∧
    (undigested.answer
      ⟨.str "${y}${x|hash|default:-}", veiled (.list [.null]), none, none⟩).result =
      .ok text := by
  have hc : undigested.registry.context.CannotHash := by
    rintro d ⟨⟩ s
    exact ⟨_, rfl⟩
  have hvars : (veiled (.str "${z}")).Hashes "x" := by
    refine Scopes.hashes_ofEvent ?_
    intro other text hmem
    cases List.mem_singleton.mp hmem
    decide +kernel
  have hwritable {x : Value} (hx : x.Writable) : (veiled x).Writable := by
    refine Scopes.writable_ofEvent ?_
    intro name v hmem
    simp only [List.mem_cons, Prod.mk.injEq, List.not_mem_nil, or_false] at hmem
    rcases hmem with ⟨-, rfl⟩ | ⟨-, rfl⟩
    · exact hx
    · exact Value.writable_str _
  have hlist : (Value.list [.null]).Writable := by
    show (Value.list [.null]).fault? .text = none
    decide +kernel
  have hkeeps : undigested.registry.Keeps Value.Writable :=
    Registry.keeps_builtins Value.writable_str rfl
  have hagree : (veiled (.str "${z}")).AgreeExcept "x" (veiled (.list [.null])) :=
    Scopes.agreeExcept_ofEvent
  have htemplate : Hashes "x" "${y}${x|hash|default:-}".toList := by decide +kernel
  obtain ⟨text, htext⟩ := answer_eq_of_hashed (.new _ _ _ _ _) (Registry.returnsValues_new _) hc
    (Scopes.wellFormed_ofEvent _) (Scopes.wellFormed_ofEvent _) hagree hvars htemplate none none
  refine ⟨text, (htext _ List.mem_cons_self).2 hkeeps (hwritable (Value.writable_str _)), ?_⟩
  exact (htext _ (List.mem_cons_of_mem _ List.mem_cons_self)).2 hkeeps (hwritable hlist)

/-! ### A value that cannot be written -/

/-- A value in so many objects. -/
def boxed (v : Value) : Nat → Value
  | 0 => v
  | n + 1 => .object [("value", boxed v n), ("args", .list [])]

/-- A value in more objects than there is room for cannot be written. -/
theorem faultWithin_boxed {v : Value} {writing : Writing} (hwriting : writing.inObjects = .json)
    {n room : Nat} (h : room < n) :
    (boxed v n).faultWithin writing room = some (.tooDeep .json) := by
  induction n generalizing writing room with
  | zero => omega
  | succ n ih =>
    rw [boxed, Value.faultWithin, hwriting]
    by_cases hroom : room = 0
    · rw [if_pos hroom]
    · rw [if_neg hroom, Value.fieldsFaultWithin, ih rfl (by omega), Option.some_or]

/-- The filter call of the chains below. -/
def boxCall : CallTree :=
  ⟨⟨"o", []⟩, by decide, by decide, by decide +kernel⟩

/-- The placeholder that puts `y` into so many objects. -/
def boxes (n : Nat) : PlaceholderTree :=
  ⟨⟨[], ⟨⟨"y", ""⟩, by decide, by decide, by decide, .none, by decide⟩, [], .nil, .nil⟩,
    List.replicate n ⟨[], boxCall, [], .nil, .nil⟩⟩

/-- The text of such a placeholder. -/
def boxesText (n : Nat) : String :=
  TemplateTree.text ⟨[(⟨"", plain_empty⟩, boxes n)], ⟨"", plain_empty⟩⟩

example : boxesText 3 = "${y|o|o|o}" := by decide +kernel

/-- The filter of these calls puts a value into an object. -/
def boxHandler : Handler.OfKind true :=
  ⟨.sync fun item args => .ok (Stock.object item args), rfl⟩

/-- A service without a digest and with this filter. -/
def boxing : Service :=
  ((new none 2 true true none).perform (.register "o" true (some boxHandler))).1

/-- A chain of such filters puts a value into as many objects. -/
theorem applyFilters_boxing (v : Value) (k n : Nat) :
    (boxing.registry.applyFilters (.ready (boxed v k)) (List.replicate n "o")).2 =
      .ready (boxed v (k + n)) := by
  induction n generalizing k with
  | zero => rfl
  | succ n ih =>
    have hparse : FilterCall.parse "o" = .ok ⟨"o", []⟩ := boxCall.parse_text
    have hget : boxing.registry.get? "o" = some boxHandler.val := rfl
    have hsegment : (boxing.registry.applySegment (.ready (boxed v k)) "o").2 =
        .ready (boxed v (k + 1)) := by
      rw [Registry.applySegment_of_handler hparse hget]
      rfl
    rw [List.replicate_succ, Registry.applyFilters_cons, hsegment, ih]
    congr 2
    omega

/-- Scopes with a text `x` and the number `y`. -/
def numbered (x : String) : Scopes :=
  .ofEvent [("x", .str x), ("y", .int 1)]

/-- A request that hashes `x`. -/
def hashing (x : String) : Request :=
  ⟨.str "${x|hash}", numbered x, none, none⟩

/-- What the text of `x` writes is written although `x` is hashed. -/
theorem fault?_hashing_boxes {n : Nat} (h : Value.writingRoom < n) :
    boxing.fault? (hashing (boxesText n)) = some (.tooDeep .json) := by
  let x : Expander := ⟨boxing.registry, numbered (boxesText n), true, true⟩
  have hx : x.scopes.resolve "x" = .ok (.str (boxesText n)) := by
    refine Scopes.resolve_ofEvent rfl ?_
    rw [Value.truthy, decide_eq_true_iff]
    intro hempty
    have hnil := congrArg String.toList hempty
    rw [boxesText, TemplateTree.text, String.toList_ofList] at hnil
    cases hnil
  have hy : x.scopes.resolve "y" = .ok (.int 1) := Scopes.resolve_ofEvent rfl rfl
  have hnumber (s : String) : Value.int 1 ≠ .str s := Value.noConfusion
  -- the text of `x` writes the boxes
  have hbody : readSlot (boxes n).body =
      .ok ⟨String.ofList (slotSource (boxes n).body), ⟨"y", ""⟩, List.replicate n "o"⟩ := by
    rw [readSlot, PlaceholderTree.parse_body]
    simp only [boxes, List.map_replicate]
    rfl
  have hinner : (x.expand 2 (boxesText n).toList).writes = [boxed (.int 1) n] := by
    have hslots : (scan (boxesText n).toList).slots = [⟨[], (boxes n).body⟩] := by
      rw [boxesText, TemplateTree.scan_text]
      rfl
    have hchain := applyFilters_boxing (.int 1) 0 n
    rw [Nat.zero_add, boxed] at hchain
    rw [Expander.writes_expand_succ, Expander.slotTasks, hslots, List.map_singleton,
      Task.writesAll_singleton, Expander.resolveSlot_of_value hbody hy hnumber,
      Expander.writes_filtered, hchain]
    rfl
  have hread : readSlot "x|hash".toList = .ok ⟨"${x|hash}", ⟨"x", ""⟩, ["hash"]⟩ := by
    decide +kernel
  have houter : firstFault? (x.expand 3 "${x|hash}".toList).writes = some (.tooDeep .json) := by
    have hslots : (scan "${x|hash}".toList).slots = [⟨[], "x|hash".toList⟩] := by
      decide +kernel
    rw [Expander.writes_expand_succ, Expander.slotTasks, hslots, List.map_singleton,
      Task.writesAll_singleton, Expander.resolveSlot_of_text hread hx]
    have hfault : (boxed (.int 1) n).fault? .text = some (.tooDeep .json) :=
      faultWithin_boxed rfl h
    refine Task.firstFault?_writes_bind ?_ _
    rw [hinner, firstFault?, List.findSome?_cons, hfault]
  exact Task.firstFault?_writes_bind houter _

/-- Whether there is an answer depends on `x`, although `x` is hashed wherever it is referred to:
there is one if it is a letter, and none if it puts `y` into more objects than can be written. -/
theorem answer_of_boxes :
    boxing.Reachable ∧ boxing.registry.ReturnsValues ∧ boxing.registry.context.digest = none ∧
    (numbered "p").WellFormed ∧ (numbered (boxesText 1200)).WellFormed ∧
    (numbered "p").AgreeExcept "x" (numbered (boxesText 1200)) ∧
    (numbered "p").Hashes "x" ∧ Hashes "x" "${x|hash}".toList ∧
    (boxing.answer (hashing "p")).result = .ok "" ∧
    (boxing.answer (hashing (boxesText 1200))).result =
      .error (.noText (.unwritable (.tooDeep .json))) := by
  have hvalues : boxing.registry.ReturnsValues := by
    refine Registry.ReturnsValues.register (Registry.returnsValues_new _) ?_
      (show (new none 2 true true none).registry.register "o" true (some boxHandler) =
        ([], .ok boxing.registry) from rfl)
    rintro _ ⟨⟩ v args item ⟨⟩
    exact ⟨_, rfl⟩
  have hvars : (numbered "p").Hashes "x" := by
    refine Scopes.hashes_ofEvent ?_
    intro other text hmem
    cases List.mem_singleton.mp hmem
  refine ⟨.perform (.new _ _ _ _ _) _, hvalues, rfl, Scopes.wellFormed_ofEvent _,
    Scopes.wellFormed_ofEvent _, Scopes.agreeExcept_ofEvent, hvars, by decide +kernel, ?_, ?_⟩
  · cbv
  · rw [result_answer, fault?_hashing_boxes (by decide), Option.elim_some]

end Service

end UrlTemplate
