import UrlTemplate.Proofs.Expansion.Budget
import UrlTemplate.Proofs.Expansion.Containment
import UrlTemplate.Proofs.Template.Segmentation

/-!
# Templates are expanded part by part

The slots of a template do not see each other: a template is expanded to its gaps with, in place of
each slot, what that slot is expanded to as a template of its own (`Expander.result_expand_slots`).
And of templates that can be joined, one is expanded after the other
(`Expander.joins_expand_append`): `Piece.append` puts their pieces together, and `Outcome.reported`
leaves out the notes, which tell the number of slots of a whole template. Its law and those of
`Outcome.andThen` carry the proof.

**Theorem** (`Service.expandWithin_append`): both for requests, with what they report and count.
-/

namespace UrlTemplate

open Template Observation

namespace Template

/-- The template with its slots replaced by some texts, in order. -/
def replaceSlots (template : String) (texts : List String) : String :=
  String.ofList (Segmentation.fill (scan template.toList).slots (scan template.toList).tail
    (texts.map String.toList))

/-- What depends on the bodies of slots alone can be read off the cut of a template. -/
theorem map_occurrences {α : Type} (f : Occurrence → α) (g : List Char → α)
    (h : ∀ start stop body,
      f ⟨start, stop, String.ofList (slotSource body), String.ofList body⟩ = g body)
    (template : String) :
    (occurrences template).map f = (scan template.toList).slots.map fun slot => g slot.body := by
  have hfrom (offset : Nat) (slots : List Slot) :
      (occurrencesFrom offset slots).map f = slots.map fun slot => g slot.body := by
    induction slots generalizing offset with
    | nil => rfl
    | cons slot slots ih =>
      rw [occurrencesFrom, List.map_cons, List.map_cons, ih, h]
  exact hfrom 0 _

/-- The slots of a template as they stand in it. -/
theorem sources_occurrences (template : String) :
    (occurrences template).map Occurrence.source =
      (scan template.toList).slots.map fun slot => String.ofList (slotSource slot.body) :=
  map_occurrences Occurrence.source (fun body => String.ofList (slotSource body))
    (fun _ _ _ => rfl) template

end Template

/-- Two pieces as one. -/
def Piece.append (p q : Piece) : Piece :=
  ⟨p.text ++ q.text, p.exhausted || q.exhausted⟩

namespace Outcome

variable {α β : Type}

/-- An outcome without its notes. -/
def reported (outcome : Outcome α) : Outcome α :=
  ⟨reports outcome.observations, outcome.result⟩

/-- What is reported of two parts is what is reported of each. -/
theorem reported_andThen (first : Outcome α) (next : α → Outcome β) :
    (first.andThen next).reported = first.reported.andThen fun a => (next a).reported :=
  keep_andThen _ first next

/-- Apart from notes, the outcome is the first one and then the second one, with their pieces as
one. -/
def Joins (whole first second : Outcome Piece) : Prop :=
  whole.reported =
    first.reported.andThen fun p => second.reported.andThen fun q => ⟨[], .ok (p.append q)⟩

variable {whole first second : Outcome Piece}

/-- Outcomes that are joined end one after the other. -/
theorem Joins.result (h : whole.Joins first second) :
    whole.result = do return (← first.result).append (← second.result) := by
  have hresult : whole.reported.result = (first.reported.andThen fun p =>
      second.reported.andThen fun q => ⟨[], .ok (p.append q)⟩).result := congrArg Outcome.result h
  show whole.reported.result = _
  simp only [hresult, result_andThen]
  rfl

/-- If outcomes that are joined succeed, each of them does. -/
theorem Joins.exists_pieces (h : whole.Joins first second) {piece : Piece}
    (hok : whole.result = .ok piece) :
    ∃ p q, first.result = .ok p ∧ second.result = .ok q ∧ piece = p.append q := by
  rw [h.result] at hok
  cases hp : first.result with
  | error e =>
    rw [hp] at hok
    cases hok
  | ok p =>
    cases hq : second.result with
    | error e =>
      rw [hp, hq] at hok
      cases hok
    | ok q =>
      rw [hp, hq] at hok
      exact ⟨p, q, rfl, rfl, (Except.ok.inj hok).symm⟩

/-- Outcomes that are joined report one after the other. -/
theorem Joins.reports (h : whole.Joins first second) {p : Piece} (hp : first.result = .ok p) :
    reports whole.observations = reports (first.observations ++ second.observations) := by
  have hshown : whole.reported.observations = (first.reported.andThen fun p =>
      second.reported.andThen fun q => ⟨[], .ok (p.append q)⟩).observations :=
    congrArg Outcome.observations h
  have hreported : first.reported.result = .ok p := hp
  show whole.reported.observations = _
  rw [hshown, andThen_of_ok hreported, observations_andThen_ok, reports_append]
  rfl

end Outcome

namespace Expander

variable {x : Expander}

/-! ### Slots on their own -/

/-- A slot is expanded as a template of its own. -/
theorem result_expand_slotSource {body : List Char} (h : '}' ∉ body) (fuel : Nat) :
    (x.expand (fuel + 1) (slotSource body)).run.result =
      (x.resolveSlot (x.expand fuel) body).run.result := by
  have hplain : Plain [] := by decide
  have hscan : scan (slotSource body) = ⟨[⟨[], body⟩], []⟩ := scan_gap_slot hplain h
  rw [result_expand_succ, slotTasks, hscan, List.map_cons, List.map_nil, Task.result_runAll_cons,
    Task.runAll_nil]
  cases (x.resolveSlot (x.expand fuel) body).run.result with
  | error e => rfl
  | ok piece =>
    have hsplice : splice ⟨[⟨[], body⟩], []⟩ [piece] = piece := by
      simp [splice, Segmentation.fill]
    exact congrArg Except.ok hsplice

/-- **A template is expanded to its gaps with, in place of each slot, what that slot is expanded to
as a template of its own.** -/
theorem result_expand_slots (fuel : Nat) (template : List Char) :
    (x.expand (fuel + 1) template).run.result =
      ((scan template).slots.mapM fun slot =>
        (x.expand (fuel + 1) (slotSource slot.body)).run.result).map (splice (scan template)) := by
  have hslots : (Task.runAll (x.slotTasks fuel template)).result =
      (scan template).slots.mapM fun slot =>
        (x.expand (fuel + 1) (slotSource slot.body)).run.result := by
    refine Task.result_runAll_map ?_
    intro slot hslot
    exact (result_expand_slotSource ((proper_scan template).bodies slot hslot) fuel).symm
  rw [result_expand_succ, hslots]

/-! ### Templates in a row -/

/-- What is reported of a template is what is reported of its slots, which are then spliced. -/
theorem reported_expand_succ (fuel : Nat) (template : List Char) :
    (x.expand (fuel + 1) template).run.reported =
      (Task.runAll (x.slotTasks fuel template)).reported.andThen fun pieces =>
        ⟨[], .ok (splice (scan template) pieces)⟩ := by
  have hshown : reports (x.expand (fuel + 1) template).run.observations =
      reports (Task.runAll (x.slotTasks fuel template)).observations := by
    by_cases hslots : (scan template).slots = []
    · rw [run_expand_of_no_slots hslots, slotTasks, hslots, List.map_nil, Task.runAll_nil]
    · -- the note that comes first is no report
      rw [run_expand_of_slots hslots]
      rfl
  unfold Outcome.reported
  rw [result_expand_succ, hshown]
  cases hall : (Task.runAll (x.slotTasks fuel template)).result with
  | error e => rw [Outcome.andThen_of_error rfl]; rfl
  | ok pieces => rw [Outcome.andThen_of_ok rfl, List.append_nil]; rfl

variable {first second : List Char}

/-- Templates that can be joined have the tasks of both, one after the other. -/
theorem slotTasks_append (h : Joinable first second) (fuel : Nat) :
    x.slotTasks fuel (first ++ second) = x.slotTasks fuel first ++ x.slotTasks fuel second := by
  have htasks (template : List Char) : x.slotTasks fuel template =
      ((scan template).slots.map Slot.body).map (x.resolveSlot (x.expand fuel)) := by
    rw [List.map_map]
    rfl
  rw [htasks, htasks, htasks, bodies_append h, List.map_append]

/-- Templates that can be joined are spliced one after the other. -/
theorem splice_append (h : Joinable first second) {ps qs : List Piece}
    (hps : ps.length = (scan first).slots.length) (hqs : qs.length = (scan second).slots.length) :
    splice (scan (first ++ second)) (ps ++ qs) =
      (splice (scan first) ps).append (splice (scan second) qs) := by
  have hpieces : (ps.map Piece.text).length = (scan first).slots.length := by
    rw [List.length_map, hps]
  have hpieces' : (qs.map Piece.text).length = (scan second).slots.length := by
    rw [List.length_map, hqs]
  unfold splice
  rw [List.map_append, fill_scan_append h hpieces hpieces', List.any_append]
  rfl

/-- **Of templates that can be joined, one is expanded after the other.** -/
theorem joins_expand_append (h : Joinable first second) (fuel : Nat) :
    (x.expand (fuel + 1) (first ++ second)).run.Joins (x.expand (fuel + 1) first).run
      (x.expand (fuel + 1) second).run := by
  have hlength {template : List Char} {pieces : List Piece}
      (hok : (Task.runAll (x.slotTasks fuel template)).reported.result = .ok pieces) :
      pieces.length = (scan template).slots.length := by
    rw [Task.length_of_runAll_ok hok, slotTasks, List.length_map]
  calc (x.expand (fuel + 1) (first ++ second)).run.reported
      = (Task.runAll (x.slotTasks fuel first)).reported.andThen fun ps =>
          (Task.runAll (x.slotTasks fuel second)).reported.andThen fun qs =>
            ⟨[], .ok (splice (scan (first ++ second)) (ps ++ qs))⟩ := by
        rw [reported_expand_succ, slotTasks_append h, Task.runAll_append, Outcome.reported_andThen,
          Outcome.andThen_assoc]
        refine Outcome.andThen_congr ?_
        intro ps _
        rw [Outcome.reported_andThen, Outcome.andThen_assoc]
        refine Outcome.andThen_congr ?_
        intro qs _
        exact Outcome.ok_andThen _ _
    _ = (Task.runAll (x.slotTasks fuel first)).reported.andThen fun ps =>
          (Task.runAll (x.slotTasks fuel second)).reported.andThen fun qs =>
            ⟨[], .ok ((splice (scan first) ps).append (splice (scan second) qs))⟩ := by
        refine Outcome.andThen_congr ?_
        intro ps hps
        refine Outcome.andThen_congr ?_
        intro qs hqs
        rw [splice_append h (hlength hps) (hlength hqs)]
    _ = (x.expand (fuel + 1) first).run.reported.andThen fun p =>
          (x.expand (fuel + 1) second).run.reported.andThen fun q => ⟨[], .ok (p.append q)⟩ := by
        rw [reported_expand_succ, reported_expand_succ, Outcome.andThen_assoc]
        refine Outcome.andThen_congr ?_
        intro ps _
        rw [Outcome.ok_andThen, Outcome.andThen_assoc]
        refine Outcome.andThen_congr ?_
        intro qs _
        rw [Outcome.ok_andThen]

end Expander

/-- What is made of every success in a row can be made of all of them in the end. -/
theorem mapM_map_result {ε α β γ : Type} (xs : List α) (f : α → Except ε β) (g : β → γ) :
    (xs.mapM fun a => (f a).map g) = (xs.mapM f).map (List.map g) := by
  induction xs with
  | nil => rfl
  | cons a xs ih =>
    rw [List.mapM_cons, List.mapM_cons, ih]
    cases f a with
    | error e => rfl
    | ok b => cases xs.mapM f <;> rfl

namespace Service

/-! ### Requests -/

variable (s : Service) (template : String) (scopes : Scopes) (encode : Option Bool) {n : Int}
  {first second : String}

/-- Of templates that can be joined, one is run after the other. -/
theorem joins_runWithin (h : Joinable first.toList second.toList) (hn : 0 ≤ n) :
    (s.runWithin (first ++ second) scopes encode n).Joins (s.runWithin first scopes encode n)
      (s.runWithin second scopes encode n) := by
  have hlevels : (n + 1).toNat = n.toNat + 1 := by omega
  unfold runWithin
  rw [hlevels, String.toList_append]
  exact Expander.joins_expand_append h n.toNat

/-- **A request is answered with its template in which each slot is replaced by the answer to the
same request for that slot.** -/
theorem result_expandWithin_slots (hn : 0 ≤ n) :
    (s.expandWithin template scopes encode n).result =
      ((occurrences template).mapM fun slot =>
        (s.expandWithin slot.source scopes encode n).result).map (replaceSlots template) := by
  have hlevels : (n + 1).toNat = n.toNat + 1 := by omega
  have hslots := Expander.result_expand_slots
    (x := ⟨s.registry, scopes, encode.getD s.encode, s.recordMetrics⟩) n.toNat template.toList
  have htexts : (String.toList ∘ fun piece : Piece => String.ofList piece.text) = Piece.text := by
    funext piece
    exact String.toList_ofList
  have hsources : ((occurrences template).mapM fun slot =>
        (s.expandWithin slot.source scopes encode n).result) =
      (scan template.toList).slots.mapM fun slot =>
        (s.expandWithin (String.ofList (slotSource slot.body)) scopes encode n).result := by
    have hmapM := congrArg (List.mapM fun source => (s.expandWithin source scopes encode n).result)
      (sources_occurrences template)
    rw [List.mapM_map, List.mapM_map] at hmapM
    exact hmapM
  rw [hsources]
  simp only [result_expandWithin, runWithin, hlevels, String.toList_ofList, mapM_map_result]
  rw [hslots]
  cases (scan template.toList).slots.mapM fun slot =>
      (Expander.expand ⟨s.registry, scopes, encode.getD s.encode, s.recordMetrics⟩ (n.toNat + 1)
        (slotSource slot.body)).run.result with
  | error e => rfl
  | ok pieces =>
    simp only [Except.map, replaceSlots, List.map_map, htexts]
    rfl

/-- **Templates that can be joined are answered one after the other: the answer is the one and then
the other, so are the problems, the counts add up, and the budget runs out exactly if it runs out in
one of them.** -/
theorem expandWithin_append (h : Joinable first.toList second.toList) (hn : 0 ≤ n) :
    let left := s.expandWithin first scopes encode n
    let right := s.expandWithin second scopes encode n
    let whole := s.expandWithin (first ++ second) scopes encode n
    (scopes.WellFormed → s.registry.ReturnsValues →
      ∃ a b, left.result = .ok a ∧ right.result = .ok b) ∧
    whole.result = (do return (← left.result) ++ (← right.result)) ∧
    whole.result = ((occurrences (first ++ second)).mapM fun slot =>
      (s.expandWithin slot.source scopes encode n).result).map (replaceSlots (first ++ second)) ∧
    (∀ a, left.result = .ok a →
      errors whole.observations = errors left.observations ++ errors right.observations ∧
      (∀ counter, counter.isInner = true → tally whole.observations counter =
        tally left.observations counter + tally right.observations counter) ∧
      (RanOut whole.observations ↔ RanOut left.observations ∨ RanOut right.observations)) ∧
    (s.recordMetrics = true → ∀ text, whole.result = .ok text →
      (tally whole.observations (.expansions true) = 1 ↔
        tally left.observations (.expansions true) = 1 ∨
          tally right.observations (.expansions true) = 1)) := by
  intro left right whole
  have hjoins := s.joins_runWithin scopes encode h hn
  refine ⟨?_, ?_, s.result_expandWithin_slots _ scopes encode hn, ?_, ?_⟩
  · intro hw hr
    obtain ⟨a, ha⟩ := s.expand_succeeds hr ⟨.str first, scopes, some n, encode⟩ hw rfl
    obtain ⟨b, hb⟩ := s.expand_succeeds hr ⟨.str second, scopes, some n, encode⟩ hw rfl
    exact ⟨a, b, ha, hb⟩
  · have hjoined := hjoins.result
    simp only [whole, left, right, result_expandWithin, hjoined]
    cases (s.runWithin first scopes encode n).result with
    | error e => rfl
    | ok p =>
      cases (s.runWithin second scopes encode n).result with
      | error e => rfl
      | ok q => exact congrArg Except.ok (String.ofList_append)
  · intro a ha
    obtain ⟨p, hp⟩ := exists_piece_of_expandWithin ha
    have hreports := hjoins.reports hp
    have herrors : errors whole.observations =
        errors (left.observations ++ right.observations) := by
      simp only [whole, left, right, errors_append, errors_expandWithin]
      rw [← errors_reports, hreports, errors_reports, errors_append]
    refine ⟨?_, ?_, ?_⟩
    · rw [herrors, errors_append]
    · intro counter hinner
      simp only [whole, left, right, tally_expandWithin hinner]
      rw [← tally_reports, hreports, tally_reports, tally_append]
    · exact (ranOut_congr herrors).trans ranOut_append
  · intro hmetrics text htext
    obtain ⟨piece, hpiece⟩ := exists_piece_of_expandWithin htext
    obtain ⟨p, q, hp, hq, rfl⟩ := hjoins.exists_pieces hpiece
    rw [tally_expansions_expandWithin hmetrics hpiece, tally_expansions_expandWithin hmetrics hp,
      tally_expansions_expandWithin hmetrics hq]
    have hone (exhausted : Bool) : (if exhausted = true then 1 else 0) = 1 ↔ exhausted = true := by
      cases exhausted <;> decide
    rw [hone, hone, hone]
    exact Bool.or_eq_true_iff

/-- A text that is left as it stands for lack of levels and a malformed slot change nothing about
the slot after them. -/
theorem expandWithin_append_past_problems :
    let whole := metered.expandWithin ("${site}-${}" ++ "${path}") nestedScopes none 0
    whole.result = .ok "/${path}-7" ∧ RanOut whole.observations ∧
      tally whole.observations .placeholders = 2 ∧
      tally whole.observations (.expansions true) = 1 := by
  intro whole
  have h : Joinable "${site}-${}".toList "${path}".toList := ⟨by decide +kernel, by decide +kernel⟩
  have hn : (0 : Int) ≤ 0 := by decide
  have hleft : (metered.expandWithin "${site}-${}" nestedScopes none 0).result =
      .ok "/${path}-" := by
    cbv
  have hright : (metered.expandWithin "${path}" nestedScopes none 0).result = .ok "7" := by
    cbv
  obtain ⟨-, hresult, -, hshown, hends⟩ := metered.expandWithin_append nestedScopes none h hn
  have hwhole : whole.result = .ok "/${path}-7" := by
    rw [hresult, hleft, hright]
    rfl
  obtain ⟨-, hcounts, hran⟩ := hshown _ hleft
  refine ⟨hwhole, hran.mpr (.inl (of_decide_eq_true (by cbv))), ?_, ?_⟩
  · rw [hcounts .placeholders rfl]
    cbv
  · exact (hends rfl _ hwhole).mpr (.inl (by cbv))

end Service

end UrlTemplate
