/-!
# Entries in order of insertion

A finite map that keeps the order in which its keys came: a list of pairs. `put` replaces the value
of a key in place or adds a new key at the end, so keys stay distinct (`keys_put`) and the other
entries stay as they are (`lookup_put`). Distinct keys make every entry the one that a look-up finds
(`lookup_of_mem`).
-/

namespace UrlTemplate.Entries

variable {κ α : Type} [DecidableEq κ]

/-- The keys in order. -/
def keys (entries : List (κ × α)) : List κ :=
  entries.map Prod.fst

/-- Binds a key: in its place if it is there, at the end otherwise. -/
def put (entries : List (κ × α)) (key : κ) (value : α) : List (κ × α) :=
  match entries with
  | [] => [(key, value)]
  | (k, v) :: rest => if k = key then (key, value) :: rest else (k, v) :: put rest key value

/-- Unbinds a key. -/
def erase (entries : List (κ × α)) (key : κ) : List (κ × α) :=
  entries.filter (·.1 ≠ key)

/-- Binds the keys of `others` one after the other. -/
def putAll (entries others : List (κ × α)) : List (κ × α) :=
  others.foldl (fun entries (key, value) => put entries key value) entries

/-- A look-up takes the first entry with the key. -/
theorem lookup_cons (entry : κ × α) (rest : List (κ × α)) (k : κ) :
    (entry :: rest).lookup k = if k = entry.1 then some entry.2 else rest.lookup k := by
  obtain ⟨k', v⟩ := entry
  rw [List.lookup_cons]
  by_cases h : k = k'
  · simp [h]
  · rw [if_neg h, beq_false_of_ne h]

/-- Nothing is found under a key exactly if it is not there. -/
theorem lookup_eq_none_iff {entries : List (κ × α)} {k : κ} :
    entries.lookup k = none ↔ k ∉ keys entries := by
  simp only [List.lookup_eq_none_iff, bne_iff_ne, keys, List.mem_map, not_exists, not_and]
  exact forall₂_congr fun _ _ => ne_comm

/-- What is found under a key is bound to it. -/
theorem mem_of_lookup {entries : List (κ × α)} {k : κ} {v : α} (h : entries.lookup k = some v) :
    (k, v) ∈ entries := by
  induction entries with
  | nil => cases h
  | cons entry rest ih =>
    rw [lookup_cons] at h
    split at h
    · rename_i hk
      obtain rfl := Option.some.inj h
      exact hk ▸ List.mem_cons_self
    · exact List.mem_cons_of_mem _ (ih h)

/-- A search that only entries with the key pass finds what the look-up finds. -/
theorem find?_of_lookup {entries : List (κ × α)} {k : κ} {v : α} (h : entries.lookup k = some v)
    {p : κ × α → Bool} (hp : ∀ entry ∈ entries, p entry = decide (entry.1 = k)) :
    entries.find? p = some (k, v) := by
  induction entries with
  | nil => cases h
  | cons entry rest ih =>
    obtain ⟨hfirst, hrest⟩ := List.forall_mem_cons.mp hp
    rw [lookup_cons] at h
    split at h
    · rename_i hk
      obtain rfl := Option.some.inj h
      simp [hfirst, hk]
    · rename_i hk
      simp [hfirst, Ne.symm hk, ih h hrest]

/-- Where keys are distinct, every entry is found under its key. -/
theorem lookup_of_mem {entries : List (κ × α)} (h : (keys entries).Nodup) {k : κ} {v : α}
    (hmem : (k, v) ∈ entries) : entries.lookup k = some v := by
  induction entries with
  | nil => cases hmem
  | cons entry rest ih =>
    obtain ⟨hfresh, hrest⟩ := List.nodup_cons.mp h
    rw [lookup_cons]
    rcases List.mem_cons.mp hmem with rfl | hmem
    · rw [if_pos rfl]
    · have hne : k ≠ entry.1 := by
        rintro rfl
        exact hfresh (List.mem_map.mpr ⟨_, hmem, rfl⟩)
      rw [if_neg hne, ih hrest hmem]

/-- Binding a key changes what is found under that key and under no other. -/
theorem lookup_put (entries : List (κ × α)) (key k : κ) (value : α) :
    (put entries key value).lookup k = if k = key then some value else entries.lookup k := by
  induction entries with
  | nil => simp [put, lookup_cons]
  | cons entry rest ih =>
    rw [put]
    split
    · rename_i h
      simp only [lookup_cons]
      split <;> simp_all
    · rename_i h
      simp only [lookup_cons, ih]
      split <;> simp_all

/-- Binding a key that is there keeps the keys as they are; a new key comes last. -/
theorem keys_put (entries : List (κ × α)) (key : κ) (value : α) :
    keys (put entries key value) =
      if key ∈ keys entries then keys entries else keys entries ++ [key] := by
  induction entries with
  | nil => simp [put, keys]
  | cons entry rest ih =>
    obtain ⟨k, v⟩ := entry
    by_cases h : k = key
    · simp [put, keys, h]
    · have ih' : (put rest key value).map Prod.fst = _ := ih
      by_cases hmem : key ∈ keys rest
      · have hmem' : key ∈ rest.map Prod.fst := hmem
        rw [if_pos hmem] at ih'
        simp [put, keys, h, ih', hmem']
      · have hmem' : key ∉ rest.map Prod.fst := hmem
        rw [if_neg hmem] at ih'
        simp only [put, if_neg h, keys, List.map_cons, ih', List.mem_cons, Ne.symm h, false_or,
          if_neg hmem', List.cons_append]

/-- Unbinding a key changes what is found under that key and under no other. -/
theorem lookup_erase (entries : List (κ × α)) (key k : κ) :
    (erase entries key).lookup k = if k = key then none else entries.lookup k := by
  induction entries with
  | nil => simp [erase]
  | cons entry rest ih =>
    rw [lookup_cons]
    by_cases h : entry.1 = key
    · have herase : erase (entry :: rest) key = erase rest key := by simp [erase, h]
      rw [herase, ih, h]
      split <;> rfl
    · have herase : erase (entry :: rest) key = entry :: erase rest key := by simp [erase, h]
      rw [herase, lookup_cons, ih]
      by_cases hk : k = entry.1
      · simp [hk, h]
      · simp [hk]

/-- Unbinding a key keeps the keys distinct. -/
theorem nodup_erase {entries : List (κ × α)} (h : (keys entries).Nodup) (key : κ) :
    (keys (erase entries key)).Nodup :=
  (List.filter_sublist.map Prod.fst).nodup h

/-- A new key is bound at the end. -/
theorem put_of_not_mem {entries : List (κ × α)} {key : κ} (h : key ∉ keys entries) (value : α) :
    put entries key value = entries ++ [(key, value)] := by
  induction entries with
  | nil => rfl
  | cons entry rest ih =>
    obtain ⟨hne, hrest⟩ := not_or.mp (mt List.mem_cons.mpr h)
    rw [put, if_neg (Ne.symm hne), ih hrest, List.cons_append]

/-- Binding a key keeps the keys distinct. -/
theorem nodup_put {entries : List (κ × α)} (h : (keys entries).Nodup) (key : κ) (value : α) :
    (keys (put entries key value)).Nodup := by
  rw [keys_put]
  split
  · exact h
  · rename_i hnew
    refine List.nodup_append.mpr ⟨h, by simp, ?_⟩
    rintro k hk _ hmem rfl
    exact hnew (List.mem_singleton.mp hmem ▸ hk)

end UrlTemplate.Entries
