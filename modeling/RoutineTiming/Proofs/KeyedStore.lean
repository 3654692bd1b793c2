import Mathlib.Data.List.Nodup
import RoutineTiming.OrderedMap

/-!
# Stores written entry by entry

A store holds values at keys. Whatever its layout, what it holds after a list of writes is settled
by the law for a single write: at each key the last value written, or else what was there before.

## Main definitions

* `lastValue` : the last value that a list of entries gives to a key.

## Main results

* `get_foldl_set` : what a store holds after a list of writes.
* `exists_last_of_exists` : the last element with a property.
* `lastValue_eq_some_iff_exists` : the entry that gives the last value.
* `lastValue_eq_some_iff` : the value of a key that is given once.
* `OrderedMap.get?_ofList_eq_some_iff`, `OrderedMap.mem_of_get?_ofList` : what a map of a list
  holds.
* `OrderedMap.keys_ofList` : the keys of a map of an ascending list.
* `OrderedMap.lastValue_entries` : the entries of a map as a list of writes.
-/

namespace RoutineTiming

/-- If elements of a list have a property, there is a last one that has it. -/
theorem exists_last_of_exists {α : Type} {p : α → Prop} {l : List α} (h : ∃ a ∈ l, p a) :
    ∃ front a back, l = front ++ a :: back ∧ p a ∧ ∀ b ∈ back, ¬ p b := by
  induction l with
  | nil =>
    obtain ⟨a, ha, -⟩ := h
    cases ha
  | cons x l ih =>
    by_cases hl : ∃ a ∈ l, p a
    · obtain ⟨front, a, back, rfl, ha, hback⟩ := ih hl
      exact ⟨x :: front, a, back, rfl, ha, hback⟩
    · obtain ⟨a, ha, hp⟩ := h
      rcases List.mem_cons.mp ha with rfl | ha
      · exact ⟨[], a, l, rfl, hp, fun b hb hpb => hl ⟨b, hb, hpb⟩⟩
      · exact absurd ⟨a, ha, hp⟩ hl

variable {κ ν : Type} [DecidableEq κ]

/-- The last value that a list of entries gives to a key. -/
def lastValue (k : κ) : List (κ × ν) → Option ν
  | [] => none
  | (k', v) :: rest => (lastValue k rest).or (if k = k' then some v else none)

/-- After a list of writes a store holds the last value written, or what it held before. -/
theorem get_foldl_set {store : Type} (get : store → κ → Option ν) {set : store → κ × ν → store}
    (hset : ∀ s e k, get (set s e) k = if k = e.1 then some e.2 else get s k)
    (entries : List (κ × ν)) (s : store) (k : κ) :
    get (entries.foldl set s) k = (lastValue k entries).or (get s k) := by
  induction entries generalizing s with
  | nil => rfl
  | cons e rest ih =>
    rw [List.foldl_cons, ih, hset, lastValue, Option.or_assoc]
    congr 1
    split <;> rfl

theorem lastValue_append (k : κ) (entries later : List (κ × ν)) :
    lastValue k (entries ++ later) = (lastValue k later).or (lastValue k entries) := by
  induction entries with
  | nil => exact Option.or_none.symm
  | cons e entries ih => rw [List.cons_append, lastValue, ih, lastValue, Option.or_assoc]

theorem lastValue_map_mk (f : κ → ν) (k : κ) (keys : List κ) :
    lastValue k (keys.map fun k => (k, f k)) = if k ∈ keys then some (f k) else none := by
  induction keys with
  | nil => rfl
  | cons k' keys ih =>
    rw [List.map_cons, lastValue, ih]
    by_cases hk : k = k'
    · subst hk
      by_cases hkeys : k ∈ keys <;> simp [hkeys]
    · by_cases hkeys : k ∈ keys <;> simp [hkeys, hk]

theorem lastValue_eq_none_iff {k : κ} {entries : List (κ × ν)} :
    lastValue k entries = none ↔ k ∉ entries.map Prod.fst := by
  induction entries with
  | nil => simp [lastValue]
  | cons e rest ih =>
    rw [lastValue, Option.or_eq_none_iff, ih, List.map_cons, List.mem_cons, not_or, and_comm]
    refine and_congr_left fun _ => ?_
    simp

/-- The entries of other keys do not matter. -/
theorem lastValue_filter {keep : κ → Bool} {k : κ} (hk : keep k = true) (entries : List (κ × ν)) :
    lastValue k (entries.filter fun e => keep e.1) = lastValue k entries := by
  induction entries with
  | nil => rfl
  | cons e rest ih =>
    rw [List.filter_cons, lastValue]
    split
    · rw [lastValue, ih]
    · next hkeep =>
      have hne : k ≠ e.1 := by
        rintro rfl
        exact hkeep hk
      rw [ih, if_neg hne, Option.or_none]

/-- The last value that a list gives to a key stands in the list. -/
theorem mem_of_lastValue {k : κ} {v : ν} {entries : List (κ × ν)}
    (h : lastValue k entries = some v) : (k, v) ∈ entries := by
  induction entries with
  | nil => cases h
  | cons e rest ih =>
    rw [lastValue] at h
    rcases Option.or_eq_some_iff.mp h with h | ⟨-, h⟩
    · exact List.mem_cons_of_mem _ (ih h)
    · split at h
      · next hk =>
        rw [hk, ← Option.some.inj h]
        exact List.mem_cons_self
      · cases h

/-- The last value that a list gives to a key stands in an entry behind which the key does not
occur. -/
theorem lastValue_eq_some_iff_exists {k : κ} {v : ν} {entries : List (κ × ν)} :
    lastValue k entries = some v ↔ ∃ earlier later,
      entries = earlier ++ (k, v) :: later ∧ k ∉ later.map Prod.fst := by
  have hlast {earlier later : List (κ × ν)} {v : ν} (h : k ∉ later.map Prod.fst) :
      lastValue k (earlier ++ (k, v) :: later) = some v := by
    rw [lastValue_append, lastValue, lastValue_eq_none_iff.mpr h, Option.none_or, if_pos rfl,
      Option.some_or]
  constructor
  · intro h
    obtain ⟨earlier, ⟨k', v'⟩, later, heq, hk, hlater⟩ :=
      exists_last_of_exists (p := fun e => e.1 = k) ⟨(k, v), mem_of_lastValue h, rfl⟩
    obtain rfl : k' = k := hk
    have hnot : k' ∉ later.map Prod.fst := by
      intro hmem
      obtain ⟨e, he, hkey⟩ := List.mem_map.mp hmem
      exact hlater e he hkey
    rw [heq, hlast hnot] at h
    exact ⟨earlier, later, Option.some.inj h ▸ heq, hnot⟩
  · rintro ⟨earlier, later, rfl, h⟩
    exact hlast h

/-- A list that gives a value to each key once gives to a key the value of its entry. -/
theorem lastValue_eq_some_iff {k : κ} {v : ν} {entries : List (κ × ν)}
    (h : (entries.map Prod.fst).Nodup) : lastValue k entries = some v ↔ (k, v) ∈ entries := by
  induction entries with
  | nil => simp [lastValue]
  | cons e rest ih =>
    obtain ⟨hnew, hrest⟩ := List.nodup_cons.mp h
    rw [lastValue, Option.or_eq_some_iff, ih hrest, lastValue_eq_none_iff, List.mem_cons,
      Prod.ext_iff]
    constructor
    · rintro (hmem | ⟨-, hval⟩)
      · exact .inr hmem
      · split at hval
        · next hk => exact .inl ⟨hk, (Option.some.inj hval).symm⟩
        · cases hval
    · rintro (⟨hk, hv⟩ | hmem)
      · have hk : k = e.1 := hk
        have hv : v = e.2 := hv
        exact .inr ⟨by rwa [hk], by simp [hk, hv]⟩
      · exact .inl hmem

/-- The map of a list with each key once holds just what is listed. -/
theorem OrderedMap.get?_ofList_eq_some_iff [Ord κ] [Std.TransOrd κ] [Std.LawfulEqOrd κ]
    {entries : List (κ × ν)} (h : (entries.map Prod.fst).Nodup) {k : κ} {v : ν} :
    (ofList entries).get? k = some v ↔ (k, v) ∈ entries := by
  rw [ofList, get_foldl_set OrderedMap.get? fun m e k => get?_insert m e.1 k e.2]
  simp [lastValue_eq_some_iff h]

/-- A map of a list holds only what is listed. -/
theorem OrderedMap.mem_of_get?_ofList [Ord κ] [Std.TransOrd κ] [Std.LawfulEqOrd κ]
    {entries : List (κ × ν)} {k : κ} {v : ν} (h : (ofList entries).get? k = some v) :
    (k, v) ∈ entries := by
  rw [ofList, get_foldl_set OrderedMap.get? fun m e k => get?_insert m e.1 k e.2] at h
  rcases Option.or_eq_some_iff.mp h with h | ⟨-, h⟩
  · exact mem_of_lastValue h
  · cases h

omit [DecidableEq κ] in
/-- A list in ascending order of the keys has each key once. -/
theorem OrderedMap.nodup_of_ascending [Ord κ] [Std.TransOrd κ] {entries : List (κ × ν)}
    (h : entries.Pairwise fun a b => compare a.1 b.1 = .lt) : (entries.map Prod.fst).Nodup := by
  refine List.pairwise_map.mpr (h.imp fun {a b} hlt heq => ?_)
  rw [heq] at hlt
  simp at hlt

/-- The map of a list in ascending order of the keys has just these keys. -/
theorem OrderedMap.keys_ofList [Ord κ] [Std.TransOrd κ] [Std.LawfulEqOrd κ]
    {entries : List (κ × ν)} (h : entries.Pairwise fun a b => compare a.1 b.1 = .lt) :
    (ofList entries).keys = entries.map Prod.fst := by
  have hentries : (ofList entries).entries = entries := by
    refine eq_of_mem_iff (ofList entries).ascending h fun e => ?_
    rw [mem_entries_iff, get?_ofList_eq_some_iff (nodup_of_ascending h)]
  rw [keys, hentries]

/-- The entries of a map give to a key what the map holds there. -/
theorem OrderedMap.lastValue_entries [Ord κ] [Std.TransOrd κ] [Std.LawfulEqOrd κ]
    (m : OrderedMap κ ν) (k : κ) : lastValue k m.entries = m.get? k := by
  refine Option.ext fun v => ?_
  rw [lastValue_eq_some_iff (nodup_of_ascending m.ascending), mem_entries_iff]

theorem OrderedMap.mem_keys_iff [Ord κ] [Std.TransOrd κ] [Std.LawfulEqOrd κ]
    {m : OrderedMap κ ν} {k : κ} : k ∈ m.keys ↔ m.get? k ≠ none := by
  rw [← lastValue_entries, Ne, lastValue_eq_none_iff, not_not, keys]

end RoutineTiming
