import RoutineTiming.Proofs.Binary64.Order

/-!
# The least of several numbers

Of two numbers the smaller one is taken, the first one if they are equal, and not-a-number gives
way. How several numbers are grouped does not matter then. What lies below the least of them is what
lies below all of them, and this settles a number except for the sign of zero, so neither their
order nor how often one of them occurs matters either.

## Main definitions

* `Binary64.Equals` : the numbers that are equal in the order.

## Main results

* `Binary64.equals_of_le_iff`, `Binary64.forall_le_of_equals` : numbers and what lies below them.
* `Binary64.le_min_iff`, `Binary64.min_assoc` : the smaller one of two numbers.
* `Binary64.le_foldl_min_iff`, `Binary64.foldl_min_eq_or_mem` : the least of several numbers.
* `Binary64.foldl_min_filter` : not-a-number is left out.
* `Binary64.foldl_min_append` : numbers in two parts.
-/

namespace RoutineTiming.Binary64

/-! ### Equal numbers -/

/-- The numbers are equal in the order, as the two zeros are; not-a-number equals nothing. -/
def Equals (x y : Binary64) : Prop := x ≤ y ∧ y ≤ x

instance (x y : Binary64) : Decidable (x.Equals y) := inferInstanceAs (Decidable (_ ∧ _))

section Equals

variable {x y : Binary64}

theorem le_refl (h : x.isNaN = false) : x ≤ x := (le_or_lt h h).elim id le_of_lt

theorem Equals.refl (h : x.isNaN = false) : x.Equals x := ⟨le_refl h, le_refl h⟩

/-- A number is settled, except for the sign of zero, by what lies below it. -/
theorem equals_of_le_iff (hx : x.isNaN = false) (hy : y.isNaN = false)
    (h : ∀ bound, bound ≤ x ↔ bound ≤ y) : x.Equals y :=
  ⟨(h x).mp (le_refl hx), (h y).mpr (le_refl hy)⟩

/-- What lies below some numbers lies below all that equal one of them. -/
theorem forall_le_of_equals {bound : Binary64} {xs ys : List Binary64}
    (h : ∀ x ∈ xs, x.isNaN = false → ∃ y ∈ ys, y.Equals x)
    (hbound : ∀ y ∈ ys, y.isNaN = false → bound ≤ y) : ∀ x ∈ xs, x.isNaN = false → bound ≤ x := by
  intro x hx hnumber
  obtain ⟨y, hy, hle, -⟩ := h x hx hnumber
  exact le_trans (hbound y hy (isNaN_of_le hle).1) hle

end Equals

/-! ### The smaller one of two numbers -/

section Two

variable {x y z bound : Binary64}

theorem eq_nan_or (x : Binary64) : x = nan ∨ x.isNaN = false := by
  cases x with
  | nan => exact .inl rfl
  | _ => exact .inr rfl

theorem min_nan (x : Binary64) : min x nan = x := by
  have hnot : ¬ nan < x := fun h => nomatch (isNaN_of_le (le_of_lt h)).1
  rw [min, if_neg hnot]
  rcases eq_nan_or x with rfl | hx
  · rfl
  · rw [hx, if_neg Bool.false_ne_true]

theorem nan_min (y : Binary64) : min nan y = y := by
  have hnot : ¬ y < nan := fun h => nomatch (isNaN_of_le (le_of_lt h)).2
  rw [min, if_neg hnot]
  rfl

theorem min_of_number (hx : x.isNaN = false) (y : Binary64) :
    min x y = if y < x then y else x := by
  rw [min, hx, if_neg Bool.false_ne_true]

theorem isNaN_min (hx : x.isNaN = false) (y : Binary64) : (min x y).isNaN = false := by
  rw [min_of_number hx]
  split
  · next h => exact (isNaN_of_le (le_of_lt h)).1
  · exact hx

/-- What lies below the smaller one of two numbers lies below both. -/
theorem le_min_iff (hx : x.isNaN = false) :
    bound ≤ min x y ↔ bound ≤ x ∧ (y.isNaN = false → bound ≤ y) := by
  rcases eq_nan_or y with rfl | hy
  · rw [min_nan]
    exact ⟨fun h => ⟨h, fun hnan => nomatch hnan⟩, And.left⟩
  · rw [min_of_number hx]
    split
    · next hlt => exact ⟨fun h => ⟨le_trans h (le_of_lt hlt), fun _ => h⟩, fun h => h.2 hy⟩
    · next hnot =>
      have hle : x ≤ y := (le_or_lt hx hy).resolve_right hnot
      exact ⟨fun h => ⟨h, fun _ => le_trans h hle⟩, And.left⟩

theorem min_eq_or (x y : Binary64) : min x y = x ∨ min x y = y := by
  rcases eq_nan_or x with rfl | hx
  · exact .inr (nan_min y)
  · rw [min_of_number hx]
    exact (ite_eq_or_eq _ y x).symm

/-- Positive infinity gives way to any number. -/
theorem min_infinite (hx : x.isNaN = false) : min x (infinite false) = x := by
  rw [min_of_number hx, if_neg fun h => not_le_of_lt h (le_infinite_false hx)]

/-- How three numbers are grouped does not matter: the first one of the least of them is taken. -/
theorem min_assoc (x y z : Binary64) : min (min x y) z = min x (min y z) := by
  rcases eq_nan_or x with rfl | hx
  · rw [nan_min, nan_min]
  rcases eq_nan_or y with rfl | hy
  · rw [min_nan, nan_min]
  rcases eq_nan_or z with rfl | hz
  · rw [min_nan, min_nan]
  rw [min_of_number hx y, min_of_number hy z]
  by_cases hyx : y < x
  · rw [if_pos hyx]
    by_cases hzy : z < y
    · have hzx : z < x := lt_of_lt_of_le hzy (le_of_lt hyx)
      rw [if_pos hzy, min_of_number hy, if_pos hzy, min_of_number hx, if_pos hzx]
    · rw [if_neg hzy, min_of_number hy, if_neg hzy, min_of_number hx, if_pos hyx]
  · rw [if_neg hyx]
    by_cases hzy : z < y
    · rw [if_pos hzy]
    · have hxz : x ≤ z :=
        le_trans ((le_or_lt hx hy).resolve_right hyx) ((le_or_lt hy hz).resolve_right hzy)
      rw [if_neg hzy, min_of_number hx, min_of_number hx, if_neg hyx,
        if_neg fun hzx => not_le_of_lt hzx hxz]

instance : Std.Associative Binary64.min := ⟨min_assoc⟩

end Two

/-! ### The least of several numbers -/

section Several

variable {bound start : Binary64} {xs ys : List Binary64}

theorem isNaN_foldl_min (h : start.isNaN = false) (xs : List Binary64) :
    (xs.foldl min start).isNaN = false :=
  List.foldlRecOn xs min (motive := fun x => x.isNaN = false) h fun _ hx y _ => isNaN_min hx y

theorem foldl_min_eq_or_mem (start : Binary64) (xs : List Binary64) :
    xs.foldl min start = start ∨ xs.foldl min start ∈ xs := by
  refine List.foldlRecOn xs min (motive := fun x => x = start ∨ x ∈ xs) (.inl rfl) ?_
  intro x hx y hy
  rcases min_eq_or x y with h | h
  · rwa [h]
  · exact .inr (by rwa [h])

/-- What lies below the least of several numbers lies below all of them. -/
theorem le_foldl_min_iff (h : start.isNaN = false) :
    bound ≤ xs.foldl min start ↔ bound ≤ start ∧ ∀ x ∈ xs, x.isNaN = false → bound ≤ x := by
  induction xs generalizing start with
  | nil => exact ⟨fun hle => ⟨hle, List.forall_mem_nil _⟩, And.left⟩
  | cons x xs ih =>
    rw [List.foldl_cons, ih (isNaN_min h x), le_min_iff h, List.forall_mem_cons, and_assoc]

/-- Not-a-number can be left out. -/
theorem foldl_min_filter (start : Binary64) (xs : List Binary64) :
    (xs.filter fun x => !x.isNaN).foldl min start = xs.foldl min start := by
  rw [List.foldl_filter]
  congr 1
  funext x y
  rcases eq_nan_or y with rfl | hy
  · exact (min_nan x).symm
  · rw [hy]
    rfl

/-- The least of numbers in two parts is the smaller one of what is least in each part. -/
theorem foldl_min_append (xs ys : List Binary64) :
    (xs ++ ys).foldl min (infinite false) =
      min (xs.foldl min (infinite false)) (ys.foldl min (infinite false)) := by
  have hfirst : (xs.foldl min (infinite false)).isNaN = false := isNaN_foldl_min rfl xs
  calc
    (xs ++ ys).foldl min (infinite false) = ys.foldl min (xs.foldl min (infinite false)) :=
      List.foldl_append
    _ = ys.foldl min (min (xs.foldl min (infinite false)) (infinite false)) := by
      rw [min_infinite hfirst]
    _ = _ := List.foldl_assoc

end Several

end RoutineTiming.Binary64
