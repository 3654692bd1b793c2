import RoutineTiming.Decimal.Fixed
import RoutineTiming.Proofs.Decimal.Digits

/-!
# The text of decimals with a fixed number of places

A number with a fixed number of places is written with digits, a point and a minus sign; the names
of the numbers that are not finite add a few letters.

## Main results

* `Binary64.mem_toFixed` : the characters of a number.
* `Binary64.toFixed_whole` : a whole number without places.
-/

namespace RoutineTiming

theorem mem_placePoint {places n : Nat} {c : Char} (h : c ∈ placePoint places n) :
    c.isDigit = true ∨ c = '.' := by
  rw [placePoint] at h
  split at h
  · exact .inl (isDigit_of_mem_digitsOf h)
  · rcases List.mem_append.mp h with hwhole | hfraction
    · exact .inl (isDigit_of_mem_digitsOf hwhole)
    · rcases List.mem_cons.mp hfraction with hpoint | hfraction
      · exact .inr hpoint
      · exact .inl ((List.mem_append.mp hfraction).elim isDigit_of_mem_zeros
          isDigit_of_mem_digitsOf)

namespace Binary64

theorem mem_withSign {negative : Bool} {body : List Char} {c : Char}
    (h : c ∈ (withSign negative body).toList) : c = '-' ∨ c ∈ body := by
  rw [withSign, String.toList_ofList] at h
  split at h
  · exact List.mem_cons.mp h
  · exact .inr h

/-- A number is written with digits and a few other characters. -/
theorem mem_toFixed {places : Nat} {x : Binary64} {c : Char} (h : c ∈ (x.toFixed places).toList) :
    c.isDigit = true ∨ c ∈ ['.', '-', 'i', 'n', 'f', 'N', 'a'] := by
  cases x with
  | nan =>
    have hname : "NaN".toList ⊆ ['.', '-', 'i', 'n', 'f', 'N', 'a'] := by decide
    exact .inr (hname h)
  | infinite negative =>
    have hname : ['i', 'n', 'f'] ⊆ ['.', '-', 'i', 'n', 'f', 'N', 'a'] := by decide
    rcases mem_withSign h with rfl | hbody
    · exact .inr (by decide)
    · exact .inr (hname hbody)
  | finite negative quanta hquanta =>
    rcases mem_withSign h with rfl | hbody
    · exact .inr (by decide)
    · rcases mem_placePoint hbody with hdigit | rfl
      · exact .inl hdigit
      · exact .inr (by decide)

/-- A whole number without places has the digits of the number. -/
theorem toFixed_whole (negative : Bool) {n : Nat} (hn : Representable (n * unit)) :
    (finite negative (n * unit) hn).toFixed 0 = withSign negative (digitsOf n) := by
  have hround : roundHalfEven (n * unit * 10 ^ 0) unit = n := by
    rw [Nat.pow_zero, Nat.mul_one, Nat.mul_comm, roundHalfEven_mul_left unit_pos]
  rw [toFixed, hround, placePoint, if_pos rfl, Nat.pow_zero, Nat.div_one]

end Binary64

end RoutineTiming
