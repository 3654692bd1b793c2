import Mathlib.Data.List.DropRight
import RoutineTiming.Proofs.Text.Lines

/-!
# Trimmed texts

What is trimmed off a text stands at its ends and has only the characters that are trimmed off. What
is left begins and ends with other characters, and this determines it.

## Main definitions

* `IsBlankText` : a text of blanks alone.
* `StripsReturns` : a line beside what is left of it without the carriage returns at its end.

## Main results

* `trim_of_append`, `exists_blanks_of_trim` : blanks around a text.
* `stripsReturns_iff` : carriage returns at the end of a line.
-/

namespace RoutineTiming

/-! ### The end of a list -/

section DropTrailing

variable {α : Type} {condition : α → Bool}

/-- What follows an element that does not satisfy the condition is dropped if all of it does. -/
theorem dropTrailing_append {kept dropped : List α} (hdropped : ∀ a ∈ dropped, condition a = true)
    (hkept : ∀ a ∈ kept.getLast?, condition a = false) :
    dropTrailing condition (kept ++ dropped) = kept := by
  have hreverse : ∀ a ∈ dropped.reverse, condition a = true := fun a ha =>
    hdropped a (List.mem_reverse.mp ha)
  have hstop : kept.reverse.dropWhile condition = kept.reverse := by
    cases h : kept.reverse with
    | nil => rfl
    | cons a rest =>
      have hlast : kept.getLast? = some a := by
        rw [← List.head?_reverse, h, List.head?_cons]
      rw [List.dropWhile_cons, if_neg (Bool.not_eq_true _ ▸ hkept a hlast)]
  rw [dropTrailing, List.reverse_append, List.dropWhile_append_of_pos hreverse, hstop,
    List.reverse_reverse]

variable (condition) in
/-- What is dropped satisfies the condition. -/
theorem exists_dropTrailing_append (xs : List α) :
    ∃ dropped, (∀ a ∈ dropped, condition a = true) ∧ xs = dropTrailing condition xs ++ dropped :=
  ⟨xs.rtakeWhile condition, fun _ => List.mem_rtakeWhile_imp,
    List.rdropWhile_append_rtakeWhile.symm⟩

theorem getLast?_dropTrailing {xs : List α} {a : α}
    (h : a ∈ (dropTrailing condition xs).getLast?) : condition a = false := by
  have hne : dropTrailing condition xs ≠ [] := fun hnil => by simp [hnil] at h
  have hlast := List.rdropWhile_last_not condition xs hne
  rw [Option.mem_def, List.getLast?_eq_some_getLast hne] at h
  rw [← Option.some.inj h]
  exact Bool.not_eq_true _ ▸ hlast

end DropTrailing

/-! ### Blanks at the ends of a text -/

/-- A text of blanks alone. -/
def IsBlankText (text : String) : Prop := ∀ c ∈ text.toList, isBlank c = true

/-- Blanks around a text without blanks are trimmed off. -/
theorem trim_of_append {before text after : String} (hbefore : IsBlankText before)
    (htext : ∀ c ∈ text.toList, isBlank c = false) (hafter : IsBlankText after) :
    trim (before ++ text ++ after) = text := by
  have hfront : (before ++ text ++ after).toList.dropWhile isBlank =
      (text.toList ++ after.toList).dropWhile isBlank := by
    rw [String.toList_append, String.toList_append, List.append_assoc,
      List.dropWhile_append_of_pos hbefore]
  rw [trim, hfront]
  cases htoList : text.toList with
  | nil =>
    rw [List.nil_append, List.dropWhile_eq_nil_iff.mpr hafter]
    exact (String.toList_eq_nil_iff.mp htoList).symm
  | cons c rest =>
    have hc : isBlank c = false := htext c (htoList ▸ List.mem_cons_self)
    have hstop : (c :: rest ++ after.toList).dropWhile isBlank = c :: rest ++ after.toList := by
      rw [List.cons_append, List.dropWhile_cons, if_neg (Bool.not_eq_true _ ▸ hc)]
    rw [hstop, ← htoList, dropTrailing_append hafter, String.ofList_toList]
    exact fun a ha => htext a (List.mem_of_mem_getLast? ha)

theorem trim_of_isBlankText {text : String} (h : IsBlankText text) : trim text = "" := by
  rw [trim, List.dropWhile_eq_nil_iff.mpr h]
  rfl

/-- What is trimmed off a text is blank. -/
theorem exists_blanks_of_trim (text : String) :
    ∃ before after, text = before ++ trim text ++ after ∧ IsBlankText before ∧
      IsBlankText after := by
  obtain ⟨after, hafter, heq⟩ :=
    exists_dropTrailing_append isBlank (text.toList.dropWhile isBlank)
  refine ⟨.ofList (text.toList.takeWhile isBlank), .ofList after, ?_, ?_, ?_⟩
  · rw [trim, ← String.ofList_append, ← String.ofList_append, List.append_assoc, ← heq,
      List.takeWhile_append_dropWhile, String.ofList_toList]
  · intro c hc
    rw [String.toList_ofList] at hc
    exact List.mem_takeWhile_imp hc
  · intro c hc
    rw [String.toList_ofList] at hc
    exact hafter c hc

/-! ### Carriage returns at the end of a line -/

/-- The line is what is kept of it with carriage returns behind, and none of them is kept. -/
def StripsReturns (line kept : String) : Prop :=
  (∃ count, line = kept ++ String.ofList (List.replicate count '\r')) ∧ ¬ EndsInReturn kept

theorem stripsReturns_iff {line kept : String} :
    StripsReturns line kept ↔ dropReturns line = kept := by
  constructor
  · rintro ⟨⟨count, rfl⟩, hkept⟩
    have hdropped : ∀ c ∈ List.replicate count '\r', decide (c = '\r') = true := fun c hc =>
      decide_eq_true (List.eq_of_mem_replicate hc)
    have hlast : ∀ c ∈ kept.toList.getLast?, decide (c = '\r') = false := by
      intro c hc
      refine decide_eq_false ?_
      rintro rfl
      exact hkept hc
    rw [dropReturns, String.toList_append, String.toList_ofList,
      dropTrailing_append hdropped hlast, String.ofList_toList]
  · rintro rfl
    obtain ⟨dropped, hdropped, heq⟩ :=
      exists_dropTrailing_append (fun c => decide (c = '\r')) line.toList
    have hreplicate : dropped = List.replicate dropped.length '\r' :=
      List.eq_replicate_iff.mpr ⟨rfl, fun c hc => of_decide_eq_true (hdropped c hc)⟩
    refine ⟨⟨dropped.length, ?_⟩, fun hends => ?_⟩
    · rw [← hreplicate, dropReturns, ← String.ofList_append, ← heq, String.ofList_toList]
    · rw [EndsInReturn, dropReturns, String.toList_ofList] at hends
      have hother := getLast?_dropTrailing hends
      exact absurd rfl (of_decide_eq_false hother)

theorem dropReturns_of_not {line : String} (h : ¬ EndsInReturn line) : dropReturns line = line :=
  stripsReturns_iff.mp ⟨⟨0, String.append_empty.symm⟩, h⟩

end RoutineTiming
