import Mathlib.Data.List.Infix
import RoutineTiming.Plan.Entry

/-!
# Entry points of different routines

A template has just one decomposition into pieces with the placeholder between them, since the
placeholder does not overlap itself. The entry point of a routine is the pieces with the name of the
routine between them, whatever this name looks like; so routines with different names have different
entry points if the template has a placeholder at all.

## Main definitions

* `IsCut` : the pieces of a template.

## Main results

* `templateInduction` : induction over the placeholders and the other characters of a template.
* `isCut_templatePieces`, `IsCut.eq_templatePieces` : a template has just one decomposition.
* `intercalate_injective` : what two or more pieces give depends on what is put between them.
* `Runtime.entryFor_injective` : different routines have different entry points.
-/

namespace RoutineTiming

/-- The pieces make the template with the placeholder between them, and no piece has a placeholder
in it. -/
structure IsCut (template : String) (pieces : List String) : Prop where
  ne_nil : pieces ≠ []
  joined : (String.ofList placeholder).intercalate pieces = template
  free : ∀ piece ∈ pieces, ¬ placeholder <:+: piece.toList

/-! ### Placeholders -/

/-- The first character of the placeholder does not occur again in it. -/
theorem exists_placeholder_eq_cons : ∃ c rest, placeholder = c :: rest ∧ c ∉ rest :=
  ⟨'\x7b', "routine\x7d".toList, by decide, by decide⟩

theorem placeholder_ne_nil : placeholder ≠ [] := by
  obtain ⟨c, rest, h, -⟩ := exists_placeholder_eq_cons
  rw [h]
  exact List.cons_ne_nil c rest

/-- A placeholder does not begin inside a piece without placeholders and end behind it. -/
theorem not_prefix_append {piece rest : List Char} (hne : piece ≠ [])
    (hfree : ¬ placeholder <+: piece) : ¬ placeholder <+: piece ++ (placeholder ++ rest) := by
  intro h
  rcases List.prefix_or_prefix_of_prefix h (List.prefix_append piece _) with h' | ⟨back, hback⟩
  · exact hfree h'
  · obtain ⟨c, tail, heq, hnot⟩ := exists_placeholder_eq_cons
    have hrest : back <+: placeholder ++ rest := by
      rwa [← List.prefix_append_right_inj piece, hback]
    obtain ⟨first, piece, rfl⟩ := List.exists_cons_of_ne_nil hne
    cases back with
    | nil =>
      rw [List.append_nil] at hback
      exact hfree (hback ▸ List.prefix_rfl)
    | cons second back =>
      -- the rest of the placeholder would begin with the first character of a placeholder
      rw [heq, List.cons_append, List.cons_prefix_cons] at hrest
      rw [heq, List.cons_append, List.cons.injEq] at hback
      rw [← hback.2, ← hrest.1] at hnot
      exact hnot (List.mem_append_right _ List.mem_cons_self)

/-- A property of templates holds of all of them if it is kept by a placeholder in front and by any
other character in front that does not begin a placeholder. -/
@[elab_as_elim]
theorem templateInduction {motive : List Char → Prop} (nil : motive [])
    (hole : ∀ rest, motive rest → motive (placeholder ++ rest))
    (char : ∀ c rest, ¬ placeholder <+: c :: rest → motive rest → motive (c :: rest))
    (template : List Char) : motive template := by
  -- on the length, since a placeholder takes several characters off at once
  induction h : template.length using Nat.strongRecOn generalizing template with
  | ind n ih =>
    by_cases hstart : placeholder <+: template
    · obtain ⟨rest, rfl⟩ := hstart
      refine hole rest (ih rest.length ?_ rest rfl)
      rw [← h, List.length_append]
      exact Nat.lt_add_of_pos_left (List.length_pos_iff.mpr placeholder_ne_nil)
    · cases template with
      | nil => exact nil
      | cons c rest => exact char c rest hstart (ih rest.length (h ▸ Nat.lt_succ_self _) rest rfl)

/-! ### Pieces -/

theorem piecesAfter_eq_drop (skip : Nat) (template : List Char) :
    piecesAfter skip template = piecesAfter 0 (template.drop skip) := by
  induction template generalizing skip with
  | nil => rw [List.drop_nil, piecesAfter, piecesAfter]
  | cons c rest ih =>
    cases skip with
    | zero => rfl
    | succ skip => rw [piecesAfter, ih, List.drop_succ_cons]

theorem piecesAfter_placeholder (rest : List Char) :
    piecesAfter 0 (placeholder ++ rest) = [] :: piecesAfter 0 rest := by
  obtain ⟨c, tail, heq, -⟩ := exists_placeholder_eq_cons
  have hstart : placeholder.isPrefixOf (placeholder ++ rest) = true :=
    List.isPrefixOf_iff_prefix.mpr (List.prefix_append _ _)
  rw [heq, List.cons_append, piecesAfter, ← List.cons_append, ← heq, if_pos hstart,
    piecesAfter_eq_drop, heq]
  simp

theorem piecesAfter_ne_nil (skip : Nat) (template : List Char) :
    piecesAfter skip template ≠ [] := by
  induction template generalizing skip with
  | nil => exact List.cons_ne_nil _ _
  | cons c rest ih =>
    cases skip with
    | succ skip => exact ih skip
    | zero =>
      rw [piecesAfter]
      split
      · exact List.cons_ne_nil _ _
      · split <;> exact List.cons_ne_nil _ _

theorem piecesAfter_cons {c : Char} {rest : List Char} (h : ¬ placeholder <+: c :: rest) :
    ∃ piece pieces, piecesAfter 0 rest = piece :: pieces ∧
      piecesAfter 0 (c :: rest) = (c :: piece) :: pieces := by
  have hstart : ¬ placeholder.isPrefixOf (c :: rest) = true := by
    rwa [List.isPrefixOf_iff_prefix]
  obtain ⟨piece, pieces, heq⟩ := List.exists_cons_of_ne_nil (piecesAfter_ne_nil 0 rest)
  refine ⟨piece, pieces, heq, ?_⟩
  rw [piecesAfter, if_neg hstart, heq]

/-! ### Pieces and templates -/

theorem intercalate_cons_cons_char (between piece : List Char) (c : Char)
    (pieces : List (List Char)) : between.intercalate ((c :: piece) :: pieces) =
      c :: between.intercalate (piece :: pieces) := by
  cases pieces with
  | nil => rw [List.intercalate_singleton, List.intercalate_singleton]
  | cons piece' pieces =>
    rw [List.intercalate_cons_cons, List.intercalate_cons_cons, List.cons_append, List.cons_append]

theorem prefix_intercalate (between piece : List Char) (pieces : List (List Char)) :
    piece <+: between.intercalate (piece :: pieces) := by
  cases pieces with
  | nil => rw [List.intercalate_singleton]
  | cons piece' pieces =>
    rw [List.intercalate_cons_cons, List.append_assoc]
    exact List.prefix_append _ _

/-- The pieces of a template make it with the placeholder between them. -/
theorem intercalate_piecesAfter (template : List Char) :
    placeholder.intercalate (piecesAfter 0 template) = template := by
  induction template using templateInduction with
  | nil => rw [piecesAfter, List.intercalate_singleton]
  | hole rest ih =>
    rw [piecesAfter_placeholder, List.intercalate_cons_of_ne_nil (piecesAfter_ne_nil 0 rest), ih,
      List.nil_append]
  | char c rest h ih =>
    obtain ⟨piece, pieces, heq, hcons⟩ := piecesAfter_cons h
    rw [hcons, intercalate_cons_cons_char, ← heq, ih]

/-- No piece of a template has a placeholder in it. -/
theorem not_infix_of_mem_piecesAfter (template : List Char) :
    ∀ piece ∈ piecesAfter 0 template, ¬ placeholder <:+: piece := by
  have hnil : ¬ placeholder <:+: [] := fun h => placeholder_ne_nil (List.infix_nil.mp h)
  induction template using templateInduction with
  | nil => rwa [piecesAfter, List.forall_mem_singleton]
  | hole rest ih =>
    rw [piecesAfter_placeholder, List.forall_mem_cons]
    exact ⟨hnil, ih⟩
  | char c rest h ih =>
    obtain ⟨piece, pieces, heq, hcons⟩ := piecesAfter_cons h
    -- a placeholder at the front of the longer piece would be one at the front of the template
    have hpiece : piece <+: rest := by
      rw [← intercalate_piecesAfter rest, heq]
      exact prefix_intercalate _ _ _
    rw [heq, List.forall_mem_cons] at ih
    rw [hcons, List.forall_mem_cons, List.infix_cons_iff]
    refine ⟨?_, ih.2⟩
    rintro (hstart | hinfix)
    · exact h (hstart.trans (List.cons_prefix_cons.mpr ⟨rfl, hpiece⟩))
    · exact ih.1 hinfix

/-- A template without a placeholder is its only piece. -/
theorem piecesAfter_of_free {piece : List Char} (hfree : ¬ placeholder <:+: piece) :
    piecesAfter 0 piece = [piece] := by
  induction piece with
  | nil => rfl
  | cons c piece ih =>
    obtain ⟨head, pieces, heq, hcons⟩ := piecesAfter_cons fun h => hfree h.isInfix
    rw [ih fun h => hfree (List.infix_cons_iff.mpr (.inr h)), List.cons.injEq] at heq
    rw [hcons, ← heq.1, ← heq.2]

/-- The first piece of a template ends where its first placeholder begins. -/
theorem piecesAfter_append {piece : List Char} (hfree : ¬ placeholder <:+: piece)
    (rest : List Char) :
    piecesAfter 0 (piece ++ (placeholder ++ rest)) = piece :: piecesAfter 0 rest := by
  induction piece with
  | nil => exact piecesAfter_placeholder rest
  | cons c piece ih =>
    have hstart : ¬ placeholder <+: c :: (piece ++ (placeholder ++ rest)) :=
      not_prefix_append (List.cons_ne_nil c piece) fun h => hfree h.isInfix
    obtain ⟨head, pieces, heq, hcons⟩ := piecesAfter_cons hstart
    rw [ih fun h => hfree (List.infix_cons_iff.mpr (.inr h)), List.cons.injEq] at heq
    rw [List.cons_append, hcons, ← heq.1, ← heq.2]

/-- Pieces without placeholders are found again in the template that they make. -/
theorem piecesAfter_intercalate {pieces : List (List Char)} (hne : pieces ≠ [])
    (hfree : ∀ piece ∈ pieces, ¬ placeholder <:+: piece) :
    piecesAfter 0 (placeholder.intercalate pieces) = pieces := by
  induction pieces with
  | nil => exact absurd rfl hne
  | cons piece pieces ih =>
    rw [List.forall_mem_cons] at hfree
    cases pieces with
    | nil => rw [List.intercalate_singleton, piecesAfter_of_free hfree.1]
    | cons piece' pieces =>
      rw [List.intercalate_cons_cons, List.append_assoc, piecesAfter_append hfree.1,
        ih (List.cons_ne_nil _ _) hfree.2]

theorem map_toList_templatePieces (template : String) :
    (templatePieces template).map String.toList = piecesAfter 0 template.toList := by
  rw [templatePieces, List.map_map]
  exact List.map_id'' (fun _ => String.toList_ofList) _

/-- The pieces that the entry point is made of are those of the template. -/
theorem isCut_templatePieces (template : String) : IsCut template (templatePieces template) where
  ne_nil := fun h => piecesAfter_ne_nil 0 template.toList (List.map_eq_nil_iff.mp h)
  joined := by
    rw [← String.toList_inj, String.toList_intercalate, String.toList_ofList,
      map_toList_templatePieces, intercalate_piecesAfter]
  free := fun piece hpiece => by
    refine not_infix_of_mem_piecesAfter template.toList _ ?_
    rw [← map_toList_templatePieces]
    exact List.mem_map_of_mem hpiece

/-- A template has no other pieces. -/
theorem IsCut.eq_templatePieces {template : String} {pieces : List String}
    (h : IsCut template pieces) : pieces = templatePieces template := by
  refine List.map_injective_iff.mpr (fun _ _ => String.toList_inj.mp) ?_
  have hfree : ∀ piece ∈ pieces.map String.toList, ¬ placeholder <:+: piece :=
    List.forall_mem_map.mpr h.free
  rw [map_toList_templatePieces, ← h.joined, String.toList_intercalate, String.toList_ofList,
    piecesAfter_intercalate (List.map_eq_nil_iff.not.mpr h.ne_nil) hfree]

/-! ### What is put between the pieces -/

/-- The length of what pieces give with something between them. -/
theorem length_intercalate_add (a b piece : List Char) (pieces : List (List Char)) :
    (a.intercalate (piece :: pieces)).length + pieces.length * b.length =
      (b.intercalate (piece :: pieces)).length + pieces.length * a.length := by
  induction pieces generalizing piece with
  | nil => simp only [List.intercalate_singleton, List.length_nil, Nat.zero_mul]
  | cons piece' pieces ih =>
    have hih := ih piece'
    simp only [List.intercalate_cons_cons, List.length_append, List.length_cons, Nat.add_mul,
      Nat.one_mul]
    omega

/-- What two or more pieces give depends on what is put between them. -/
theorem intercalate_injective {pieces : List (List Char)} (htwo : 2 ≤ pieces.length) :
    Function.Injective fun between : List Char => between.intercalate pieces := by
  intro a b (h : a.intercalate pieces = b.intercalate pieces)
  match pieces, htwo with
  | piece :: piece' :: pieces, _ =>
    -- the texts are as long as each other, and so is what stands between the pieces
    have hlength := length_intercalate_add a b piece (piece' :: pieces)
    rw [h, Nat.add_left_cancel_iff] at hlength
    have hab : a.length = b.length :=
      (Nat.eq_of_mul_eq_mul_left (Nat.succ_pos pieces.length) hlength).symm
    rw [List.intercalate_cons_cons, List.intercalate_cons_cons, List.append_assoc,
      List.append_assoc, List.append_cancel_left_eq] at h
    exact (List.append_inj h hab).1

/-- A template with a placeholder has two or more pieces. -/
theorem two_le_length_templatePieces {template : String}
    (h : placeholder <:+: template.toList) : 2 ≤ (templatePieces template).length := by
  have hcut := isCut_templatePieces template
  match hpieces : templatePieces template with
  | [] => exact absurd hpieces hcut.ne_nil
  | [piece] =>
    rw [hpieces] at hcut
    have hpiece : piece = template := by
      rw [← hcut.joined, ← String.toList_inj, String.toList_intercalate]
      exact List.intercalate_singleton.symm
    exact absurd (hpiece ▸ h) (hcut.free piece List.mem_cons_self)
  | _ :: _ :: pieces => exact Nat.le_add_left 2 pieces.length

/-- Different routines have different entry points if the template has a placeholder. -/
theorem Runtime.entryFor_injective {runtime : Runtime}
    (h : placeholder <:+: runtime.entry.toList) : Function.Injective runtime.entryFor := by
  intro a b heq
  have htwo : 2 ≤ ((templatePieces runtime.entry).map String.toList).length := by
    rw [List.length_map]
    exact two_le_length_templatePieces h
  rw [Runtime.entryFor, Runtime.entryFor, ← String.toList_inj, String.toList_intercalate,
    String.toList_intercalate] at heq
  exact String.toList_inj.mp (intercalate_injective htwo heq)

end RoutineTiming
