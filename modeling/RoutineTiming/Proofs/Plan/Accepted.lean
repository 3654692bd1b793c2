import RoutineTiming.Plan.Text
import RoutineTiming.Proofs.Attempts
import RoutineTiming.Proofs.Plan.WellFormed

/-!
# Accepted plans

A plan is accepted when a text denotes it, and it stays accepted when it is narrowed to some of its
routines. Accepted plans are well formed, and their iteration counts are numbers of 64 bits.

## Main definitions

* `Plan.Accepted` : the plans that come from a text, narrowed any number of times.

## Main results

* `Plan.Accepted.wellFormed`, `Plan.Accepted.iterations_le`.
* `samplePlan_accepted` : there is an accepted plan.
-/

namespace RoutineTiming

/-! ### Values that were read in a shape -/

theorem Shape.le_maxWord_of_count {v : Toml.Value} {n : Nat} (h : Shape.count v = .ok n) :
    n ≤ maxWord := by
  cases v with
  | integer i =>
    simp only [Shape.count] at h
    split at h
    · next hi =>
      cases h
      omega
    · cases h
  | _ => cases h

theorem Shape.forall_mem_of_list {α : Type} {element : Shape α} {P : α → Prop}
    (helement : ∀ v a, element v = .ok a → P a) {v : Toml.Value} {as : List α}
    (h : Shape.list element v = .ok as) : ∀ a ∈ as, P a := by
  cases v with
  | array elements =>
    intro a ha
    have hmap := mapM_eq_ok_iff.mp h
    have hmem : (Except.ok a : Except ShapeFault α) ∈ elements.map element := by
      rw [hmap]
      exact List.mem_map_of_mem ha
    obtain ⟨v, -, hv⟩ := List.mem_map.mp hmem
    exact helement v a hv
  | _ => cases h

theorem Shape.of_record {α : Type} {name : String} {fields : List FieldCheck}
    {build : Record → Except ShapeFault α} {v : Toml.Value} {a : α}
    (h : Shape.record name fields build v = .ok a) : ∃ record, build record = .ok a := by
  have hread (entries : List (String × Toml.Value)) (isArray : Bool)
      (h : (do
        let record : Record := ⟨name, fields, entries, isArray⟩
        record.check
        build record) = .ok a) : ∃ record, build record = .ok a :=
    have ⟨_, _, hbuild⟩ := bind_eq_ok_iff.mp h
    ⟨_, hbuild⟩
  unfold Shape.record at h
  split at h
  · exact hread _ _ h
  · split at h
    · exact hread _ _ h
    · cases h

theorem Record.of_required {α : Type} {record : Record} {field : String} {shape : Shape α}
    {a : α} (h : record.required field shape = .ok a) : ∃ v, shape v = .ok a := by
  unfold Record.required at h
  split at h
  · exact ⟨_, h⟩
  · split at h <;> cases h

theorem Record.of_withDefault {α : Type} {record : Record} {field : String} {default : α}
    {shape : Shape α} {a : α} (h : record.withDefault field default shape = .ok a) :
    a = default ∨ ∃ v, shape v = .ok a := by
  unfold Record.withDefault at h
  split at h
  · exact .inr ⟨_, h⟩
  · exact .inl (Except.ok.inj h).symm

/-! ### Counts of routines -/

theorem Routine.iterations_le_of_shape {v : Toml.Value} {routine : Routine}
    (h : Routine.shape v = .ok routine) : ∀ n ∈ routine.iterations, n ≤ maxWord := by
  obtain ⟨record, hbuild⟩ := Shape.of_record h
  obtain ⟨_, -, hbuild⟩ := bind_eq_ok_iff.mp hbuild
  obtain ⟨_, -, hbuild⟩ := bind_eq_ok_iff.mp hbuild
  obtain ⟨_, -, hbuild⟩ := bind_eq_ok_iff.mp hbuild
  obtain ⟨iterations, hiterations, hbuild⟩ := bind_eq_ok_iff.mp hbuild
  cases hbuild
  obtain ⟨w, hw⟩ := Record.of_required hiterations
  exact Shape.forall_mem_of_list (fun _ _ => Shape.le_maxWord_of_count) hw

namespace Plan

theorem iterations_le_of_shape {v : Toml.Value} {plan : Plan} (h : shape v = .ok plan) :
    ∀ r ∈ plan.routines, ∀ n ∈ r.iterations, n ≤ maxWord := by
  obtain ⟨record, hbuild⟩ := Shape.of_record h
  obtain ⟨_, -, hbuild⟩ := bind_eq_ok_iff.mp hbuild
  obtain ⟨_, -, hbuild⟩ := bind_eq_ok_iff.mp hbuild
  obtain ⟨_, -, hbuild⟩ := bind_eq_ok_iff.mp hbuild
  obtain ⟨_, -, hbuild⟩ := bind_eq_ok_iff.mp hbuild
  obtain ⟨routines, hroutines, hbuild⟩ := bind_eq_ok_iff.mp hbuild
  cases hbuild
  rcases Record.of_withDefault hroutines with rfl | ⟨w, hw⟩
  · intro r hr
    cases hr
  · exact Shape.forall_mem_of_list (fun _ _ => Routine.iterations_le_of_shape) hw

theorem exists_shape_of_ofText {text : String} {plan : Plan} (h : ofText text = .ok plan) :
    (∃ v, shape v = .ok plan) ∧ plan.validate = .ok () := by
  simp only [ofText, pure_bind] at h
  split at h
  · split at h
    · next hshape =>
      obtain ⟨_, hvalid, h⟩ := bind_eq_ok_iff.mp h
      cases h
      exact ⟨⟨_, hshape⟩, hvalid⟩
    · cases h
  · cases h

/-- The plans that come from a text, narrowed any number of times. -/
inductive Accepted : Plan → Prop
  | ofText {text : String} {plan : Plan} (h : ofText text = .ok plan) : Accepted plan
  | retain {plan kept : Plan} {names : List String} (hplan : Accepted plan)
      (h : plan.retain names = .ok kept) : Accepted kept

namespace Accepted

variable {plan : Plan}

theorem of_toOption {text : String} (h : (Plan.ofText text).toOption = some plan) : plan.Accepted :=
  .ofText (eq_ok_of_toOption h)

theorem wellFormed (h : plan.Accepted) : plan.WellFormed := by
  induction h with
  | ofText h => exact validate_eq_ok_iff.mp (exists_shape_of_ofText h).2
  | retain _ hkept ih => exact ih.retain hkept

/-- The iteration counts of an accepted plan are numbers of 64 bits. -/
theorem iterations_le (h : plan.Accepted) :
    ∀ r ∈ plan.routines, ∀ n ∈ r.iterations, n ≤ maxWord := by
  induction h with
  | ofText h =>
    obtain ⟨⟨v, hv⟩, -⟩ := exists_shape_of_ofText h
    exact iterations_le_of_shape hv
  | retain _ hkept ih =>
    obtain ⟨-, rfl⟩ := retain_eq_ok_iff.mp hkept
    exact fun r hr => ih r (List.mem_filter.mp hr).1

end Accepted

end Plan

/-! ### A plan with one routine -/

/-- A plan with one routine at two sizes. -/
def samplePlan : Plan where
  sizes := [8, 9]
  runtime := { program := "m" }
  expected := .ofList [("f", ["8", "9"])]
  routines := [{ name := "a", family := some "f", iterations := [1, 2] }]

/-- The text of the sample plan. -/
def sampleText : String :=
  "sizes=[8,9]\n[runtime]\nprogram=\"m\"\n[expected]\nf=[\"8\",\"9\"]\n" ++
    "[[routine]]\nname=\"a\"\nfamily=\"f\"\niterations=[1,2]\n"

theorem samplePlan_accepted : samplePlan.Accepted := by
  have htext : (Plan.ofText sampleText).toOption = some samplePlan := by decide +kernel
  exact .of_toOption htext

end RoutineTiming
