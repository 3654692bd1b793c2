import RoutineTiming.Proofs.ByteOrder
import RoutineTiming.Proofs.Plan.WellFormed

/-!
# The fault that is reported

A plan is checked in a fixed order: the sizes, the expected values of the families, the optional
requirements, and then one routine after the other. Families and requirements come in the order of
the bytes of their names. Of the checks that a plan does not pass the first one decides which fault
is reported.

## Main definitions

* `Plan.Check`, `Plan.Check.Before` : the checks and their order.
* `Plan.Violates` : the plan does not pass a check, for the reason that a fault states.
* `Plan.violations` : the checks that a plan does not pass, in order.

## Main results

* `Plan.mem_violations_iff`, `Plan.pairwise_violations` : the list is complete and in order.
* `Plan.validate_reports_first` : a plan is refused for its first violation, if it has one.
-/

namespace RoutineTiming

namespace Plan

/-- What a routine is checked for. -/
inductive RoutineCheck where
  /-- No earlier routine has its name. -/
  | ownName
  | countPerSize
  | positiveCounts
  | knownFamily
  | knownRequirement

/-- The place of a check among those of one routine. -/
def RoutineCheck.rank : RoutineCheck → Nat
  | .ownName => 0
  | .countPerSize => 1
  | .positiveCounts => 2
  | .knownFamily => 3
  | .knownRequirement => 4

/-- What a plan is checked for. -/
inductive Check where
  | anySize
  | positiveSizes
  | ascendingSizes
  /-- A family has an expected value for each size. -/
  | valuePerSize (family : String)
  /-- There is one way to find out whether a requirement is present. -/
  | oneWay (requirement : String)
  /-- A check of the routine that stands behind `place` others. -/
  | routine (place : Nat) (check : RoutineCheck)

namespace Check

/-- The place of a check among the parts of a plan. -/
def stage : Check → Nat
  | .anySize => 0
  | .positiveSizes => 1
  | .ascendingSizes => 2
  | .valuePerSize _ => 3
  | .oneWay _ => 4
  | .routine _ _ => 5

/-- A check is made before another one. -/
def Before : Check → Check → Prop
  | .valuePerSize family, .valuePerSize family' => utf8Bytes family < utf8Bytes family'
  | .oneWay name, .oneWay name' => utf8Bytes name < utf8Bytes name'
  | .routine place check, .routine place' check' =>
    place < place' ∨ place = place' ∧ check.rank < check'.rank
  | check, check' => check.stage < check'.stage

theorem before_of_stage_lt {check check' : Check} (h : check.stage < check'.stage) :
    check.Before check' := by
  cases check <;> cases check' <;> first | exact h | exact absurd h (Nat.lt_irrefl _)

theorem Before.asymm {check check' : Check} (h : check.Before check') :
    ¬ check'.Before check := by
  cases check <;> cases check' <;> simp only [Before, stage] at h ⊢ <;>
    first | omega | exact List.lt_asymm h

end Check

/-- The plan does not pass a check, for the reason that the fault states. -/
inductive Violates (plan : Plan) : Check → PlanFault → Prop
  | noSizes (h : plan.sizes = []) : Violates plan .anySize .noSizes
  | zeroSize (h : 0 ∈ plan.sizes) : Violates plan .positiveSizes .zeroSize
  | unorderedSizes {i j a b : Nat} (hij : i < j) (ha : plan.sizes[i]? = some a)
      (hb : plan.sizes[j]? = some b) (hle : b ≤ a) :
      Violates plan .ascendingSizes (.unorderedSizes plan.sizes)
  | expectedCount {family : String} {values : List String}
      (h : plan.expected.get? family = some values) (hlength : values.length ≠ plan.sizes.length) :
      Violates plan (.valuePerSize family)
        (.expectedCount family values.length plan.sizes.length)
  | ambiguousCheck {name : String} {requirement : Requirement}
      (h : plan.optional.get? name = some requirement)
      (hways : requirement.file.isSome = requirement.probe.isSome) :
      Violates plan (.oneWay name) (.ambiguousCheck name)
  | duplicateRoutine {place earlier : Nat} {routine other : Routine}
      (h : plan.routines[place]? = some routine) (hearlier : earlier < place)
      (hother : plan.routines[earlier]? = some other) (hname : other.name = routine.name) :
      Violates plan (.routine place .ownName) (.duplicateRoutine routine.name)
  | iterationCount {place : Nat} {routine : Routine} (h : plan.routines[place]? = some routine)
      (hlength : routine.iterations.length ≠ plan.sizes.length) :
      Violates plan (.routine place .countPerSize)
        (.iterationCount routine.name routine.iterations.length plan.sizes.length)
  | zeroIterations {place : Nat} {routine : Routine} (h : plan.routines[place]? = some routine)
      (hzero : 0 ∈ routine.iterations) :
      Violates plan (.routine place .positiveCounts) (.zeroIterations routine.name)
  | unknownFamily {place : Nat} {routine : Routine} {family : String}
      (h : plan.routines[place]? = some routine) (hfamily : routine.family = some family)
      (hunknown : plan.expected.get? family = none) :
      Violates plan (.routine place .knownFamily) (.unknownFamily routine.name family)
  | unknownRequirement {place : Nat} {routine : Routine} {name : String}
      (h : plan.routines[place]? = some routine) (hrequires : routine.requires = some name)
      (hunknown : plan.optional.get? name = none) :
      Violates plan (.routine place .knownRequirement) (.unknownRequirement routine.name name)

/-! ### The checks that a plan does not pass -/

/-- The check that finds a fault; a routine that it is found in stands behind `place` others. -/
def checkOf (place : Nat) : PlanFault → Check
  | .zeroSize => .positiveSizes
  | .unorderedSizes _ => .ascendingSizes
  | .expectedCount family _ _ => .valuePerSize family
  | .ambiguousCheck name => .oneWay name
  | .duplicateRoutine _ => .routine place .ownName
  | .iterationCount _ _ _ => .routine place .countPerSize
  | .zeroIterations _ => .routine place .positiveCounts
  | .unknownFamily _ _ => .routine place .knownFamily
  | .unknownRequirement _ _ => .routine place .knownRequirement
  | _ => .anySize

/-- Faults with the checks that find them. -/
def located (place : Nat) (faults : List PlanFault) : List (Check × PlanFault) :=
  faults.map fun fault => (checkOf place fault, fault)

/-- The checks that routines behind others with the given names do not pass. -/
def routinesViolations (plan : Plan) (earlier : List String) :
    List Routine → List (Check × PlanFault)
  | [] => []
  | routine :: rest =>
    located earlier.length (plan.routineFaults earlier routine) ++
      plan.routinesViolations (earlier ++ [routine.name]) rest

/-- The checks that a plan does not pass, in order, with the faults that they find. -/
def violations (plan : Plan) : List (Check × PlanFault) :=
  located 0 plan.sizeFaults ++
    plan.expected.entries.flatMap (fun e => located 0 (plan.familyFaults e.1 e.2)) ++
    plan.optional.entries.flatMap (fun e => located 0 (requirementFaults e.1 e.2)) ++
    plan.routinesViolations [] plan.routines

variable (plan : Plan)

theorem map_snd_located (place : Nat) (faults : List PlanFault) :
    (located place faults).map Prod.snd = faults := by
  rw [located, List.map_map]
  exact List.map_id faults

theorem map_snd_routinesViolations (earlier : List String) (routines : List Routine) :
    (plan.routinesViolations earlier routines).map Prod.snd =
      plan.routinesFaults earlier routines := by
  induction routines generalizing earlier with
  | nil => rfl
  | cons routine rest ih =>
    rw [routinesViolations, routinesFaults, List.map_append, map_snd_located, ih]

/-- The faults of a plan are those of its violations. -/
theorem map_snd_violations : plan.violations.map Prod.snd = plan.faults := by
  simp only [violations, faults, List.map_append, List.map_flatMap, map_snd_located,
    map_snd_routinesViolations]

/-! ### The list is complete -/

@[simp]
theorem mem_located_iff {place : Nat} {faults : List PlanFault} {check : Check}
    {fault : PlanFault} :
    (check, fault) ∈ located place faults ↔ fault ∈ faults ∧ check = checkOf place fault := by
  simp only [located, List.mem_map, Prod.mk.injEq]
  constructor
  · rintro ⟨fault', hmem, rfl, rfl⟩
    exact ⟨hmem, rfl⟩
  · rintro ⟨hmem, rfl⟩
    exact ⟨fault, hmem, rfl, rfl⟩

@[simp]
theorem mem_faultIf_iff {violated : Bool} {fault fault' : PlanFault} :
    fault' ∈ faultIf violated fault ↔ violated = true ∧ fault' = fault := by
  cases violated <;> simp [faultIf]

theorem not_pairwise_lt_iff {xs : List Nat} :
    ¬ xs.Pairwise (· < ·) ↔ ∃ i j a b : Nat, i < j ∧ xs[i]? = some a ∧ xs[j]? = some b ∧ b ≤ a := by
  rw [List.pairwise_iff_getElem]
  constructor
  · intro h
    push Not at h
    obtain ⟨i, j, hi, hj, hij, hle⟩ := h
    exact ⟨i, j, xs[i], xs[j], hij, List.getElem?_eq_getElem hi, List.getElem?_eq_getElem hj, hle⟩
  · rintro ⟨i, j, a, b, hij, ha, hb, hle⟩ h
    obtain ⟨hi, rfl⟩ := List.getElem?_eq_some_iff.mp ha
    obtain ⟨hj, rfl⟩ := List.getElem?_eq_some_iff.mp hb
    exact Nat.not_lt_of_le hle (h i j hi hj hij)

theorem mem_located_sizeFaults_iff {check : Check} {fault : PlanFault} :
    (check, fault) ∈ located 0 plan.sizeFaults ↔
      plan.Violates check fault ∧ check.stage < 3 := by
  have hascends : (!ascends plan.sizes) = true ↔
      ∃ i j a b : Nat, i < j ∧ plan.sizes[i]? = some a ∧ plan.sizes[j]? = some b ∧ b ≤ a := by
    rw [← not_pairwise_lt_iff, ← ascends_iff, Bool.not_eq_true', Bool.not_eq_true]
  simp only [mem_located_iff, sizeFaults, List.mem_append, mem_faultIf_iff, hascends,
    List.isEmpty_iff, List.contains_iff_mem]
  constructor
  · rintro ⟨(⟨h, rfl⟩ | ⟨h, rfl⟩) | ⟨⟨i, j, a, b, hij, ha, hb, hle⟩, rfl⟩, rfl⟩
    · exact ⟨.noSizes h, by decide⟩
    · exact ⟨.zeroSize h, by decide⟩
    · exact ⟨.unorderedSizes hij ha hb hle, Nat.lt_succ_self 2⟩
  · rintro ⟨h, hstage⟩
    cases h with
    | noSizes h => exact ⟨.inl (.inl ⟨h, rfl⟩), rfl⟩
    | zeroSize h => exact ⟨.inl (.inr ⟨h, rfl⟩), rfl⟩
    | unorderedSizes hij ha hb hle => exact ⟨.inr ⟨⟨_, _, _, _, hij, ha, hb, hle⟩, rfl⟩, rfl⟩
    | _ => simp [Check.stage] at hstage

theorem mem_families_iff {check : Check} {fault : PlanFault} :
    (check, fault) ∈ plan.expected.entries.flatMap
        (fun e => located 0 (plan.familyFaults e.1 e.2)) ↔
      plan.Violates check fault ∧ check.stage = 3 := by
  simp only [List.mem_flatMap, Prod.exists, mem_located_iff, familyFaults, mem_faultIf_iff,
    decide_eq_true_eq, OrderedMap.mem_entries_iff]
  constructor
  · rintro ⟨family, values, h, ⟨hlength, rfl⟩, rfl⟩
    exact ⟨.expectedCount h hlength, rfl⟩
  · rintro ⟨h, hstage⟩
    cases h with
    | expectedCount h hlength => exact ⟨_, _, h, ⟨hlength, rfl⟩, rfl⟩
    | _ => simp [Check.stage] at hstage

theorem mem_requirements_iff {check : Check} {fault : PlanFault} :
    (check, fault) ∈ plan.optional.entries.flatMap
        (fun e => located 0 (requirementFaults e.1 e.2)) ↔
      plan.Violates check fault ∧ check.stage = 4 := by
  simp only [List.mem_flatMap, Prod.exists, mem_located_iff, requirementFaults, mem_faultIf_iff,
    decide_eq_true_eq, OrderedMap.mem_entries_iff]
  constructor
  · rintro ⟨name, requirement, h, ⟨hways, rfl⟩, rfl⟩
    exact ⟨.ambiguousCheck h hways, rfl⟩
  · rintro ⟨h, hstage⟩
    cases h with
    | ambiguousCheck h hways => exact ⟨_, _, h, ⟨hways, rfl⟩, rfl⟩
    | _ => simp [Check.stage] at hstage

/-- The names of the routines in front of a place. -/
def namesBefore (place : Nat) : List String := (plan.routines.take place).map Routine.name

theorem mem_namesBefore_iff {place : Nat} {name : String} :
    name ∈ plan.namesBefore place ↔
      ∃ earlier other, earlier < place ∧ plan.routines[earlier]? = some other ∧
        other.name = name := by
  rw [namesBefore, List.mem_map]
  simp only [List.mem_iff_getElem? (l := plan.routines.take place), List.getElem?_take,
    Option.ite_none_right_eq_some]
  constructor
  · rintro ⟨other, ⟨earlier, hlt, hother⟩, hname⟩
    exact ⟨earlier, other, hlt, hother, hname⟩
  · rintro ⟨earlier, other, hlt, hother, hname⟩
    exact ⟨other, ⟨earlier, hlt, hother⟩, hname⟩

theorem mem_located_routineFaults_iff {place : Nat} {routine : Routine}
    (hroutine : plan.routines[place]? = some routine) (check : Check) (fault : PlanFault) :
    (check, fault) ∈ located place (plan.routineFaults (plan.namesBefore place) routine) ↔
      plan.Violates check fault ∧ ∃ part, check = .routine place part := by
  simp only [mem_located_iff, routineFaults, List.mem_append, mem_faultIf_iff,
    List.contains_iff_mem, mem_namesBefore_iff, decide_eq_true_eq]
  constructor
  · rintro ⟨(((⟨⟨earlier, other, hlt, hother, hname⟩, rfl⟩ | ⟨hlength, rfl⟩) | ⟨hzero, rfl⟩) |
      hfamily) | hrequires, rfl⟩
    · exact ⟨.duplicateRoutine hroutine hlt hother hname, _, rfl⟩
    · exact ⟨.iterationCount hroutine hlength, _, rfl⟩
    · exact ⟨.zeroIterations hroutine hzero, _, rfl⟩
    · split at hfamily
      · next family heq =>
        obtain ⟨hunknown, rfl⟩ := mem_faultIf_iff.mp hfamily
        exact ⟨.unknownFamily hroutine heq (by simpa [OrderedMap.contains] using hunknown), _, rfl⟩
      · cases hfamily
    · split at hrequires
      · next name heq =>
        obtain ⟨hunknown, rfl⟩ := mem_faultIf_iff.mp hrequires
        exact ⟨.unknownRequirement hroutine heq (by simpa [OrderedMap.contains] using hunknown),
          _, rfl⟩
      · cases hrequires
  · rintro ⟨h, part, rfl⟩
    cases h with
    | duplicateRoutine h hlt hother hname =>
      cases hroutine.symm.trans h
      exact ⟨.inl (.inl (.inl (.inl ⟨⟨_, _, hlt, hother, hname⟩, rfl⟩))), rfl⟩
    | iterationCount h hlength =>
      cases hroutine.symm.trans h
      exact ⟨.inl (.inl (.inl (.inr ⟨hlength, rfl⟩))), rfl⟩
    | zeroIterations h hzero =>
      cases hroutine.symm.trans h
      exact ⟨.inl (.inl (.inr ⟨hzero, rfl⟩)), rfl⟩
    | unknownFamily h hfamily hunknown =>
      cases hroutine.symm.trans h
      refine ⟨.inl (.inr ?_), rfl⟩
      simp [hfamily, OrderedMap.contains, hunknown]
    | unknownRequirement h hrequires hunknown =>
      cases hroutine.symm.trans h
      refine ⟨.inr ?_, rfl⟩
      simp [hrequires, OrderedMap.contains, hunknown]

/-- The routine behind some others does not pass the checks that are violated at its place. -/
theorem mem_located_of_split {front rest : List Routine} {routine : Routine}
    (hsplit : plan.routines = front ++ routine :: rest) (check : Check) (fault : PlanFault) :
    (check, fault) ∈
        located front.length (plan.routineFaults (front.map Routine.name) routine) ↔
      plan.Violates check fault ∧ ∃ part, check = .routine front.length part := by
  have hplace : plan.routines[front.length]? = some routine := by
    rw [hsplit, List.getElem?_append_right (Nat.le_refl _), Nat.sub_self]
    rfl
  have hnames : plan.namesBefore front.length = front.map Routine.name := by
    rw [namesBefore, hsplit, List.take_left]
  rw [← hnames, mem_located_routineFaults_iff plan hplace]

/-- The routines from a place on do not pass the checks that are violated at their places. -/
theorem mem_routinesViolations_iff (front : List Routine) {routines : List Routine}
    (hsplit : plan.routines = front ++ routines) (check : Check) (fault : PlanFault) :
    (check, fault) ∈ plan.routinesViolations (front.map Routine.name) routines ↔
      plan.Violates check fault ∧ ∃ place part, check = .routine place part ∧
        front.length ≤ place := by
  induction routines generalizing front with
  | nil =>
    rw [routinesViolations]
    refine iff_of_false List.not_mem_nil ?_
    rintro ⟨h, place, part, rfl, hle⟩
    have hnone : plan.routines[place]? = none := by
      rw [List.getElem?_eq_none_iff, hsplit, List.append_nil]
      exact hle
    cases h <;> simp_all
  | cons routine rest ih =>
    have hrest := ih (front ++ [routine]) (by simp [hsplit])
    rw [List.map_append, List.length_append] at hrest
    rw [routinesViolations, List.length_map, List.mem_append,
      plan.mem_located_of_split hsplit]
    refine (or_congr_right hrest).trans ?_
    rw [← and_or_left]
    refine and_congr_right fun _ => ⟨?_, ?_⟩
    · rintro (⟨part, rfl⟩ | ⟨place, part, rfl, hle⟩)
      · exact ⟨_, part, rfl, Nat.le_refl _⟩
      · exact ⟨place, part, rfl, Nat.le_of_succ_le hle⟩
    · rintro ⟨place, part, rfl, hle⟩
      rcases Nat.eq_or_lt_of_le hle with rfl | hlt
      · exact .inl ⟨part, rfl⟩
      · exact .inr ⟨place, part, rfl, hlt⟩

variable {plan} in
/-- The list of violations has all of them and nothing else. -/
theorem mem_violations_iff {check : Check} {fault : PlanFault} :
    (check, fault) ∈ plan.violations ↔ plan.Violates check fault := by
  have hroutines := plan.mem_routinesViolations_iff [] rfl check fault
  rw [violations, List.mem_append, List.mem_append, List.mem_append, mem_located_sizeFaults_iff,
    mem_families_iff, mem_requirements_iff]
  refine (or_congr_right hroutines).trans ⟨?_, fun h => ?_⟩
  · rintro (((h | h) | h) | h) <;> exact h.1
  · simp only [h, true_and]
    cases check <;> simp [Check.stage]

/-! ### The list is in order -/

theorem faultIf_sublist (violated : Bool) (fault : PlanFault) :
    (faultIf violated fault).Sublist [fault] := by
  cases violated
  · exact List.nil_sublist _
  · exact List.Sublist.refl _

theorem pairwise_located_faultIf (violated : Bool) (fault : PlanFault) :
    (located 0 (faultIf violated fault)).Pairwise fun a b => a.1.Before b.1 := by
  cases violated <;> simp [located, faultIf]

/-- Violations at an earlier stage come first. -/
theorem pairwise_append_of_stage {front rest : List (Check × PlanFault)}
    (hfront : front.Pairwise fun a b => a.1.Before b.1)
    (hrest : rest.Pairwise fun a b => a.1.Before b.1)
    (hstage : ∀ a ∈ front, ∀ b ∈ rest, a.1.stage < b.1.stage) :
    (front ++ rest).Pairwise fun a b => a.1.Before b.1 :=
  List.pairwise_append.mpr ⟨hfront, hrest, fun a ha b hb =>
    Check.before_of_stage_lt (hstage a ha b hb)⟩

theorem pairwise_located_sizeFaults :
    (located 0 plan.sizeFaults).Pairwise fun a b => a.1.Before b.1 := by
  have hsublist : plan.sizeFaults.Sublist
      [.noSizes, .zeroSize, .unorderedSizes plan.sizes] :=
    ((faultIf_sublist _ _).append (faultIf_sublist _ _)).append (faultIf_sublist _ _)
  refine List.Pairwise.sublist (hsublist.map _) ?_
  simp [checkOf, Check.Before, Check.stage]

/-- Entries with at most one fault each are checked in the order of the bytes of their names. -/
theorem pairwise_located_entries {ν : Type} (m : OrderedMap String ν)
    (violated : String × ν → Bool) (fault : String × ν → PlanFault)
    (hbefore : ∀ e e', utf8Bytes e.1 < utf8Bytes e'.1 →
      (checkOf 0 (fault e)).Before (checkOf 0 (fault e'))) :
    (m.entries.flatMap fun e => located 0 (faultIf (violated e) (fault e))).Pairwise
      fun a b => a.1.Before b.1 := by
  rw [List.pairwise_flatMap]
  refine ⟨fun e _ => pairwise_located_faultIf _ _, m.ascending.imp ?_⟩
  intro e e' hlt a ha b hb
  obtain ⟨hfault, hcheck⟩ := mem_located_iff.mp ha
  obtain ⟨hfault', hcheck'⟩ := mem_located_iff.mp hb
  rw [hcheck, hcheck', (mem_faultIf_iff.mp hfault).2, (mem_faultIf_iff.mp hfault').2]
  exact hbefore e e' (compare_eq_lt_iff_utf8Bytes.mp hlt)

theorem pairwise_families : (plan.expected.entries.flatMap
    (fun e => located 0 (plan.familyFaults e.1 e.2))).Pairwise fun a b => a.1.Before b.1 :=
  pairwise_located_entries plan.expected _ _ fun _ _ hlt => hlt

theorem pairwise_requirements : (plan.optional.entries.flatMap
    (fun e => located 0 (requirementFaults e.1 e.2))).Pairwise fun a b => a.1.Before b.1 :=
  pairwise_located_entries plan.optional _ _ fun _ _ hlt => hlt

theorem pairwise_located_routineFaults (place : Nat) (earlier : List String) (routine : Routine) :
    (located place (plan.routineFaults earlier routine)).Pairwise fun a b => a.1.Before b.1 := by
  have hsublist : (plan.routineFaults earlier routine).Sublist
      [.duplicateRoutine routine.name,
        .iterationCount routine.name routine.iterations.length plan.sizes.length,
        .zeroIterations routine.name, .unknownFamily routine.name (routine.family.getD ""),
        .unknownRequirement routine.name (routine.requires.getD "")] := by
    change List.Sublist _ ([_] ++ [_] ++ [_] ++ [_] ++ [_])
    refine ((((faultIf_sublist _ _).append (faultIf_sublist _ _)).append
      (faultIf_sublist _ _)).append ?_).append ?_
    · cases routine.family with
      | none => exact List.nil_sublist _
      | some family => exact faultIf_sublist _ _
    · cases routine.requires with
      | none => exact List.nil_sublist _
      | some name => exact faultIf_sublist _ _
  refine List.Pairwise.sublist (hsublist.map _) ?_
  simp [checkOf, Check.Before, RoutineCheck.rank]

theorem pairwise_routinesViolations (front : List Routine) {routines : List Routine}
    (hsplit : plan.routines = front ++ routines) :
    (plan.routinesViolations (front.map Routine.name) routines).Pairwise
      fun a b => a.1.Before b.1 := by
  induction routines generalizing front with
  | nil => exact .nil
  | cons routine rest ih =>
    have hsplit' : plan.routines = (front ++ [routine]) ++ rest := by simp [hsplit]
    have hrest := ih (front ++ [routine]) hsplit'
    have hplaces (b : Check × PlanFault)
        (hb : b ∈ plan.routinesViolations (front.map Routine.name ++ [routine.name]) rest) :
        ∃ place part, b.1 = .routine place part ∧ front.length < place := by
      have hlater := plan.mem_routinesViolations_iff (front ++ [routine]) hsplit' b.1 b.2
      rw [List.map_append, List.length_append] at hlater
      exact (hlater.mp hb).2
    rw [List.map_append] at hrest
    rw [routinesViolations, List.pairwise_append]
    refine ⟨plan.pairwise_located_routineFaults _ _ routine, hrest, fun a ha b hb => ?_⟩
    rw [List.length_map] at ha
    obtain ⟨-, part, hpart⟩ := (plan.mem_located_of_split hsplit a.1 a.2).mp ha
    obtain ⟨place, part', hpart', hlt⟩ := hplaces b hb
    rw [hpart, hpart']
    exact .inl hlt

/-- The violations are listed in the order of their checks. -/
theorem pairwise_violations : plan.violations.Pairwise fun a b => a.1.Before b.1 := by
  have hsizes (a : Check × PlanFault) (ha : a ∈ located 0 plan.sizeFaults) : a.1.stage < 3 :=
    (plan.mem_located_sizeFaults_iff.mp ha).2
  have hfamilies (a : Check × PlanFault) (ha : a ∈ plan.expected.entries.flatMap
      fun e => located 0 (plan.familyFaults e.1 e.2)) : a.1.stage = 3 :=
    (plan.mem_families_iff.mp ha).2
  have hrequirements (a : Check × PlanFault) (ha : a ∈ plan.optional.entries.flatMap
      fun e => located 0 (requirementFaults e.1 e.2)) : a.1.stage = 4 :=
    (plan.mem_requirements_iff.mp ha).2
  have hroutines (a : Check × PlanFault) (ha : a ∈ plan.routinesViolations [] plan.routines) :
      a.1.stage = 5 := by
    obtain ⟨-, place, part, h, -⟩ := (plan.mem_routinesViolations_iff [] rfl a.1 a.2).mp ha
    rw [h]
    rfl
  refine pairwise_append_of_stage (pairwise_append_of_stage (pairwise_append_of_stage
    plan.pairwise_located_sizeFaults plan.pairwise_families fun a ha b hb => ?_)
    plan.pairwise_requirements fun a ha b hb => ?_)
    (plan.pairwise_routinesViolations [] rfl) fun a ha b hb => ?_
  · rw [hfamilies b hb]
    exact hsizes a ha
  · rw [hrequirements b hb]
    rcases List.mem_append.mp ha with ha | ha
    · exact Nat.lt_trans (hsizes a ha) (by decide)
    · rw [hfamilies a ha]
      decide
  · rw [hroutines b hb]
    rcases List.mem_append.mp ha with ha | ha
    · rcases List.mem_append.mp ha with ha | ha
      · exact Nat.lt_trans (hsizes a ha) (by decide)
      · rw [hfamilies a ha]
        decide
    · rw [hrequirements a ha]
      decide

/-! ### The fault that is reported -/

/-- **The check of a plan.** A plan passes exactly if it is well formed. Otherwise it is refused for
the first of its violations, in the order in which the checks are made. -/
theorem validate_reports_first (plan : Plan) :
    (plan.validate = .ok () ↔ plan.WellFormed) ∧
    ∀ e, plan.validate = .error e ↔ ∃ check fault, e = .planRefused fault ∧
      plan.Violates check fault ∧
      ∀ check' fault', plan.Violates check' fault' → ¬ check'.Before check := by
  refine ⟨validate_eq_ok_iff, fun e => ?_⟩
  have hpairwise := plan.pairwise_violations
  simp only [← mem_violations_iff]
  rw [validate, ← map_snd_violations]
  cases hviolations : plan.violations with
  | nil => simp
  | cons first rest =>
    rw [hviolations] at hpairwise
    obtain ⟨hfirst, -⟩ := List.pairwise_cons.mp hpairwise
    simp only [List.map_cons, Except.error.injEq]
    constructor
    · rintro rfl
      refine ⟨first.1, first.2, rfl, List.mem_cons_self, fun check' fault' hmem hbefore => ?_⟩
      rcases List.mem_cons.mp hmem with rfl | hmem
      · exact hbefore.asymm hbefore
      · exact (hfirst _ hmem).asymm hbefore
    · rintro ⟨check, fault, rfl, hmem, hleast⟩
      rcases List.mem_cons.mp hmem with rfl | hmem
      · rfl
      · exact absurd (hfirst _ hmem) (hleast _ _ List.mem_cons_self)

end Plan

end RoutineTiming
