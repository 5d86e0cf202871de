import FaultReplay.Fault.Record

/-!
# Plans

A plan is a short list of valid faults with different targets. The only way to make one is
`Plan.ofFaults`, which accepts exactly such lists.
-/

namespace FaultReplay

/-- The most faults that one run may carry. -/
def Plan.capacity : Nat := 3

/-- A list of faults for one run. -/
structure Plan (d : Domain) where
  faults : List (Fault d)
  length_le : faults.length ≤ Plan.capacity
  valid : ∀ fault ∈ faults, fault.Valid
  distinct : (faults.map Fault.target).Nodup

namespace Plan

variable {d : Domain}

@[ext] theorem ext {p q : Plan d} (h : p.faults = q.faults) : p = q := by
  cases p
  cases q
  cases h
  rfl

instance instDecidableEqPlan : DecidableEq (Plan d) := fun p q =>
  decidable_of_iff (p.faults = q.faults) ⟨ext, fun h => h ▸ rfl⟩

/-- The first thing wrong with a list of faults whose targets also have to differ from those already
seen. Each fault is checked on its own before its target is compared. -/
def listProblem? (seen : List (UInt64 × Identity d)) : List (Fault d) → Option Error
  | [] => none
  | fault :: rest =>
    match fault.problem? with
    | some e => some e
    | none =>
      if fault.target ∈ seen then
        some (.ambiguousPlan fault.trigger (Identity.describe fault.identity))
      else listProblem? (fault.target :: seen) rest

/-- Nothing is wrong with a list exactly if its faults are valid and their targets differ from each
other and from those already seen. -/
theorem listProblem?_eq_none_iff {seen : List (UInt64 × Identity d)} {faults : List (Fault d)} :
    listProblem? seen faults = none ↔
      (∀ fault ∈ faults, fault.Valid) ∧ (faults.map Fault.target).Nodup ∧
        ∀ fault ∈ faults, fault.target ∉ seen := by
  induction faults generalizing seen with
  | nil => simp [listProblem?]
  | cons fault rest ih =>
    rw [listProblem?]
    cases problem : fault.problem? with
    | some e =>
      have invalid : ¬ fault.Valid := fun h => by
        simp [Fault.problem?_eq_none_iff.2 h] at problem
      simp [invalid]
    | none =>
      have valid : fault.Valid := Fault.problem?_eq_none_iff.1 problem
      by_cases h : fault.target ∈ seen
      · simp [h]
      · simp only [h, if_false, ih]
        constructor
        · rintro ⟨allValid, nodup, fresh⟩
          refine ⟨by simpa [valid] using allValid, ?_, ?_⟩
          · simp only [List.map_cons, List.nodup_cons]
            refine ⟨fun mem => ?_, nodup⟩
            obtain ⟨other, hOther, same⟩ := List.mem_map.1 mem
            exact fresh other hOther (by simp [same])
          · intro other hOther
            rcases List.mem_cons.1 hOther with rfl | hOther
            · exact h
            · exact fun mem => fresh other hOther (List.mem_cons_of_mem _ mem)
        · rintro ⟨allValid, nodup, fresh⟩
          simp only [List.map_cons, List.nodup_cons] at nodup
          refine ⟨fun other hOther => allValid other (List.mem_cons_of_mem _ hOther),
            nodup.2, fun other hOther mem => ?_⟩
          rcases List.mem_cons.1 mem with same | mem
          · exact nodup.1 (same ▸ List.mem_map.2 ⟨other, hOther, rfl⟩)
          · exact fresh other (List.mem_cons_of_mem _ hOther) mem

/-- The plan of a list of faults. -/
def ofFaults (faults : List (Fault d)) : Except Error (Plan d) :=
  if short : faults.length ≤ capacity then
    match h : listProblem? [] faults with
    | some e => .error e
    | none =>
      have sound := listProblem?_eq_none_iff.1 h
      .ok ⟨faults, short, sound.1, sound.2.1⟩
  else .error (.planTooLong faults.length capacity)

/-- A plan is accepted with the faults it was given. -/
theorem faults_of_ofFaults {faults : List (Fault d)} {plan : Plan d}
    (h : ofFaults faults = .ok plan) : plan.faults = faults := by
  unfold ofFaults at h
  split at h
  · split at h
    · cases h
    · cases h
      rfl
  · cases h

/-- The faults of a plan are accepted again. -/
theorem ofFaults_faults (plan : Plan d) : ofFaults plan.faults = .ok plan := by
  have fine : listProblem? [] plan.faults = none :=
    listProblem?_eq_none_iff.2 ⟨plan.valid, plan.distinct, by simp⟩
  unfold ofFaults
  rw [dif_pos plan.length_le]
  split
  · simp_all
  · rfl

/-- The first fault of an event with this number whose identity passes a test. -/
def findBy (plan : Plan d) (sequence : UInt64) (test : Identity d → Bool) : Option (Fault d) :=
  plan.faults.find? fun fault => fault.trigger == sequence && test fault.identity

/-- The fault of the event with this number and identity. -/
def find (plan : Plan d) (sequence : UInt64) (identity : Identity d) : Option (Fault d) :=
  plan.findBy sequence fun candidate => candidate == identity

end Plan

end FaultReplay
