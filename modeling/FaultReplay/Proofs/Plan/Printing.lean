import FaultReplay.Plan.Text
import FaultReplay.Proofs.Field
import FaultReplay.Proofs.Text.Reading

/-!
# Printed plans

A plan is read back from its text with the faults it was printed from. A record has a place for the
distance to the second cell of a memory fault and none for its absence, so a fault without one is
read with the distance 0.
-/

namespace FaultReplay

open Numeral (decimal)
open Text (IsWord isWord_decimal words)

variable {d : Domain}

namespace Fault

/-- The fault as its record has it: a memory fault with a distance, be it 0. -/
def settled : {d : Domain} → Fault d → Fault d
  | .instruction, fault => fault
  | .memory, fault => { fault with secondary := some fault.distance }

/-- The faults whose fields are words: a label has to be one. -/
def Printable : {d : Domain} → Fault d → Prop
  | .instruction, fault => IsWord (Instruction.Identity.label (Fault.identity fault))
  | .memory, _ => True

@[simp] theorem target_settled (fault : Fault d) : fault.settled.target = fault.target := by
  cases d <;> rfl

theorem valid_settled {fault : Fault d} (h : fault.Valid) : fault.settled.Valid := by
  cases d with
  | instruction => exact h
  | memory => exact h

/-! ### Records -/

theorem isWord_of_mem_fields {fault : Fault d} (h : fault.Printable) :
    ∀ field ∈ fault.fields, IsWord field := by
  intro field mem
  cases d with
  | instruction =>
      simp only [fields, Instruction.faultFields, List.mem_cons, List.not_mem_nil, or_false] at mem
      rcases mem with rfl | rfl | rfl | rfl | rfl
      · exact isWord_decimal _
      · exact isWord_decimal _
      · exact isWord_decimal _
      · exact isWord_decimal _
      · exact h
  | memory =>
      have flag (b : Bool) : IsWord (Memory.flagText b) := by
        cases b <;> decide
      simp only [fields, Memory.faultFields, List.mem_cons, List.not_mem_nil, or_false] at mem
      rcases mem with rfl | rfl | rfl | rfl | rfl | rfl | rfl | rfl
      · exact isWord_decimal _
      · exact isWord_decimal _
      · exact isWord_decimal _
      · exact isWord_decimal _
      · exact isWord_decimal _
      · exact isWord_decimal _
      · exact flag _
      · exact isWord_decimal _

theorem flag_flagText (name : String) (b : Bool) :
    Field.flag name (Memory.flagText b) = .ok b := by
  cases b <;> rfl

/-- A valid fault is read from its record. -/
theorem ofFields_fields {fault : Fault d} (h : fault.Valid) :
    ofFields d fault.fields = .ok fault.settled := by
  cases d with
  | instruction =>
      obtain ⟨single, near⟩ := h
      simp only [ofFields, fields, Instruction.faultOfFields, Instruction.faultFields,
        Field.number_decimal, Except.ok_bind, settled]
      cases fault
      cases single
      cases near
      rfl
  | memory =>
      have fine : Memory.faultProblem? (settled (d := .memory) fault) = none :=
        problem?_eq_none_iff.2 (valid_settled h)
      simp only [ofFields, fields, Memory.faultOfFields, Memory.faultFields,
        Field.number_decimal, flag_flagText, Except.ok_bind]
      split
      · rename_i e problem
        cases fine.symm.trans problem
      · rfl

end Fault

namespace Plan

/-- The plan as its text has it. -/
def settled (plan : Plan d) : Plan d where
  faults := plan.faults.map Fault.settled
  length_le := by simpa using plan.length_le
  valid := by
    intro fault mem
    obtain ⟨original, ho, rfl⟩ := List.mem_map.1 mem
    exact Fault.valid_settled (plan.valid original ho)
  distinct := by
    have targets : (plan.faults.map Fault.settled).map Fault.target =
        plan.faults.map Fault.target := by simp
    rw [targets]
    exact plan.distinct

theorem settled_eq_self {plan : Plan d} (h : ∀ fault ∈ plan.faults, fault.settled = fault) :
    plan.settled = plan := by
  apply ext
  calc
    plan.faults.map Fault.settled = plan.faults.map id := List.map_congr_left h
    _ = plan.faults := List.map_id _

/-! ### Texts -/

theorem words_records {faults : List (Fault d)} (h : ∀ fault ∈ faults, fault.Printable) :
    words (String.join (faults.map fun fault => fault.render ++ "\n")) =
      faults.flatMap Fault.fields := by
  induction faults with
  | nil => rfl
  | cons fault faults ih =>
      have first := Fault.isWord_of_mem_fields (h fault List.mem_cons_self)
      rw [List.map_cons, String.join_cons, Fault.render, Text.words_intercalate_append first,
        ih fun other mem => h other (List.mem_cons_of_mem _ mem), List.flatMap_cons]

/-- The words of a printed plan are the number of its faults and their fields. -/
theorem words_render {plan : Plan d} (h : ∀ fault ∈ plan.faults, fault.Printable) :
    words plan.render = decimal plan.faults.length :: plan.faults.flatMap Fault.fields := by
  have count : ∀ word ∈ [decimal plan.faults.length], IsWord word := by
    intro word mem
    rw [List.mem_singleton.1 mem]
    exact isWord_decimal _
  rw [render, ← words_records h]
  simpa using Text.words_intercalate_append count
    (String.join (plan.faults.map fun fault => fault.render ++ "\n"))

theorem length_flatMap_fields (faults : List (Fault d)) :
    (faults.flatMap Fault.fields).length = faults.length * d.recordLength := by
  induction faults with
  | nil => simp
  | cons fault faults ih =>
      rw [List.flatMap_cons, List.length_append, ih, Fault.length_fields, List.length_cons,
        Nat.succ_mul, Nat.add_comm]

/-- Records that stand one after another are read one after another. -/
theorem readRecords_flatMap {faults : List (Fault d)} (h : ∀ fault ∈ faults, fault.Valid) :
    readRecords d faults.length (faults.flatMap Fault.fields) =
      .ok (faults.map Fault.settled) := by
  induction faults with
  | nil => rfl
  | cons fault faults ih =>
      have split : (fault.fields ++ faults.flatMap Fault.fields).take d.recordLength =
          fault.fields := List.take_left' fault.length_fields
      have rest : (fault.fields ++ faults.flatMap Fault.fields).drop d.recordLength =
          faults.flatMap Fault.fields := List.drop_left' fault.length_fields
      rw [List.length_cons, List.flatMap_cons, readRecords, split, rest,
        Fault.ofFields_fields (h fault List.mem_cons_self),
        ih fun other mem => h other (List.mem_cons_of_mem _ mem)]
      rfl

/-- A printed plan has one word more than whole records have, so it is never taken for a record
without a count. -/
theorem ofWords_render (count : String) (faults : List (Fault d)) :
    ofWords d (count :: faults.flatMap Fault.fields) =
      ofCountedWords d (count :: faults.flatMap Fault.fields) := by
  apply if_neg
  rintro ⟨bare, same⟩
  cases d with
  | instruction => cases bare
  | memory =>
      rw [List.length_cons, length_flatMap_fields] at same
      change faults.length * 8 + 1 = 8 at same
      omega

/-- A plan is read from its text. -/
theorem parse_render {plan : Plan d} (h : ∀ fault ∈ plan.faults, fault.Printable) :
    parse d plan.render = .ok plan.settled := by
  have short : plan.faults.length ≤ 3 := plan.length_le
  have bounded : plan.faults.length < UInt64.size := Nat.lt_of_le_of_lt short (by decide)
  have count : (UInt64.ofNat plan.faults.length).toNat = plan.faults.length :=
    UInt64.toNat_ofNat_of_lt' bounded
  rw [parse, words_render h, ofWords_render, ofCountedWords,
    Field.number_decimal_of_lt _ bounded, Except.ok_bind]
  simp only [count, if_neg (Nat.not_lt.2 plan.length_le), length_flatMap_fields, ne_eq, not_true,
    if_false, readRecords_flatMap plan.valid, Except.ok_bind]
  exact ofFaults_faults plan.settled

end Plan

end FaultReplay
