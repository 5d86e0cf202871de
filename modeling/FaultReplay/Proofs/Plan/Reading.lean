import FaultReplay.Proofs.Plan.Printing
import Mathlib.Control.Monad.Basic

/-!
# Plans that are read

A plan is read from words, so the labels of a plan that was read are words, and a memory fault that
was read has a distance. That is all a plan needs to come back from its own text, whatever text it
was first read from.
-/

namespace FaultReplay

open Text (IsWord isBlank isWord_of_mem_words words)

variable {d : Domain}

namespace Fault

variable {fault : Fault d} {record : List String}

theorem printable_of_ofFields (h : ofFields d record = .ok fault)
    (solid : ∀ field ∈ record, IsWord field) : fault.Printable := by
  cases d with
  | memory => trivial
  | instruction =>
      simp only [ofFields, Instruction.faultOfFields] at h
      split at h
      · obtain ⟨trigger, -, h⟩ := Except.exists_of_bind_eq_ok h
        obtain ⟨core, -, h⟩ := Except.exists_of_bind_eq_ok h
        obtain ⟨mask, -, h⟩ := Except.exists_of_bind_eq_ok h
        obtain ⟨expected, -, h⟩ := Except.exists_of_bind_eq_ok h
        cases h
        exact solid _ (by simp)
      · cases h

theorem settled_of_ofFields (h : ofFields d record = .ok fault) : fault.settled = fault := by
  cases d with
  | instruction => rfl
  | memory =>
      simp only [ofFields, Memory.faultOfFields] at h
      split at h
      · obtain ⟨trigger, -, h⟩ := Except.exists_of_bind_eq_ok h
        obtain ⟨offset, -, h⟩ := Except.exists_of_bind_eq_ok h
        obtain ⟨access, -, h⟩ := Except.exists_of_bind_eq_ok h
        obtain ⟨total, -, h⟩ := Except.exists_of_bind_eq_ok h
        obtain ⟨mask, -, h⟩ := Except.exists_of_bind_eq_ok h
        obtain ⟨expected, -, h⟩ := Except.exists_of_bind_eq_ok h
        obtain ⟨secondary, -, h⟩ := Except.exists_of_bind_eq_ok h
        obtain ⟨multiCell, -, h⟩ := Except.exists_of_bind_eq_ok h
        split at h
        · cases h
        · cases h
          rfl
      · cases h

/-- A memory fault is settled if its distance is given. -/
theorem settled_memory_iff {fault : Fault .memory} :
    fault.settled = fault ↔ fault.secondary ≠ none := by
  obtain ⟨trigger, identity, mask, expected, secondary, multiCell⟩ := fault
  cases secondary <;> simp [settled, distance]

end Fault

namespace Plan

variable {plan : Plan d}

/-! ### From words to faults -/

theorem exists_of_mem_readRecords {n : Nat} {fields : List String} {faults : List (Fault d)}
    (h : readRecords d n fields = .ok faults) :
    ∀ fault ∈ faults, ∃ record ⊆ fields, Fault.ofFields d record = .ok fault := by
  induction n generalizing fields faults with
  | zero =>
      cases h
      simp
  | succ n ih =>
      rw [readRecords] at h
      obtain ⟨first, read, h⟩ := Except.exists_of_bind_eq_ok h
      obtain ⟨rest, more, h⟩ := Except.exists_of_bind_eq_ok h
      cases h
      intro fault mem
      rcases List.mem_cons.1 mem with rfl | mem
      · exact ⟨_, List.take_subset _ _, read⟩
      · obtain ⟨record, inside, read⟩ := ih more fault mem
        exact ⟨record, List.Subset.trans inside (List.drop_subset _ _), read⟩

theorem exists_of_ofCountedWords {ws : List String} (h : ofCountedWords d ws = .ok plan) :
    ∀ fault ∈ plan.faults, ∃ record ⊆ ws, Fault.ofFields d record = .ok fault := by
  cases ws with
  | nil => cases h
  | cons count fields =>
      rw [ofCountedWords] at h
      obtain ⟨n, -, h⟩ := Except.exists_of_bind_eq_ok h
      split at h
      · cases h
      split at h
      · cases h
      obtain ⟨faults, read, h⟩ := Except.exists_of_bind_eq_ok h
      rw [faults_of_ofFaults h]
      intro fault mem
      obtain ⟨record, inside, read⟩ := exists_of_mem_readRecords read fault mem
      exact ⟨record, List.subset_cons_of_subset _ inside, read⟩

/-- Every fault of a plan that was read comes from a record of words of the text. -/
theorem exists_of_parse {text : String} (h : parse d text = .ok plan) :
    ∀ fault ∈ plan.faults, ∃ record ⊆ words text, Fault.ofFields d record = .ok fault := by
  rw [parse, ofWords] at h
  split at h
  · obtain ⟨single, read, h⟩ := Except.exists_of_bind_eq_ok h
    rw [faults_of_ofFaults h]
    intro fault mem
    obtain rfl := List.mem_singleton.1 mem
    exact ⟨words text, List.Subset.refl _, read⟩
  · exact exists_of_ofCountedWords h

theorem printable_of_parse {text : String} (h : parse d text = .ok plan) :
    ∀ fault ∈ plan.faults, fault.Printable := by
  intro fault mem
  obtain ⟨record, inside, read⟩ := exists_of_parse h fault mem
  exact Fault.printable_of_ofFields read fun field listed => isWord_of_mem_words (inside listed)

theorem settled_of_parse {text : String} (h : parse d text = .ok plan) :
    ∀ fault ∈ plan.faults, fault.settled = fault := by
  intro fault mem
  obtain ⟨record, -, read⟩ := exists_of_parse h fault mem
  exact Fault.settled_of_ofFields read

/-! ### There and back -/

/-- A plan comes back from its text exactly if its labels are words and its distances are given:
nothing else can be read at all. -/
theorem parse_render_iff :
    parse d plan.render = .ok plan ↔
      ∀ fault ∈ plan.faults, fault.Printable ∧ fault.settled = fault := by
  constructor
  · intro h fault mem
    exact ⟨printable_of_parse h fault mem, settled_of_parse h fault mem⟩
  · intro h
    rw [parse_render fun fault mem => (h fault mem).1,
      settled_eq_self fun fault mem => (h fault mem).2]

/-- A memory plan comes back from its text with the distance 0 in place of every missing one, an
instruction plan exactly if every label is a word, and a plan that was read from a text in any case.
-/
theorem parse_render_exact :
    (∀ plan : Plan .memory,
      (∃ read, parse .memory plan.render = .ok read ∧
        read.faults = plan.faults.map fun fault =>
          { fault with secondary := some (fault.secondary.getD 0) }) ∧
      (parse .memory plan.render = .ok plan ↔
        ∀ fault ∈ plan.faults, fault.secondary ≠ none)) ∧
    (∀ plan : Plan .instruction,
      parse .instruction plan.render = .ok plan ↔
        ∀ fault ∈ plan.faults, fault.identity.label ≠ "" ∧
          ∀ c ∈ fault.identity.label.toList, isBlank c = false) ∧
    ∀ (d : Domain) (text : String) (plan : Plan d), parse d text = .ok plan →
      parse d plan.render = .ok plan := by
  refine ⟨fun plan => ⟨⟨plan.settled, ?_, rfl⟩, ?_⟩, fun plan => ?_, fun d text plan read => ?_⟩
  · exact parse_render fun fault _ => trivial
  · rw [parse_render_iff]
    apply forall₂_congr
    intro fault mem
    rw [Fault.settled_memory_iff]
    exact and_iff_right trivial
  · rw [parse_render_iff]
    apply forall₂_congr
    intro fault mem
    exact and_iff_left rfl
  · rw [parse_render_iff]
    intro fault mem
    exact ⟨printable_of_parse read fault mem, settled_of_parse read fault mem⟩

/-- A record without a count, with a number in base sixteen and a flag in letters, comes back from
the text it is printed as. -/
theorem parse_render_exact_bare :
    ∃ plan : Plan .memory,
      parse .memory "12 0x80 170 64 4 1024 true 32" = .ok plan ∧
      plan.render = "1\n12 128 170 64 4 1024 1 32\n" ∧
      parse .memory plan.render = .ok plan := by
  let fault : Fault .memory :=
    { trigger := 12, identity := ⟨64, 4, 1024⟩, mask := 128, expected := 170,
      secondary := some 32, multiCell := true }
  let plan : Plan .memory := ⟨[fault], by decide, by decide, by decide⟩
  have read : parse .memory "12 0x80 170 64 4 1024 true 32" = .ok plan := by decide +kernel
  exact ⟨plan, read, by decide +kernel, parse_render_exact.2.2 .memory _ plan read⟩

end Plan

end FaultReplay
