import FaultReplay.Outcome.Summary
import Mathlib.Data.List.Nodup

/-!
# Fields in the order of their keys

A record may have several lines of one key. Looked up in the record, a key has the value of its first
line; in the summary, where each key stands once and in the order of code points, it has the value of
its last one. Without such lines a summary is the record in another order.
-/

namespace FaultReplay.Outcome

variable {outcome : Outcome} {fields : List (String × String)} {field : String × String}
  {key value : String}

/-- The first line of a key has this value. -/
def FirstIs (outcome : Outcome) (key value : String) : Prop :=
  ∃ before after, outcome.fields = before ++ (key, value) :: after ∧ key ∉ before.map Prod.fst

/-- The last line of a key has this value. -/
def LastIs (outcome : Outcome) (key value : String) : Prop :=
  ∃ before after, outcome.fields = before ++ (key, value) :: after ∧ key ∉ after.map Prod.fst

/-! ### Lookups -/

theorem lookup_eq_some_iff_first :
    fields.lookup key = some value ↔
      ∃ before after, fields = before ++ (key, value) :: after ∧ key ∉ before.map Prod.fst := by
  rw [List.lookup_eq_some_iff]
  apply exists₂_congr
  intro before after
  apply and_congr_right
  intro _
  simp only [List.mem_map, bne_iff_ne, ne_eq, not_exists, not_and]
  exact forall₂_congr fun first _ => not_congr eq_comm

theorem mem_keys_iff_lookup :
    key ∈ fields.map Prod.fst ↔ ∃ value, fields.lookup key = some value := by
  rw [← Option.isSome_iff_exists, List.lookup_isSome_iff]
  simp only [List.mem_map, beq_iff_eq]
  exact exists_congr fun field => and_congr_right fun _ => eq_comm

theorem lookup_cons (field : String × String) (fields : List (String × String)) (key : String) :
    (field :: fields).lookup key = if key = field.1 then some field.2 else fields.lookup key := by
  rw [List.lookup_cons]
  by_cases same : key = field.1
  · simp [same]
  · simp [same, beq_eq_false_iff_ne.2 same]

/-- Where no key comes twice, every field is found by its key. -/
theorem mem_iff_lookup (distinct : (fields.map Prod.fst).Nodup) :
    (key, value) ∈ fields ↔ fields.lookup key = some value := by
  rw [lookup_eq_some_iff_first]
  constructor
  · intro mem
    obtain ⟨before, after, rfl⟩ := List.append_of_mem mem
    refine ⟨before, after, rfl, fun earlier => ?_⟩
    rw [List.map_append, List.map_cons, List.nodup_append] at distinct
    exact distinct.2.2 key earlier key List.mem_cons_self rfl
  · rintro ⟨before, after, rfl, -⟩
    simp

theorem get?_eq_some_iff : outcome.get? key = some value ↔ outcome.FirstIs key value :=
  lookup_eq_some_iff_first

/-! ### One insertion -/

/-- An insertion sets the value of its key and of no other. -/
theorem lookup_insertField (field : String × String) (fields : List (String × String))
    (key : String) :
    (insertField field fields).lookup key =
      if key = field.1 then some field.2 else fields.lookup key := by
  induction fields with
  | nil => rw [insertField, lookup_cons]
  | cons first rest ih =>
      rw [insertField, lookup_cons first rest]
      by_cases same : field.1 = first.1
      · rw [if_pos same, lookup_cons, ← same]
        by_cases own : key = field.1
        · simp [own]
        · simp [own]
      · rw [if_neg same]
        by_cases sooner : field.1 < first.1
        · rw [if_pos sooner, lookup_cons, lookup_cons]
        · rw [if_neg sooner, lookup_cons, ih]
          by_cases own : key = field.1
          · simp [own, same]
          · simp [own]

theorem mem_insertField {other : String × String} (h : other ∈ insertField field fields) :
    other = field ∨ other ∈ fields := by
  induction fields with
  | nil => exact Or.inl (List.mem_singleton.1 h)
  | cons first rest ih =>
      rw [insertField] at h
      split at h
      · rcases List.mem_cons.1 h with same | later
        · exact Or.inl same
        · exact Or.inr (List.mem_cons_of_mem _ later)
      split at h
      · exact List.mem_cons.1 h
      · rcases List.mem_cons.1 h with same | later
        · exact Or.inr (same ▸ List.mem_cons_self)
        · exact (ih later).imp_right (List.mem_cons_of_mem _)

/-- An insertion keeps the keys in increasing order. -/
theorem pairwise_insertField (sorted : fields.Pairwise fun one two => one.1 < two.1) :
    (insertField field fields).Pairwise fun one two => one.1 < two.1 := by
  induction fields with
  | nil => exact List.pairwise_singleton _ field
  | cons first rest ih =>
      obtain ⟨least, later⟩ := List.pairwise_cons.1 sorted
      rw [insertField]
      by_cases same : field.1 = first.1
      · rw [if_pos same]
        exact List.pairwise_cons.2 ⟨fun other mem => same ▸ least other mem, later⟩
      rw [if_neg same]
      by_cases sooner : field.1 < first.1
      · rw [if_pos sooner]
        refine List.pairwise_cons.2 ⟨?_, sorted⟩
        intro other mem
        rcases List.mem_cons.1 mem with rfl | mem
        · exact sooner
        · exact String.lt_trans sooner (least other mem)
      · rw [if_neg sooner]
        refine List.pairwise_cons.2 ⟨?_, ih later⟩
        intro other mem
        rcases mem_insertField mem with rfl | mem
        · exact Std.lt_of_le_of_ne (String.not_lt.1 sooner) (Ne.symm same)
        · exact least other mem

/-! ### Insertions in a row -/

/-- After some insertions a key has the value of the last of them for it. -/
theorem lookup_foldl_insertField (fields before : List (String × String)) (key : String) :
    (fields.foldl (fun before field => insertField field before) before).lookup key =
      (fields.reverse.lookup key).or (before.lookup key) := by
  induction fields generalizing before with
  | nil => rfl
  | cons field fields ih =>
      rw [List.foldl_cons, ih, lookup_insertField, List.reverse_cons, List.lookup_append,
        Option.or_assoc, lookup_cons]
      by_cases own : key = field.1
      · simp [own]
      · simp [own]

theorem pairwise_foldl_insertField {before : List (String × String)}
    (sorted : before.Pairwise fun one two => one.1 < two.1) :
    (fields.foldl (fun before field => insertField field before) before).Pairwise
      fun one two => one.1 < two.1 := by
  induction fields generalizing before with
  | nil => exact sorted
  | cons field fields ih => exact ih (pairwise_insertField sorted)

/-! ### The summary -/

/-- The keys of the summary increase. -/
theorem pairwise_summary (outcome : Outcome) :
    outcome.summary.Pairwise fun one two => one.1 < two.1 :=
  pairwise_foldl_insertField List.Pairwise.nil

theorem nodup_keys_summary (outcome : Outcome) : (outcome.summary.map Prod.fst).Nodup := by
  rw [List.Nodup, List.pairwise_map]
  apply outcome.pairwise_summary.imp
  intro one two less same
  rw [same] at less
  exact String.lt_irrefl _ less

/-- A key has in the summary what it has in the record when that is read from its end. -/
theorem lookup_summary (outcome : Outcome) (key : String) :
    outcome.summary.lookup key = outcome.fields.reverse.lookup key := by
  rw [summary, lookup_foldl_insertField, List.lookup_nil, Option.or_none]

/-- A key of the summary has the value of its last line. -/
theorem lookup_summary_eq_some_iff :
    outcome.summary.lookup key = some value ↔ outcome.LastIs key value := by
  rw [lookup_summary, lookup_eq_some_iff_first]
  constructor
  · rintro ⟨before, after, split, unmet⟩
    refine ⟨after.reverse, before.reverse, ?_, ?_⟩
    · simpa using congrArg List.reverse split
    · simpa using unmet
  · rintro ⟨before, after, split, unmet⟩
    refine ⟨after.reverse, before.reverse, ?_, ?_⟩
    · simp [split]
    · simpa using unmet

theorem mem_summary_iff : (key, value) ∈ outcome.summary ↔ outcome.LastIs key value := by
  rw [mem_iff_lookup outcome.nodup_keys_summary, lookup_summary_eq_some_iff]

/-- The keys of the summary are those of the record. -/
theorem mem_keys_summary_iff :
    key ∈ outcome.summary.map Prod.fst ↔ key ∈ outcome.fields.map Prod.fst := by
  have reversed : key ∈ outcome.fields.map Prod.fst ↔
      key ∈ outcome.fields.reverse.map Prod.fst := by simp
  simp only [reversed, mem_keys_iff_lookup, lookup_summary]

/-- The summary and the record agree on a key exactly if its first and its last line do. -/
theorem lookup_summary_eq_get?_iff :
    outcome.summary.lookup key = outcome.get? key ↔
      ∀ first last, outcome.FirstIs key first → outcome.LastIs key last → first = last := by
  constructor
  · intro same first last begins ends
    rw [← get?_eq_some_iff, ← same, lookup_summary_eq_some_iff.2 ends] at begins
    exact (Option.some.inj begins).symm
  · intro same
    have both : (∃ last, outcome.summary.lookup key = some last) ↔
        ∃ first, outcome.get? key = some first := by
      rw [← mem_keys_iff_lookup, mem_keys_summary_iff, mem_keys_iff_lookup]
      rfl
    cases found : outcome.get? key with
    | none =>
        cases shown : outcome.summary.lookup key with
        | none => rfl
        | some last =>
            obtain ⟨first, there⟩ := both.1 ⟨last, shown⟩
            cases found.symm.trans there
    | some first =>
        obtain ⟨last, shown⟩ := both.2 ⟨first, found⟩
        rw [shown, same first last (get?_eq_some_iff.1 found)
          (lookup_summary_eq_some_iff.1 shown)]

/-- A record without two lines of one key is its summary in another order. -/
theorem perm_summary (distinct : (outcome.fields.map Prod.fst).Nodup) :
    outcome.summary.Perm outcome.fields := by
  rw [List.perm_ext_iff_of_nodup outcome.nodup_keys_summary.of_map distinct.of_map]
  rintro ⟨key, value⟩
  have reversed : (outcome.fields.reverse.map Prod.fst).Nodup := by
    rwa [List.map_reverse, List.nodup_reverse]
  rw [mem_iff_lookup outcome.nodup_keys_summary, lookup_summary, ← mem_iff_lookup reversed,
    List.mem_reverse]

end FaultReplay.Outcome
