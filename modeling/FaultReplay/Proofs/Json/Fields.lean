import FaultReplay.Json.Decode
import Mathlib.Data.List.Nodup

/-!
# Written fields in JSON

What is written as a number, a text, an option or a record is read back from that value. A record is
read back field by field, since no two of its fields have the same name.
-/

/-- What is read back one by one is read back as a list. -/
theorem Option.mapM_map_of_read {α β : Type} {write : α → β} {read : β → Option α} {xs : List α}
    (h : ∀ x ∈ xs, read (write x) = some x) : (xs.map write).mapM read = some xs := by
  induction xs with
  | nil => rfl
  | cons x xs ih =>
      have rest := ih fun other mem => h other (List.mem_cons_of_mem _ mem)
      rw [List.map_cons, List.mapM_cons, h x List.mem_cons_self, rest]
      rfl

namespace FaultReplay.Json.Value

variable {α : Type} {members : List (String × Value)} {name : String} {value : Value}

/-! ### Scalars -/

theorem ofText_ne_null (text : String) : ofText text ≠ .null := nofun

theorem ofNat_ne_null (n : Nat) : ofNat n ≠ .null := nofun

@[simp] theorem text?_ofText (text : String) : (ofText text).text? = some text := rfl

@[simp] theorem uint64?_ofNat (n : UInt64) : (ofNat n.toNat).uint64? = some n := by
  simp only [uint64?, ofNat, natBelow?, if_pos n.toNat_lt, Option.map_some, UInt64.ofNat_toNat]

@[simp] theorem uint8?_ofNat (n : UInt8) : (ofNat n.toNat).uint8? = some n := by
  simp only [uint8?, ofNat, natBelow?, if_pos n.toNat_lt, Option.map_some, UInt8.ofNat_toNat]

/-- What is written as null is read as nothing, and nothing else is. -/
theorem optional?_ofOption {write : α → Value} {read : Value → Option α}
    (visible : ∀ a, write a ≠ .null) (back : ∀ a, read (write a) = some a) (a? : Option α) :
    optional? read (some (ofOption write a?)) = some a? := by
  cases a? with
  | none => rfl
  | some a =>
      have shown := visible a
      have read_a := back a
      simp only [ofOption]
      generalize write a = value at shown read_a
      cases value with
      | null => exact absurd rfl shown
      | _ => simp only [optional?, read_a, Option.map_some]

@[simp] theorem optional?_ofText (text : Option String) :
    optional? text? (some (ofOption ofText text)) = some text :=
  optional?_ofOption ofText_ne_null text?_ofText text

@[simp] theorem optional?_ofNat (n : Option UInt64) :
    optional? uint64? (some (ofOption (fun n : UInt64 => ofNat n.toNat) n)) = some n :=
  optional?_ofOption (fun n => ofNat_ne_null n.toNat) uint64?_ofNat n

/-! ### Records -/

theorem occurrences_map (key : String) (members : List (String × Value)) :
    occurrences key (members.map fun member => (some member.1, member.2)) =
      (members.map Prod.fst).count key := by
  rw [occurrences, List.countP_map, List.count_eq_countP, List.countP_map]
  rfl

/-- A field is looked up by its name, which no other field has. -/
theorem lookup_of_mem (distinct : (members.map Prod.fst).Nodup) (mem : (name, value) ∈ members) :
    (members.map fun member => (some member.1, member.2)).lookup (some name) = some value := by
  obtain ⟨before, after, rfl⟩ := List.append_of_mem mem
  rw [List.map_append, List.map_cons, List.nodup_append] at distinct
  refine List.lookup_eq_some_iff.2 ⟨_, _, List.map_append, fun member earlier => ?_⟩
  obtain ⟨first, listed, rfl⟩ := List.mem_map.1 earlier
  have other : first.1 ≠ name :=
    distinct.2.2 first.1 (List.mem_map_of_mem listed) name List.mem_cons_self
  simpa using other.symm

/-- The fields of a record are read in the order that they were written in. -/
@[simp] theorem fields?_ofMembers {names : List String} (named : members.map Prod.fst = names)
    (distinct : names.Nodup) (least : Nat) :
    (ofMembers members).fields? names least = some (members.map fun member => some member.2) := by
  subst named
  have whole : (members.map fun member => (some member.1, member.2)).all
      (fun member : Option String × Value => member.1.isSome) = true := by simp
  have once : (members.map Prod.fst).all (fun name =>
      decide (occurrences name (members.map fun member => (some member.1, member.2)) ≤ 1)) =
        true := by
    simp only [List.all_eq_true, decide_eq_true_eq, occurrences_map]
    exact fun name _ => List.nodup_iff_count_le_one.1 distinct name
  rw [ofMembers, fields?, if_pos ⟨whole, once⟩, List.map_map]
  -- Each name finds its own member, since no other one has it.
  congr 1
  apply List.map_congr_left
  exact fun member mem => lookup_of_mem distinct mem

@[simp] theorem allFields?_ofMembers {names : List String} (named : members.map Prod.fst = names)
    (distinct : names.Nodup) :
    (ofMembers members).allFields? names = some (members.map Prod.snd) := by
  have read := fields?_ofMembers named distinct names.length
  have present : ((members.map Prod.snd).map some).mapM id = some (members.map Prod.snd) :=
    Option.mapM_map_of_read fun _ _ => rfl
  rw [List.map_map] at present
  rw [allFields?, read]
  exact present

end FaultReplay.Json.Value
