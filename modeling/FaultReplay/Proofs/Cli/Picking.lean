import FaultReplay.Proofs.Cli.Derivation
import FaultReplay.Proofs.Plan.Soundness
import FaultReplay.Proofs.Profile.Aiming
import FaultReplay.Proofs.Profile.Lookup
import Mathlib.Data.List.Nodup

/-!
# Events that are picked

When a plan is derived from the events that were picked, and which plan: the log has to be one, the
events few and different, and the first entry of each one that a fault can be aimed at. Then the
plan has one fault for each event, in the order of the events. In any other case the tool prints
nothing.
-/

namespace FaultReplay

open Profile (Lists IsFirst)

variable {d : Domain} {disk : Disk} {log content : String} {entries : List (Entry d)}
  {events : List UInt64} {number mask : UInt64} {secondary : Option UInt64} {fault : Fault d}
  {faults : List (Fault d)} {plan : Plan d}

namespace Plan

/-- The fault for an event, as the entries have it: that of the first entry with its number. -/
def Picks (entries : List (Entry d)) (mask : UInt64) (secondary : Option UInt64) (number : UInt64)
    (fault : Fault d) : Prop :=
  ∃ entry, IsFirst entries number entry ∧ entry.Aimable mask secondary ∧
    entry.Yields mask secondary fault

theorem Picks.trigger (h : Picks entries mask secondary number fault) : fault.trigger = number := by
  obtain ⟨entry, ⟨-, -, -, same, -⟩, -, yields⟩ := h
  exact yields.trigger.trans same

/-- From a text of entries, what is derived for an event is what they have for it. -/
theorem pick_eq_ok_iff (listed : Lists content entries)
    (cells : d = .instruction → secondary = none) :
    (do
      let entry ← Profile.findIn d log (some content) number
      entry.fault mask secondary) = .ok fault ↔ Picks entries mask secondary number fault := by
  constructor
  · intro h
    obtain ⟨entry, found, h⟩ := Except.exists_of_bind_eq_ok h
    exact ⟨entry, (Profile.findIn_eq_ok_iff listed).1 found, (Entry.fault_eq_ok_iff cells).1 h⟩
  · rintro ⟨entry, first, aimed⟩
    rw [(Profile.findIn_eq_ok_iff listed).2 first, Except.ok_bind]
    exact (Entry.fault_eq_ok_iff cells).2 aimed

theorem deriveFaults_eq_ok_iff (listed : Lists content entries)
    (cells : d = .instruction → secondary = none) :
    deriveFaults d log (some content) events mask secondary = .ok faults ↔
      List.Forall₂ (Picks entries mask secondary) events faults := by
  rw [deriveFaults, Except.mapM_eq_ok_iff_forall₂]
  simp only [pick_eq_ok_iff listed cells]

theorem map_trigger_of_picks (h : List.Forall₂ (Picks entries mask secondary) events faults) :
    faults.map Fault.trigger = events := by
  induction h with
  | nil => rfl
  | cons first _ ih => rw [List.map_cons, first.trigger, ih]

/-- An event that is picked twice gives the same fault twice. -/
theorem nodup_of_deriveFaults {text : Option String}
    (h : deriveFaults d log text events mask secondary = .ok faults) (distinct : faults.Nodup) :
    events.Nodup := by
  have derived := Except.mapM_eq_ok_iff_map.1 h
  have different : (faults.map (Except.ok : Fault d → Except Error (Fault d))).Nodup :=
    distinct.map fun _ _ => Except.ok.inj
  rw [← derived] at different
  exact different.of_map

/-- The faults for different events, if they are few, make a plan. -/
theorem sound_of_picks (h : List.Forall₂ (Picks entries mask secondary) events faults)
    (cells : d = .instruction → secondary = none) (short : events.length ≤ 3)
    (distinct : events.Nodup) : Sound faults where
  short := h.length_eq ▸ short
  apart := by
    rw [← nodup_targets_iff]
    apply List.Nodup.of_map Prod.fst
    rw [List.map_map]
    exact (map_trigger_of_picks h).symm ▸ distinct
  applicable := by
    have derived : ∀ fault ∈ faults, ∃ number, Picks entries mask secondary number fault := by
      clear short distinct
      induction h with
      | nil => simp
      | cons first _ ih => exact List.forall_mem_cons.2 ⟨⟨_, first⟩, ih⟩
    intro fault mem
    obtain ⟨number, entry, -, aimable, yields⟩ := derived fault mem
    exact Fault.valid_iff_applicable.1 (yields.valid aimable cells)

/-- From a text of entries a plan is derived exactly for few and different events of which each has
a fault, and it is the plan of these faults. -/
theorem derive_eq_ok_iff (listed : Lists content entries)
    (cells : d = .instruction → secondary = none) :
    derive d log (some content) events mask secondary = .ok plan ↔
      events.length ≤ 3 ∧ events.Nodup ∧
        List.Forall₂ (Picks entries mask secondary) events plan.faults := by
  constructor
  · intro h
    obtain ⟨faults, derived, accepted⟩ := Except.exists_of_bind_eq_ok h
    obtain rfl := faults_of_ofFaults accepted
    have picked := (deriveFaults_eq_ok_iff listed cells).1 derived
    exact ⟨picked.length_eq ▸ plan.length_le, nodup_of_deriveFaults derived plan.distinct.of_map,
      picked⟩
  · rintro ⟨-, -, picked⟩
    rw [derive, (deriveFaults_eq_ok_iff listed cells).2 picked, Except.ok_bind]
    exact ofFaults_faults plan

theorem exists_derive_iff (listed : Lists content entries)
    (cells : d = .instruction → secondary = none) :
    (∃ plan, derive d log (some content) events mask secondary = .ok plan) ↔
      events.length ≤ 3 ∧ events.Nodup ∧ ∀ number ∈ events, ∃ entry,
        IsFirst entries number entry ∧ entry.Aimable mask secondary := by
  constructor
  · rintro ⟨plan, h⟩
    obtain ⟨short, distinct, picked⟩ := (derive_eq_ok_iff listed cells).1 h
    refine ⟨short, distinct, fun number mem => ?_⟩
    have derived : deriveFaults d log (some content) events mask secondary = .ok plan.faults :=
      (deriveFaults_eq_ok_iff listed cells).2 picked
    obtain ⟨fault, -, aimed⟩ := Except.exists_of_mapM_of_mem derived number mem
    obtain ⟨entry, first, aimable, -⟩ := (pick_eq_ok_iff listed cells).1 aimed
    exact ⟨entry, first, aimable⟩
  · rintro ⟨short, distinct, each⟩
    have aimed : ∀ number ∈ events, ∃ fault, (do
        let entry ← Profile.findIn d log (some content) number
        entry.fault mask secondary) = .ok fault := by
      intro number mem
      obtain ⟨entry, first, aimable⟩ := each number mem
      rw [(Profile.findIn_eq_ok_iff listed).2 first]
      exact aimable.exists_fault
    obtain ⟨faults, derived⟩ := Except.exists_mapM aimed
    have picked := (deriveFaults_eq_ok_iff listed cells).1 derived
    obtain ⟨plan, -, rfl⟩ := (sound_of_picks picked cells short distinct).exists_plan
    exact ⟨plan, (derive_eq_ok_iff listed cells).2 ⟨short, distinct, picked⟩⟩

/-- Where any event is picked, a plan is derived from a text of entries only. -/
theorem exists_lists_of_derive {text : Option String} (asked : events ≠ [])
    (h : derive d log text events mask secondary = .ok plan) :
    ∃ content entries, text = some content ∧ Lists (d := d) content entries := by
  obtain ⟨number, others, rfl⟩ := List.exists_cons_of_ne_nil asked
  obtain ⟨faults, derived, -⟩ := Except.exists_of_bind_eq_ok h
  obtain ⟨fault, -, aimed⟩ := Except.exists_of_mapM_of_mem derived number List.mem_cons_self
  obtain ⟨entry, found, -⟩ := Except.exists_of_bind_eq_ok aimed
  exact Profile.exists_lists_of_findIn found

end Plan

namespace Cli

/-- A request that fails prints nothing. -/
theorem output_of_code (request : Request) (text : String → Option String) (location : String)
    (failed : (request.answer text location).code ≠ 0) :
    (request.answer text location).output = "" := by
  cases request with
  | command asked =>
      simp only [Request.answer, Command.answer] at failed ⊢
      split at failed
      · cases failed rfl
      · rfl
  | version => cases failed rfl
  | help => cases failed rfl
  | usage => rfl

theorem run_derive (cells : d = .instruction → secondary = none) (text : Option String) :
    (Command.derive d log events mask secondary).run text =
      (orRefused (Plan.derive d log text events mask secondary)).map Plan.render := by
  have allowed : ¬ (d = .instruction ∧ secondary.isSome = true) := by
    rintro ⟨instruction, given⟩
    rw [cells instruction] at given
    cases given
  rw [Command.run, if_neg allowed]
  cases Plan.derive d log text events mask secondary <;> rfl

/-- The tool answers with the text of the derived plan, or with the error and nothing printed. -/
theorem answer_derive (cells : d = .instruction → secondary = none) (text : Option String)
    (location : String) :
    (Command.derive d log events mask secondary).answer text location =
      match Plan.derive d log text events mask secondary with
      | .ok plan => ⟨0, plan.render, none⟩
      | .error e => ⟨1, "", some (e.report location)⟩ := by
  rw [Command.answer, run_derive cells]
  cases Plan.derive d log text events mask secondary <;> rfl

/-- A derivation succeeds exactly if the log is a text of entries and at most three different events
are picked, each with a first entry that a fault can be aimed at; the plan has these faults in
order, and otherwise nothing is printed. -/
theorem derive_succeeds_exactly (d : Domain) (disk : Disk) (log : String) (events : List UInt64)
    (mask : UInt64) (secondary : Option UInt64) (asked : events ≠ [])
    (cells : d = .instruction → secondary = none) :
    ((∃ plan, Plan.derive d log (disk.readText? log) events mask secondary = .ok plan) ↔
      ∃ (content : String) (entries : List (Entry d)),
        disk.read? log = some content.toUTF8 ∧ Lists content entries ∧
        events.length ≤ 3 ∧ events.Nodup ∧
        ∀ number ∈ events, ∃ entry,
          IsFirst entries number entry ∧ entry.Aimable mask secondary) ∧
    (∀ plan, Plan.derive d log (disk.readText? log) events mask secondary = .ok plan →
      ∃ (content : String) (entries : List (Entry d)),
        disk.read? log = some content.toUTF8 ∧ Lists content entries ∧
        List.Forall₂ (fun number fault => fault.trigger = number ∧
          ∃ entry, IsFirst entries number entry ∧ entry.Yields mask secondary fault)
          events plan.faults) ∧
    (∀ location,
      let answer :=
        (Command.derive d log events mask secondary).answer (disk.readText? log) location
      (∀ plan, Plan.derive d log (disk.readText? log) events mask secondary = .ok plan →
        answer.code = 0 ∧ answer.output = plan.render) ∧
      ((¬ ∃ plan, Plan.derive d log (disk.readText? log) events mask secondary = .ok plan) →
        answer.code = 1 ∧ answer.output = "")) ∧
    ∀ (arguments : List String) (text : String → Option String) (location : String),
      ((Request.ofArguments arguments).answer text location).code ≠ 0 →
      ((Request.ofArguments arguments).answer text location).output = "" := by
  refine ⟨⟨?_, ?_⟩, ?_, ?_, fun arguments => output_of_code _⟩
  · rintro ⟨plan, h⟩
    obtain ⟨content, entries, held, listed⟩ := Plan.exists_lists_of_derive asked h
    rw [held] at h
    exact ⟨content, entries, Disk.readText?_eq_some_iff.1 held, listed,
      (Plan.exists_derive_iff listed cells).1 ⟨plan, h⟩⟩
  · rintro ⟨content, entries, held, listed, picked⟩
    rw [Disk.readText?_eq_some_iff.2 held]
    exact (Plan.exists_derive_iff listed cells).2 picked
  · intro plan h
    obtain ⟨content, entries, held, listed⟩ := Plan.exists_lists_of_derive asked h
    rw [held] at h
    obtain ⟨-, -, picked⟩ := (Plan.derive_eq_ok_iff listed cells).1 h
    refine ⟨content, entries, Disk.readText?_eq_some_iff.1 held, listed, picked.imp ?_⟩
    intro number fault pick
    obtain ⟨entry, first, -, yields⟩ := id pick
    exact ⟨pick.trigger, entry, first, yields⟩
  · intro location answer
    have answered : answer = _ := answer_derive cells _ location
    rw [answered]
    constructor
    · intro plan h
      rw [h]
      exact ⟨rfl, rfl⟩
    · intro refused
      cases derived : Plan.derive d log (disk.readText? log) events mask secondary with
      | ok plan => exact (refused ⟨plan, derived⟩).elim
      | error e => exact ⟨rfl, rfl⟩

/-- Two events of a memory log with a blank line and a second pass, picked against their order, and
one of them picked twice. -/
theorem derive_succeeds_exactly_second_pass :
    ∃ disk : Disk,
      disk.readText? "log.txt" =
        some "1;170;0;64;4;1024\n2;7;0;8;1;1024\n \n1;3;0;1020;1;1024\n" ∧
      (∃ plan, Plan.derive .memory "log.txt" (disk.readText? "log.txt") [2, 1] 255 (some 4) =
        .ok plan) ∧
      ((Command.derive .memory "log.txt" [2, 2] 255 (some 4)).answer (disk.readText? "log.txt")
        "").output = "" := by
  let content := "1;170;0;64;4;1024\n2;7;0;8;1;1024\n \n1;3;0;1020;1;1024\n"
  let one : Memory.Entry := ⟨1, 170, 0, ⟨64, 4, 1024⟩⟩
  let two : Memory.Entry := ⟨2, 7, 0, ⟨8, 1, 1024⟩⟩
  let again : Memory.Entry := ⟨1, 3, 0, ⟨1020, 1, 1024⟩⟩
  let disk : Disk := Disk.empty.put ⟨false, ["log.txt"]⟩ (.file content.toUTF8)
  have held : disk.read? "log.txt" = some content.toUTF8 := by decide +kernel
  have read := Disk.readText?_eq_some_iff.2 held
  have listed : Lists (d := .memory) content [one, two, again] :=
    Profile.parse_eq_ok_iff.1 (by decide +kernel)
  refine ⟨disk, read, ?_, ?_⟩
  · refine (derive_succeeds_exactly .memory disk "log.txt" [2, 1] 255 (some 4) (by decide)
      nofun).1.2 ⟨content, [one, two, again], held, listed, by decide, by decide, ?_⟩
    have near (n : UInt64) (small : n = 8 ∨ n = 64) : n.toNat + (4 : UInt64).toNat < 1024 := by
      rcases small with rfl | rfl <;> decide
    rw [List.forall_mem_cons, List.forall_mem_singleton]
    constructor
    · refine ⟨two, Profile.find?_eq_some_iff.1 (by decide), by decide, ?_⟩
      rintro _ ⟨rfl⟩
      exact ⟨by decide, by decide, near 8 (Or.inl rfl)⟩
    · refine ⟨one, Profile.find?_eq_some_iff.1 (by decide), by decide, ?_⟩
      rintro _ ⟨rfl⟩
      exact ⟨by decide, by decide, near 64 (Or.inr rfl)⟩
  · have exactly := derive_succeeds_exactly .memory disk "log.txt" [2, 2] 255 (some 4) (by decide)
      nofun
    refine ((exactly.2.2.1 "").2 fun derived => ?_).2
    obtain ⟨-, -, -, -, -, distinct, -⟩ := exactly.1.1 derived
    exact absurd distinct (by decide)

end Cli

end FaultReplay
