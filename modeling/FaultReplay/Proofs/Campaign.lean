import FaultReplay.Proofs.Plan.Printing
import FaultReplay.Proofs.Profile.Aiming
import FaultReplay.Proofs.Run.Profiling
import FaultReplay.Proofs.Run.Replaying
import Mathlib.Tactic.Choose

/-!
# From a profile to a replay

A program is profiled, events are picked from its profile, a plan is made for them, printed and
loaded, and the program is run once more. The second run then differs from the first in the picked
events alone, and there in exactly what was asked for.
-/

namespace FaultReplay

variable {d : Domain}

/-- The events that logs and plans have room for: a label is one word without a semicolon and
registers can be counted; a region has the size that it is declared with. -/
def Event.Regular : {d : Domain} → Event d → Prop
  | .instruction, retired =>
    let label := Instruction.Retirement.label retired
    Text.IsWord label ∧ ';' ∉ label.toList ∧
      (Instruction.Retirement.registers retired).length < UInt64.size
  | .memory, access =>
    (Memory.Access.region access).size = (Memory.Access.identity access).total.toNat

/-- What is picked from a profile: an event by its number, and what to flip there. -/
structure Aim where
  number : UInt64
  mask : UInt64
  /-- The distance to a second byte, for an upset of two bytes of memory. -/
  distance : Option UInt64 := none

namespace Aim

/-- The events that an aim can be taken at. -/
def Suits : {d : Domain} → Aim → Event d → Prop
  | .instruction, _, retired => (Instruction.Retirement.registers retired).length = 1
  | .memory, aim, access =>
    let offset := (Memory.Access.identity access).offset.toNat
    let total := (Memory.Access.identity access).total.toNat
    aim.mask ≤ 255 ∧ offset < total ∧ ∀ s ∈ aim.distance, s ≠ 0 ∧ offset + s.toNat < total

/-- The fault of an aim, as the profile log has the event. -/
def derive (d : Domain) (disk : Disk) (log : String) (aim : Aim) : Except Error (Fault d) := do
  let entry ← Profile.find d disk log aim.number
  entry.fault aim.mask aim.distance

/-- What becomes of the event with this number. -/
def effect (aims : List Aim) (number : Nat) (event : Event d) : Event d :=
  match aims.find? fun aim => aim.number.toNat == number with
  | none => event
  | some aim => event.corrupt aim.mask aim.distance

end Aim

theorem Event.Regular.legible {event : Event d} (h : event.Regular) (number : UInt64) :
    (Entry.observe number event).Legible := by
  cases d with
  | instruction =>
      obtain ⟨word, whole, countable⟩ := h
      refine ⟨whole, fun feed => ?_, countable⟩
      exact absurd (word.2 _ feed) (by decide)
  | memory => trivial

/-- A fault that does to an event what an aim asks for, and that a plan can be made and printed
with. -/
structure Fault.Carries (fault : Fault d) (aim : Aim) (event : Event d) : Prop where
  trigger : fault.trigger = aim.number
  identity : event.identity = fault.identity
  valid : fault.Valid
  printable : fault.Printable
  settled : fault.settled = fault
  fits : fault.Fits event
  corrupt : fault.corrupt event = event.corrupt aim.mask aim.distance

/-! ### One aim -/

section

variable {aim : Aim} {number : UInt64}

theorem Aim.Suits.exists_register {retired : Event .instruction} (h : aim.Suits retired)
    (regular : Event.Regular retired) :
    ∃ fault, Entry.fault (d := .instruction) (.observe aim.number retired) aim.mask aim.distance =
      .ok fault ∧ fault.Carries aim retired := by
  obtain ⟨value, written⟩ := List.length_eq_one_iff.1 h
  let fault : Fault .instruction :=
    { trigger := aim.number, identity := Instruction.Retirement.identity retired,
      mask := aim.mask, expected := value }
  refine ⟨fault, ?_, rfl, rfl, ⟨rfl, rfl⟩, regular.1, rfl, written, rfl⟩
  simp only [Entry.fault, Entry.observe, Instruction.Entry.fault, Instruction.Entry.observe,
    written]
  rfl

/-- The fault of an aim at one byte. -/
def Aim.byteFault (aim : Aim) (access : Memory.Access) : Fault .memory where
  trigger := aim.number
  identity := access.identity
  mask := aim.mask
  expected := (Memory.Entry.byteAt access.region access.identity.offset.toNat).toUInt64
  secondary := some 0

/-- The entry of an access that an aim suits is one that its fault can be aimed at. -/
theorem Aim.Suits.aimable {access : Event .memory} (h : aim.Suits access) (number : UInt64) :
    Entry.Aimable (d := .memory) (.observe number access) aim.mask aim.distance := by
  obtain ⟨narrow, -, second⟩ := h
  refine ⟨narrow, fun s given => ?_⟩
  obtain ⟨nonzero, inside⟩ := second s given
  exact ⟨nonzero, Nat.lt_trans inside (Memory.Access.identity access).total.toNat_lt, inside⟩

theorem Aim.Suits.exists_byte {access : Event .memory} (h : aim.Suits access)
    (regular : Event.Regular access) (distance : aim.distance = none) :
    ∃ fault, Entry.fault (d := .memory) (.observe aim.number access) aim.mask aim.distance =
      .ok fault ∧ fault.Carries aim access := by
  have aimable := h.aimable aim.number
  obtain ⟨narrow, declared, -⟩ := h
  have actual : (Memory.Access.region access).size =
      (Memory.Access.identity access).total.toNat := regular
  have yields : Entry.Yields (d := .memory) (.observe aim.number access) aim.mask none
      (aim.byteFault access) := ⟨rfl, rfl, rfl, rfl, rfl, rfl⟩
  have fits : (aim.byteFault access).Fits access := by
    refine ⟨declared, by omega, ?_, narrow, rfl⟩
    rintro s ⟨⟩
  rw [distance] at aimable ⊢
  have derived := (Entry.fault_eq_ok_iff (d := .memory) nofun).2 ⟨aimable, yields⟩
  refine ⟨aim.byteFault access, derived, rfl, rfl, yields.valid aimable nofun, trivial, rfl, fits,
    ?_⟩
  rw [distance]
  rfl

theorem Aim.Suits.exists_bytes {access : Event .memory} (h : aim.Suits access)
    (regular : Event.Regular access) {s : UInt64} (distance : aim.distance = some s) :
    ∃ fault, Entry.fault (d := .memory) (.observe aim.number access) aim.mask aim.distance =
      .ok fault ∧ fault.Carries aim access := by
  have aimable := h.aimable aim.number
  obtain ⟨narrow, declared, second⟩ := h
  obtain ⟨nonzero, inside⟩ := second s distance
  have actual : (Memory.Access.region access).size =
      (Memory.Access.identity access).total.toNat := regular
  let fault := { aim.byteFault access with secondary := some s, multiCell := true }
  have yields : Entry.Yields (d := .memory) (.observe aim.number access) aim.mask (some s) fault :=
    ⟨rfl, rfl, rfl, rfl, rfl, rfl⟩
  have fits : fault.Fits access := by
    refine ⟨declared, by omega, ?_, narrow, rfl⟩
    intro t reached
    obtain rfl : s = t := Option.some.inj reached
    exact ⟨nonzero, inside, by omega⟩
  rw [distance] at aimable ⊢
  have derived := (Entry.fault_eq_ok_iff (d := .memory) nofun).2 ⟨aimable, yields⟩
  refine ⟨fault, derived, rfl, rfl, yields.valid aimable nofun, trivial, rfl, fits, ?_⟩
  rw [distance]
  rfl

/-- From the entry of an event that an aim suits, the fault for it is derived. -/
theorem Aim.Suits.exists_carries {event : Event d} (h : aim.Suits event)
    (regular : event.Regular) :
    ∃ fault, (Entry.observe aim.number event).fault aim.mask aim.distance = .ok fault ∧
      fault.Carries aim event := by
  cases d with
  | instruction => exact h.exists_register regular
  | memory =>
      cases distance : aim.distance with
      | none => simpa only [distance] using h.exists_byte regular distance
      | some s => simpa only [distance] using h.exists_bytes regular distance

end

/-! ### All aims -/

section

variable {aims : List Aim} {events : List (Event d)} {plan : Plan d} {f : Aim → Fault d}

/-- A plan that has one fault for each aim, as a function gives them. -/
structure Plan.Realizes (plan : Plan d) (aims : List Aim) (events : List (Event d))
    (f : Aim → Fault d) : Prop where
  faults : plan.faults = aims.map f
  carried : ∀ aim ∈ aims, ∃ event, (event, aim.number.toNat) ∈ events.zipIdx 1 ∧
    (f aim).Carries aim event

theorem Plan.Realizes.aimedAt (h : plan.Realizes aims events f) : plan.AimedAt events := by
  intro fault mem
  rw [h.faults] at mem
  obtain ⟨aim, listed, rfl⟩ := List.mem_map.1 mem
  obtain ⟨event, place, carries⟩ := h.carried aim listed
  exact ⟨event, by rw [carries.trigger]; exact place, carries.identity⟩

/-- The fault found for an event comes from an aim with its number. -/
theorem Plan.Realizes.carries_of_find (h : plan.Realizes aims events f) {event : Event d}
    {number : UInt64} (place : (event, number.toNat) ∈ events.zipIdx 1) {fault : Fault d}
    (found : plan.find number event.identity = some fault) :
    ∃ aim ∈ aims, aim.number = number ∧ fault = f aim ∧ (f aim).Carries aim event := by
  obtain ⟨mem, target⟩ := Plan.find_eq_some_iff.1 found
  rw [h.faults] at mem
  obtain ⟨aim, listed, rfl⟩ := List.mem_map.1 mem
  obtain ⟨aimed, there, carries⟩ := h.carried aim listed
  have same : aim.number = number := by
    rw [← carries.trigger]
    exact congrArg Prod.fst target
  rw [same] at there
  obtain rfl := Event.unique_number place there
  exact ⟨aim, listed, same, rfl, carries⟩

theorem Plan.Realizes.fitsAll (h : plan.Realizes aims events f)
    (short : events.length < UInt64.size) : plan.FitsAll 0 events := by
  intro event number place fault found
  rw [← Event.toNat_number short place] at place
  obtain ⟨aim, -, -, rfl, carries⟩ := h.carries_of_find place found
  exact carries.fits

/-- The plan does to an event what the aims ask for. -/
theorem Plan.Realizes.effect_eq (h : plan.Realizes aims events f)
    {event : Event d} {number : UInt64} (place : (event, number.toNat) ∈ events.zipIdx 1) :
    plan.effect number event = Aim.effect aims number.toNat event := by
  unfold Plan.effect Aim.effect
  cases picked : aims.find? fun aim => aim.number.toNat == number.toNat with
  | none =>
      have missed : plan.find number event.identity = none := by
        apply Plan.find_eq_none_iff.2
        intro fault mem target
        have found := Plan.find_eq_some_iff.2 ⟨mem, target⟩
        obtain ⟨aim, listed, rfl, -, -⟩ := h.carries_of_find place found
        have differs := List.find?_eq_none.1 picked aim listed
        simp at differs
      rw [missed]
  | some aim =>
      have listed := List.mem_of_find?_eq_some picked
      have same : aim.number = number := by
        have hit := List.find?_some picked
        exact UInt64.toNat_inj.1 (by simpa using hit)
      obtain rfl := same
      obtain ⟨aimed, there, carries⟩ := h.carried aim listed
      obtain rfl := Event.unique_number place there
      have mem : f aim ∈ plan.faults := by
        rw [h.faults]
        exact List.mem_map_of_mem listed
      have found := h.aimedAt.find mem (by rw [carries.trigger]; exact place)
      rw [carries.trigger] at found
      rw [found]
      exact carries.corrupt

/-- A few faults with different numbers make a plan, which is the one that its text describes. -/
theorem Plan.exists_realizes (few : aims.length ≤ 3) (distinct : (aims.map Aim.number).Nodup)
    (carried : ∀ aim ∈ aims, ∃ event, (event, aim.number.toNat) ∈ events.zipIdx 1 ∧
      (f aim).Carries aim event) :
    ∃ plan : Plan d, plan.Realizes aims events f ∧ Plan.ofFaults (aims.map f) = .ok plan ∧
      Plan.parse d plan.render = .ok plan := by
  have carries : ∀ fault ∈ aims.map f, ∃ aim event, fault.Carries aim event := by
    intro fault mem
    obtain ⟨aim, listed, rfl⟩ := List.mem_map.1 mem
    obtain ⟨event, -, carries⟩ := carried aim listed
    exact ⟨aim, event, carries⟩
  have numbers : ((aims.map f).map Fault.target).map Prod.fst = aims.map Aim.number := by
    rw [List.map_map, List.map_map]
    apply List.map_congr_left
    intro aim listed
    obtain ⟨event, -, carries⟩ := carried aim listed
    exact carries.trigger
  let plan : Plan d :=
    { faults := aims.map f
      length_le := by
        rw [List.length_map]
        exact few
      valid := by
        intro fault mem
        obtain ⟨aim, event, carries⟩ := carries fault mem
        exact carries.valid
      distinct := List.Nodup.of_map Prod.fst (numbers ▸ distinct) }
  refine ⟨plan, ⟨rfl, carried⟩, Plan.ofFaults_faults plan, ?_⟩
  have settled : plan.settled = plan := by
    apply Plan.settled_eq_self
    intro fault mem
    obtain ⟨aim, event, carries⟩ := carries fault mem
    exact carries.settled
  have printable : ∀ fault ∈ plan.faults, fault.Printable := by
    intro fault mem
    obtain ⟨aim, event, carries⟩ := carries fault mem
    exact carries.printable
  rw [Plan.parse_render printable, settled]

/-- From the log of a run the fault of an aim is derived. -/
theorem Session.Profiling.exists_derived {session : Session d} {log : String}
    (h : session.Profiling log 0) (blank : session.disk.contents log = ByteArray.empty)
    (short : events.length < UInt64.size) (regular : ∀ event ∈ events, event.Regular) {aim : Aim}
    {event : Event d} (place : (event, aim.number.toNat) ∈ events.zipIdx 1)
    (suits : aim.Suits event) :
    ∃ fault, aim.derive d (session.after (Turn.reports events)).disk log = .ok fault ∧
      fault.Carries aim event := by
  have legible := fun event mem => (regular event mem).legible
  obtain ⟨fault, derived, carries⟩ :=
    suits.exists_carries (regular event (List.fst_mem_of_mem_zipIdx place))
  refine ⟨fault, ?_, carries⟩
  rw [Aim.derive, h.find blank short legible place, Except.ok_bind, derived]

/-- A run that replays a plan made for the aims has the effect of the aims. -/
theorem Plan.Realizes.replay (h : plan.Realizes aims events f)
    (short : events.length < UInt64.size) {session : Session d} {outcomes : String}
    (fresh : session.context.injections = 0) (replaying : session.Replaying plan outcomes 0) :
    (session.replies (Turn.reports events)).map Reply.seen =
        (events.zipIdx 1).map (fun (event, number) =>
          (.ok (), some (Aim.effect aims number event))) ∧
      (session.after (Turn.reports events)).context.injections.toNat = aims.length := by
  have fits := h.fitsAll short
  constructor
  · rw [replaying.seen_replies fits]
    apply List.map_congr_left
    rintro ⟨event, number⟩ place
    have same := Event.toNat_number short place
    have effect := h.effect_eq (by rw [same]; exact place)
    rw [same] at effect
    simp only [effect]
  · have hits : (plan.hits 0 events).length = aims.length := by
      rw [h.aimedAt.length_hits short, h.faults, List.length_map]
    have few : aims.length < UInt64.size := by
      rw [← List.length_map f, ← h.faults]
      exact Nat.lt_of_le_of_lt plan.length_le (by decide)
    rw [replaying.injections_after fits, fresh, UInt64.zero_add, hits,
      UInt64.toNat_ofNat_of_lt' few]

end

/-- Profiling a run, deriving the faults for at most three of its events and replaying the run with
their plan does to these events what was asked for, and nothing else. -/
theorem Session.replay_strikes_aims (events : List (Event d))
    (regular : ∀ event ∈ events, event.Regular) (short : events.length < UInt64.size)
    (profiling : Settings) (profileMode : profiling.resolveMode = .ok .profile) (log : String)
    (profilePath : profiling.profilePath = some log) (disk : Disk) (vacant : disk.IsVacant log)
    (aims : List Aim) (few : aims.length ≤ 3) (distinct : (aims.map Aim.number).Nodup)
    (suited : ∀ aim ∈ aims, ∃ event, (event, aim.number.toNat) ∈ events.zipIdx 1 ∧
      aim.Suits event) :
    let run := Turn.reports events
    let profiled : Session d := ⟨.ofSettings profiling, disk⟩
    (profiled.replies run).map Reply.seen = events.map (fun event => (.ok (), some event)) ∧
    ∃ (faults : List (Fault d)) (plan : Plan d),
      aims.mapM (Aim.derive d (profiled.after run).disk log) = .ok faults ∧
      Plan.ofFaults faults = .ok plan ∧ Plan.parse d plan.render = .ok plan ∧
      ∀ (injecting : Settings) (planPath outcomes : String) (other : Disk),
        injecting.resolveMode = .ok .inject → injecting.planPath = some planPath →
        injecting.outcomePath = some outcomes →
        other.read? planPath = some plan.render.toUTF8 → other.CanWrite outcomes →
        let replayed : Session d := ⟨.ofSettings injecting, other⟩
        (replayed.replies run).map Reply.seen =
          (events.zipIdx 1).map (fun (event, number) =>
            (.ok (), some (Aim.effect aims number event))) ∧
        (replayed.after run).context.injections.toNat = aims.length := by
  intro run profiled
  have start : profiled.Profiling log 0 := ⟨profileMode, profilePath, vacant.canWrite, rfl⟩
  have found : ∀ aim ∈ aims, ∃ fault,
      aim.derive d (profiled.after run).disk log = .ok fault ∧
      ∃ event, (event, aim.number.toNat) ∈ events.zipIdx 1 ∧ fault.Carries aim event := by
    intro aim listed
    obtain ⟨event, place, suits⟩ := suited aim listed
    obtain ⟨fault, derived, carries⟩ :=
      start.exists_derived vacant.contents_eq short regular place suits
    exact ⟨fault, derived, event, place, carries⟩
  have inhabited : Nonempty (Fault d) := by
    cases d with
    | instruction => exact ⟨{ trigger := 0, identity := ⟨0, ""⟩, mask := 0, expected := 0 }⟩
    | memory => exact ⟨{ trigger := 0, identity := ⟨0, 0, 0⟩, mask := 0, expected := 0 }⟩
  choose! f derived carried using found
  obtain ⟨plan, realizes, accepted, reread⟩ := Plan.exists_realizes few distinct carried
  refine ⟨start.seen_replies events, aims.map f, plan, Except.mapM_eq_ok derived, accepted,
    reread, ?_⟩
  intro injecting planPath outcomes other injectMode planAt outcomesAt held writable replayed
  apply realizes.replay short rfl
  exact Session.replaying_ofSettings injectMode planAt outcomesAt held reread writable

/-- The second of two accesses is picked for an upset of two bytes: the replay leaves the first
access alone and flips the two low bits of the byte at the offset and of the one after it. -/
theorem Session.replay_strikes_aims_two_bytes :
    ∃ (first second struck : Event .memory) (plan : Plan .memory) (replayed : Session .memory),
      second = Memory.Access.mk #[5, 6, 7] ⟨1, 1, 3⟩ ∧
      struck = Memory.Access.mk #[5, 5, 4] ⟨1, 1, 3⟩ ∧
      replayed.disk.read? "plan.txt" = some plan.render.toUTF8 ∧
      (replayed.replies (Turn.reports [first, second])).map Reply.seen =
        [(.ok (), some first), (.ok (), some struck)] := by
  let first : Event .memory := Memory.Access.mk #[1, 2] ⟨0, 1, 2⟩
  let second : Event .memory := Memory.Access.mk #[5, 6, 7] ⟨1, 1, 3⟩
  let struck : Event .memory := Memory.Access.mk #[5, 5, 4] ⟨1, 1, 3⟩
  let aim : Aim := { number := 2, mask := 3, distance := some 1 }
  have regular : ∀ event ∈ [first, second], Event.Regular event := by
    intro event mem
    simp only [List.mem_cons, List.not_mem_nil, or_false] at mem
    rcases mem with rfl | rfl <;> rfl
  have vacant : Disk.empty.IsVacant "log.txt" :=
    ⟨⟨false, ["log.txt"]⟩, by decide +kernel, by decide⟩
  have suits : aim.Suits second := by
    refine ⟨by decide, by decide, ?_⟩
    rintro s ⟨rfl⟩
    decide
  have suited : ∀ picked ∈ [aim], ∃ event, (event, picked.number.toNat) ∈
      [first, second].zipIdx 1 ∧ picked.Suits event := by
    intro picked mem
    obtain rfl := List.mem_singleton.1 mem
    exact ⟨second, .tail _ (.head _), suits⟩
  obtain ⟨-, faults, plan, -, -, -, replays⟩ := replay_strikes_aims [first, second] regular
    (by decide) { mode := some "profile", profilePath := some "log.txt" } (by decide +kernel)
    "log.txt" rfl .empty vacant [aim] (by decide) (by decide) suited
  let place : Disk.Place := ⟨false, ["plan.txt"]⟩
  let disk : Disk := Disk.empty.put place (.file plan.render.toUTF8)
  have free : Disk.empty.node? place ≠ some .directory := by decide
  have held : disk.read? "plan.txt" = some plan.render.toUTF8 :=
    Disk.read?_put_file (by decide +kernel) free
  have writable : disk.CanWrite "outcome.txt" :=
    Disk.canWrite_put_file free ⟨⟨false, ["outcome.txt"]⟩, by decide +kernel, Or.inl (by decide)⟩
  let injecting : Settings :=
    { mode := some "inject", planPath := some "plan.txt", outcomePath := some "outcome.txt" }
  have spared : Aim.effect [aim] 1 first = first := by decide +kernel
  have hit : Aim.effect [aim] 2 second = struck := by decide +kernel
  have seen := (replays injecting "plan.txt" "outcome.txt" disk (by decide +kernel) rfl rfl held
    writable).1
  refine ⟨first, second, struck, plan, ⟨.ofSettings injecting, disk⟩, rfl, rfl, held, ?_⟩
  simpa only [List.zipIdx_cons, List.zipIdx_nil, List.map_cons, List.map_nil, spared, hit]
    using seen

end FaultReplay
