import FaultReplay.Proofs.Context.Verdict
import FaultReplay.Proofs.Fault.Bounds
import FaultReplay.Proofs.Run.Numbering

/-!
# Faults in memory

What an injecting context does with an access, for every region and all numbers of 64 bits that an
access can be reported with: which of the three answers it gives, and what each of them leaves of
the region.
-/

namespace FaultReplay

variable {fault : Fault .memory} {access struck : Memory.Access}

namespace Memory

/-- An access after a fault: the byte at the offset and, for a multi-cell fault, the one at the
distance after it have the bits in the mask flipped, and every other byte is as it was. -/
structure Struck (fault : Fault .memory) (access struck : Access) : Prop where
  identity : struck.identity = access.identity
  apart : fault.multiCell = true →
    access.identity.offset.toNat + fault.distance.toNat ≠ access.identity.offset.toNat
  bytes : ∃ mask : UInt8, mask.toUInt64 = fault.mask ∧ ∀ position,
    struck.region[position]? =
      if position = access.identity.offset.toNat ∨ fault.multiCell = true ∧
          position = access.identity.offset.toNat + fault.distance.toNat then
        access.region[position]?.map (· ^^^ mask)
      else access.region[position]?

theorem isCell_reach_iff (position : Nat) :
    access.IsCell fault.reach position ↔ position = access.identity.offset.toNat ∨
      fault.multiCell = true ∧
        position = access.identity.offset.toNat + fault.distance.toNat := by
  unfold Access.IsCell Fault.reach
  split
  · rename_i double
    simp [double]
  · rename_i single
    simp [single]

theorem struck_corrupt (valid : fault.Valid) :
    Struck fault access (access.corrupt fault.mask fault.reach) where
  identity := rfl
  apart := fun double => (ne_add_toNat (valid.2.2 double) _).symm
  bytes := by
    have small : fault.mask < 256 := UInt64.lt_of_le_of_lt valid.1 (by decide)
    have narrow : fault.mask.toUInt8.toUInt64 = fault.mask := by
      rw [UInt64.toUInt64_toUInt8, UInt64.mod_eq_of_lt small]
    refine ⟨fault.mask.toUInt8, narrow, fun position => ?_⟩
    simp only [← isCell_reach_iff, Access.corrupt, Array.getElem?_mapIdx]
    split
    · rfl
    · simp

/-- The answer to an access that a fault is aimed at: what the region must be for each answer there
is, and what becomes of it. -/
structure Answers (reply : Reply .memory) (context : Context .memory) (disk : Disk)
    (fault : Fault .memory) (access : Access) : Prop where
  bounds : (∃ e, reply.result = .error e ∧ e.kind = .bounds) ↔ ¬ Within fault access
  consistency : (∃ e, reply.result = .error e ∧ e.kind = .consistency) ↔
    Within fault access ∧ ∃ before, access.region[access.identity.offset.toNat]? = some before ∧
      before.toUInt64 ≠ fault.expected
  done : reply.result = .ok () ↔
    Within fault access ∧ ∃ before, access.region[access.identity.offset.toNat]? = some before ∧
      before.toUInt64 = fault.expected
  struck : reply.result = .ok () → ∃ struck, reply.event = some struck ∧
    Struck fault access struck
  refused : ∀ e, reply.result = .error e → reply.Untouched context disk (some access)

end Memory

namespace Context

open Memory (Within Answers Struck)

variable {context : Context .memory} {disk : Disk} {plan : Plan .memory} {outcomes : String}

/-- The three ways out of an aimed report exclude each other, and the access tells which it is. -/
theorem answers_of_aimed (mode : context.mode = .ok .inject)
    (given : (context.plan disk).1 = .ok plan)
    (outcomesAt : context.settings.outcomePath = some outcomes) (writable : disk.CanWrite outcomes)
    (aimed : plan.find (context.events + 1) access.identity = some fault) :
    Answers (context.hook disk (some access)) context disk fault access := by
  have valid : fault.Valid := plan.valid fault (Plan.find_eq_some_iff.1 aimed).1
  have follows := context.follows_verdict mode given outcomesAt writable access
  have refusal (e : Error) (refused : Fault.strike (context.events + 1) fault access = .error e) :=
    untouched_of_refused mode given outcomesAt writable aimed refused
  generalize context.hook disk (some access) = reply at follows refusal
  by_cases inside : Within fault access
  · have held := Memory.getElem?_eq_byteAt inside.actual
    by_cases same : (Memory.Entry.byteAt access.region access.identity.offset.toNat).toUInt64 =
        fault.expected
    · have fits : Fault.Fits (d := .memory) fault access :=
        (Memory.fits_iff valid).2 ⟨inside, same⟩
      rw [Plan.verdict_of_fits aimed fits] at follows
      have result : reply.result = .ok () := follows.result
      exact
        { bounds := by simp [result, inside]
          consistency := by simp [result, held, same]
          done := by simp [result, inside, held, same]
          struck := fun _ => ⟨_, follows.event, Memory.struck_corrupt valid⟩
          refused := fun e failed => by cases result.symm.trans failed }
    · obtain ⟨e, refused, kind⟩ :=
        Memory.strike_of_differs valid (context.events + 1) inside same
      obtain ⟨result, untouched⟩ := refusal e refused
      exact
        { bounds := by simp [result, kind, inside]
          consistency := by simp [result, kind, inside, held, same]
          done := by simp [result, held, same]
          struck := fun done => by cases result.symm.trans done
          refused := fun _ _ => untouched }
  · obtain ⟨e, refused, kind⟩ := Memory.strike_of_not_within (context.events + 1) inside
    obtain ⟨result, untouched⟩ := refusal e refused
    exact
      { bounds := by simp [result, kind, inside]
        consistency := by simp [result, kind, inside]
        done := by simp [result, inside]
        struck := fun done => by cases result.symm.trans done
        refused := fun _ _ => untouched }

/-- An injecting context lets an access through, refuses it for its bounds or for its first cell, or
strikes it, each in exactly its case and with no position outside the region read or written. -/
theorem injection_exact (mode : context.mode = .ok .inject)
    (given : (context.plan disk).1 = .ok plan)
    (outcomesAt : context.settings.outcomePath = some outcomes) (writable : disk.CanWrite outcomes)
    (access : Memory.Access) :
    ∃ n, (context.hook disk (some access)).context.events = n ∧
      ((∀ fault ∈ plan.faults, ¬ (fault.trigger = n ∧ fault.identity = access.identity)) →
        (context.hook disk (some access)).result = .ok () ∧
        (context.hook disk (some access)).Untouched context disk (some access)) ∧
      (∀ fault ∈ plan.faults, fault.trigger = n → fault.identity = access.identity →
        Answers (context.hook disk (some access)) context disk fault access ∧
        Memory.strike? n fault access = some (Memory.strike n fault access)) := by
  refine ⟨context.events + 1, ?_, ?_, ?_⟩
  · exact Session.events_reply_some ⟨context, disk⟩ access
  · intro unaimed
    have follows := context.follows_verdict mode given outcomesAt writable access
    have none : plan.find (context.events + 1) access.identity = none :=
      Plan.find_eq_none_iff.2 fun fault mem same => unaimed fault mem (Prod.mk.inj same)
    rw [Plan.verdict_of_find_eq_none (d := .memory) none] at follows
    exact ⟨follows.result, untouched_of_kept follows rfl rfl⟩
  · intro fault mem trigger identity
    have aimed : plan.find (context.events + 1) access.identity = some fault :=
      Plan.find_eq_some_iff.2 ⟨mem, Prod.ext trigger identity⟩
    exact ⟨answers_of_aimed mode given outcomesAt writable aimed,
      Memory.strike?_eq_some _ fault access⟩

/-- A fault with two cells that reach up to both ends of the region, and one on an access at the
last offset of 64 bits, which is refused for its bounds. -/
theorem injection_exact_two_ends :
    ∃ (context : Context .memory) (disk : Disk) (two last : Fault .memory),
      two.multiCell = true ∧ last.identity.offset.toNat + 1 = UInt64.size ∧
      (context.hook disk (some ⟨#[6, 8], two.identity⟩)).event =
        some ⟨#[7, 9], two.identity⟩ ∧
      Answers (context.hook disk (some ⟨#[6, 8], two.identity⟩)) context disk two
        ⟨#[6, 8], two.identity⟩ ∧
      ∃ e, (context.hook disk (some ⟨#[6, 8], last.identity⟩)).result = .error e ∧
        e.kind = .bounds := by
  let two : Fault .memory :=
    { trigger := 1, identity := ⟨0, 1, 2⟩, mask := 1, expected := 6, secondary := some 1,
      multiCell := true }
  let last : Fault .memory :=
    { trigger := 1, identity := ⟨18446744073709551615, 1, 18446744073709551615⟩, mask := 1,
      expected := 6 }
  let plan : Plan .memory := ⟨[two, last], by decide, by decide, by decide⟩
  let context : Context .memory :=
    .withPlan { mode := some "inject", outcomePath := some "outcome.txt" } plan
  have mode : context.mode = .ok .inject := by decide +kernel
  have given : (context.plan .empty).1 = .ok plan := rfl
  have writable : Disk.empty.CanWrite "outcome.txt" :=
    ⟨⟨false, ["outcome.txt"]⟩, by decide +kernel, Or.inl (by decide)⟩
  obtain ⟨_, rfl, -, aimed⟩ := injection_exact mode given rfl writable ⟨#[6, 8], two.identity⟩
  obtain ⟨_, rfl, -, beyond⟩ := injection_exact mode given rfl writable ⟨#[6, 8], last.identity⟩
  refine ⟨context, .empty, two, last, rfl, rfl, by decide +kernel, ?_, ?_⟩
  · exact (aimed two (by decide) (by decide +kernel) rfl).1
  · have outside : ¬ Within last ⟨#[6, 8], last.identity⟩ := fun inside =>
      absurd inside.counted (by decide)
    exact (beyond last (by decide) (by decide +kernel) rfl).1.bounds.2 outside

end Context

end FaultReplay
