import FaultReplay.Proofs.Context.Verdict
import FaultReplay.Proofs.Run.Numbering
import FaultReplay.Proofs.Text.Reading

/-!
# Replaying runs

A run that injects the faults of a plan, with a file for outcomes that takes bytes, succeeds on
every event as long as each fault fits the event it is aimed at. Such a run has carried out exactly
the faults that the plan has for its events.
-/

namespace FaultReplay

variable {d : Domain}

namespace Plan

/-- What becomes of the event with this number. -/
def effect (plan : Plan d) (number : UInt64) (event : Event d) : Event d :=
  match plan.find number event.identity with
  | none => event
  | some fault => fault.corrupt event

theorem verdict_of_fits_all {plan : Plan d} {number : UInt64} {event : Event d}
    (fits : ∀ fault, plan.find number event.identity = some fault → fault.Fits event) :
    plan.verdict number event =
      ⟨.ok (), plan.effect number event,
        (plan.find number event.identity).map fun fault => fault.outcome event⟩ := by
  unfold effect
  cases aimed : plan.find number event.identity with
  | none => exact verdict_of_find_eq_none aimed
  | some fault => exact verdict_of_fits aimed (fits fault aimed)

/-- The faults of the plan that are aimed at events which come after so many others. -/
def hits (plan : Plan d) (n : Nat) (events : List (Event d)) : List (Fault d) :=
  (events.zipIdx (n + 1)).filterMap fun (event, number) =>
    plan.find (UInt64.ofNat number) event.identity

/-- The faults of the plan fit those events. -/
def FitsAll (plan : Plan d) (n : Nat) (events : List (Event d)) : Prop :=
  ∀ event number, (event, number) ∈ events.zipIdx (n + 1) →
    ∀ fault, plan.find (UInt64.ofNat number) event.identity = some fault → fault.Fits event

theorem hits_cons (plan : Plan d) (n : Nat) (event : Event d) (events : List (Event d)) :
    plan.hits n (event :: events) =
      (plan.find (UInt64.ofNat (n + 1)) event.identity).toList ++ plan.hits (n + 1) events := by
  simp only [hits, List.zipIdx_cons, List.filterMap_cons]
  cases plan.find (UInt64.ofNat (n + 1)) event.identity <;> rfl

theorem FitsAll.head {plan : Plan d} {n : Nat} {event : Event d} {events : List (Event d)}
    (h : plan.FitsAll n (event :: events)) (fault : Fault d)
    (aimed : plan.find (UInt64.ofNat (n + 1)) event.identity = some fault) : fault.Fits event :=
  h event (n + 1) List.mem_cons_self fault aimed

theorem FitsAll.tail {plan : Plan d} {n : Nat} {event : Event d} {events : List (Event d)}
    (h : plan.FitsAll n (event :: events)) : plan.FitsAll (n + 1) events :=
  fun other number place => h other number (List.mem_cons_of_mem _ place)

end Plan

namespace Session

/-- A session that injects the faults of a plan and can record them, after so many events. -/
structure Replaying (session : Session d) (plan : Plan d) (outcomes : String) (n : Nat) :
    Prop where
  mode : session.context.mode = .ok .inject
  planned : (session.context.plan session.disk).1 = .ok plan
  outcomePath : session.context.settings.outcomePath = some outcomes
  writable : session.disk.CanWrite outcomes
  number : session.context.events = UInt64.ofNat n

variable {session : Session d} {plan : Plan d} {outcomes : String} {n : Nat} {event : Event d}

theorem Replaying.next (h : session.Replaying plan outcomes n) :
    session.context.events + 1 = UInt64.ofNat (n + 1) := by
  rw [h.number, UInt64.ofNat_add]
  rfl

/-- A session that has its plan replays it whatever is on the disk. -/
theorem replaying_of_held (mode : session.context.mode = .ok .inject)
    (outcomePath : session.context.settings.outcomePath = some outcomes)
    (held : session.context.cell.plan? = some plan) (writable : session.disk.CanWrite outcomes)
    (number : session.context.events = UInt64.ofNat n) :
    session.Replaying plan outcomes n where
  mode := mode
  planned := congrArg Prod.fst (Context.plan_of_cell held outcomePath _)
  outcomePath := outcomePath
  writable := writable
  number := number

/-- A replaying session does with an event what the plan decides for its number. -/
theorem Replaying.reply (h : session.Replaying plan outcomes n) (event : Event d) :
    (session.reply (some event)).Follows (plan.verdict (UInt64.ofNat (n + 1)) event)
      session.context session.disk outcomes := by
  rw [← h.next]
  exact Context.follows_verdict h.mode h.planned h.outcomePath h.writable event

theorem Replaying.turn (h : session.Replaying plan outcomes n) (event : Event d) :
    (session.turn (.report (some event))).Replaying plan outcomes (n + 1) := by
  have same := session.settings_reply (some event)
  have held : (session.reply (some event)).context.cell.plan? = some plan :=
    Context.plan?_hook_of_inject h.mode h.planned event
  refine replaying_of_held ?_ ?_ held (canWrite_turn h.writable trivial) ?_
  · rw [← h.mode]
    exact congrArg Settings.resolveMode same
  · rw [← h.outcomePath]
    exact congrArg Settings.outcomePath same
  · rw [← h.next]
    exact events_reply_some session event

/-- A fresh session with the paths for a plan and for outcomes takes up the plan of the file. -/
theorem replaying_ofSettings {settings : Settings} {disk : Disk} {planPath : String}
    (mode : settings.resolveMode = .ok .inject) (planAt : settings.planPath = some planPath)
    (outcomesAt : settings.outcomePath = some outcomes) {text : String}
    (held : disk.read? planPath = some text.toUTF8) (read : Plan.parse d text = .ok plan)
    (writable : disk.CanWrite outcomes) :
    Replaying ⟨.ofSettings settings, disk⟩ plan outcomes 0 := by
  refine ⟨mode, ?_, outcomesAt, writable, rfl⟩
  have loaded : Plan.load d disk planPath = .ok plan := by
    rw [Plan.load, Disk.readText?_eq_some_iff.2 held, Plan.ofFile, read]
  simp only [Context.ofSettings, Context.plan, Settings.requireOutcomePath, outcomesAt,
    Settings.requirePlanPath, planAt, PlanCell.fetch, loaded]

/-- Every event of a replaying run is answered without an error, with the effect that the plan has
on it. -/
theorem Replaying.seen_replies (h : session.Replaying plan outcomes n) {events : List (Event d)}
    (fits : plan.FitsAll n events) :
    (session.replies (Turn.reports events)).map Reply.seen =
      (events.zipIdx (n + 1)).map fun (event, number) =>
        (.ok (), some (plan.effect (UInt64.ofNat number) event)) := by
  induction events generalizing session n with
  | nil => rfl
  | cons event events ih =>
      have done := h.reply event
      rw [Plan.verdict_of_fits_all fits.head] at done
      rw [Turn.reports_cons, replies_report, List.map_cons, ih (h.turn event) fits.tail, Reply.seen,
        done.result, done.event]
      rfl

/-- A replaying run counts the faults that hit. -/
theorem Replaying.injections_after (h : session.Replaying plan outcomes n)
    {events : List (Event d)} (fits : plan.FitsAll n events) :
    (session.after (Turn.reports events)).context.injections =
      session.context.injections + UInt64.ofNat (plan.hits n events).length := by
  induction events generalizing session n with
  | nil => simp [Plan.hits]
  | cons event events ih =>
      have done := h.reply event
      rw [Plan.verdict_of_fits_all fits.head] at done
      have injections := done.injections
      simp only [Option.toList_map, List.length_map] at injections
      rw [Turn.reports_cons, after_cons, ih (h.turn event) fits.tail, Plan.hits_cons,
        List.length_append, UInt64.ofNat_add, ← UInt64.add_assoc, ← injections]
      rfl

end Session

/-! ### Plans made for a run -/

namespace Plan

variable {plan : Plan d} {events : List (Event d)}

/-- The faults of a plan are aimed at events of the run. -/
def AimedAt (plan : Plan d) (events : List (Event d)) : Prop :=
  ∀ fault ∈ plan.faults, ∃ event, (event, fault.trigger.toNat) ∈ events.zipIdx 1 ∧
    event.identity = fault.identity

/-- A fault with the number of an event has that event's identity, so it is found for it. -/
theorem AimedAt.find (h : plan.AimedAt events) {fault : Fault d} (mem : fault ∈ plan.faults)
    {event : Event d} (place : (event, fault.trigger.toNat) ∈ events.zipIdx 1) :
    plan.find fault.trigger event.identity = some fault := by
  obtain ⟨aimed, there, identity⟩ := h fault mem
  obtain rfl := Event.unique_number place there
  exact find_eq_some_iff.2 ⟨mem, by rw [Fault.target, identity]⟩

theorem AimedAt.nodup_triggers (h : plan.AimedAt events) :
    (plan.faults.map fun fault => fault.trigger.toNat).Nodup := by
  refine List.Nodup.map_on ?_ (List.Nodup.of_map _ plan.distinct)
  intro fault mem other hOther same
  obtain ⟨event, place, identity⟩ := h other hOther
  have trigger : fault.trigger = other.trigger := UInt64.toNat_inj.1 same
  rw [← same] at place
  have found := h.find mem place
  rw [trigger, h.find hOther (same ▸ place)] at found
  exact (Option.some.inj found).symm

/-- Every fault of a plan hits in the run that the plan is aimed at. -/
theorem AimedAt.length_hits (h : plan.AimedAt events) (short : events.length < UInt64.size) :
    (plan.hits 0 events).length = plan.faults.length := by
  let triggers := plan.faults.map fun fault => fault.trigger.toNat
  have hit : ∀ place ∈ events.zipIdx 1,
      (plan.find (UInt64.ofNat place.2) place.1.identity).isSome = true ↔
        decide (place.2 ∈ triggers) = true := by
    rintro ⟨event, number⟩ place
    rw [decide_eq_true_iff, Option.isSome_iff_exists]
    constructor
    · rintro ⟨fault, found⟩
      obtain ⟨mem, target⟩ := find_eq_some_iff.1 found
      have trigger : fault.trigger = UInt64.ofNat number := congrArg Prod.fst target
      refine List.mem_map.2 ⟨fault, mem, ?_⟩
      rw [trigger, Event.toNat_number short place]
    · intro listed
      obtain ⟨fault, mem, rfl⟩ := List.mem_map.1 listed
      rw [UInt64.ofNat_toNat]
      exact ⟨fault, h.find mem place⟩
  have inside : ∀ number ∈ triggers, number ∈ List.range' 1 events.length := by
    intro number listed
    obtain ⟨fault, mem, rfl⟩ := List.mem_map.1 listed
    obtain ⟨event, place, -⟩ := h fault mem
    obtain ⟨first, last, -⟩ := List.mem_zipIdx place
    exact List.mem_range'_1.2 ⟨first, last⟩
  have numbers : (List.range' 1 events.length).Nodup := List.nodup_range'
  have same : ((List.range' 1 events.length).filter (· ∈ triggers)).Perm triggers := by
    apply (List.perm_ext_iff_of_nodup (numbers.filter _) h.nodup_triggers).2
    intro number
    rw [List.mem_filter, decide_eq_true_iff]
    exact ⟨fun both => both.2, fun mem => ⟨inside number mem, mem⟩⟩
  calc
    (plan.hits 0 events).length =
        (events.zipIdx 1).countP fun place => decide (place.2 ∈ triggers) := by
      rw [hits, List.length_filterMap_eq_countP, List.countP_congr hit]
    _ = ((events.zipIdx 1).map Prod.snd).countP fun number => decide (number ∈ triggers) := by
      rw [List.countP_map]
      rfl
    _ = ((List.range' 1 events.length).filter (· ∈ triggers)).length := by
      rw [List.zipIdx_map_snd, List.countP_eq_length_filter]
    _ = plan.faults.length := by rw [same.length_eq, List.length_map]

end Plan

end FaultReplay
