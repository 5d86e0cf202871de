import FaultReplay.Proofs.Profile.Entries
import FaultReplay.Proofs.Run.Basic

/-!
# Numbers of events

Every event of a run is counted once, whatever its mode and whatever becomes of it, so its number is
its place among the events. Reports without an event have no part in a run.
-/

namespace FaultReplay

open Numeral (decimal)

variable {d : Domain}

namespace Session

/-! ### Counting -/

theorem events_reply_some (session : Session d) (event : Event d) :
    (session.reply (some event)).context.events = session.context.events + 1 := by
  have served := session.context.hook_serves session.disk event
  unfold reply
  generalize session.context.hook session.disk (some event) = reply at served
  cases served <;> simp

theorem events_after (session : Session d) (run : List (Turn d)) :
    (session.after run).context.events =
      session.context.events + UInt64.ofNat (Turn.events run).length := by
  induction run generalizing session with
  | nil => simp
  | cons next run ih =>
      rw [after_cons, ih]
      cases next with
      | outside change => rfl
      | report event? =>
          cases event? with
          | none => rfl
          | some event =>
              change (session.reply (some event)).context.events + _ = _
              rw [events_reply_some, Turn.events_report_some, List.length_cons,
                UInt64.ofNat_add, UInt64.add_assoc, UInt64.add_comm 1]
              rfl

/-- The count of a context that starts at 0 is exact below the limit of 64 bits. -/
theorem toNat_events_after {session : Session d} (fresh : session.context.events = 0)
    {run : List (Turn d)} (short : (Turn.events run).length < UInt64.size) :
    (session.after run).context.events.toNat = (Turn.events run).length := by
  rw [events_after, fresh, UInt64.zero_add, UInt64.toNat_ofNat_of_lt' short]

/-! ### Reports without an event -/

theorem after_filter_matters (session : Session d) (run : List (Turn d)) :
    session.after (run.filter Turn.matters) = session.after run := by
  induction run generalizing session with
  | nil => rfl
  | cons next run ih =>
      cases next with
      | outside change => simpa [List.filter_cons] using ih _
      | report event? =>
          cases event? with
          | none => simpa [List.filter_cons] using ih session
          | some event => simpa [List.filter_cons] using ih _

/-- The replies to the events of a run. -/
def served (session : Session d) (run : List (Turn d)) : List (Reply d) :=
  (session.replies run).filter fun reply => reply.event.isSome

theorem served_filter_matters (session : Session d) (run : List (Turn d)) :
    session.served (run.filter Turn.matters) = session.served run := by
  induction run generalizing session with
  | nil => rfl
  | cons next run ih =>
      cases next with
      | outside change => simpa [served, List.filter_cons] using ih _
      | report event? =>
          cases event? with
          | none => simpa [served, List.filter_cons] using ih session
          | some event => simpa [served, List.filter_cons, isSome_event_reply] using ih _

end Session

/-- An event that is profiled with success gets a line in the log that begins with its number. -/
theorem Context.Serves.exists_line {context : Context d} {disk : Disk} {number : UInt64}
    {event : Event d} {reply : Reply d} (served : context.Serves disk number event reply)
    (mode : context.mode = .ok .profile) (done : reply.result = .ok ()) :
    ∃ path rest, context.settings.profilePath = some path ∧
      reply.disk.contents path = disk.contents path ++
        (decimal number.toNat ++ ";" ++ rest ++ "\n").toUTF8 := by
  cases served with
  | logged _ logged =>
      obtain ⟨log, path, appended⟩ := Context.append_of_attemptLog logged
      obtain ⟨rest, line⟩ := (Entry.observe number event).exists_render_eq
      rw [Entry.sequence_observe] at line
      refine ⟨log, rest, path, ?_⟩
      rw [← line]
      exact Disk.contents_of_append appended
  | invalid other | disabled other | unplanned other | spared other | missed other
  | unrecorded other | recorded other => cases mode.symm.trans other
  | unlogged => cases done

/-- On a fresh context the event at each place is dealt with under the number of that place, and
reports without an event have no part in a run. -/
theorem Session.numbered_by_place (settings : Settings) (cell : PlanCell d) (disk : Disk)
    (run : List (Turn d)) (short : (Turn.events run).length < UInt64.size) :
    let start : Session d := ⟨{ settings, cell }, disk⟩
    (start.after run).context.events.toNat = (Turn.events run).length ∧
    (∀ before event later, run = before ++ .report (some event) :: later →
      let now := start.after before
      let reply := now.reply (some event)
      ∃ number : UInt64, number.toNat = (Turn.events before).length + 1 ∧
        now.context.Serves now.disk number event reply ∧
        (now.context.mode = .ok .profile → reply.result = .ok () →
          ∃ path rest, settings.profilePath = some path ∧
            reply.disk.contents path = now.disk.contents path ++
              (decimal number.toNat ++ ";" ++ rest ++ "\n").toUTF8) ∧
        ∀ (plan : Plan d) fault, plan.find number event.identity = some fault →
          fault.trigger = number) ∧
    (∀ before, (start.after before).reply none =
      ⟨.ok (), none, (start.after before).context, (start.after before).disk⟩) ∧
    ∀ other : List (Turn d), other.filter Turn.matters = run.filter Turn.matters →
      start.after other = start.after run ∧ start.served other = start.served run := by
  intro start
  have fresh : start.context.events = 0 := rfl
  refine ⟨toNat_events_after fresh short, ?_, fun before => rfl, ?_⟩
  · rintro before event later rfl now reply
    have room : (Turn.events before).length + 1 < UInt64.size := by
      simp only [Turn.events_append, Turn.events_report_some, List.length_append,
        List.length_cons] at short
      omega
    have place := toNat_events_after fresh (Nat.lt_of_succ_lt room)
    have served := now.context.hook_serves now.disk event
    refine ⟨now.context.events + 1, ?_, served, ?_, ?_⟩
    · rw [← place] at room ⊢
      exact Counter.toNat_succ room
    · intro mode done
      have kept : now.context.settings = settings := start.settings_after before
      rw [← kept]
      exact served.exists_line mode done
    · intro plan fault found
      exact congrArg Prod.fst (Plan.find_eq_some_iff.1 found).2
  · intro other same
    constructor
    · rw [← after_filter_matters start other, same, after_filter_matters]
    · rw [← served_filter_matters start other, same, served_filter_matters]

/-- Two instructions are counted although each is refused for its mode, and what lies between them
is not. -/
theorem Session.numbered_by_place_refused :
    ∃ (start : Session .instruction) (add ret : Event .instruction),
      (start.reply (some add)).result = .error (.unknownMode "3") ∧
      (start.after [.report (some add), .report none, .report (some ret)]).context.events.toNat =
        2 := by
  let add : Event .instruction := Instruction.Retirement.mk "ADD" 4 0 [3]
  let ret : Event .instruction := Instruction.Retirement.mk "RET" 4 0 []
  let settings : Settings := { mode := some "3" }
  let run : List (Turn .instruction) := [.report (some add), .report none, .report (some ret)]
  have short : (Turn.events run).length < UInt64.size := by decide
  refine ⟨⟨.ofSettings settings, .empty⟩, add, ret, by decide +kernel, ?_⟩
  exact (numbered_by_place settings {} .empty run short).1

end FaultReplay
