import FaultReplay.Proofs.Context.Effect

/-!
# Runs

A run is a row of turns. In a turn the simulator reports to the context, or something else changes
the disk: files may appear, change and vanish between two reports.
-/

namespace FaultReplay

variable {d : Domain}

/-- What happens next in a run. -/
inductive Turn (d : Domain) where
  | report (event? : Option (Event d))
  /-- The disk is changed from outside. -/
  | outside (change : Disk → Disk)

namespace Turn

/-- The event of a turn, if it reports one. -/
def event? : Turn d → Option (Event d)
  | report event? => event?
  | outside _ => none

/-- Whether a turn is more than a report without an event. -/
def matters : Turn d → Bool
  | report event? => event?.isSome
  | outside _ => true

@[simp] theorem matters_report (event? : Option (Event d)) :
    (report event?).matters = event?.isSome := rfl

@[simp] theorem matters_outside (change : Disk → Disk) :
    (outside change : Turn d).matters = true := rfl

/-- A turn after which a path that takes bytes still does. -/
def KeepsOpen (path : String) : Turn d → Prop
  | report _ => True
  | outside change => ∀ disk : Disk, disk.CanWrite path → (change disk).CanWrite path

/-- The events of a run, in order. -/
def events (run : List (Turn d)) : List (Event d) :=
  run.filterMap event?

@[simp] theorem events_nil : events ([] : List (Turn d)) = [] := rfl

@[simp] theorem events_report_some (event : Event d) (run : List (Turn d)) :
    events (report (some event) :: run) = event :: events run := rfl

@[simp] theorem events_report_none (run : List (Turn d)) :
    events (report none :: run) = events run := rfl

@[simp] theorem events_outside (change : Disk → Disk) (run : List (Turn d)) :
    events (outside change :: run) = events run := rfl

@[simp] theorem events_append (run more : List (Turn d)) :
    events (run ++ more) = events run ++ events more := by
  simp [events]

/-- The run that reports these events and nothing else. -/
def reports (events : List (Event d)) : List (Turn d) :=
  events.map fun event => report (some event)

@[simp] theorem reports_nil : reports ([] : List (Event d)) = [] := rfl

@[simp] theorem reports_cons (event : Event d) (events : List (Event d)) :
    reports (event :: events) = report (some event) :: reports events := rfl

end Turn

/-! ### Numbers of places

The events of a run are numbered from 1, as `List.zipIdx` does it. -/

theorem Event.toNat_number {events : List (Event d)} (short : events.length < UInt64.size)
    {event : Event d} {number : Nat} (place : (event, number) ∈ events.zipIdx 1) :
    (UInt64.ofNat number).toNat = number := by
  have last : number < 1 + events.length := List.snd_lt_add_of_mem_zipIdx place
  have bound : number < UInt64.size := by omega
  exact UInt64.toNat_ofNat_of_lt' bound

/-- Below the limit of 64 bits the next number is one more. -/
theorem Counter.toNat_succ {number : UInt64} (room : number.toNat + 1 < UInt64.size) :
    (number + 1).toNat = number.toNat + 1 := by
  rw [UInt64.toNat_add]
  exact Nat.mod_eq_of_lt room

theorem Event.unique_number {events : List (Event d)} {event other : Event d} {number : Nat}
    (h : (event, number) ∈ events.zipIdx 1) (ho : (other, number) ∈ events.zipIdx 1) :
    event = other := by
  have here := (List.mk_mem_zipIdx_iff_le_and_getElem?_sub.1 h).2
  have there := (List.mk_mem_zipIdx_iff_le_and_getElem?_sub.1 ho).2
  exact Option.some.inj (here.symm.trans there)

/-! ### Sessions -/

/-- What the simulator sees of a reply. -/
def Reply.seen (reply : Reply d) : Except Error Unit × Option (Event d) :=
  (reply.result, reply.event)

/-- A context together with the disk it works on. -/
structure Session (d : Domain) where
  context : Context d
  disk : Disk

namespace Session

variable {session : Session d}

/-- The reply to a report. -/
def reply (session : Session d) (event? : Option (Event d)) : Reply d :=
  session.context.hook session.disk event?

/-- The session after a turn. -/
def turn (session : Session d) : Turn d → Session d
  | .report event? => ⟨(session.reply event?).context, (session.reply event?).disk⟩
  | .outside change => { session with disk := change session.disk }

/-- The session after a run. -/
def after (session : Session d) (run : List (Turn d)) : Session d :=
  run.foldl turn session

/-- The replies to the reports of a run, in order. -/
def replies : Session d → List (Turn d) → List (Reply d)
  | _, [] => []
  | session, .report event? :: run =>
    session.reply event? :: replies (session.turn (.report event?)) run
  | session, .outside change :: run => replies (session.turn (.outside change)) run

@[simp] theorem after_nil (session : Session d) : session.after [] = session := rfl

@[simp] theorem after_cons (session : Session d) (next : Turn d) (run : List (Turn d)) :
    session.after (next :: run) = (session.turn next).after run := rfl

@[simp] theorem after_append (session : Session d) (run more : List (Turn d)) :
    session.after (run ++ more) = (session.after run).after more := by
  simp [after]

@[simp] theorem replies_nil (session : Session d) : session.replies [] = [] := rfl

@[simp] theorem replies_report (session : Session d) (event? : Option (Event d))
    (run : List (Turn d)) :
    session.replies (.report event? :: run) =
      session.reply event? :: (session.turn (.report event?)).replies run := rfl

@[simp] theorem replies_outside (session : Session d) (change : Disk → Disk)
    (run : List (Turn d)) :
    session.replies (.outside change :: run) =
      (session.turn (.outside change)).replies run := rfl

/-! ### Reports without an event -/

@[simp] theorem reply_none (session : Session d) :
    session.reply none = ⟨.ok (), none, session.context, session.disk⟩ := rfl

@[simp] theorem turn_report_none (session : Session d) :
    session.turn (.report none) = session := rfl

theorem isSome_event_reply (session : Session d) (event : Event d) :
    (session.reply (some event)).event.isSome := by
  have served := session.context.hook_serves session.disk event
  unfold reply
  generalize session.context.hook session.disk (some event) = reply at served
  cases served <;> rfl

/-! ### Settings, plan and paths -/

theorem settings_reply (session : Session d) (report : Option (Event d)) :
    (session.reply report).context.settings = session.context.settings :=
  session.context.settings_hook session.disk report

/-- No turn changes the settings. -/
theorem settings_after (session : Session d) (run : List (Turn d)) :
    (session.after run).context.settings = session.context.settings := by
  induction run generalizing session with
  | nil => rfl
  | cons next run ih =>
      rw [after_cons, ih]
      cases next with
      | outside change => rfl
      | report event? => exact session.settings_reply event?

theorem mode_after (session : Session d) (run : List (Turn d)) :
    (session.after run).context.mode = session.context.mode :=
  congrArg Settings.resolveMode (session.settings_after run)

theorem outcomePath_after (session : Session d) (run : List (Turn d)) :
    (session.after run).context.settings.outcomePath = session.context.settings.outcomePath :=
  congrArg Settings.outcomePath (session.settings_after run)

theorem plan?_turn {plan : Plan d} (held : session.context.cell.plan? = some plan)
    (next : Turn d) : (session.turn next).context.cell.plan? = some plan := by
  cases next with
  | outside change => exact held
  | report event? =>
      cases event? with
      | none => exact held
      | some event => exact Context.plan?_hook held session.disk event

/-- The plan that is in the cell stays there through a run. -/
theorem plan?_after {plan : Plan d} (held : session.context.cell.plan? = some plan)
    (run : List (Turn d)) : (session.after run).context.cell.plan? = some plan := by
  induction run generalizing session with
  | nil => exact held
  | cons next run ih => exact ih (plan?_turn held next)

theorem canWrite_turn {path : String} (writable : session.disk.CanWrite path) {next : Turn d}
    (keeps : next.KeepsOpen path) : (session.turn next).disk.CanWrite path := by
  cases next with
  | outside change => exact keeps _ writable
  | report event? =>
      cases event? with
      | none => exact writable
      | some event => exact Context.canWrite_hook writable session.context event

/-- A path that takes bytes does so through a run in which nothing else closes it. -/
theorem canWrite_after {path : String} (writable : session.disk.CanWrite path)
    {run : List (Turn d)} (keeps : ∀ next ∈ run, next.KeepsOpen path) :
    (session.after run).disk.CanWrite path := by
  induction run generalizing session with
  | nil => exact writable
  | cons next run ih =>
      have still := canWrite_turn writable (keeps next List.mem_cons_self)
      exact ih still fun later mem => keeps later (List.mem_cons_of_mem _ mem)

end Session

end FaultReplay
