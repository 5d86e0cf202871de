import FaultReplay.Proofs.Context.Twins
import FaultReplay.Proofs.Run.Firing

/-!
# Sessions that go alike

Two sessions whose contexts are equal apart from their plans go through a run alike if, when the
first event is reported, each is given a plan and the plans decide alike. From then on each keeps
its plan, whatever becomes of the files that the plans came from.
-/

namespace FaultReplay

variable {d : Domain} {R : Disk → Disk → Prop}

/-- A turn after which related disks are still related, if it is one in which something else than
the context changes them. -/
def Turn.Relates (R : Disk → Disk → Prop) : Turn d → Prop
  | .report _ => True
  | .outside change => ∀ one two, R one two → R (change one) (change two)

theorem Turn.relates_eq (next : Turn d) : next.Relates Eq := by
  cases next with
  | report _ => trivial
  | outside change => exact fun _ _ same => congrArg change same

theorem Reply.Matches.seen_eq {reply other : Reply d} (h : reply.Matches R other) :
    reply.seen = other.seen :=
  Prod.ext h.result h.event

namespace Session

/-- What a run makes of two sessions: the same answers and events, equal contexts apart from their
plans, and related disks. -/
structure GoAlike (R : Disk → Disk → Prop) (one two : Session d) (run : List (Turn d)) :
    Prop where
  seen : (one.replies run).map Reply.seen = (two.replies run).map Reply.seen
  twin : (one.after run).context.withoutPlan = (two.after run).context.withoutPlan
  near : R (one.after run).disk (two.after run).disk

/-- Sessions on related disks whose contexts are equal apart from their plans and would be given
plans that decide alike. -/
structure InStep (R : Disk → Disk → Prop) (one two : Session d) : Prop where
  near : R one.disk two.disk
  twin : one.context.withoutPlan = two.context.withoutPlan
  meets : one.context.Meets one.disk two.context two.disk

/-- Sessions in step that have their plans already, where they ask for one at all: whatever becomes
of the disks, they stay in step. -/
structure Paired (R : Disk → Disk → Prop) (one two : Session d) : Prop where
  near : R one.disk two.disk
  twin : one.context.withoutPlan = two.context.withoutPlan
  held : one.context.mode = .ok .inject → one.context.settings.outcomePath ≠ none →
    ∃ p q, one.context.cell.plan? = some p ∧ two.context.cell.plan? = some q ∧ p.Alike q

variable {one two : Session d} {run before : List (Turn d)}

theorem GoAlike.events_eq (h : one.GoAlike R two run) :
    (one.after run).context.events = (two.after run).context.events :=
  Context.events_eq_of_twin h.twin

theorem GoAlike.injections_eq (h : one.GoAlike R two run) :
    (one.after run).context.injections = (two.after run).context.injections :=
  Context.injections_eq_of_twin h.twin

theorem GoAlike.report (event? : Option (Event d))
    (answer : (one.reply event?).seen = (two.reply event?).seen)
    (rest : (one.turn (.report event?)).GoAlike R (two.turn (.report event?)) run) :
    one.GoAlike R two (.report event? :: run) where
  seen := by rw [replies_report, replies_report, List.map_cons, List.map_cons, answer, rest.seen]
  twin := rest.twin
  near := rest.near

theorem GoAlike.outside (change : Disk → Disk)
    (rest : (one.turn (.outside change)).GoAlike R (two.turn (.outside change)) run) :
    one.GoAlike R two (.outside change :: run) :=
  ⟨rest.seen, rest.twin, rest.near⟩

/-! ### One report -/

theorem Paired.inStep (h : one.Paired R two) : one.InStep R two where
  near := h.near
  twin := h.twin
  meets := by
    intro mode named
    obtain ⟨p, q, held, heldToo, alike⟩ := h.held mode named
    exact Context.meets_of_cells held heldToo alike h.twin one.disk two.disk mode named

theorem InStep.reply_matches (h : one.InStep R two) (congruent : Disk.Congruence R)
    (event : Event d) : (one.reply (some event)).Matches R (two.reply (some event)) :=
  Context.hook_matches congruent h.twin h.near event fun mode => h.meets.verdict_eq h.twin mode event

/-- An event leaves each session with the plan that it was given. -/
theorem InStep.paired (h : one.InStep R two) (congruent : Disk.Congruence R) (event : Event d) :
    (one.turn (.report (some event))).Paired R (two.turn (.report (some event))) := by
  have replied := h.reply_matches congruent event
  refine ⟨replied.disk, replied.twin, fun mode named => ?_⟩
  have injects : one.context.mode = .ok .inject :=
    (one.mode_after [.report (some event)]).symm.trans mode
  have injectsToo := (Context.mode_eq_of_twin h.twin).symm.trans injects
  have there : one.context.settings.outcomePath ≠ none := by
    rwa [← one.outcomePath_after [.report (some event)]]
  obtain ⟨p, q, given, givenToo, alike⟩ := h.meets injects there
  exact ⟨p, q, Context.plan?_hook_of_inject injects given event,
    Context.plan?_hook_of_inject injectsToo givenToo event, alike⟩

theorem InStep.seen_eq (h : one.InStep R two) (congruent : Disk.Congruence R)
    (report : Option (Event d)) : (one.reply report).seen = (two.reply report).seen := by
  cases report with
  | none => rfl
  | some event => exact (h.reply_matches congruent event).seen_eq

theorem InStep.turn (h : one.InStep R two) (congruent : Disk.Congruence R)
    (report : Option (Event d)) :
    (one.turn (.report report)).InStep R (two.turn (.report report)) := by
  cases report with
  | none => exact h
  | some event => exact (h.paired congruent event).inStep

/-! ### Runs -/

/-- Reports keep sessions in step. -/
theorem InStep.after (h : one.InStep R two) (congruent : Disk.Congruence R)
    (reports : List (Option (Event d))) :
    (one.after (reports.map .report)).InStep R (two.after (reports.map .report)) := by
  induction reports generalizing one two with
  | nil => exact h
  | cons report reports ih => exact ih (h.turn congruent report)

/-- Sessions in step go alike through reports alone. -/
theorem InStep.goAlike (h : one.InStep R two) (congruent : Disk.Congruence R)
    (reports : List (Option (Event d))) : one.GoAlike R two (reports.map .report) := by
  induction reports generalizing one two with
  | nil => exact ⟨rfl, h.twin, h.near⟩
  | cons report reports ih =>
      exact .report report (h.seen_eq congruent report) (ih (h.turn congruent report))

/-- Paired sessions go alike through every run. -/
theorem Paired.goAlike (h : one.Paired R two) (congruent : Disk.Congruence R)
    (relates : ∀ next ∈ run, next.Relates R) : one.GoAlike R two run := by
  induction run generalizing one two with
  | nil => exact ⟨rfl, h.twin, h.near⟩
  | cons next run ih =>
      have later : ∀ next ∈ run, next.Relates R :=
        fun next mem => relates next (List.mem_cons_of_mem _ mem)
      cases next with
      | outside change =>
          have still : R (change one.disk) (change two.disk) :=
            relates (.outside change) List.mem_cons_self _ _ h.near
          exact .outside change (ih ⟨still, h.twin, h.held⟩ later)
      | report report =>
          apply GoAlike.report report (h.inStep.seen_eq congruent report)
          cases report with
          | none => exact ih h later
          | some event => exact ih (h.inStep.paired congruent event) later

/-- Sessions go alike that are in step when the first event is reported. -/
theorem goAlike_of_meets (congruent : Disk.Congruence R) (near : R one.disk two.disk)
    (twin : one.context.withoutPlan = two.context.withoutPlan)
    (relates : ∀ next ∈ run, next.Relates R)
    (first : ∀ before event, Turn.Calls run before event → Turn.events before = [] →
      (one.after before).context.Meets (one.after before).disk (two.after before).context
        (two.after before).disk) :
    one.GoAlike R two run := by
  -- By the first turns, up to the first event: after it the sessions are paired.
  induction run generalizing one two with
  | nil => exact ⟨rfl, twin, near⟩
  | cons next run ih =>
      have later : ∀ next ∈ run, next.Relates R :=
        fun next mem => relates next (List.mem_cons_of_mem _ mem)
      have call {before : List (Turn d)} {event : Event d} (h : Turn.Calls run before event) :
          Turn.Calls (next :: run) (next :: before) event :=
        List.cons_prefix_cons.2 ⟨rfl, h⟩
      cases next with
      | outside change =>
          have still : R (change one.disk) (change two.disk) :=
            relates (.outside change) List.mem_cons_self _ _ near
          refine .outside change (ih still twin later fun before event h silent => ?_)
          exact first (.outside change :: before) event (call h) silent
      | report event? =>
          cases event? with
          | none =>
              refine .report none rfl (ih near twin later fun before event h silent => ?_)
              exact first (.report none :: before) event (call h) silent
          | some event =>
              have meets := first [] event (List.prefix_append _ run) rfl
              have inStep : one.InStep R two := ⟨near, twin, meets⟩
              exact .report (some event) (inStep.seen_eq congruent (some event))
                ((inStep.paired congruent event).goAlike congruent later)

end Session

end FaultReplay
