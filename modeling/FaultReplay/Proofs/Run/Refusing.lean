import FaultReplay.Proofs.Mode
import FaultReplay.Proofs.Run.Firing

/-!
# Runs without a mode

A context whose mode is configured and unknown refuses every event of a run for that mode. It does
nothing but count the events, as long as the run may be, and it never goes on as if it were turned
off.
-/

namespace FaultReplay

variable {d : Domain} {start : Session d} {e : Error}

namespace Session

/-- Without a mode an event is counted, given back as it came and refused. -/
theorem reply_of_no_mode (invalid : start.context.mode = .error e) (event : Event d) :
    start.reply (some event) = ⟨.error e, some event, start.context.count, start.disk⟩ := by
  simp only [reply, Context.hook, invalid]

/-- Without a mode a turn changes nothing of the context but its count. -/
theorem turn_of_no_mode (invalid : start.context.mode = .error e) (next : Turn d) :
    (start.turn next).context = start.context.numbered (start.turn next).context.events := by
  cases next with
  | outside change => rfl
  | report event? =>
      cases event? with
      | none => rfl
      | some event =>
          rw [turn, reply_of_no_mode invalid]
          rfl

/-- Without a mode a run changes nothing of the context but its count, in which every event is. -/
theorem after_of_no_mode (invalid : start.context.mode = .error e) (run : List (Turn d)) :
    (start.after run).context =
      start.context.numbered (start.context.events + UInt64.ofNat (Turn.events run).length) := by
  rw [← events_after]
  induction run generalizing start with
  | nil => rfl
  | cons next run ih =>
      have once := turn_of_no_mode invalid next
      have still : (start.turn next).context.mode = .error e := by
        rw [once]
        exact invalid
      rw [after_cons, ih still, once]
      rfl

end Session

/-- A configured value without the blanks at its ends is a mode exactly if it is one of the
spellings of that mode, and with any other value every event of a run is counted and refused. -/
theorem Mode.spelled_or_refused (value : String) :
    ∃ core, Text.IsCore value.toList core ∧
      (∀ mode, resolve (some value) = .ok mode ↔ Spelled mode core) ∧
      (∀ e, resolve (some value) = .error e ↔
        (∀ mode, ¬ Spelled mode core) ∧ e = .unknownMode value) ∧
      (Error.unknownMode value).kind = .configuration ∧
      resolve (some value) ≠ .ok .disabled ∧
      ∀ {d : Domain} (start : Session d), start.context.settings.mode = some value →
        (∀ mode, ¬ Spelled mode core) → ∀ run : List (Turn d),
          (∀ before event, Turn.Calls run before event →
            let now := start.after before
            now.reply (some event) =
              ⟨.error (.unknownMode value), some event, now.context.count, now.disk⟩) ∧
          (start.after run).context = start.context.numbered
            (start.context.events + UInt64.ofNat (Turn.events run).length) := by
  refine ⟨(Text.trim value).toList, Text.trim_eq_iff.1 rfl, fun mode => resolve_eq_ok_iff,
    fun e => resolve_eq_error_iff, rfl, ?_, ?_⟩
  · intro off
    exact not_spelled_disabled (resolve_eq_ok_iff.1 off)
  · intro d start configured unspelled run
    have invalid : start.context.mode = .error (.unknownMode value) := by
      rw [Context.mode, Settings.resolveMode, configured]
      exact resolve_eq_error_iff.2 ⟨unspelled, rfl⟩
    constructor
    · intro before event _ now
      have still : now.context.mode = .error (.unknownMode value) :=
        (start.mode_after before).trans invalid
      exact Session.reply_of_no_mode still event
    · exact Session.after_of_no_mode invalid run

/-- The first number beyond eight bits is no mode, blanks and sign or not: both instructions of a
run are refused, and both are counted. -/
theorem Mode.spelled_or_refused_nine_bits :
    ∃ (start : Session .instruction) (add ret : Event .instruction) (run : List (Turn .instruction)),
      start.context.settings.mode = some " +256\t" ∧
      run = [.report (some add), .report none, .report (some ret)] ∧
      (start.reply (some add)).result = .error (.unknownMode " +256\t") ∧
      ((start.after [.report (some add), .report none]).reply (some ret)).result =
        .error (.unknownMode " +256\t") ∧
      (start.after run).context.events = 2 := by
  let add : Event .instruction := Instruction.Retirement.mk "ADD" 4 0 [3]
  let ret : Event .instruction := Instruction.Retirement.mk "RET" 4 0 []
  let start : Session .instruction := ⟨.ofSettings { mode := some " +256\t" }, .empty⟩
  let run : List (Turn .instruction) := [.report (some add), .report none, .report (some ret)]
  obtain ⟨core, -, -, refused, -, -, runs⟩ := spelled_or_refused " +256\t"
  have unspelled := ((refused (.unknownMode " +256\t")).1 (by decide +kernel)).1
  obtain ⟨calls, counted⟩ := runs start rfl unspelled run
  have first := calls [] add ⟨_, rfl⟩
  have second := calls [.report (some add), .report none] ret List.prefix_rfl
  refine ⟨start, add, ret, run, rfl, rfl, congrArg Reply.result first,
    congrArg Reply.result second, ?_⟩
  rw [counted]
  rfl

end FaultReplay
