import FaultReplay.Proofs.Profile.Appending
import FaultReplay.Proofs.Run.Logging

/-!
# Lookups in a log that grows

Every run that profiles appends a pass of entries to the log. The passes before it are still read
first, so an event that was found in the log is found after the run too.
-/

namespace FaultReplay

variable {d : Domain} {log path : String} {number : UInt64} {entry : Entry d}

theorem Profile.endsLine_text (entries : List (Entry d)) : Text.EndsLine (text entries) := by
  induction entries with
  | nil => exact Or.inl rfl
  | cons entry entries ih =>
      have split : text (entry :: entries) = entry.render ++ "\n" ++ text entries := by
        rw [text, List.map_cons, String.join_cons, ← text]
      rw [split]
      exact (Text.endsLine_line _).append ih

theorem Profile.wellFormed_text {entries : List (Entry d)}
    (legible : ∀ entry ∈ entries, entry.Legible) : WellFormed d (text entries) :=
  exists_lists_iff.1 ⟨entries, parse_eq_ok_iff.1 (parse_text legible)⟩

namespace Session.Profiling

variable {session : Session d} {n : Nat}

/-- After a profiling run the log has the text that it had before and then that of the run. -/
theorem readText?_append (h : session.Profiling path n)
    (held : session.disk.readText? path = some log) (events : List (Event d)) :
    (session.after (Turn.reports events)).disk.readText? path =
      some (log ++ Profile.text (Entry.observed n events)) := by
  have before := Disk.contents_of_read? (Disk.readText?_eq_some_iff.1 held)
  -- Contents do not tell an empty file from none, so a run that appends nothing stands apart.
  cases events with
  | nil =>
      have nothing : Profile.text (Entry.observed n ([] : List (Event d))) = "" := rfl
      rw [nothing, String.append_empty]
      exact held
  | cons event events =>
      have written : log ++ Profile.text (Entry.observed n (event :: events)) ≠ "" := by
        rw [Entry.observed_cons, Profile.text]
        simp
      have contents : (session.after (Turn.reports (event :: events))).disk.contents path =
          (log ++ Profile.text (Entry.observed n (event :: events))).toUTF8 := by
        rw [h.contents_after, before]
        simp only [String.toUTF8_eq_toByteArray, String.toByteArray_append]
      have full := Text.toUTF8_ne_empty written
      rw [← contents] at full
      rw [Disk.readText?_eq_some_iff, Disk.read?_eq_some_contents full, contents]

end Session.Profiling

/-! ### Passes -/

/-- A run of the simulator: a context and the events that are reported to it. -/
structure Pass (d : Domain) where
  context : Context d
  events : List (Event d)

/-- A pass that profiles into a log, with labels that delimit their fields and lines. -/
structure Pass.Logs (pass : Pass d) (path : String) : Prop where
  mode : pass.context.mode = .ok .profile
  profilePath : pass.context.settings.profilePath = some path
  countable : ∀ event ∈ pass.events, event.Countable
  delimited : ∀ event ∈ pass.events, event.Delimited

/-- The disk after a pass. -/
def Pass.run (disk : Disk) (pass : Pass d) : Disk :=
  (Session.after ⟨pass.context, disk⟩ (Turn.reports pass.events)).disk

/-- A disk on which an event is found in a log that has ended its last line. -/
structure Profile.Keeps (disk : Disk) (path : String) (number : UInt64) (entry : Entry d) :
    Prop where
  ends : ∃ log, disk.readText? path = some log ∧ Text.EndsLine log
  found : find d disk path number = .ok entry

/-- A pass takes no event away that was found, and ends the last line again. -/
theorem Pass.Logs.keeps {pass : Pass d} (logs : pass.Logs path) {disk : Disk}
    (h : Profile.Keeps disk path number entry) :
    Profile.Keeps (pass.run disk) path number entry := by
  obtain ⟨⟨log, held, ends⟩, found⟩ := h
  have profiling : Session.Profiling ⟨pass.context, disk⟩ path pass.context.events.toNat :=
    ⟨logs.mode, logs.profilePath, Disk.canWrite_of_read? (Disk.readText?_eq_some_iff.1 held),
      UInt64.ofNat_toNat.symm⟩
  have grown := profiling.readText?_append held pass.events
  have legible :=
    (Entry.legible_observed_iff logs.countable pass.context.events.toNat).2 logs.delimited
  refine ⟨⟨_, grown, ends.append (Profile.endsLine_text _)⟩, ?_⟩
  rw [Profile.find, held] at found
  rw [Profile.find, run, grown]
  exact Profile.findIn_append ends (Profile.wellFormed_text legible) found

theorem Profile.Keeps.after_passes {disk : Disk} (h : Keeps disk path number entry)
    {passes : List (Pass d)} (logs : ∀ pass ∈ passes, pass.Logs path) :
    Keeps (passes.foldl Pass.run disk) path number entry := by
  induction passes generalizing disk with
  | nil => exact h
  | cons pass passes ih =>
      obtain ⟨first, later⟩ := List.forall_mem_cons.1 logs
      exact ih (first.keeps h) later

/-- An event is found in a log as the first entry with its number if every line is an entry or
blank, stays found while such lines are appended, and no event is found once any other line is. -/
theorem Profile.find_in_growing_log (d : Domain) (path : String) (number : UInt64) :
    (∀ (disk : Disk) (text : String) (entry : Entry d), disk.readText? path = some text →
      (find d disk path number = .ok entry ↔
        ∃ entries, Lists text entries ∧ IsFirst entries number entry)) ∧
    (∀ (disk later : Disk) (log block : String) (entry : Entry d), Text.EndsLine log →
      WellFormed d block → disk.readText? path = some log →
      later.readText? path = some (log ++ block) →
      find d disk path number = .ok entry → find d later path number = .ok entry) ∧
    (∀ (disk : Disk) (log : String) (entry : Entry d) (passes : List (Pass d)),
      disk.readText? path = some log → Text.EndsLine log → (∀ pass ∈ passes, pass.Logs path) →
      find d disk path number = .ok entry →
      find d (passes.foldl Pass.run disk) path number = .ok entry) ∧
    ∀ (disk : Disk) (log line rest : String), Text.EndsLine log → '\n' ∉ line.toList →
      Malformed d line → (rest = "" ∨ ∃ after, rest = "\n" ++ after) →
      disk.readText? path = some (log ++ (line ++ rest)) →
      ∃ e, find d disk path number = .error e ∧ e.kind = .configuration := by
  refine ⟨?_, ?_, ?_, ?_⟩
  · intro disk text entry held
    rw [find, held]
    exact findIn_eq_ok_iff_exists
  · intro disk later log block entry ends whole held grown found
    rw [find, held] at found
    rw [find, grown]
    exact findIn_append ends whole found
  · intro disk log entry passes held ends logs found
    have keeps : Keeps disk path number entry := ⟨⟨log, held, ends⟩, found⟩
    exact (keeps.after_passes logs).found
  · intro disk log line rest ends single bad closed held
    obtain ⟨other, listed, badToo⟩ := exists_malformed_of_append ends single bad closed
    rw [find, held]
    exact findIn_of_malformed listed badToo path number

/-- The first pass wins over a block with a blank line and over two more passes, all of which have
an event with the same number. With a line that stops short nothing is found. -/
theorem Profile.find_in_growing_log_three_passes :
    ∃ (first longer broken : Disk) (pass : Pass .instruction),
      first.readText? "log.txt" = some "1;ADD;4;0;1;3;\r\n" ∧
      longer.readText? "log.txt" = some "1;ADD;4;0;1;3;\r\n \n1;SUB;2;0;0" ∧
      broken.readText? "log.txt" = some "1;ADD;4;0;1;3;\r\n1;SUB\n" ∧
      find .instruction first "log.txt" 1 = .ok ⟨1, ⟨0, "ADD"⟩, 4, [3]⟩ ∧
      find .instruction longer "log.txt" 1 = .ok ⟨1, ⟨0, "ADD"⟩, 4, [3]⟩ ∧
      ((pass.run first).readText? "log.txt" = some "1;ADD;4;0;1;3;\r\n1;c.j;2;0;0\n") ∧
      find .instruction ([pass, pass].foldl Pass.run first) "log.txt" 1 =
        .ok ⟨1, ⟨0, "ADD"⟩, 4, [3]⟩ ∧
      ∃ e, find .instruction broken "log.txt" 1 = .error e ∧ e.kind = .configuration := by
  let disk (text : String) : Disk := Disk.empty.put ⟨false, ["log.txt"]⟩ (.file text.toUTF8)
  let log : String := "1;ADD;4;0;1;3;\r\n"
  let block : String := " \n1;SUB;2;0;0"
  let entry : Entry .instruction := Instruction.Entry.mk 1 ⟨0, "ADD"⟩ 4 [3]
  let jump : Event .instruction := Instruction.Retirement.mk "c.j" 2 0 []
  let pass : Pass .instruction :=
    ⟨.ofSettings { mode := some "profile", profilePath := some "log.txt" }, [jump]⟩
  have held : (disk log).readText? "log.txt" = some log := by decide +kernel
  have ends : Text.EndsLine log := Or.inr (by decide)
  obtain ⟨finds, keeps, passes, breaks⟩ := find_in_growing_log .instruction "log.txt" 1
  have found : find .instruction (disk log) "log.txt" 1 = .ok entry := by
    refine (finds (disk log) log entry held).2 ⟨[entry], ?_, ⟨[], [], rfl, rfl, by simp⟩⟩
    exact parse_eq_ok_iff.1 (by decide +kernel)
  have whole : WellFormed .instruction block :=
    exists_lists_iff.1 ⟨[Instruction.Entry.mk 1 ⟨0, "SUB"⟩ 2 []],
      parse_eq_ok_iff.1 (by decide +kernel)⟩
  have logs : pass.Logs "log.txt" :=
    ⟨by decide +kernel, rfl, by simp [pass, jump, Event.Countable],
      by simp [pass, jump, Event.Delimited]⟩
  refine ⟨disk log, disk (log ++ block), disk (log ++ ("1;SUB" ++ "\n")), pass, held,
    by decide +kernel, by decide +kernel, found, ?_, by decide +kernel, ?_, ?_⟩
  · exact keeps (disk log) (disk (log ++ block)) log block entry ends whole held
      (by decide +kernel) found
  · exact passes (disk log) log entry [pass, pass] held ends (by simpa using logs) found
  · refine breaks _ log "1;SUB" "\n" ends (by decide) ⟨by decide, fun other read => ?_⟩
      (Or.inr ⟨"", by decide⟩) (by decide +kernel)
    have refused : Entry.parse .instruction "1;SUB" = .error (.malformedInstructionLine "1;SUB") :=
      by decide +kernel
    cases refused.symm.trans read

end FaultReplay
