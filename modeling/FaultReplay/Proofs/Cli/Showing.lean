import FaultReplay.Cli.Run
import FaultReplay.Proofs.Outcome.Showing
import FaultReplay.Proofs.Outcome.Summary
import FaultReplay.Proofs.Run.Retelling

/-!
# Outcomes that the tool shows

The tool shows the outcome in a file as an object of its keys. A key with several lines is shown with
the last of them, where the library looks up the first. The record of a fault has one line for each
of its keys, so what is shown is what was recorded.
-/

namespace FaultReplay

variable {d : Domain}

namespace Cli

/-- The tool prints the summary of the outcome that the library loads. -/
theorem answer_outcome {disk : Disk} {path : String} {outcome : Outcome}
    (loaded : Outcome.load disk path = .ok outcome) (location : String) :
    (Command.outcome path).answer (disk.readText? path) location =
      ⟨0, outcome.summaryText ++ "\n", none⟩ := by
  have read : Outcome.ofFile path (disk.readText? path) = .ok outcome := loaded
  rw [Command.answer, Command.run, read]
  rfl

end Cli

/-- The record of a fault has no two lines of one key. -/
theorem Fault.nodup_keys_outcome (fault : Fault d) (event : Event d) :
    ((fault.outcome event).fields.map Prod.fst).Nodup := by
  rw [fault.keys_outcome event]
  cases d <;> decide

/-- An outcome is shown as an object of its keys in increasing order, each with the value of its
last line, and the record of an applied fault as the whole record. -/
theorem Cli.outcome_shown :
    (∀ (disk : Disk) (path : String) (outcome : Outcome), Outcome.load disk path = .ok outcome →
      ∃ printed members,
        (∀ location, (Command.outcome path).answer (disk.readText? path) location =
          ⟨0, printed, none⟩) ∧
        Json.IsObject printed members ∧
        (members.map Prod.fst).Pairwise (· < ·) ∧
        (∀ key, key ∈ members.map Prod.fst ↔ key ∈ outcome.fields.map Prod.fst) ∧
        (∀ key value, (key, value) ∈ members ↔ outcome.LastIs key value) ∧
        ((∀ key, members.lookup key = outcome.get? key) ↔
          ∀ key first last, outcome.FirstIs key first → outcome.LastIs key last →
            first = last)) ∧
    ∀ {d : Domain} (context : Context d) (disk : Disk) (event : Event d) (fault : Fault d)
      (path : String), (context.hook disk (some event)).Strikes context disk event fault →
      context.settings.outcomePath = some path → disk.CanWrite path → fault.Inscribable →
      let left := (context.hook disk (some event)).disk
      left.read? path = some (fault.outcome event).render.toUTF8 ∧
        ∃ printed members,
          (∀ location, (Command.outcome path).answer (left.readText? path) location =
            ⟨0, printed, none⟩) ∧
          Json.IsObject printed members ∧
          members.Perm (fault.outcome event).fields ∧
          ∀ key value, (key, value) ∈ (fault.outcome event).fields →
            members.lookup key = some value := by
  constructor
  · intro disk path outcome loaded
    refine ⟨_, outcome.summary, answer_outcome loaded, outcome.isObject_summaryText, ?_, ?_, ?_, ?_⟩
    · rw [List.pairwise_map]
      exact outcome.pairwise_summary
    · exact fun key => Outcome.mem_keys_summary_iff
    · exact fun key value => Outcome.mem_summary_iff
    · exact forall_congr' fun key => Outcome.lookup_summary_eq_get?_iff
  · intro d context disk event fault path struck outcomesAt writable plain left
    have loaded : Outcome.load left path = .ok (fault.outcome event) :=
      (Context.load_of_strikes struck outcomesAt writable).2 plain
    have same := Outcome.perm_summary (fault.nodup_keys_outcome event)
    refine ⟨Context.read?_of_strikes struck outcomesAt writable, _, _, answer_outcome loaded,
      Outcome.isObject_summaryText _, same, ?_⟩
    intro key value mem
    exact (Outcome.mem_iff_lookup (Outcome.nodup_keys_summary _)).1 (same.mem_iff.2 mem)

/-- A key with two lines is shown with the second and looked up with the first. The label of a fault
is shown as it was recorded, with its colon and its quote. -/
theorem Cli.outcome_shown_repeated_key :
    ∃ (disk : Disk) (outcome : Outcome) (members : List (String × String))
      (context : Context .instruction) (retired : Event .instruction) (fault : Fault .instruction)
      (shown : List (String × String)) (printed : String),
      Outcome.load disk "outcome.txt" = .ok outcome ∧
      outcome.fields = [("b", "1"), ("a", "x:y"), ("b", "3")] ∧
      Json.IsObject "\x7b\n  \"a\": \"x:y\",\n  \"b\": \"3\"\n\x7d\n" members ∧
      ("b", "3") ∈ members ∧ outcome.get? "b" = some "1" ∧
      (context.hook .empty (some retired)).Strikes context .empty retired fault ∧
      (Command.outcome "outcome.txt").answer
        ((context.hook .empty (some retired)).disk.readText? "outcome.txt") "" =
          ⟨0, printed, none⟩ ∧
      Json.IsObject printed shown ∧ shown.lookup "label" = some "a:\"b" := by
  let text := "b:1\na:x:y\n \nb:3\n"
  let disk : Disk := Disk.empty.put ⟨false, ["outcome.txt"]⟩ (.file text.toUTF8)
  let outcome : Outcome := ⟨[("b", "1"), ("a", "x:y"), ("b", "3")]⟩
  let fault : Fault .instruction :=
    { trigger := 1, identity := ⟨0, "a:\"b"⟩, mask := 16, expected := 3 }
  let retired : Event .instruction := Instruction.Retirement.mk "a:\"b" 4 0 [3]
  let context : Context .instruction :=
    .withPlan { mode := some "inject", outcomePath := some "outcome.txt" }
      ⟨[fault], by decide, by decide, by decide⟩
  have held : disk.readText? "outcome.txt" = some text :=
    Disk.readText?_eq_some_iff.2 (Disk.read?_put_file (by decide +kernel) (by decide))
  have loaded : Outcome.load disk "outcome.txt" = .ok outcome := by
    rw [Outcome.load, held]
    decide +kernel
  have writable : Disk.empty.CanWrite "outcome.txt" :=
    ⟨⟨false, ["outcome.txt"]⟩, by decide +kernel, Or.inl (by decide)⟩
  have struck : (context.hook .empty (some retired)).Strikes context .empty retired fault :=
    Context.strikes_iff.2 ⟨by decide +kernel, ⟨_, rfl, by decide +kernel⟩, rfl⟩
  have plain : fault.Inscribable := show Text.IsLine "a:\"b" by decide
  obtain ⟨files, records⟩ := outcome_shown
  obtain ⟨printed, members, answered, object, -, -, last, -⟩ :=
    files disk "outcome.txt" outcome loaded
  have output : (Command.outcome "outcome.txt").answer (some text) "" =
      ⟨0, "\x7b\n  \"a\": \"x:y\",\n  \"b\": \"3\"\n\x7d\n", none⟩ := by decide +kernel
  have whole := answered ""
  rw [held, output] at whole
  obtain rfl := congrArg Answer.output whole
  obtain ⟨-, printed, shown, answeredToo, objectToo, -, values⟩ :=
    records context .empty retired fault "outcome.txt" struck rfl writable plain
  refine ⟨disk, outcome, members, context, retired, fault, shown, printed, loaded, rfl, object, ?_,
    rfl, struck, answeredToo "", objectToo, values "label" "a:\"b" (by decide +kernel)⟩
  exact (last "b" "3").2 ⟨[("b", "1"), ("a", "x:y")], [], rfl, by decide⟩

end FaultReplay
