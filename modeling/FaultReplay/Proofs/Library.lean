import FaultReplay.Proofs.Error.Origin

/-!
# The calls of the library

Everything a simulator or a planner can ask of the library that may be answered with an error, and
what the report of that error looks like to a driver that reads line by line.
-/

namespace FaultReplay

open Text (OneLine oneLine_append)

/-- A call that can be answered with an error. -/
inductive Call where
  | domain (name : String)
  | mode (value : Option String)
  | settings (disk : Disk) (path : String)
  | profilePath (settings : Settings)
  | planPath (settings : Settings)
  | outcomePath (settings : Settings)
  | number (name field : String)
  | flag (name field : String)
  | record (d : Domain) (fields : List String)
  | validate (d : Domain) (fault : Fault d)
  | plan (d : Domain) (faults : List (Fault d))
  | planText (d : Domain) (text : String)
  | planFile (d : Domain) (disk : Disk) (path : String)
  | cell (d : Domain) (cell : PlanCell d) (disk : Disk) (path : String)
  | entry (d : Domain) (line : String)
  | append (disk : Disk) (path line : String)
  | log (d : Domain) (disk : Disk) (path : String)
  | find (d : Domain) (disk : Disk) (path : String) (sequence : UInt64)
  | aim (d : Domain) (entry : Entry d) (mask : UInt64) (secondary : Option UInt64)
  | outcome (disk : Disk) (path : String)
  | save (outcome : Outcome) (disk : Disk) (path : String)
  | hook (d : Domain) (context : Context d) (disk : Disk) (report : Option (Event d))

namespace Call

/-- The errors that a call is answered with. -/
def Fails : Call → Error → Prop
  | domain name, e => Domain.ofName name = .error e
  | mode value, e => Mode.resolve value = .error e
  | settings disk path, e => Settings.load disk path = .error e
  | profilePath configured, e => configured.requireProfilePath = .error e
  | planPath configured, e => configured.requirePlanPath = .error e
  | outcomePath configured, e => configured.requireOutcomePath = .error e
  | number name field, e => Field.number name field = .error e
  | flag name field, e => Field.flag name field = .error e
  | record d fields, e => Fault.ofFields d fields = .error e
  | validate _ fault, e => fault.problem? = some e
  | plan _ faults, e => Plan.ofFaults faults = .error e
  | planText d text, e => Plan.parse d text = .error e
  | planFile d disk path, e => Plan.load d disk path = .error e
  | cell _ held disk path, e => (held.fetch disk path).1 = .error e
  | entry d line, e => Entry.parse d line = .error e
  | append disk path line, e => Profile.append disk path line = .error e
  | log d disk path, e => Profile.load d disk path = .error e
  | find d disk path sequence, e => Profile.find d disk path sequence = .error e
  | aim _ logged mask secondary, e => Entry.fault logged mask secondary = .error e
  | outcome disk path, e => Outcome.load disk path = .error e
  | save seen disk path, e => seen.save disk path = .error e
  | hook _ context disk report, e => (context.hook disk report).result = .error e

/-- The paths that a call works on. -/
def paths : Call → List String
  | settings _ path | planFile _ _ path | cell _ _ _ path | append _ path _ | log _ _ path
  | find _ _ path _ | outcome _ path | save _ _ path => [path]
  | hook _ context _ _ => context.settings.paths
  | _ => []

/-- The names and labels that a call is given as they are. What stands in a text, a line or a file
is not among them. -/
def labels : Call → List String
  | domain name | number name _ | flag name _ => [name]
  | plan _ faults => Plan.labels faults
  | aim _ logged _ _ => Identity.labels (Entry.identity logged)
  | hook _ _ _ (some event) => Identity.labels (Event.identity event)
  | _ => []

theorem tells (call : Call) (single : ∀ path ∈ call.paths, OneLine path) {e : Error}
    (failed : call.Fails e) : e.Tells call.labels := by
  have only {path : String} (here : call.paths = [path]) : OneLine path :=
    single path (by simp [here])
  cases call with
  | domain name => exact Domain.ofName_tells name e failed
  | mode value => exact Mode.resolve_tells value e failed
  | settings disk path => exact Settings.load_tells disk path e failed
  | profilePath configured => exact configured.requireProfilePath_tells e failed
  | planPath configured => exact configured.requirePlanPath_tells e failed
  | outcomePath configured => exact configured.requireOutcomePath_tells e failed
  | number name field => exact Field.number_tells name field e failed
  | flag name field => exact Field.flag_tells name field e failed
  | record d fields => exact Fault.ofFields_tells d fields e failed
  | validate d fault => exact Fault.problem?_tells failed
  | plan d faults => exact Plan.ofFaults_tells faults e failed
  | planText d text => exact Plan.parse_tells text e failed
  | planFile d disk path => exact Plan.load_tells (only rfl) disk e failed
  | cell d held disk path => exact PlanCell.fetch_tells (only rfl) held disk e failed
  | entry d line => exact Entry.parse_tells d line e failed
  | append disk path line => exact Profile.append_tells (only rfl) disk line e failed
  | log d disk path => exact Profile.load_tells (only rfl) d disk e failed
  | find d disk path sequence => exact Profile.find_tells (only rfl) d disk sequence e failed
  | aim d logged mask secondary => exact Entry.fault_tells logged mask secondary e failed
  | outcome disk path => exact Outcome.load_tells (only rfl) disk e failed
  | save seen disk path => exact Outcome.save_tells (only rfl) seen disk e failed
  | hook d context disk report =>
      cases report with
      | none => cases failed
      | some event => exact Context.hook_tells single disk event e failed

/-- The report of an error of any call is on one line exactly if the names and labels are that its
message shows without quotes. -/
theorem report_oneLine_iff (call : Call) {e : Error} (failed : call.Fails e)
    (single : ∀ path ∈ call.paths, OneLine path) {location : String} (place : OneLine location) :
    e.report location = "SIMFI_ERROR:::" ++ e.message ++ ":::AT:" ++ location ∧
    (OneLine (e.report location) ↔ ∀ text ∈ e.unquoted, OneLine text) ∧
    ((∀ label ∈ call.labels, OneLine label) →
      OneLine (e.report location) ∧ ∀ reason, OneLine reason →
        OneLine ("SIMFI_ERROR:::" ++ (e.message ++ reason) ++ ":::AT:" ++ location)) := by
  have told := call.tells single failed
  have exactly : OneLine (e.report location) ↔ ∀ text ∈ e.unquoted, OneLine text := by
    rw [Error.oneLine_report_iff, Error.oneLine_message_iff]
    exact ⟨fun h => h.1.2, fun h => ⟨⟨told.paths, h⟩, place⟩⟩
  refine ⟨rfl, exactly, fun given => ?_⟩
  have whole : OneLine (e.report location) := exactly.2 (told.unquoted given)
  refine ⟨whole, fun reason short => ?_⟩
  have message : OneLine e.message := ((e.oneLine_report_iff location).1 whole).1
  exact (Error.oneLine_framed_iff _ _).2 ⟨oneLine_append.2 ⟨message, short⟩, place⟩

/-- A mode on two lines is quoted, so its report is on one line. -/
theorem report_oneLine_iff_mode :
    ∃ e, (mode (some "profile\n1")).Fails e ∧ OneLine (e.report "mode.rs:1") := by
  have failed : Mode.resolve (some "profile\n1") = .error (.unknownMode "profile\n1") := by
    decide +kernel
  have place : OneLine "mode.rs:1" := by decide
  have told := report_oneLine_iff (mode (some "profile\n1")) failed (by simp [paths]) place
  exact ⟨_, failed, (told.2.2 (by simp [labels])).1⟩

/-- The name of a domain and the label of an instruction spread a report over two lines. -/
theorem exists_report_over_two_lines :
    ∃ (faults : List (Fault .instruction)) (logged : Entry .instruction)
      (context : Context .instruction) (retired : Event .instruction),
      ∀ call ∈ [domain "insn\nmem", plan .instruction faults, aim .instruction logged 1 none,
          hook .instruction context .empty (some retired)],
        (∀ path ∈ call.paths, OneLine path) ∧
          ∃ e, call.Fails e ∧ ¬ OneLine (e.report "plan.rs:1") := by
  let fault : Fault .instruction :=
    { trigger := 1, identity := ⟨0, "ADD\nSUB"⟩, mask := 1, expected := 3 }
  let logged : Instruction.Entry := ⟨1, ⟨0, "ADD\nSUB"⟩, 4, []⟩
  let context : Context .instruction :=
    .withPlan { mode := some "inject", outcomePath := some "outcome.txt" }
      ⟨[fault], by decide, by decide, by decide⟩
  let retired : Instruction.Retirement := ⟨"ADD\nSUB", 4, 0, []⟩
  have spread {e : Error} {text : String} (said : text ∈ e.unquoted) (long : ¬ OneLine text) :
      ¬ OneLine (e.report "plan.rs:1") := fun whole =>
    long ((Error.oneLine_of_message ((e.oneLine_report_iff _).1 whole).1).2 text said)
  have long : ¬ OneLine "ADD\nSUB" := by decide
  refine ⟨[fault, fault], logged, context, retired, fun call mem => ?_⟩
  simp only [List.mem_cons, List.not_mem_nil, or_false] at mem
  rcases mem with rfl | rfl | rfl | rfl
  · have failed : Domain.ofName "insn\nmem" = .error (.unknownDomain "insn\nmem") := rfl
    exact ⟨by simp [paths], _, failed, spread List.mem_cons_self (by decide)⟩
  · have failed : Plan.ofFaults [fault, fault] =
        .error (.ambiguousPlan 1 "ADD\nSUB on core 0") := by decide +kernel
    exact ⟨by simp [paths], _, failed, spread List.mem_cons_self (by decide)⟩
  · have failed : Entry.fault (d := .instruction) logged 1 none =
        .error (.entryRegisterCount 1 "ADD\nSUB" 0) := rfl
    exact ⟨by simp [paths], _, failed, spread List.mem_cons_self long⟩
  · have failed : (context.hook .empty (some retired)).result =
        .error (.registerCount "ADD\nSUB" 0 1) := by decide +kernel
    exact ⟨by decide, _, failed, spread List.mem_cons_self long⟩

end Call

end FaultReplay
