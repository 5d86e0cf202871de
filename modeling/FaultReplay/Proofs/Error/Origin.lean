import FaultReplay.Proofs.Context.Footprint
import FaultReplay.Proofs.Context.Loading
import FaultReplay.Proofs.Error.Report
import FaultReplay.Proofs.Plan.Reading
import FaultReplay.Proofs.Profile.Reading
import FaultReplay.Proofs.Profile.Refusals
import FaultReplay.Settings.Json

/-!
# Where the texts of errors come from

What an error shows without quotes it was given: a path, or the name of a field or domain, or the
label of a fault, an entry or an event. The library hands on labels that it has read only from words
and lines, and those are on one line.
-/

namespace FaultReplay

open Except (FailsWith)
open Text (OneLine oneLine_ofList oneLine_decimal oneLine_append)

variable {d : Domain} {given : List String} {e : Error}

/-- What an identity has of the simulator's own words. -/
def Identity.labels : {d : Domain} → Identity d → List String
  | .instruction, identity => [Instruction.Identity.label identity]
  | .memory, _ => []

/-- The words of an identity are all that can spread it over lines. -/
theorem Identity.oneLine_describe {identity : Identity d}
    (single : ∀ label ∈ Identity.labels identity, OneLine label) :
    OneLine (Identity.describe identity) := by
  cases d with
  | instruction =>
      have on : OneLine " on core " := oneLine_ofList (by decide)
      simpa [Identity.describe, on] using single _ List.mem_cons_self
  | memory =>
      simp only [Identity.describe, oneLine_append, oneLine_decimal, and_true]
      and_intros <;> exact oneLine_ofList (by decide)

namespace Error

/-- An error that shows only paths on one line, and names and labels that are on one line if these
are. -/
structure Tells (given : List String) (e : Error) : Prop where
  paths : ∀ path ∈ e.paths, OneLine path
  unquoted : (∀ label ∈ given, OneLine label) → ∀ text ∈ e.unquoted, OneLine text

theorem Tells.mono {more : List String} (h : e.Tells given) (subset : given ⊆ more) :
    e.Tells more where
  paths := h.paths
  unquoted := fun single => h.unquoted fun label mem => single label (subset mem)

/-- Labels that are known to be on one line need no mention. -/
theorem Tells.of_oneLine (h : e.Tells given) (single : ∀ label ∈ given, OneLine label) :
    e.Tells [] where
  paths := h.paths
  unquoted := fun _ => h.unquoted single

theorem tells_of_quoted (noPaths : e.paths = []) (noText : e.unquoted = []) :
    e.Tells given where
  paths := by simp [noPaths]
  unquoted := by simp [noText]

theorem tells_of_path {path : String} (shown : e.paths = [path]) (noText : e.unquoted = [])
    (single : OneLine path) : e.Tells given where
  paths := by simpa [shown] using single
  unquoted := by simp [noText]

theorem tells_of_text {text : String} (noPaths : e.paths = []) (shown : e.unquoted = [text])
    (single : (∀ label ∈ given, OneLine label) → OneLine text) : e.Tells given where
  paths := by simp [noPaths]
  unquoted := fun all => by simpa [shown] using single all

theorem tells_of_label {label : String} (noPaths : e.paths = []) (shown : e.unquoted = [label])
    (mem : label ∈ given) : e.Tells given :=
  tells_of_text noPaths shown fun single => single label mem

end Error

open Error (Tells tells_of_quoted tells_of_path tells_of_text tells_of_label)

/-! ### Fields and records -/

theorem Field.number_tells (name field : String) :
    (number name field).FailsWith (Tells [name]) := by
  refine (number_fails name field).mono ?_
  rintro _ ⟨problem, rfl⟩
  exact tells_of_label rfl rfl List.mem_cons_self

theorem Field.flag_tells (name field : String) : (flag name field).FailsWith (Tells [name]) := by
  unfold flag
  split
  · exact .ok _
  · split
    · exact .ok _
    · exact .error (tells_of_label rfl rfl List.mem_cons_self)

/-- The library's own names are on one line. -/
theorem Field.number_tells_of_oneLine {name : String} (single : OneLine name) (field : String) :
    (number name field).FailsWith (Tells given) := by
  refine (number_tells name field).mono fun e h => ?_
  exact (h.of_oneLine (by simpa using single)).mono (List.nil_subset _)

theorem Fault.problem?_tells {fault : Fault d} (h : fault.problem? = some e) : e.Tells given := by
  cases d with
  | instruction =>
      simp only [problem?, Instruction.faultProblem?] at h
      split at h
      · cases h
        exact tells_of_quoted rfl rfl
      · cases h
  | memory =>
      simp only [problem?, Memory.faultProblem?] at h
      split at h
      · cases h
        exact tells_of_text rfl rfl fun _ => oneLine_ofList (by decide)
      split at h
      · cases h
        exact tells_of_text rfl rfl fun _ => oneLine_ofList (by decide)
      split at h
      · cases h
        exact tells_of_quoted rfl rfl
      · cases h

theorem Fault.ofFields_tells (d : Domain) (record : List String) :
    (ofFields d record).FailsWith (Tells []) := by
  have number {name : String} (single : OneLine name) (field : String) :
      (Field.number name field).FailsWith (Tells []) :=
    Field.number_tells_of_oneLine single field
  cases d with
  | instruction =>
      simp only [ofFields, Instruction.faultOfFields]
      split
      · refine (number (oneLine_ofList (by decide)) _).bind fun trigger => ?_
        refine (number (oneLine_ofList (by decide)) _).bind fun core => ?_
        refine (number (oneLine_ofList (by decide)) _).bind fun mask => ?_
        exact (number (oneLine_ofList (by decide)) _).bind fun expected => .ok _
      · exact .error (tells_of_quoted rfl rfl)
  | memory =>
      simp only [ofFields, Memory.faultOfFields]
      split
      · refine (number (oneLine_ofList (by decide)) _).bind fun trigger => ?_
        refine (number (oneLine_ofList (by decide)) _).bind fun offset => ?_
        refine (number (oneLine_ofList (by decide)) _).bind fun access => ?_
        refine (number (oneLine_ofList (by decide)) _).bind fun total => ?_
        refine (number (oneLine_ofList (by decide)) _).bind fun mask => ?_
        refine (number (oneLine_ofList (by decide)) _).bind fun expected => ?_
        refine (number (oneLine_ofList (by decide)) _).bind fun secondary => ?_
        have single : OneLine "multi-cell flag" := oneLine_ofList (by decide)
        refine FailsWith.bind ?_ fun multiCell => ?_
        · exact (Field.flag_tells _ _).mono fun e h => h.of_oneLine (by simpa using single)
        · split
          · rename_i problem
            exact .error (problem?_tells (d := .memory) problem)
          · exact .ok _
      · exact .error (tells_of_quoted rfl rfl)

/-! ### Lists, texts and files of faults -/

namespace Plan

/-- The labels of a list of faults. -/
def labels (faults : List (Fault d)) : List String :=
  faults.flatMap fun fault => Identity.labels fault.identity

theorem listProblem?_tells {seen : List (UInt64 × Identity d)} {faults : List (Fault d)}
    (h : listProblem? seen faults = some e) : e.Tells (labels faults) := by
  induction faults generalizing seen with
  | nil => cases h
  | cons fault faults ih =>
      rw [listProblem?] at h
      split at h
      · rename_i problem
        cases h
        exact Fault.problem?_tells problem
      · split at h
        · cases h
          refine tells_of_text rfl rfl fun single => Identity.oneLine_describe fun label mem => ?_
          exact single label (List.mem_flatMap.2 ⟨fault, List.mem_cons_self, mem⟩)
        · exact (ih h).mono fun label mem => by
            rw [labels, List.flatMap_cons]
            exact List.mem_append_right _ mem

theorem ofFaults_tells (faults : List (Fault d)) :
    (ofFaults faults).FailsWith (Tells (labels faults)) := by
  unfold ofFaults
  split
  · split
    · rename_i problem
      exact .error (listProblem?_tells problem)
    · exact .ok _
  · exact .error (tells_of_quoted rfl rfl)

/-- The labels of faults that were read are words. -/
theorem ofFaults_tells_of_words {faults : List (Fault d)}
    (printable : ∀ fault ∈ faults, fault.Printable) :
    (ofFaults faults).FailsWith (Tells []) := by
  refine (ofFaults_tells faults).mono fun e h => h.of_oneLine fun label mem => ?_
  obtain ⟨fault, listed, named⟩ := List.mem_flatMap.1 mem
  cases d with
  | instruction =>
      obtain rfl := List.mem_singleton.1 named
      exact (printable fault listed).oneLine
  | memory => cases named

theorem readRecords_tells (n : Nat) (fields : List String) :
    (readRecords d n fields).FailsWith (Tells []) := by
  induction n generalizing fields with
  | zero => exact .ok _
  | succ n ih =>
      refine (Fault.ofFields_tells d _).bind fun fault => ?_
      exact (ih _).bind fun rest => .ok _

theorem parse_tells (text : String) : (parse d text).FailsWith (Tells []) := by
  have word {record : List String} {fault : Fault d} (inside : record ⊆ Text.words text)
      (read : Fault.ofFields d record = .ok fault) : fault.Printable :=
    Fault.printable_of_ofFields read fun field mem => Text.isWord_of_mem_words (inside mem)
  unfold parse ofWords
  split
  · refine (Fault.ofFields_tells d _).bind_of_ok fun fault read => ?_
    refine ofFaults_tells_of_words fun other mem => ?_
    obtain rfl := List.mem_singleton.1 mem
    exact word (List.Subset.refl _) read
  · cases cut : Text.words text with
    | nil => exact .error (tells_of_quoted rfl rfl)
    | cons count fields =>
        rw [ofCountedWords]
        refine (Field.number_tells_of_oneLine (oneLine_ofList (by decide)) _).bind fun n => ?_
        split
        · exact .error (tells_of_quoted rfl rfl)
        split
        · exact .error (tells_of_quoted rfl rfl)
        refine (readRecords_tells _ _).bind_of_ok fun faults read => ?_
        refine ofFaults_tells_of_words fun fault mem => ?_
        obtain ⟨record, inside, read⟩ := exists_of_mem_readRecords read fault mem
        rw [cut] at word
        exact word (List.subset_cons_of_subset _ inside) read

theorem load_tells {path : String} (single : OneLine path) (disk : Disk) :
    (load d disk path).FailsWith (Tells []) := by
  unfold load ofFile
  split
  · exact .error (tells_of_path rfl rfl single)
  · exact parse_tells _

end Plan

/-! ### Logs and outcomes -/

theorem Error.RefusesEntry.tells {e : Error} (h : e.RefusesEntry) : e.Tells [] := by
  have single : ∀ name ∈ Entry.fieldNames, OneLine name := by decide
  cases h with
  | badNumber named => exact tells_of_text rfl rfl fun _ => single _ named
  | wideField => exact tells_of_text rfl rfl fun _ => single "byte" (by decide)
  | _ => exact tells_of_quoted rfl rfl

theorem Entry.parse_tells (d : Domain) (line : String) :
    (Entry.parse d line).FailsWith (Tells []) :=
  (parse_failsWith d line).mono fun _ cause => cause.tells

/-- A fault for an entry that names no one register is refused with the entry's label. -/
theorem Entry.fault_tells (entry : Entry d) (mask : UInt64) (secondary : Option UInt64) :
    (entry.fault mask secondary).FailsWith (Tells (Identity.labels entry.identity)) := by
  cases d with
  | instruction =>
      simp only [Entry.fault, Instruction.Entry.fault]
      split
      · exact .ok _
      · exact .error (tells_of_label rfl rfl List.mem_cons_self)
  | memory =>
      have alone : (Memory.Entry.fault entry mask).FailsWith (Tells []) := by
        unfold Memory.Entry.fault
        split
        · exact .error (tells_of_quoted rfl rfl)
        · exact .ok _
      cases secondary with
      | none => exact alone
      | some s =>
          simp only [Entry.fault, Memory.Entry.doubleFault]
          split
          · exact .error (tells_of_quoted rfl rfl)
          · exact alone.bind fun single => .ok _

section Files

variable {path : String} (single : OneLine path)
include single

theorem Profile.append_tells (disk : Disk) (line : String) :
    (append disk path line).FailsWith (Tells []) := by
  unfold append
  split
  · exact .ok _
  · exact .error (tells_of_path rfl rfl single)
  · exact .error (tells_of_path rfl rfl single)

theorem Profile.load_tells (d : Domain) (disk : Disk) :
    (load d disk path).FailsWith (Tells []) := by
  unfold load ofFile
  split
  · exact .error (tells_of_path rfl rfl single)
  · exact FailsWith.mapM fun line _ => Entry.parse_tells d line

theorem Profile.find_tells (d : Domain) (disk : Disk) (sequence : UInt64) :
    (find d disk path sequence).FailsWith (Tells []) := by
  refine (load_tells single d disk).bind fun entries => ?_
  split
  · exact .ok _
  · exact .error (tells_of_path rfl rfl single)

theorem Outcome.load_tells (disk : Disk) : (load disk path).FailsWith (Tells []) := by
  unfold load ofFile
  split
  · exact .error (tells_of_path rfl rfl single)
  · refine (FailsWith.mapM fun line _ => ?_).bind fun fields => .ok _
    unfold splitLine
    split
    · exact .error (tells_of_quoted rfl rfl)
    · exact .ok _

theorem Outcome.save_tells (outcome : Outcome) (disk : Disk) :
    (outcome.save disk path).FailsWith (Tells []) := by
  unfold save
  split
  · exact .error (tells_of_path rfl rfl single)
  · exact .ok _

theorem PlanCell.fetch_tells (cell : PlanCell d) (disk : Disk) :
    (cell.fetch disk path).1.FailsWith (Tells []) := by
  unfold fetch
  split
  · exact .ok _
  · have loaded := Plan.load_tells (d := d) single disk
    split
    · rename_i refused
      exact .error (loaded _ refused)
    · exact .ok _

end Files

/-! ### Settings and contexts -/

theorem Domain.ofName_tells (name : String) : (ofName name).FailsWith (Tells [name]) := by
  unfold ofName
  split
  · exact .ok _
  · split
    · exact .ok _
    · exact .error (tells_of_label rfl rfl List.mem_cons_self)

theorem Mode.resolve_tells (value : Option String) : (resolve value).FailsWith (Tells []) := by
  unfold resolve
  split
  · exact .ok _
  · split
    · exact .ok _
    · exact .error (tells_of_quoted rfl rfl)

/-- The paths that settings give. -/
def Settings.paths (settings : Settings) : List String :=
  settings.profilePath.toList ++ settings.planPath.toList ++ settings.outcomePath.toList

namespace Settings

variable (settings : Settings)

theorem load_tells (disk : Disk) (path : String) : (load disk path).FailsWith (Tells []) := by
  unfold load
  split
  · exact .error (tells_of_quoted rfl rfl)
  · split
    · exact .error (tells_of_quoted rfl rfl)
    · exact .ok _

theorem mem_paths_of_profilePath {path : String} (h : settings.requireProfilePath = .ok path) :
    path ∈ settings.paths := by
  simp [paths, profilePath_of_require h]

theorem mem_paths_of_planPath {path : String} (h : settings.requirePlanPath = .ok path) :
    path ∈ settings.paths := by
  unfold requirePlanPath at h
  split at h
  · rename_i there
    cases h
    simp [paths, there]
  · cases h

theorem requireProfilePath_tells : settings.requireProfilePath.FailsWith (Tells []) := by
  unfold requireProfilePath
  split
  · exact .ok _
  · exact .error (tells_of_quoted rfl rfl)

theorem requirePlanPath_tells : settings.requirePlanPath.FailsWith (Tells []) := by
  unfold requirePlanPath
  split
  · exact .ok _
  · exact .error (tells_of_quoted rfl rfl)

theorem requireOutcomePath_tells : settings.requireOutcomePath.FailsWith (Tells []) := by
  unfold requireOutcomePath
  split
  · exact .ok _
  · exact .error (tells_of_quoted rfl rfl)

end Settings

theorem Memory.secondCell?_tells (number : UInt64) (fault : Fault .memory) (access : Access) :
    (secondCell? number fault access).FailsWith (Tells given) := by
  simp only [secondCell?]
  split
  · split
    · split
      · exact .error (tells_of_quoted rfl rfl)
      · exact .ok _
    · exact .error (tells_of_quoted rfl rfl)
  · exact .ok _

/-- A strike is refused with the label of the event, which is that of the fault. -/
theorem Fault.strike_tells (fault : Fault d) (number : UInt64) (event : Event d) :
    (fault.strike number event).FailsWith (Tells (Identity.labels event.identity)) := by
  cases d with
  | instruction =>
      simp only [strike, Instruction.strike]
      split
      · split
        · exact .error (tells_of_quoted rfl rfl)
        · exact .ok _
      · exact .error (tells_of_label rfl rfl List.mem_cons_self)
  | memory =>
      simp only [strike, Memory.strike]
      split
      · exact .error (tells_of_quoted rfl rfl)
      split
      · exact .error (tells_of_quoted rfl rfl)
      split
      · rename_i refused
        exact .error (Memory.secondCell?_tells number fault event _ refused)
      split
      · exact .error (tells_of_quoted rfl rfl)
      split
      · exact .error (tells_of_quoted rfl rfl)
      · exact .ok _

namespace Context

variable {context : Context d}

theorem plan_tells (single : ∀ path ∈ context.settings.paths, OneLine path) (disk : Disk) :
    (context.plan disk).1.FailsWith (Tells []) := by
  cases held : context.cell.plan? with
  | some plan =>
      cases outcomes : context.settings.outcomePath with
      | none =>
          rw [plan_of_no_outcomePath outcomes]
          exact .error (tells_of_quoted rfl rfl)
      | some path =>
          rw [plan_of_cell held outcomes]
          exact .ok _
  | none =>
      rw [plan_of_empty held]
      refine context.settings.requireOutcomePath_tells.bind fun outcomes => ?_
      refine context.settings.requirePlanPath_tells.bind_of_ok fun path there => ?_
      exact Plan.load_tells (single path (context.settings.mem_paths_of_planPath there)) disk

theorem attemptLog_tells (single : ∀ path ∈ context.settings.paths, OneLine path) (disk : Disk)
    (number : UInt64) (event : Event d) :
    (context.attemptLog disk number event).FailsWith (Tells []) := by
  refine context.settings.requireProfilePath_tells.bind_of_ok fun path there => ?_
  have named := context.settings.mem_paths_of_profilePath there
  exact Profile.append_tells (single path named) disk _

theorem hook_tells (single : ∀ path ∈ context.settings.paths, OneLine path) (disk : Disk)
    (event : Event d) :
    (context.hook disk (some event)).result.FailsWith
      (Tells (Identity.labels event.identity)) := by
  have served := context.hook_serves disk event
  generalize context.hook disk (some event) = reply at served
  cases served with
  | disabled | logged | spared | recorded => exact .ok _
  | invalid mode =>
      exact .error ((Mode.resolve_tells _ _ mode).mono (List.nil_subset _))
  | unlogged mode refused =>
      have told := attemptLog_tells single disk _ event _ refused
      exact .error (told.mono (List.nil_subset _))
  | unplanned mode refused =>
      have told := plan_tells single disk _ (congrArg Prod.fst refused)
      exact .error (told.mono (List.nil_subset _))
  | missed mode planned aimed refused => exact .error (Fault.strike_tells _ _ _ _ refused)
  | @unrecorded _ _ _ path _ _ _ _ outcomePath =>
      have named : path ∈ context.settings.paths := by simp [Settings.paths, outcomePath]
      exact .error (tells_of_path rfl rfl (single _ named))

end Context

end FaultReplay
