import FaultReplay.Proofs.Context.Serving
import FaultReplay.Proofs.Disk.Agreement

/-!
# The files of a context

By its mode and settings a context has one file at most that it writes, a log or an outcome, and one
at most that it reads, the plan. A report changes no file but the first of them.
-/

namespace FaultReplay

variable {d : Domain}

namespace Settings

/-- The file that is written with these settings. -/
def target? (settings : Settings) : Option String :=
  match settings.resolveMode with
  | .ok .profile => settings.profilePath
  | .ok .inject => settings.outcomePath
  | _ => none

/-- The file that is read with these settings. No plan is read that has no path for its outcomes. -/
def origin? (settings : Settings) : Option String :=
  match settings.resolveMode with
  | .ok .inject => settings.outcomePath.bind fun _ => settings.planPath
  | _ => none

/-- A place that is written with these settings: the path of the file leads there, and it takes
bytes. -/
def Writes (settings : Settings) (disk : Disk) (place : Disk.Place) : Prop :=
  ∃ path, settings.target? = some path ∧ disk.locate path = some place ∧ disk.Takes place

/-- A place that is read with these settings. -/
def Reads (settings : Settings) (disk : Disk) (place : Disk.Place) : Prop :=
  ∃ path, settings.origin? = some path ∧ disk.locate path = some place

variable {settings : Settings} {one two : Disk} {places : Disk.Place → Prop}

theorem profilePath_of_require {path : String} (h : settings.requireProfilePath = .ok path) :
    settings.profilePath = some path := by
  unfold requireProfilePath at h
  split at h
  · cases h
    assumption
  · cases h

theorem target?_of_profile (mode : settings.resolveMode = .ok .profile) :
    settings.target? = settings.profilePath := by
  rw [target?, mode]

theorem target?_of_inject (mode : settings.resolveMode = .ok .inject) :
    settings.target? = settings.outcomePath := by
  rw [target?, mode]

theorem origin?_of_inject {outcomes : String} (mode : settings.resolveMode = .ok .inject)
    (outcomesAt : settings.outcomePath = some outcomes) :
    settings.origin? = settings.planPath := by
  rw [origin?, mode]
  simp only [outcomesAt, Option.bind_some]

/-- Disks with the same directories and full devices have the same places to write. -/
theorem writes_iff (near : one.AgreeOn places two) (place : Disk.Place) :
    settings.Writes one place ↔ settings.Writes two place := by
  simp only [Writes, near.locate_eq, near.takes_iff place]

theorem reads_iff (near : one.AgreeOn places two) (place : Disk.Place) :
    settings.Reads one place ↔ settings.Reads two place := by
  simp only [Reads, near.locate_eq]

end Settings

namespace Context

/-- An event is logged by appending its line to the file that the settings have for it. -/
theorem append_of_attemptLog {context : Context d} {disk longer : Disk} {number : UInt64}
    {event : Event d} (logged : context.attemptLog disk number event = .ok longer) :
    ∃ log, context.settings.profilePath = some log ∧
      disk.append log ((Entry.observe number event).render ++ "\n").toUTF8 = .ok longer := by
  obtain ⟨log, named, appended⟩ := Except.exists_of_bind_eq_ok logged
  have path := Settings.profilePath_of_require named
  unfold Profile.append at appended
  split at appended
  · rename_i done
    cases appended
    exact ⟨log, path, done⟩
  · cases appended
  · cases appended

/-- A report changes no other place than those that the settings have for writing. -/
theorem agreeOn_hook (context : Context d) (disk : Disk) (event : Event d) :
    disk.AgreeOn (fun place => ¬ context.settings.Writes disk place)
      (context.hook disk (some event)).disk := by
  have served := context.hook_serves disk event
  generalize context.hook disk (some event) = reply at served
  cases served with
  | logged mode logged =>
      obtain ⟨log, path, appended⟩ := append_of_attemptLog logged
      have target := (Settings.target?_of_profile mode).trans path
      exact .of_append appended fun place there takes spared => spared ⟨log, target, there, takes⟩
  | @recorded _ _ _ path _ mode _ _ _ outcomePath saved =>
      have target := (Settings.target?_of_inject mode).trans outcomePath
      exact .of_write? saved fun place there takes spared => spared ⟨path, target, there, takes⟩
  | _ => exact .refl disk

end Context

end FaultReplay
