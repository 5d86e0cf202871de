import FaultReplay.Proofs.Disk.Files
import Mathlib.Data.Option.Basic

/-!
# Disks that agree

Where a path leads depends on the directories, and whether bytes can be put there on the devices
that refuse them. Disks that have both in common answer every write alike, whatever their files
hold; so if they also agree on the files of some places, they still do after the same writes.
-/

/-- Computations that fail with the same error or succeed with related results. -/
inductive Except.Rel {ε α β : Type} (R : α → β → Prop) : Except ε α → Except ε β → Prop
  | error (e : ε) : Rel R (.error e) (.error e)
  | ok {a : α} {b : β} (h : R a b) : Rel R (.ok a) (.ok b)

namespace FaultReplay.Disk

/-- A relation between disks that writing the same bytes to the same path keeps. -/
structure Congruence (R : Disk → Disk → Prop) : Prop where
  write {one two : Disk} (near : R one two) (path : String) (bytes : ByteArray) :
    Option.Rel R (one.write? path bytes) (two.write? path bytes)
  append {one two : Disk} (near : R one two) (path : String) (bytes : ByteArray) :
    Except.Rel R (one.append path bytes) (two.append path bytes)

theorem congruence_eq : Congruence Eq where
  write := by
    rintro disk _ rfl path bytes
    cases disk.write? path bytes with
    | none => exact .none
    | some written => exact .some rfl
  append := by
    rintro disk _ rfl path bytes
    cases disk.append path bytes with
    | error e => exact .error e
    | ok longer => exact .ok rfl

/-- Disks with the same directories and the same full devices, and with the same files at some
places. -/
structure AgreeOn (places : Place → Prop) (one two : Disk) : Prop where
  directory (place : Place) :
    one.node? place = some .directory ↔ two.node? place = some .directory
  fullDevice (place : Place) :
    one.node? place = some .fullDevice ↔ two.node? place = some .fullDevice
  file {place : Place} (own : places place) : one.node? place = two.node? place

variable {one two three disk : Disk} {places fewer : Place → Prop} {place : Place}
  {path : String}

namespace AgreeOn

theorem refl (disk : Disk) : disk.AgreeOn places disk :=
  ⟨fun _ => Iff.rfl, fun _ => Iff.rfl, fun _ => rfl⟩

theorem trans (h : one.AgreeOn places two) (next : two.AgreeOn places three) :
    one.AgreeOn places three :=
  ⟨fun place => (h.directory place).trans (next.directory place),
    fun place => (h.fullDevice place).trans (next.fullDevice place),
    fun own => (h.file own).trans (next.file own)⟩

theorem mono (h : one.AgreeOn places two) (part : ∀ place, fewer place → places place) :
    one.AgreeOn fewer two :=
  ⟨h.directory, h.fullDevice, fun own => h.file (part _ own)⟩

/-! ### What agreement decides -/

theorem locate_eq (h : one.AgreeOn places two) (path : String) :
    one.locate path = two.locate path := by
  simp only [locate, follow_congr h.directory]

theorem takes_iff (h : one.AgreeOn places two) (place : Place) :
    one.Takes place ↔ two.Takes place :=
  and_congr (not_congr (h.directory place)) (not_congr (h.fullDevice place))

theorem canWrite_iff (h : one.AgreeOn places two) (path : String) :
    one.CanWrite path ↔ two.CanWrite path := by
  simp only [CanWrite, ← takes_iff_node?, h.locate_eq path, h.takes_iff]

/-- A path that leads to a place of agreement, or nowhere, is read alike. -/
theorem read?_eq (h : one.AgreeOn places two)
    (own : ∀ place, one.locate path = some place → places place) :
    one.read? path = two.read? path := by
  unfold read?
  rw [← h.locate_eq path]
  cases there : one.locate path with
  | none => rfl
  | some place => simp only [Option.bind_some, h.file (own place there)]

theorem readText?_eq (h : one.AgreeOn places two)
    (own : ∀ place, one.locate path = some place → places place) :
    one.readText? path = two.readText? path :=
  congrArg (Option.bind · String.fromUTF8?) (h.read?_eq own)

/-- Where both disks have the same file, they agree as well. -/
theorem of_read? {bytes : ByteArray} (h : one.AgreeOn places two)
    (read : one.read? path = some bytes) (readToo : two.read? path = some bytes) :
    one.AgreeOn (fun place => one.locate path = some place) two := by
  refine ⟨h.directory, h.fullDevice, fun {place} there => ?_⟩
  have thereToo := (h.locate_eq path).symm.trans there
  rw [node?_of_read? there read, node?_of_read? thereToo readToo]

/-! ### Files that are put -/

/-- Files may be put at one place of both disks. What they hold has to be the same only if the
disks are to agree there. -/
theorem put_file (h : one.AgreeOn places two) (takes : one.Takes place) {bytes other : ByteArray}
    (same : places place → bytes = other) :
    (one.put place (.file bytes)).AgreeOn places (two.put place (.file other)) := by
  have takesToo := (h.takes_iff place).1 takes
  refine ⟨fun at_ => ?_, fun at_ => ?_, fun {at_} own => ?_⟩
  · rw [node?_put_file_eq_directory_iff takes.1, node?_put_file_eq_directory_iff takesToo.1]
    exact h.directory at_
  · by_cases here : at_ = place
    · subst here
      simp [node?_put_same _ takes.names_ne_nil]
    · simpa only [node?_put_other _ here] using h.fullDevice at_
  · by_cases here : at_ = place
    · subst here
      rw [node?_put_same _ takes.names_ne_nil, node?_put_same _ takes.names_ne_nil, same own]
    · simpa only [node?_put_other _ here] using h.file own

/-- Writes keep disks in agreement: they succeed on both or on neither, and put the same bytes. -/
theorem congruence (places : Place → Prop) : Congruence (AgreeOn places) where
  write := by
    intro one two near path bytes
    cases there : one.locate path with
    | none =>
        have thereToo := (near.locate_eq path).symm.trans there
        simp only [write?, there, thereToo, Option.bind_none]
        exact .none
    | some place =>
        have thereToo := (near.locate_eq path).symm.trans there
        by_cases takes : one.Takes place
        · rw [write?_of_takes there takes,
            write?_of_takes thereToo ((near.takes_iff place).1 takes)]
          exact .some (near.put_file takes fun _ => rfl)
        · rcases not_takes_iff.1 takes with held | held
          · simp only [write?, there, thereToo, Option.bind_some, held,
              (near.directory place).1 held]
            exact .none
          · simp only [write?, there, thereToo, Option.bind_some, held,
              (near.fullDevice place).1 held]
            split
            · exact .some near
            · exact .none
  append := by
    intro one two near path bytes
    cases there : one.locate path with
    | none =>
        have thereToo := (near.locate_eq path).symm.trans there
        simp only [append, there, thereToo]
        exact .error _
    | some place =>
        have thereToo := (near.locate_eq path).symm.trans there
        by_cases takes : one.Takes place
        · rw [append_of_takes there takes,
            append_of_takes thereToo ((near.takes_iff place).1 takes)]
          refine .ok (near.put_file takes fun own => ?_)
          have held : one.read? path = two.read? path := by
            apply near.read?_eq
            intro other same
            cases there.symm.trans same
            exact own
          rw [contents, contents, held]
        · rcases not_takes_iff.1 takes with held | held
          · simp only [append, there, thereToo, held, (near.directory place).1 held]
            exact .error _
          · simp only [append, there, thereToo, held, (near.fullDevice place).1 held]
            split
            · exact .ok near
            · exact .error _

/-- A file that is put changes its own place alone. -/
theorem put_file_right (takes : disk.Takes place) (outside : ¬ places place)
    (bytes : ByteArray) : disk.AgreeOn places (disk.put place (.file bytes)) := by
  refine ⟨fun at_ => ?_, fun at_ => ?_, fun {at_} own => ?_⟩
  · exact (node?_put_file_eq_directory_iff takes.1 at_).symm
  · by_cases here : at_ = place
    · subst here
      simp [node?_put_same _ takes.names_ne_nil, takes.2]
    · rw [node?_put_other _ here]
  · have elsewhere : at_ ≠ place := fun here => outside (here ▸ own)
    rw [node?_put_other _ elsewhere]

/-- What is written changes the place of its path alone. -/
theorem of_write? {bytes : ByteArray} {changed : Disk}
    (written : disk.write? path bytes = some changed)
    (outside : ∀ place, disk.locate path = some place → disk.Takes place → ¬ places place) :
    disk.AgreeOn places changed := by
  rcases cases_of_write? written with ⟨place, there, takes, rfl⟩ | ⟨-, rfl⟩
  · exact put_file_right takes (outside place there takes) bytes
  · exact refl disk

theorem of_append {bytes : ByteArray} {changed : Disk}
    (appended : disk.append path bytes = .ok changed)
    (outside : ∀ place, disk.locate path = some place → disk.Takes place → ¬ places place) :
    disk.AgreeOn places changed := by
  rcases cases_of_append appended with ⟨place, there, takes, rfl⟩ | ⟨-, rfl⟩
  · exact put_file_right takes (outside place there takes) _
  · exact refl disk

end AgreeOn

end FaultReplay.Disk
