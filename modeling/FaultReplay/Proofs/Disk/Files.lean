import FaultReplay.Disk.Basic
import FaultReplay.Proofs.Text.Reading

/-!
# Files that are written

Writing a file moves no directory, so a path leads to the same place afterwards and what was
written is what is read next. A path takes bytes exactly if its directory exists and neither a
directory nor a full device stands at its end.
-/

namespace FaultReplay.Disk

variable {disk changed : Disk} {path : String} {bytes : ByteArray} {place : Place}

/-- A place where bytes can be put: neither a directory nor a full device is there. -/
def Takes (disk : Disk) (place : Place) : Prop :=
  disk.node? place ≠ some .directory ∧ disk.node? place ≠ some .fullDevice

/-- A path that takes bytes: it leads to a file or to a free place in a directory. -/
def CanWrite (disk : Disk) (path : String) : Prop :=
  ∃ place, disk.locate path = some place ∧
    (disk.node? place = none ∨ ∃ bytes, disk.node? place = some (.file bytes))

/-- A path that leads to a free place in a directory. -/
def IsVacant (disk : Disk) (path : String) : Prop :=
  ∃ place, disk.locate path = some place ∧ disk.node? place = none

/-- What the file of a path holds, nothing if there is no file. -/
def contents (disk : Disk) (path : String) : ByteArray :=
  (disk.read? path).getD ByteArray.empty

theorem IsVacant.canWrite (h : disk.IsVacant path) : disk.CanWrite path := by
  obtain ⟨place, hl, hn⟩ := h
  exact ⟨place, hl, Or.inl hn⟩

theorem IsVacant.contents_eq (h : disk.IsVacant path) :
    disk.contents path = ByteArray.empty := by
  obtain ⟨place, hl, hn⟩ := h
  simp [contents, read?, hl, hn]

/-- A file is read as a text exactly if it holds the bytes of that text. -/
theorem readText?_eq_some_iff {text : String} :
    disk.readText? path = some text ↔ disk.read? path = some text.toUTF8 := by
  simp only [readText?, Option.bind_eq_some_iff, Text.fromUTF8?_eq_some_iff, exists_eq_right]

/-! ### Places -/

theorem takes_iff_node? :
    disk.Takes place ↔
      disk.node? place = none ∨ ∃ bytes, disk.node? place = some (.file bytes) := by
  unfold Takes
  cases disk.node? place with
  | none => simp
  | some node => cases node <;> simp

theorem not_takes_iff :
    ¬ disk.Takes place ↔
      disk.node? place = some .directory ∨ disk.node? place = some .fullDevice := by
  rw [Takes, Decidable.not_and_iff_or_not, Decidable.not_not, Decidable.not_not]

theorem Takes.names_ne_nil (h : disk.Takes place) : place.names ≠ [] :=
  fun root => h.1 (by simp [node?, root])

theorem write?_of_takes (there : disk.locate path = some place) (takes : disk.Takes place)
    (bytes : ByteArray) : disk.write? path bytes = some (disk.put place (.file bytes)) := by
  simp only [write?, there, Option.bind_some]
  split
  · exact absurd ‹_› takes.1
  · exact absurd ‹_› takes.2
  · rfl

theorem append_of_takes (there : disk.locate path = some place) (takes : disk.Takes place)
    (bytes : ByteArray) :
    disk.append path bytes = .ok (disk.put place (.file (disk.contents path ++ bytes))) := by
  simp only [append, there]
  split
  · exact absurd ‹_› takes.1
  · exact absurd ‹_› takes.2
  · rename_i before held
    simp [contents, read?, there, held]
  · rename_i free
    simp [contents, read?, there, free]

/-- A write that succeeds puts its bytes at the place of the path, unless it has none to put. -/
theorem cases_of_write? (written : disk.write? path bytes = some changed) :
    (∃ place, disk.locate path = some place ∧ disk.Takes place ∧
      disk.put place (.file bytes) = changed) ∨ bytes.isEmpty ∧ disk = changed := by
  cases there : disk.locate path with
  | none => simp [write?, there] at written
  | some place =>
      by_cases takes : disk.Takes place
      · rw [write?_of_takes there takes] at written
        exact Or.inl ⟨place, rfl, takes, Option.some.inj written⟩
      · rcases not_takes_iff.1 takes with held | held
        · simp [write?, there, held] at written
        · right
          simpa [write?, there, held] using written

/-- An append that succeeds puts the bytes after what the file of the path holds, unless it has none
to put. -/
theorem cases_of_append (appended : disk.append path bytes = .ok changed) :
    (∃ place, disk.locate path = some place ∧ disk.Takes place ∧
      disk.put place (.file (disk.contents path ++ bytes)) = changed) ∨
      bytes.isEmpty ∧ disk = changed := by
  cases there : disk.locate path with
  | none => simp [append, there] at appended
  | some place =>
      by_cases takes : disk.Takes place
      · rw [append_of_takes there takes] at appended
        exact Or.inl ⟨place, rfl, takes, Except.ok.inj appended⟩
      · rcases not_takes_iff.1 takes with held | held
        · simp [append, there, held] at appended
        · right
          simp only [append, there, held] at appended
          split at appended
          · rename_i none
            exact ⟨none, Except.ok.inj appended⟩
          · cases appended

theorem node?_of_read? (there : disk.locate path = some place)
    (read : disk.read? path = some bytes) : disk.node? place = some (.file bytes) := by
  simp only [read?, there, Option.bind_some] at read
  split at read
  · cases read
    assumption
  · cases read

/-! ### Paths -/

/-- A path never ends at a starting place, which is a directory and no file. -/
theorem names_ne_nil_of_follow {start : Place} {components : List String}
    (h : disk.follow start components = some place) : place.names ≠ [] := by
  fun_induction follow disk start components with
  | case1 => cases h
  | case2 => cases h
  | case3 start name =>
      cases h
      simp [Place.child]
  | case4 _ _ _ _ _ ih => exact ih h
  | case5 => cases h
  | case6 _ _ _ _ _ ih => exact ih h
  | case7 _ _ _ _ _ _ _ ih => exact ih h
  | case8 => cases h

theorem names_ne_nil_of_locate (h : disk.locate path = some place) : place.names ≠ [] := by
  unfold locate at h
  split at h
  · exact names_ne_nil_of_follow h
  · cases h

/-- Where a path leads depends on the directories alone. -/
theorem follow_congr {other : Disk}
    (same : ∀ place, other.node? place = some .directory ↔ disk.node? place = some .directory)
    (start : Place) (components : List String) :
    other.follow start components = disk.follow start components := by
  fun_induction follow disk start components with
  | case1 => rfl
  | case2 _ _ bad => simp only [follow, if_pos bad]
  | case3 _ _ good => simp only [follow, if_neg good]
  | case4 _ _ _ more here ih => rw [follow.eq_3 _ _ _ _ more, if_pos here, ih]
  | case5 _ _ more out here =>
      rw [follow.eq_3 _ _ _ _ more, if_neg here, if_pos rfl, if_pos out]
  | case6 _ _ more out here ih =>
      rw [follow.eq_3 _ _ _ _ more, if_neg here, if_pos rfl, if_neg out, ih]
  | case7 _ _ _ more here up down ih =>
      rw [follow.eq_3 _ _ _ _ more, if_neg here, if_neg up, if_pos ((same _).2 down), ih]
  | case8 _ _ _ more here up down =>
      rw [follow.eq_3 _ _ _ _ more, if_neg here, if_neg up, if_neg (mt (same _).1 down)]

/-- A file put where no directory is leaves the directories as they are. -/
theorem node?_put_file_eq_directory_iff (h : disk.node? place ≠ some .directory)
    (other : Place) :
    (disk.put place (.file bytes)).node? other = some .directory ↔
      disk.node? other = some .directory := by
  by_cases same : other = place
  · subst same
    have inner : other.names ≠ [] := fun root => h (by simp [node?, root])
    simp [node?_put_same _ inner, h]
  · rw [node?_put_other _ same]

theorem locate_put_file (h : disk.node? place ≠ some .directory) (path : String) :
    (disk.put place (.file bytes)).locate path = disk.locate path := by
  simp only [locate, follow_congr (node?_put_file_eq_directory_iff h)]

/-! ### Reading what was written -/

theorem read?_put_file (hl : disk.locate path = some place)
    (hn : disk.node? place ≠ some .directory) :
    (disk.put place (.file bytes)).read? path = some bytes := by
  simp [read?, locate_put_file hn, hl, node?_put_same _ (names_ne_nil_of_locate hl)]

theorem canWrite_put_file (hn : disk.node? place ≠ some .directory) (h : disk.CanWrite path) :
    (disk.put place (.file bytes)).CanWrite path := by
  obtain ⟨end_, hl, hw⟩ := h
  refine ⟨end_, by rw [locate_put_file hn, hl], ?_⟩
  by_cases same : end_ = place
  · subst same
    exact Or.inr ⟨bytes, node?_put_same _ (names_ne_nil_of_locate hl) _⟩
  · rw [node?_put_other _ same]
    exact hw

/-- A path that can be read can be written. -/
theorem canWrite_of_read? (h : disk.read? path = some bytes) : disk.CanWrite path := by
  cases there : disk.locate path with
  | none => simp [read?, there] at h
  | some place => exact ⟨place, there, Or.inr ⟨bytes, node?_of_read? there h⟩⟩

/-- Some bytes are written exactly where a path takes them, and then they are what it holds. -/
theorem write?_eq_some_iff (nonempty : bytes ≠ ByteArray.empty) :
    disk.write? path bytes = some changed ↔
      ∃ place, disk.locate path = some place ∧
        (disk.node? place = none ∨ ∃ before, disk.node? place = some (.file before)) ∧
        disk.put place (.file bytes) = changed := by
  have full : bytes.isEmpty = false := by
    simp [ByteArray.isEmpty, ByteArray.size_eq_zero_iff, nonempty]
  cases hl : disk.locate path with
  | none => simp [write?, hl]
  | some place =>
      cases hn : disk.node? place with
      | none => simp [write?, hl, hn]
      | some node =>
          cases node <;> simp [write?, hl, hn, full]

theorem read?_of_write? (nonempty : bytes ≠ ByteArray.empty)
    (h : disk.write? path bytes = some changed) : changed.read? path = some bytes := by
  obtain ⟨place, hl, hw, rfl⟩ := (write?_eq_some_iff nonempty).1 h
  apply read?_put_file hl
  rcases hw with hw | ⟨before, hw⟩ <;> simp [hw]

theorem isSome_write?_iff (nonempty : bytes ≠ ByteArray.empty) :
    (disk.write? path bytes).isSome ↔ disk.CanWrite path := by
  simp only [Option.isSome_iff_exists, write?_eq_some_iff nonempty, CanWrite]
  constructor
  · rintro ⟨_, place, hl, hw, -⟩
    exact ⟨place, hl, hw⟩
  · rintro ⟨place, hl, hw⟩
    exact ⟨_, place, hl, hw, rfl⟩

/-- What is appended to a path that takes bytes comes after what its file held. -/
theorem append_of_canWrite (h : disk.CanWrite path) (bytes : ByteArray) :
    ∃ changed, disk.append path bytes = .ok changed ∧
      changed.read? path = some (disk.contents path ++ bytes) := by
  obtain ⟨place, there, free⟩ := h
  have takes := takes_iff_node?.2 free
  exact ⟨_, append_of_takes there takes bytes, read?_put_file there takes.1⟩

theorem contents_of_read? (h : disk.read? path = some bytes) : disk.contents path = bytes := by
  rw [contents, h, Option.getD_some]

/-- What is appended comes after what the file held. -/
theorem contents_of_append (appended : disk.append path bytes = .ok changed) :
    changed.contents path = disk.contents path ++ bytes := by
  rcases cases_of_append appended with ⟨place, there, takes, rfl⟩ | ⟨none, rfl⟩
  · exact contents_of_read? (read?_put_file there takes.1)
  · have empty : bytes = ByteArray.empty := by
      simpa [ByteArray.isEmpty, ByteArray.size_eq_zero_iff] using none
    rw [empty, ByteArray.append_empty]

/-- Where a path holds something, there is a file to read. -/
theorem read?_eq_some_contents (h : disk.contents path ≠ ByteArray.empty) :
    disk.read? path = some (disk.contents path) := by
  cases held : disk.read? path with
  | none => simp [contents, held] at h
  | some bytes => rw [contents_of_read? held]

end FaultReplay.Disk
