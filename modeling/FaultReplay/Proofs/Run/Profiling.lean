import FaultReplay.Proofs.Disk.Files
import FaultReplay.Proofs.Profile.Entries
import FaultReplay.Proofs.Run.Basic

/-!
# Profiling runs

A run that profiles into a file that takes bytes succeeds on every event, leaves the events alone
and adds to the file the lines of their entries, in order and under the numbers of their places.
-/

namespace FaultReplay

variable {d : Domain}

namespace Entry

/-- The entries of events that come after so many others. -/
def observed (n : Nat) (events : List (Event d)) : List (Entry d) :=
  (events.zipIdx (n + 1)).map fun (event, number) => .observe (UInt64.ofNat number) event

theorem observed_cons (n : Nat) (event : Event d) (events : List (Event d)) :
    observed n (event :: events) =
      .observe (UInt64.ofNat (n + 1)) event :: observed (n + 1) events := rfl

/-- Among the entries of fewer events than there are numbers, each is found by its number. -/
theorem find?_observed {events : List (Event d)} (short : events.length < UInt64.size)
    {event : Event d} {number : UInt64} (place : (event, number.toNat) ∈ events.zipIdx 1) :
    ((observed 0 events).find? fun entry => entry.sequence == number) =
      some (.observe number event) := by
  obtain ⟨i, hi, same⟩ := List.mem_iff_getElem.1 place
  simp only [List.length_zipIdx] at hi
  simp only [List.getElem_zipIdx, Prod.mk.injEq] at same
  have itself : UInt64.ofNat (1 + i) = number := by rw [same.2, UInt64.ofNat_toNat]
  rw [List.find?_eq_some_iff_getElem]
  refine ⟨by simp, i, by simpa [observed] using hi, by simp [observed, same.1, itself], ?_⟩
  -- An earlier entry has a smaller number, and no number wraps around.
  intro j hj
  have smaller : UInt64.ofNat (1 + j) ≠ number := by
    intro equal
    have numbers := congrArg UInt64.toNat equal
    rw [UInt64.toNat_ofNat_of_lt' (show 1 + j < UInt64.size by omega)] at numbers
    omega
  simpa [observed] using smaller

end Entry

namespace Session

/-- A session that profiles into a file that takes bytes, after so many events. -/
structure Profiling (session : Session d) (log : String) (n : Nat) : Prop where
  mode : session.context.mode = .ok .profile
  path : session.context.settings.profilePath = some log
  writable : session.disk.CanWrite log
  number : session.context.events = UInt64.ofNat n

variable {session : Session d} {log : String} {n : Nat}

/-- What profiling an event does. -/
theorem Profiling.reply (h : session.Profiling log n) (event : Event d) :
    ∃ longer : Disk, session.reply (some event) =
        ⟨.ok (), some event, session.context.numbered (UInt64.ofNat (n + 1)), longer⟩ ∧
      longer.read? log = some (session.disk.contents log ++
        ((Entry.observe (UInt64.ofNat (n + 1)) event).render ++ "\n").toUTF8) := by
  have next : session.context.events + 1 = UInt64.ofNat (n + 1) := by
    rw [h.number, UInt64.ofNat_add]
    rfl
  obtain ⟨longer, appended, held⟩ := Disk.append_of_canWrite h.writable
    ((Entry.observe (UInt64.ofNat (n + 1)) event).render ++ "\n").toUTF8
  refine ⟨longer, ?_, held⟩
  have logged : session.context.attemptLog session.disk (UInt64.ofNat (n + 1)) event =
      .ok longer := by
    simp only [Context.attemptLog, Settings.requireProfilePath, h.path, Except.ok_bind,
      Profile.append, appended]
  simp only [Session.reply, Context.hook, h.mode, Context.profile_eq, next, logged]

theorem Profiling.turn (h : session.Profiling log n) (event : Event d) :
    (session.turn (.report (some event))).Profiling log (n + 1) := by
  obtain ⟨longer, replied, held⟩ := h.reply event
  simp only [Session.turn, replied]
  exact ⟨h.mode, h.path, Disk.canWrite_of_read? held, rfl⟩

theorem Profiling.contents_turn (h : session.Profiling log n) (event : Event d) :
    (session.turn (.report (some event))).disk.contents log = session.disk.contents log ++
      ((Entry.observe (UInt64.ofNat (n + 1)) event).render ++ "\n").toUTF8 := by
  obtain ⟨longer, replied, held⟩ := h.reply event
  simp only [Session.turn, replied]
  exact Disk.contents_of_read? held

/-- Every event of a profiling run is answered without an error and goes on as it came. -/
theorem Profiling.seen_replies (h : session.Profiling log n) (events : List (Event d)) :
    (session.replies (Turn.reports events)).map Reply.seen =
      events.map fun event => (.ok (), some event) := by
  induction events generalizing session n with
  | nil => rfl
  | cons event events ih =>
      obtain ⟨longer, replied, -⟩ := h.reply event
      rw [Turn.reports_cons, replies_report, List.map_cons, List.map_cons, ih (h.turn event),
        replied]
      rfl

/-- After a profiling run the file holds what it held before and then the entries of the run. -/
theorem Profiling.contents_after (h : session.Profiling log n) (events : List (Event d)) :
    (session.after (Turn.reports events)).disk.contents log =
      session.disk.contents log ++ (Profile.text (Entry.observed n events)).toUTF8 := by
  induction events generalizing session n with
  | nil => simp [Entry.observed, Profile.text]
  | cons event events ih =>
      rw [Turn.reports_cons, after_cons, ih (h.turn event), h.contents_turn event,
        Entry.observed_cons, Profile.text, Profile.text, List.map_cons, String.join_cons]
      simp only [String.toUTF8_eq_toByteArray, String.toByteArray_append, ByteArray.append_assoc]

/-- The text of the file after a run with an event, if there was nothing in it before. -/
theorem Profiling.readText?_after (h : session.Profiling log n)
    (blank : session.disk.contents log = ByteArray.empty) {events : List (Event d)}
    (nonempty : events ≠ []) :
    (session.after (Turn.reports events)).disk.readText? log =
      some (Profile.text (Entry.observed n events)) := by
  have held := h.contents_after events
  rw [blank, ByteArray.empty_append] at held
  have written : Profile.text (Entry.observed n events) ≠ "" := by
    obtain ⟨event, rest, rfl⟩ := List.exists_cons_of_ne_nil nonempty
    rw [Entry.observed_cons, Profile.text]
    simp
  have full : (session.after (Turn.reports events)).disk.contents log ≠ ByteArray.empty := by
    rw [held]
    exact Text.toUTF8_ne_empty written
  rw [Disk.readText?_eq_some_iff, Disk.read?_eq_some_contents full, held]

/-- After a profiling run into a file without contents every event is found by its number. -/
theorem Profiling.find (h : session.Profiling log 0)
    (blank : session.disk.contents log = ByteArray.empty) {events : List (Event d)}
    (short : events.length < UInt64.size)
    (legible : ∀ event ∈ events, ∀ number, (Entry.observe number event).Legible)
    {event : Event d} {number : UInt64} (place : (event, number.toNat) ∈ events.zipIdx 1) :
    Profile.find d (session.after (Turn.reports events)).disk log number =
      .ok (.observe number event) := by
  have nonempty : events ≠ [] := by
    rintro rfl
    simp at place
  have all : ∀ entry ∈ Entry.observed 0 events, entry.Legible := by
    intro entry mem
    obtain ⟨⟨other, k⟩, placed, rfl⟩ := List.mem_map.1 mem
    exact legible other (List.fst_mem_of_mem_zipIdx placed) _
  rw [Profile.find, h.readText?_after blank nonempty, Profile.findIn, Profile.ofFile,
    Profile.parse_text all, Except.ok_bind, Entry.find?_observed short place]

end Session

end FaultReplay
