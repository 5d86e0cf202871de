import FaultReplay.Domain.Json
import FaultReplay.Json.Lemmas
import FaultReplay.Plan.Json
import FaultReplay.Profile.Json
import FaultReplay.Proofs.Disk.Files
import FaultReplay.Proofs.Json.Fields
import FaultReplay.Settings.Json

/-!
# Values that come back from JSON

Identities, faults, plans, entries, settings and domains are read back from the text of their JSON
values, whatever characters and numbers they hold. A list of faults that a text describes is taken
for a plan exactly if it makes one.
-/

namespace FaultReplay

open Json (Value)

variable {d : Domain}

/-! ### Texts -/

theorem Json.read_eq_some_iff {text : String} {value : Value} :
    read text = some value ↔ readFirst text = some (value, []) := by
  unfold read
  split
  · rename_i first alone
    rw [alone, Option.some.injEq, Option.some.injEq, Prod.mk.injEq, and_iff_left rfl]
  · rename_i other
    constructor
    · nofun
    · intro alone
      exact absurd alone (other value)

/-- A value that stands for something stands for it in its text too. -/
theorem Json.read_text_bind {α : Type} {decode : Value → Option α} {value : Value} {a : α}
    (back : decode value = some a) : (read value.text).bind decode = some a := by
  rw [read_text, Option.bind_some, back]

/-! ### Records -/

theorem Identity.ofJson?_toJson (identity : Identity d) :
    ofJson? d identity.toJson = some identity := by
  cases d with
  | instruction => simp [ofJson?, toJson]
  | memory => simp [ofJson?, toJson]

theorem Fault.ofJson?_toJson (fault : Fault d) : ofJson? d fault.toJson = some fault := by
  simp [ofJson?, toJson, fieldNames, Identity.ofJson?_toJson, Value.bool?]

theorem Instruction.Entry.ofJson?_toJson (entry : Entry) : ofJson? entry.toJson = some entry := by
  have registers : (entry.registers.map fun n => Value.ofNat n.toNat).mapM Value.uint64? =
      some entry.registers := Option.mapM_map_of_read fun n _ => Value.uint64?_ofNat n
  simp [ofJson?, toJson, Value.items?, registers]

theorem Memory.Entry.ofJson?_toJson (entry : Entry) : ofJson? entry.toJson = some entry := by
  simp [ofJson?, toJson]

theorem Entry.ofJson?_toJson (entry : Entry d) : ofJson? d entry.toJson = some entry := by
  cases d with
  | instruction => exact Instruction.Entry.ofJson?_toJson entry
  | memory => exact Memory.Entry.ofJson?_toJson entry

theorem Settings.ofJson?_toJson (settings : Settings) :
    ofJson? settings.toJson = some settings := by
  simp [ofJson?, toJson, fieldNames]

theorem Settings.load_of_text {settings : Settings} {disk : Disk} {path : String}
    (held : disk.readText? path = some settings.toJson.text) :
    load disk path = .ok settings := by
  simp only [load, held, Json.read_text_bind settings.ofJson?_toJson]

/-! ### Plans -/

theorem Fault.listOfJson?_map (faults : List (Fault d)) :
    listOfJson? d (.array (faults.map toJson)) = some faults :=
  Option.mapM_map_of_read fun fault _ => fault.ofJson?_toJson

theorem Plan.listOfJson?_toJson (plan : Plan d) :
    Fault.listOfJson? d plan.toJson = some plan.faults :=
  Fault.listOfJson?_map plan.faults

/-- A text that describes a list of faults and nothing else is a plan as the list is, and refused
for the same reason. -/
theorem Plan.ofJsonText_eq {text : String} {faults : List (Fault d)}
    (described : (Json.read text).bind (Fault.listOfJson? d) = some faults) :
    ofJsonText d text = (ofFaults faults).mapError .rejected := by
  obtain ⟨value, read, listed⟩ := Option.bind_eq_some_iff.1 described
  simp only [ofJsonText, Json.read_eq_some_iff.1 read, listed]
  cases ofFaults faults with
  | error e => rfl
  | ok plan => rfl

theorem Plan.ofJsonText_toJson (plan : Plan d) : ofJsonText d plan.toJson.text = .ok plan := by
  rw [ofJsonText_eq (Json.read_text_bind plan.listOfJson?_toJson), ofFaults_faults]
  rfl

/-- Identities, faults, plans, entries, settings and domains come back from their JSON text, and the
text of a list of faults is taken for a plan exactly if the list makes one. -/
theorem json_round_trip :
    (∀ (d : Domain) (plan : Plan d),
      (Json.read plan.toJson.text).bind (Fault.listOfJson? d) = some plan.faults ∧
        Plan.ofFaults plan.faults = .ok plan ∧ Plan.ofJsonText d plan.toJson.text = .ok plan) ∧
    (∀ (d : Domain) (fault : Fault d),
      (Json.read fault.toJson.text).bind (Fault.ofJson? d) = some fault) ∧
    (∀ (d : Domain) (identity : Identity d),
      (Json.read identity.toJson.text).bind (Identity.ofJson? d) = some identity) ∧
    (∀ (d : Domain) (entry : Entry d),
      (Json.read entry.toJson.text).bind (Entry.ofJson? d) = some entry) ∧
    (∀ settings : Settings,
      (Json.read settings.toJson.text).bind Settings.ofJson? = some settings ∧
        ∀ disk path, disk.readText? path = some settings.toJson.text →
          Settings.load disk path = .ok settings) ∧
    (∀ d : Domain, (Json.read d.toJson.text).bind Domain.ofJson? = some d) ∧
    ∀ (d : Domain) (text : String) (faults : List (Fault d)),
      (Json.read text).bind (Fault.listOfJson? d) = some faults →
      (∀ plan, Plan.ofJsonText d text = .ok plan ↔ Plan.ofFaults faults = .ok plan) ∧
        (∀ plan, Plan.ofJsonText d text = .ok plan → plan.faults = faults) ∧
        ∀ refusal, Plan.ofJsonText d text = .error refusal ↔
          ∃ e, refusal = .rejected e ∧ Plan.ofFaults faults = .error e := by
  refine ⟨?_, ?_, ?_, ?_, ?_, ?_, ?_⟩
  · intro d plan
    exact ⟨Json.read_text_bind plan.listOfJson?_toJson, plan.ofFaults_faults,
      plan.ofJsonText_toJson⟩
  · exact fun d fault => Json.read_text_bind fault.ofJson?_toJson
  · exact fun d identity => Json.read_text_bind identity.ofJson?_toJson
  · exact fun d entry => Json.read_text_bind entry.ofJson?_toJson
  · exact fun settings => ⟨Json.read_text_bind settings.ofJson?_toJson,
      fun disk path held => Settings.load_of_text held⟩
  · exact fun d => Json.read_text_bind d.ofJson?_toJson
  · intro d text faults described
    rw [Plan.ofJsonText_eq described]
    cases made : Plan.ofFaults faults with
    | error e => simp [Except.mapError, eq_comm]
    | ok plan =>
        have same := Plan.faults_of_ofFaults made
        simp [Except.mapError, same]

/-- A label that is all escapes and a character beyond the first plane comes back, a second offset
of zero stays one, and settings come back from a file. A fault given twice is refused for itself. -/
theorem json_round_trip_escapes :
    ∃ (named : Plan .instruction) (single zero : Fault .memory) (settings : Settings) (disk : Disk)
      (twice : Value),
      named.faults.map (fun fault => fault.identity.label) = ["\"\\\x00\r\n😀"] ∧
      Plan.ofJsonText .instruction named.toJson.text = .ok named ∧
      single.secondary = none ∧ zero = { single with secondary := some 0 } ∧
      (Json.read single.toJson.text).bind (Fault.ofJson? .memory) = some single ∧
      (Json.read zero.toJson.text).bind (Fault.ofJson? .memory) = some zero ∧
      Settings.load disk "settings.json" = .ok settings ∧
      (Json.read twice.text).bind (Fault.listOfJson? .memory) = some [single, single] ∧
      Plan.ofJsonText .memory twice.text =
        .error (.rejected (.ambiguousPlan 1 (Identity.describe single.identity))) := by
  let named : Plan .instruction :=
    ⟨[{ trigger := 18446744073709551615, identity := ⟨0, "\"\\\x00\r\n😀"⟩, mask := 16,
        expected := 3 }], by decide, by decide, by decide⟩
  let single : Fault .memory := { trigger := 1, identity := ⟨0, 1, 2⟩, mask := 1, expected := 6 }
  let zero : Fault .memory := { single with secondary := some 0 }
  let settings : Settings := { mode := some "\t", planPath := some "😀/plan" }
  let disk : Disk :=
    Disk.empty.put ⟨false, ["settings.json"]⟩ (.file settings.toJson.text.toUTF8)
  let twice : Value := .array [single.toJson, single.toJson]
  have described : (Json.read twice.text).bind (Fault.listOfJson? .memory) =
      some [single, single] :=
    Json.read_text_bind (Fault.listOfJson?_map [single, single])
  obtain ⟨plans, faults, -, -, configured, -, lists⟩ := json_round_trip
  refine ⟨named, single, zero, settings, disk, twice, rfl, (plans _ named).2.2, rfl, rfl,
    faults _ single, faults _ zero, ?_, described, ?_⟩
  · have held : disk.readText? "settings.json" = some settings.toJson.text :=
      Disk.readText?_eq_some_iff.2 (Disk.read?_put_file (by decide +kernel) (by decide))
    exact (configured settings).2 disk "settings.json" held
  · exact ((lists .memory twice.text [single, single] described).2.2 _).2 ⟨_, rfl, rfl⟩

end FaultReplay
