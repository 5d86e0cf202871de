import FaultReplay.Text.Quoted

/-!
# Errors

Every error is fatal for the simulated run. An error is its cause; the kind, the message and the
line an experiment driver scans for are functions of it. The place an error was raised at is not
part of it and is handed to the functions that print it.
-/

namespace FaultReplay

/-- The category of an error. -/
inductive ErrorKind where
  | configuration
  | bounds
  | consistency
  | unsupportedCase
  deriving DecidableEq, Repr

/-- The name of the category. -/
def ErrorKind.name : ErrorKind → String
  | configuration => "configuration"
  | bounds => "bounds"
  | consistency => "consistency"
  | unsupportedCase => "unsupported case"

/-- The category as the head of a printed error. -/
def ErrorKind.heading : ErrorKind → String
  | configuration => "Configuration error"
  | bounds => "Bounds error"
  | consistency => "Consistency error"
  | unsupportedCase => "Unsupported case"

/-- The causes of errors. -/
inductive Error where
  /-- A domain's name is not known. -/
  | unknownDomain (name : String)
  /-- A configured mode is not known. -/
  | unknownMode (value : String)
  /-- The settings file cannot be read as text. -/
  | settingsUnreadable (path : String)
  /-- The settings file does not hold settings. The parser's reason comes after the message and is
  not kept. -/
  | settingsMalformed (path : String)
  /-- A profiled event has nowhere to go. -/
  | noProfilePath
  /-- The plan is needed and has no path. -/
  | noPlanPath
  /-- An outcome would have nowhere to go. -/
  | noOutcomePath
  /-- A numeric field is not a number of 64 bits. -/
  | badNumber (name field : String) (problem : Numeral.Problem)
  /-- A flag is none of its four spellings. -/
  | badFlag (name field : String)
  /-- A field for a byte holds more than a byte. -/
  | wideField (name field : String)
  /-- A value of a memory fault is more than a byte. -/
  | wideValue (name : String) (value trigger : UInt64)
  /-- An instruction record has the wrong number of fields. -/
  | instructionRecordLength (expected count : Nat)
  /-- A memory record has the wrong number of fields. -/
  | memoryRecordLength (expected count : Nat)
  /-- An instruction fault asks for a second cell. -/
  | multiCellInstruction (trigger : UInt64)
  /-- A multi-cell fault does not say where its second cell is. -/
  | noSecondaryOffset (trigger : UInt64)
  /-- A plan has more faults than a run may carry. -/
  | planTooLong (count capacity : Nat)
  /-- The text of a plan has no words. -/
  | planEmpty
  /-- The text of a plan has more or fewer fields than its count asks for. -/
  | planFieldCount (faults perFault fields : Nat)
  /-- Two faults of a plan have one event as their target. -/
  | ambiguousPlan (trigger : UInt64) (target : String)
  /-- The plan file cannot be read as text. -/
  | planUnreadable (path : String)
  /-- The profile log cannot be opened for appending. -/
  | profileUnopenable (path : String)
  /-- The profile log takes no more bytes. -/
  | profileUnwritable (path : String)
  /-- The profile log cannot be read as text. -/
  | profileUnreadable (path : String)
  /-- The profile log has no entry with this number. -/
  | noSuchEvent (sequence : UInt64) (path : String)
  /-- A line is no entry of an instruction log. -/
  | malformedInstructionLine (line : String)
  /-- A line is no entry of a memory log. -/
  | malformedMemoryLine (line : String)
  /-- A line has fewer register values than it declares. -/
  | missingRegisters (line : String) (declared : UInt64)
  /-- An entry does not name one register to corrupt. -/
  | entryRegisterCount (sequence : UInt64) (label : String) (count : Nat)
  /-- A second cell would lie outside the region of the entry. -/
  | secondaryOutsideEntry (secondary offset total : UInt64)
  /-- A mask is wider than the byte it would flip. -/
  | wideMask (mask : UInt64)
  /-- The outcome file cannot be read as text. -/
  | outcomeUnreadable (path : String)
  /-- The outcome file cannot be written. -/
  | outcomeUnwritable (path : String)
  /-- A line of an outcome file has no colon. -/
  | malformedOutcomeLine (line : String)
  /-- An access ends after the declared end of its region. -/
  | pastDeclaredEnd (offset total : UInt64)
  /-- An access lies outside the bytes of its region. -/
  | outsideRegion (offset : UInt64) (length : Nat)
  /-- The second cell of a fault lies outside the region. -/
  | secondaryOutsideRegion (offset distance total : UInt64)
  /-- The second cell of a fault is its first one. -/
  | primaryTwice (sequence : UInt64)
  /-- A register differs from its profiled value. -/
  | registerDiffers (sequence expected found : UInt64)
  /-- A byte differs from its profiled value. -/
  | byteDiffers (expected : UInt64) (found : UInt8) (sequence : UInt64)
  /-- A matched instruction did not write exactly one register. -/
  | registerCount (label : String) (count : Nat) (sequence : UInt64)
  /-- Raised by the program around the library, in its own words. -/
  | raised (kind : ErrorKind) (message : String)
  /-- Raised by the program around the library for an operation on files that failed. -/
  | raisedByFile (message : String)
  deriving DecidableEq, Repr

namespace Error

open Numeral (decimal hexadecimal)
open Text (quote)

/-- The category of an error. -/
def kind : Error → ErrorKind
  | secondaryOutsideEntry .. | pastDeclaredEnd .. | outsideRegion .. | secondaryOutsideRegion .. =>
    .bounds
  | registerDiffers .. | byteDiffers .. => .consistency
  | registerCount .. | entryRegisterCount .. => .unsupportedCase
  | raised kind _ => kind
  | _ => .configuration

/-- Whether a failed operation on a file is behind the error. -/
def fromFile : Error → Bool
  | settingsUnreadable .. | planUnreadable .. | profileUnopenable .. | profileUnwritable ..
  | profileUnreadable .. | outcomeUnreadable .. | outcomeUnwritable .. | raisedByFile .. => true
  | _ => false

/-- What is wrong with a numeral. -/
def numeralProblem : Numeral.Problem → String
  | .empty => "cannot parse integer from empty string"
  | .invalidDigit => "invalid digit found in string"
  | .tooLarge => "number too large to fit in target type"

/-- What went wrong, without the category. -/
def message : Error → String
  | unknownDomain name => "Invalid domain " ++ name ++ ". Expected one of insn, mem"
  | unknownMode value =>
    "Invalid run mode " ++ quote value ++ ". Expected 0, 1, profile, inject"
  | settingsUnreadable path => "Not able to read settings file " ++ quote path
  | settingsMalformed path => "Malformed settings file " ++ quote path ++ ": "
  | noProfilePath => "Profile mode requires a profile file path"
  | noPlanPath => "Inject mode requires a plan file path"
  | noOutcomePath => "Inject mode requires an outcome file path"
  | badNumber name field problem =>
    "Invalid " ++ name ++ " " ++ quote field ++ ": " ++ numeralProblem problem
  | badFlag name field =>
    "Invalid " ++ name ++ " " ++ quote field ++ ": expected 0, 1, true or false"
  | wideField name field =>
    "Invalid " ++ name ++ " " ++ quote field ++ ": memory faults corrupt a single byte"
  | wideValue name value trigger =>
    "Invalid " ++ name ++ " 0x" ++ hexadecimal value.toNat ++ " at iteration " ++
      decimal trigger.toNat ++ ": memory faults corrupt a single byte"
  | instructionRecordLength expected count =>
    "An instruction fault has " ++ decimal expected ++ " fields, got " ++ decimal count
  | memoryRecordLength expected count =>
    "A memory fault has " ++ decimal expected ++ " fields, got " ++ decimal count
  | multiCellInstruction trigger =>
    "The fault at iteration " ++ decimal trigger.toNat ++
      " is multi-cell, which only memory faults support"
  | noSecondaryOffset trigger =>
    "The multi-cell fault at iteration " ++ decimal trigger.toNat ++
      " needs a secondary offset other than 0"
  | planTooLong count capacity =>
    "The plan has " ++ decimal count ++
      " faults, more than the maximum number of faults per run: " ++ decimal capacity
  | planEmpty => "The plan is empty, expected a fault count"
  | planFieldCount faults perFault fields =>
    "The plan declares " ++ decimal faults ++ " faults of " ++ decimal perFault ++
      " fields each (" ++ decimal (faults * perFault) ++ " fields) but has " ++ decimal fields
  | ambiguousPlan trigger target =>
    "Ambiguous plan: more than one fault at iteration " ++ decimal trigger.toNat ++ " for " ++
      target
  | planUnreadable path => "Not able to read the injection input file " ++ path
  | profileUnopenable path => "Not able to open the profiler file " ++ path
  | profileUnwritable path => "Not able to write the profiler file " ++ path
  | profileUnreadable path => "Not able to read the profiler file " ++ path
  | noSuchEvent sequence path =>
    "No event " ++ decimal sequence.toNat ++ " in profiler file " ++ path
  | malformedInstructionLine line => "Malformed instruction profile line " ++ quote line
  | malformedMemoryLine line => "Malformed memory profile line " ++ quote line
  | missingRegisters line declared =>
    "Instruction profile line " ++ quote line ++ " declares " ++ decimal declared.toNat ++
      " output registers"
  | entryRegisterCount sequence label count =>
    "Event " ++ decimal sequence.toNat ++ " (" ++ label ++ ") wrote " ++ decimal count ++
      " output registers, exactly one is required"
  | secondaryOutsideEntry secondary offset total =>
    "OFFSET_OUTSIDE_MEMORY_BOUNDS: secondary offset " ++ decimal secondary.toNat ++ " from " ++
      decimal offset.toNat ++ " in " ++ decimal total.toNat ++ " bytes"
  | wideMask mask =>
    "Mask 0x" ++ hexadecimal mask.toNat ++
      " does not fit in the single byte a memory fault corrupts"
  | outcomeUnreadable path => "Not able to read the injection output file " ++ path
  | outcomeUnwritable path => "Not able to write the injection output file " ++ path
  | malformedOutcomeLine line => "Malformed outcome line " ++ quote line
  | pastDeclaredEnd offset total =>
    "The total offset + 1 is larger than the total memory size: " ++ decimal offset.toNat ++
      " + 1 > " ++ decimal total.toNat
  | outsideRegion offset length =>
    "Offset " ++ decimal offset.toNat ++ " lies outside the " ++ decimal length ++
      " byte backing region"
  | secondaryOutsideRegion offset distance total =>
    "OFFSET_OUTSIDE_MEMORY_BOUNDS: " ++ decimal offset.toNat ++ " + " ++
      decimal distance.toNat ++ " in " ++ decimal total.toNat ++ " bytes"
  | primaryTwice sequence =>
    "The multi-cell fault at iteration " ++ decimal sequence.toNat ++
      " targets its primary byte twice"
  | registerDiffers sequence expected found =>
    "Run diverged from profile at iteration " ++ decimal sequence.toNat ++
      ": register value before from file " ++ decimal expected.toNat ++
      " differs from current " ++ decimal found.toNat
  | byteDiffers expected found sequence =>
    "Something went wrong on the sampling process, mem values from file and current differ: " ++
      decimal expected.toNat ++ " " ++ decimal found.toNat ++ " " ++ decimal sequence.toNat
  | registerCount label count sequence =>
    "Only instructions writing exactly one output register are supported, inst label:" ++
      label ++ " nb_out_reg:" ++ decimal count ++ " iteration:" ++ decimal sequence.toNat
  | raised _ message => message
  | raisedByFile message => message

/-- The error with its category and the place it was raised at. -/
def display (e : Error) (location : String) : String :=
  e.kind.heading ++ ": " ++ e.message ++ " (at " ++ location ++ ")"

/-- The report an experiment driver looks for in a simulator's output. -/
def report (e : Error) (location : String) : String :=
  "SIMFI_ERROR:::" ++ e.message ++ ":::AT:" ++ location

end Error

end FaultReplay
