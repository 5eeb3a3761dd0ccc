/-! # Log records

A logger writes records of a level, a message and fields. A logger derived from another one puts
further fields in front of those of every record; all members of a family write to the same place.

* `Logger.record?` is the record a logger makes of a call: the fields given when it was derived come
  first. A silent logger makes none.
* `MemoryLog.push` keeps the newest records up to a capacity and counts those it lets go.
* `LogStep.emitted` lists what a family of loggers writes over a run; `LogFamily.step` keeps the
  newest of it. -/

namespace Outbound

/-! ## Records -/

/-- How urgent a record is. -/
inductive Level where
  /-- Minute steps. -/
  | trace
  /-- Steps. -/
  | debug
  /-- Events. -/
  | info
  /-- Events that ask for attention. -/
  | warn
  /-- Failures. -/
  | error
  deriving DecidableEq, Repr

/-- The name of a level. -/
def Level.name : Level → String
  | .trace => "TRACE"
  | .debug => "DEBUG"
  | .info => "INFO"
  | .warn => "WARN"
  | .error => "ERROR"

/-- The levels, the least urgent first. -/
def Level.all : List Level := [.trace, .debug, .info, .warn, .error]

/-- The level of a name. -/
def Level.ofName? (name : String) : Option Level := Level.all.find? fun level => level.name == name

/-- A named text in a record. -/
structure Field where
  /-- The name. -/
  key : String
  /-- The text. -/
  value : String
  deriving DecidableEq, Repr

/-- A field as text. -/
def Field.render (field : Field) : String := field.key ++ "=" ++ field.value

/-- A record of a log. -/
structure LogRecord where
  /-- How urgent the record is. -/
  level : Level
  /-- What happened. -/
  message : String
  /-- The circumstances. -/
  fields : List Field
  deriving DecidableEq, Repr

namespace LogRecord

/-- The first text of a name. -/
def field? (record : LogRecord) (key : String) : Option String :=
  (record.fields.find? fun field => field.key == key).map (·.value)

/-- The fields on one line. -/
def line (record : LogRecord) : String := " ".intercalate (record.fields.map Field.render)

end LogRecord

/-! ## Loggers -/

/-- A logger: the fields it puts in front, or silence. -/
structure Logger where
  /-- The fields put in front of those of every record. -/
  fields : List Field := []
  /-- Whether the logger writes nothing. -/
  silent : Bool := false
  deriving DecidableEq, Repr

namespace Logger

/-- The record a logger makes of a call. -/
def record? (logger : Logger) (level : Level) (message : String) (fields : List Field) :
    Option LogRecord :=
  if logger.silent then none else some ⟨level, message, logger.fields ++ fields⟩

/-- The logger with further fields to put in front. -/
def derived (logger : Logger) (fields : List Field) : Logger :=
  if logger.silent then logger else { logger with fields := logger.fields ++ fields }

end Logger

/-! ## Bounded memory -/

/-- The newest records, oldest first. -/
structure MemoryLog where
  /-- The most records kept; at least one. -/
  capacity : Nat
  /-- The records kept. -/
  records : List LogRecord
  /-- The number of records let go to make room. -/
  evicted : Nat

namespace MemoryLog

/-- An empty memory; a capacity of zero counts as one. -/
def ofCapacity (capacity : Nat) : MemoryLog := ⟨max capacity 1, [], 0⟩

/-- The memory after one more record. -/
def push (log : MemoryLog) (record : LogRecord) : MemoryLog :=
  if log.capacity ≤ log.records.length then
    { log with records := log.records.drop 1 ++ [record], evicted := log.evicted + 1 }
  else { log with records := log.records ++ [record] }

/-- The memory without records; those let go stay counted. -/
def clear (log : MemoryLog) : MemoryLog := { log with records := [] }

/-- The records of a message. -/
def withMessage (log : MemoryLog) (message : String) : List LogRecord :=
  log.records.filter fun record => record.message == message

end MemoryLog

/-! ## Families -/

/-- A step on a family of loggers, which are numbered in the order in which they were made. -/
inductive LogStep where
  /-- A logger writes. -/
  | write (logger : Nat) (level : Level) (message : String) (fields : List Field)
  /-- A logger is derived from another one. -/
  | derive (logger : Nat) (fields : List Field)
  /-- The records are dropped. -/
  | clear

namespace LogStep

/-- The loggers after a step. -/
def loggersAfter (loggers : List Logger) : LogStep → List Logger
  | .derive parent fields =>
      match loggers[parent]? with
      | some logger => loggers ++ [logger.derived fields]
      | none => loggers
  | _ => loggers

/-- The record written by a step. -/
def written (loggers : List Logger) : LogStep → Option LogRecord
  | .write index level message fields =>
      loggers[index]?.bind fun logger => logger.record? level message fields
  | _ => none

/-- The records written by steps. -/
def emitted (loggers : List Logger) : List LogStep → List LogRecord
  | [] => []
  | step :: steps =>
      (step.written loggers).toList ++ emitted (step.loggersAfter loggers) steps

end LogStep

/-- Loggers that write to the same memory. -/
structure LogFamily where
  /-- The loggers. -/
  loggers : List Logger
  /-- The memory they share. -/
  memory : MemoryLog

namespace LogFamily

/-- A family of a single logger without fields, whose memory is empty. -/
def ofCapacity (capacity : Nat) : LogFamily := ⟨[{}], .ofCapacity capacity⟩

/-- The family after a step. -/
def step (family : LogFamily) (step : LogStep) : LogFamily :=
  { loggers := step.loggersAfter family.loggers
    memory :=
      match step with
      | .clear => family.memory.clear
      | _ =>
          match step.written family.loggers with
          | some record => family.memory.push record
          | none => family.memory }

/-- The family after steps. -/
def steps (family : LogFamily) (steps : List LogStep) : LogFamily :=
  steps.foldl LogFamily.step family

end LogFamily

end Outbound
