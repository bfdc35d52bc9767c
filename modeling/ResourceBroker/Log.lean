import ResourceBroker.Config.Basic

/-!
The log of the service: records of some weight, of which those are kept that weigh enough for the
configured level. With a log file, its opening and closing are recorded too.
-/

namespace ResourceBroker

structure LogRecord where
  level : String
  text : String
deriving DecidableEq, Repr

inductive LogError where
  | unopenable (path : String)
  | alreadyInstalled
deriving DecidableEq, Repr

/-- `level` is the least weighty that is kept. -/
structure Log where
  level : String
  file : Option String
  records : List LogRecord
deriving DecidableEq

namespace Log

def isKept (configured level : String) : Bool :=
  logLevels.idxOf configured ≤ logLevels.idxOf level

def write (level text : String) (log : Log) : Log :=
  if isKept log.level level then { log with records := log.records ++ [⟨level, text⟩] } else log

def info (text : String) (log : Log) : Log := log.write "info" text

def error (text : String) (log : Log) : Log := log.write "error" text

/-- Opens the log of a process. There is only one, and a file is opened before that is known. -/
def start (level : String) (file : Option String) (opens : String → Bool) (installed : Bool) :
    Except LogError Log :=
  match file with
  | none => if installed then .error .alreadyInstalled else .ok ⟨level, none, []⟩
  | some path =>
    if !opens path then .error (.unopenable path)
    else if installed then .error .alreadyInstalled
    else .ok (info ("Log file opened path=" ++ path) ⟨level, some path, []⟩)

def close (log : Log) : Log :=
  match log.file with
  | some path => log.info ("Log file closed path=" ++ path)
  | none => log

def fileRecords (log : Log) : List LogRecord := if log.file.isSome then log.records else []

end Log
end ResourceBroker
