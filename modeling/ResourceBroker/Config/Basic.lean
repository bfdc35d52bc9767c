import ResourceBroker.Config.Document
import ResourceBroker.Duration
import ResourceBroker.Environment
import ResourceBroker.Text.Quoted

/-!
Configurations, and the rules that a configuration file has to keep. Values that a file leaves out
have defaults, of which the socket path follows from the environment.
-/

namespace ResourceBroker

def logLevels : List String := ["trace", "debug", "info", "warn", "error"]

/-- ASCII letters alone have a lower case. -/
def lowerCase (s : String) : String := String.ofList (s.toList.map Char.toLower)

def logLevel? (level : String) : Option String :=
  if logLevels.contains (lowerCase level) then some (lowerCase level) else none

structure Config where
  socketPath : String
  maxConnections : Nat
  stopTimeout : Duration
  logLevel : String
  logFile : Option String
  registrationDelay : Duration
deriving DecidableEq

inductive ConfigViolation where
  | zeroMaxConnections
  | zeroStopTimeout
  | emptySocketPath
  | unknownLogLevel (level : String)
deriving DecidableEq, Repr

namespace ConfigViolation

def message : ConfigViolation → String
  | .zeroMaxConnections => "broker.max_connections must be at least 1"
  | .zeroStopTimeout => "broker.stop_timeout_ms must be greater than 0"
  | .emptySocketPath => "broker.socket_path cannot be empty"
  | .unknownLogLevel level => "Unknown log level '" ++ level ++ "'"

def label : ConfigViolation → String
  | .zeroMaxConnections => "ZeroMaxConnections"
  | .zeroStopTimeout => "ZeroStopTimeout"
  | .emptySocketPath => "EmptySocketPath"
  | .unknownLogLevel level => "UnknownLogLevel(" ++ Text.quote level ++ ")"

end ConfigViolation

inductive ConfigError where
  | unreadable
  | malformed
  | invalid (violations : List ConfigViolation)
  | unsupportedVersion (version : Nat)
deriving DecidableEq, Repr

def ConfigError.name : ConfigError → String
  | .unreadable => "ReadError"
  | .malformed => "ParseError"
  | .invalid _ => "ValidationFailed"
  | .unsupportedVersion _ => "UnsupportedVersion"

def ConfigError.message : ConfigError → String
  | .unreadable => "Failed to read config file"
  | .malformed => "Failed to parse TOML"
  | .invalid violations =>
    "Validation failed: [" ++ ", ".intercalate (violations.map ConfigViolation.label) ++ "]"
  | .unsupportedVersion version => "Unsupported config version: " ++ toString version

namespace Config

def currentVersion : Nat := 1

/-- The rules that the values given in a document break, each at most once. -/
def violations (document : ConfigDocument) : List ConfigViolation :=
  (if document.broker.maxConnections = some 0 then [.zeroMaxConnections] else []) ++
  (if document.broker.stopTimeoutMs = some 0 then [.zeroStopTimeout] else []) ++
  (if document.broker.socketPath = some "" then [.emptySocketPath] else []) ++
  (match document.logging.level with
    | some level => if (logLevel? level).isSome then [] else [.unknownLogLevel level]
    | none => [])

def ofDocument (env : Environment) (document : ConfigDocument) : Config where
  socketPath := document.broker.socketPath.getD env.defaultSocketPath
  maxConnections := document.broker.maxConnections.getD 1
  stopTimeout := (document.broker.stopTimeoutMs.map .ofMilliseconds).getD (.ofParts 5 0)
  logLevel := (document.logging.level.map lowerCase).getD "info"
  logFile := document.logging.file
  registrationDelay :=
    (document.gateway.registrationDelayMs.map .ofMilliseconds).getD (.ofMilliseconds 50)

def default (env : Environment) : Config :=
  ofDocument env ⟨currentVersion, ⟨none, none, none⟩, ⟨none, none⟩, ⟨none⟩⟩

/-- The version is checked before anything else about a document that decodes. -/
def check (env : Environment) (document : ConfigDocument) : Except ConfigError Config :=
  if document.version ≠ currentVersion then .error (.unsupportedVersion document.version)
  else match violations document with
    | [] => .ok (ofDocument env document)
    | broken => .error (.invalid broken)

def parse (env : Environment) (text : String) : Except ConfigError Config :=
  match ConfigDocument.ofText? text with
  | some document => check env document
  | none => .error .malformed

def load (env : Environment) (content : Option ByteArray) : Except ConfigError Config :=
  match content.bind String.fromUTF8? with
  | some text => parse env text
  | none => .error .unreadable

end Config
end ResourceBroker
