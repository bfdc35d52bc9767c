import ResourceBroker.Toml.Parser

/-!
Configuration files as they are written: a version and three sections, in which everything may be
left out. Keys that no section knows are ignored.
-/

namespace ResourceBroker

structure BrokerSection where
  socketPath : Option String
  maxConnections : Option Nat
  stopTimeoutMs : Option Nat
deriving DecidableEq

structure LoggingSection where
  level : Option String
  file : Option String
deriving DecidableEq

structure GatewaySection where
  registrationDelayMs : Option Nat
deriving DecidableEq

structure ConfigDocument where
  version : Nat
  broker : BrokerSection
  logging : LoggingSection
  gateway : GatewaySection
deriving DecidableEq

namespace ConfigDocument

def natural? (bound : Nat) : Toml → Option Nat
  | .integer n => if 0 ≤ n ∧ n < bound then some n.toNat else none
  | _ => none

def text? : Toml → Option String
  | .string s => some s
  | _ => none

/-- The entries of a section: a table, or an array that gives all values in the order of the keys. A
date has none of the keys. -/
def entries? (keys : List String) : Toml → Option Toml.Entries
  | .table _ entries => some entries
  | .array elements => if keys.length ≤ elements.length then some (keys.zip elements) else none
  | .datetime => some []
  | _ => none

def optional? {α : Type} (read : Toml → Option α) (key : String) (entries : Toml.Entries) :
    Option (Option α) :=
  match entries.lookup key with
  | none => some none
  | some value => (read value).map some

def brokerSection? (value : Toml) : Option BrokerSection := do
  let entries ← entries? ["socket_path", "max_connections", "stop_timeout_ms"] value
  pure {
    socketPath := ← optional? text? "socket_path" entries
    maxConnections := ← optional? (natural? UInt64.size) "max_connections" entries
    stopTimeoutMs := ← optional? (natural? UInt64.size) "stop_timeout_ms" entries }

def loggingSection? (value : Toml) : Option LoggingSection := do
  let entries ← entries? ["level", "file"] value
  pure {
    level := ← optional? text? "level" entries
    file := ← optional? text? "file" entries }

def gatewaySection? (value : Toml) : Option GatewaySection := do
  let entries ← entries? ["registration_delay_ms"] value
  pure { registrationDelayMs := ← optional? (natural? UInt64.size) "registration_delay_ms" entries }

/-- Only the version must be given. -/
def ofToml? (document : Toml) : Option ConfigDocument := do
  let entries ← entries? [] document
  pure {
    version := ← natural? UInt32.size (← entries.lookup "config_version")
    broker := (← optional? brokerSection? "broker" entries).getD ⟨none, none, none⟩
    logging := (← optional? loggingSection? "logging" entries).getD ⟨none, none⟩
    gateway := (← optional? gatewaySection? "gateway" entries).getD ⟨none⟩ }

def ofText? (text : String) : Option ConfigDocument := do
  ofToml? (← Toml.parse? text)

end ConfigDocument
end ResourceBroker
