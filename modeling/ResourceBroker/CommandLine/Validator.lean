import ResourceBroker.Config.Basic
import ResourceBroker.FileTree

/-!
The command that checks a configuration file and reports what it found.
-/

namespace ResourceBroker

structure CommandReport where
  code : Nat
  stdout : String
  stderr : String
deriving DecidableEq

namespace Validator

def lines (texts : List String) : String := String.join (texts.map (· ++ "\n"))

def usage : CommandReport :=
  ⟨2, "", lines ["Usage: validate-config [config-file]", "", "Validates a ccrbd configuration file.",
    "", "Example:", "  validate-config " ++ defaultConfigPath]⟩

def summary (config : Config) : String :=
  lines ["✓ Configuration is valid", "", "Summary:",
    "  Config version: " ++ toString Config.currentVersion,
    "  Socket: " ++ config.socketPath,
    "  Max connections: " ++ toString config.maxConnections,
    "  Stop timeout: " ++ config.stopTimeout.render,
    "  Log level: " ++ config.logLevel,
    "  Log file: " ++ config.logFile.getD "(stderr)"]

/-- The failure in detail, apart from what the reader of the file or of its text has to say. -/
def explain : ConfigError → String
  | .unreadable => "Failed to read file: "
  | .malformed => lines ["TOML parse error:"]
  | .invalid violations =>
    lines (("Validation errors (" ++ toString violations.length ++ "):") ::
      violations.map fun v => "  - " ++ v.message)
  | .unsupportedVersion version =>
    lines ["Unsupported config version: " ++ toString version ++ " (expected " ++
      toString Config.currentVersion ++ ")"]

/-- The first argument names the file; others are ignored. -/
def run (env : Environment) (lookup : String → PathEntry) : List String → CommandReport
  | [] => usage
  | path :: _ =>
    let entry := lookup path
    if !entry.exists? then ⟨1, "", lines ["Error: Configuration file not found: " ++ path]⟩
    else match Config.load env entry.content? with
      | .ok config => ⟨0, summary config, ""⟩
      | .error error => ⟨1, "", lines ["✗ Configuration validation failed", ""] ++ explain error⟩

end Validator
end ResourceBroker
