import ResourceBroker.CommandLine.Options
import ResourceBroker.Config.Basic
import ResourceBroker.FileTree

/-!
The configuration that the service runs with: defaults, then a configuration file, then the options
of the command line.
-/

namespace ResourceBroker

inductive SettingsError where
  | config (path : String) (cause : ConfigError)
  | logLevel (level : String)
deriving DecidableEq, Repr

/-- For a configuration file the message tells which; the cause has a message of its own. -/
def SettingsError.message : SettingsError → String
  | .config path _ => "Failed to load config from " ++ Text.quote path
  | .logLevel level =>
    "Invalid --log-level " ++ Text.quote level ++ ": expected one of " ++
      ", ".intercalate logLevels

structure Settings where
  config : Config
  source : Option String
deriving DecidableEq

namespace Settings

/-- A file that is named must exist; the standard one is read only if it does. -/
def base (env : Environment) (lookup : String → PathEntry) (named : Option String) :
    Except SettingsError Settings :=
  let load (path : String) : Except SettingsError Settings :=
    match Config.load env (lookup path).content? with
    | .ok config => .ok ⟨config, some path⟩
    | .error cause => .error (.config path cause)
  match named with
  | some path => load path
  | none =>
    if (lookup defaultConfigPath).exists? then load defaultConfigPath
    else .ok ⟨Config.default env, none⟩

def override (options : Options) (config : Config) : Except SettingsError Config := do
  let level ← match options.logLevel with
    | none => pure config.logLevel
    | some level => match logLevel? level with
      | some level => pure level
      | none => throw (.logLevel (lowerCase level))
  pure { config with
    socketPath := options.socket.getD config.socketPath
    logLevel := level
    logFile := options.logFile.or config.logFile }

def load (env : Environment) (lookup : String → PathEntry) (options : Options) :
    Except SettingsError Settings := do
  let settings ← base env lookup options.config
  pure { settings with config := ← override options settings.config }

end Settings
end ResourceBroker
