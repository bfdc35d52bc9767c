import ResourceBroker.Broker.Session
import ResourceBroker.CommandLine.Settings
import ResourceBroker.Log

/-!
The service as a whole: a log, and a broker that serves a socket and is attached to a loopback
gateway. It runs until a signal comes or the broker stops on its own.
-/

namespace ResourceBroker

inductive ServiceError where
  | usage (cause : UsageError)
  | settings (cause : SettingsError)
  | logging (cause : LogError)
  | brokerStopped
  | stopFailed (cause : BrokerError)
deriving DecidableEq, Repr

namespace ServiceError

def message : ServiceError → String
  | .usage cause => cause.name
  | .settings cause => cause.message
  | .logging _ => "Failed to initialize logging"
  | .brokerStopped => "Resource broker stopped unexpectedly"
  | .stopFailed _ => "Failed to stop resource broker"

/-- The exit code. Asking for help is no failure. -/
def code : ServiceError → Nat
  | .usage .displayHelp => 0
  | .usage _ => 2
  | _ => 1

end ServiceError

structure ServiceEnd where
  error : Option ServiceError
  records : List LogRecord
deriving DecidableEq

namespace ServiceEnd

def code (e : ServiceEnd) : Nat := e.error.elim 0 ServiceError.code

def report? (e : ServiceEnd) : Option String :=
  match e.error with
  | none | some (.usage _) => none
  | some error => some ("Error: " ++ error.message)

def early (error : ServiceError) : ServiceEnd := ⟨some error, []⟩

def logText (e : ServiceEnd) : String :=
  String.join (e.records.map fun r => r.level.toUpper ++ " " ++ r.text ++ "\n")

/-- The files after a service with such settings, and a log file that was opened for it. A file in the
place of the socket is gone, be it the log file. -/
def remains (settings : Settings) (tree : FileTree) (e : ServiceEnd) : FileTree :=
  match e.error with
  | some (.logging _) => tree
  | _ =>
    (settings.config.logFile.elim tree fun path => tree.append path e.logText.toUTF8).remove
      settings.config.socketPath

end ServiceEnd

structure Service where
  log : Log
  session : Session

namespace Service

def finish (log : Log) : ServiceEnd := ⟨none, log.close.fileRecords⟩

def fail (error : ServiceError) (log : Log) : ServiceEnd :=
  ⟨some error, (log.error ("ccrbd exiting with error error=" ++ error.message)).close.fileRecords⟩

def newBroker (config : Config) (site : SocketSite) (mint : Nat → AccessToken) :
    Broker SocketAdapter :=
  .new (.new site config.maxConnections ⟨0, 0, 0⟩) config.stopTimeout
    (.new (fun _ => .loopback) mint)

def settings (env : Environment) (lookup : String → PathEntry) (args : List String) :
    Except ServiceEnd Settings :=
  match Options.parse env args with
  | .error cause => .error (.early (.usage cause))
  | .ok options => match Settings.load env lookup options with
    | .error cause => .error (.early (.settings cause))
    | .ok settings => .ok settings

/-- Starts the service. It gives up if its broker has stopped by the time of the first look. -/
def start (settings : Settings) (opens : String → Bool) (site : SocketSite)
    (mint : Nat → AccessToken) : Except ServiceEnd Service :=
  let config := settings.config
  match Log.start config.logLevel config.logFile opens false with
  | .error cause => .error (.early (.logging cause))
  | .ok log =>
    let log := log.info "ccrbd starting"
    let log := match settings.source with
      | some path => log.info ("Configuration loaded config_path=" ++ path)
      | none => log.info "No configuration file, using defaults"
    let (started, _) := (newBroker config site mint).start 0
    let broker := started.settle .none
    let log := log.info ("Service running socket_path=" ++ config.socketPath ++
      " max_connections=" ++ toString config.maxConnections)
    if broker.phase = .stopped then .error (fail .brokerStopped log)
    else .ok ⟨log, .new broker⟩

def stop (signal : String) (s : Service) : Service × ServiceEnd :=
  let log := s.log.info ("Received signal, shutting down gracefully signal=" ++ signal)
  match s.session.broker.stop .none with
  | (broker, .ok ()) =>
    (⟨log, { s.session with broker := broker }⟩, finish (log.info "Shutdown complete"))
  | (broker, .error e) =>
    (⟨log, { s.session with broker := broker }⟩, fail (.stopFailed e) log)

end Service
end ResourceBroker
