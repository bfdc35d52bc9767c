import ResourceBroker.CommandLine.Validator
import ResourceBroker.Service
import Std.Time.DateTime

/-!
The command line. With `validate-config` as its first argument the program checks a configuration
file. Otherwise it is the service, and the application that it serves writes to standard input and
reads from standard output; the end of the input ends the service.
-/

namespace ResourceBroker.CommandLine

def environment : IO Environment := do
  pure ⟨← IO.getEnv "CCRBD_SOCKET", ← IO.getEnv "CCRBD_CONFIG", ← IO.getEnv "XDG_RUNTIME_DIR",
    ← IO.getEnv "USER"⟩

/-- What is at a path. A file that cannot be read counts as a directory: it is there. -/
def pathEntry (path : String) : IO PathEntry := do
  try
    pure (.file (← IO.FS.readBinFile path))
  catch
    | .noFileOrDirectory .. => pure .missing
    | _ => pure .directory

def lookupAmong (paths : List String) : IO (String → PathEntry) := do
  let entries ← paths.mapM fun path => do pure (path, ← pathEntry path)
  pure fun path => (entries.lookup path).getD .missing

def canAppend (path : String) : IO Bool := do
  try
    let _ ← IO.FS.Handle.mk path .append
    pure true
  catch _ => pure false

def now : IO Timestamp := do
  pure (.ofNanoseconds (← Std.Time.Timestamp.now).toNanosecondsSinceUnixEpoch.val)

/-- A supply of tokens that starts anywhere. -/
def mint : IO (Nat → AccessToken) := do
  let seed := (← IO.getRandomBytes 16).toList.foldl (fun n byte => n * 256 + byte.toNat) 0
  pure fun n => .ofNat (seed + n)

def validate (env : Environment) (args : List String) : IO UInt32 := do
  let report := Validator.run env (← lookupAmong args) args
  IO.print report.stdout
  IO.eprint report.stderr
  pure (.ofNat report.code)

def print (s : Session) (c : Caller) : IO Caller := do
  let out ← IO.getStdout
  let messages := s.unread c
  for message in messages do
    out.write ⟨message.toLine.toArray⟩
  out.flush
  pure { c with read := c.read + messages.length }

partial def serve (delay : UInt32) (s : Session) (c : Caller) : IO Session := do
  let input ← (← IO.getStdin).read 65536
  if input.isEmpty then
    let s := s.hangUp c
    let _ ← print s c
    pure s
  else
    let s := (s.setClock (← now)).write c input.toList
    let c ← print s c
    IO.sleep delay
    let s := (s.setClock (← now)).modifyBroker (·.completeUnderway 0)
    serve delay s (← print s c)

def report (logFile : Option String) (e : ServiceEnd) : IO UInt32 := do
  if let some path := logFile then
    if !e.records.isEmpty then
      (← IO.FS.Handle.mk path .append).putStr e.logText
  if let some text := e.report? then IO.eprintln text
  pure (.ofNat e.code)

def runService (env : Environment) (args : List String) : IO UInt32 := do
  let named := (Options.parse env args).toOption.bind Options.config
  let lookup ← lookupAmong (defaultConfigPath :: named.toList)
  match Service.settings env lookup args with
  | .error e => report none e
  | .ok settings =>
    let logFile := settings.config.logFile
    let opens ← logFile.elim (pure true) canAppend
    match Service.start settings (fun _ => opens) .vacant (← mint) with
    | .error e => report logFile e
    | .ok service =>
      match service.session.connect? none with
      | none => report logFile (service.stop "SIGTERM").2
      | some (c, s) =>
        let delay := settings.config.registrationDelay.nanoseconds / 1000000
        let s ← serve (.ofNat delay) s c
        report logFile ({ service with session := s }.stop "SIGTERM").2

end ResourceBroker.CommandLine

def main (args : List String) : IO UInt32 := do
  let env ← ResourceBroker.CommandLine.environment
  match args with
  | "validate-config" :: rest => ResourceBroker.CommandLine.validate env rest
  | _ => ResourceBroker.CommandLine.runService env args
