import ResourceBroker.Environment

/-!
The options of the service. Arguments are read from left to right. A value that stands as an argument
of its own is taken up when the next known option begins or the arguments end, so an argument that is
not known at all is reported before a bad value in front of it.
-/

namespace ResourceBroker

inductive OptionKey where
  | config
  | socket
  | logLevel
  | logFile
deriving DecidableEq

namespace OptionKey

def ofLong? : String → Option OptionKey
  | "config" => some .config
  | "socket" => some .socket
  | "log-level" => some .logLevel
  | "log-file" => some .logFile
  | _ => none

def ofShort? : Char → Option OptionKey
  | 'c' => some .config
  | 's' => some .socket
  | 'l' => some .logLevel
  | _ => none

/-- A path is not empty; a level is checked later. -/
def accepts (key : OptionKey) (value : String) : Bool := key = .logLevel || !value.isEmpty

end OptionKey

structure Options where
  config : Option String
  socket : Option String
  logLevel : Option String
  logFile : Option String
deriving DecidableEq

inductive UsageError where
  | displayHelp
  | unknownArgument
  | invalidValue
  | argumentConflict
  | tooManyValues
deriving DecidableEq, Repr

def UsageError.name : UsageError → String
  | .displayHelp => "DisplayHelp"
  | .unknownArgument => "UnknownArgument"
  | .invalidValue => "InvalidValue"
  | .argumentConflict => "ArgumentConflict"
  | .tooManyValues => "TooManyValues"

namespace Options

def empty : Options := ⟨none, none, none, none⟩

def get? (options : Options) : OptionKey → Option String
  | .config => options.config
  | .socket => options.socket
  | .logLevel => options.logLevel
  | .logFile => options.logFile

def put (options : Options) (value : String) : OptionKey → Options
  | .config => { options with config := some value }
  | .socket => { options with socket := some value }
  | .logLevel => { options with logLevel := some value }
  | .logFile => { options with logFile := some value }

/-- No option is given twice, and its value has to be acceptable. -/
def set (options : Options) (key : OptionKey) (value : String) : Except UsageError Options :=
  if (options.get? key).isSome then .error .argumentConflict
  else if key.accepts value then .ok (options.put value key)
  else .error .invalidValue

abbrev Pending := Option (OptionKey × Option String)

def resolve (options : Options) : Pending → Except UsageError Options
  | none => .ok options
  | some (_, none) => .error .invalidValue
  | some (key, some value) => options.set key value

inductive Argument where
  | separator
  | help (attached : Bool)
  | key (key : OptionKey) (value : Option String)
  | unknown
  | plain

def ofLong (name : List Char) : Argument :=
  let key := String.ofList (name.takeWhile (· ≠ '='))
  let value := match name.dropWhile (· ≠ '=') with
    | _ :: value => some (String.ofList value)
    | [] => none
  if key = "help" then .help value.isSome
  else match OptionKey.ofLong? key with
    | some key => .key key value
    | none => .unknown

/-- A value may follow a short option at once or behind an equals sign. -/
def shortValue : List Char → Option String
  | [] => none
  | '=' :: value => some (String.ofList value)
  | value => some (String.ofList value)

def ofShort (c : Char) (rest : List Char) : Argument :=
  if c = 'h' then .help false
  else match OptionKey.ofShort? c with
    | some key => .key key (shortValue rest)
    | none => .unknown

def classify (arg : String) : Argument :=
  match arg.toList with
  | ['-', '-'] => .separator
  | '-' :: '-' :: name => ofLong name
  | '-' :: c :: rest => ofShort c rest
  | _ => .plain

/-- Reads the arguments. There are none without an option, so all that follow the separator are
unknown. -/
def read : List String → Pending → Options → Except UsageError Options
  | [], pending, options => options.resolve pending
  | arg :: rest, pending, options =>
    match classify arg with
    | .separator => if rest.isEmpty then options.resolve pending else .error .unknownArgument
    | .help true => .error .tooManyValues
    | .help false => do
      let _ ← options.resolve pending
      .error .displayHelp
    | .unknown => .error .unknownArgument
    | .key key value => do
      let options ← options.resolve pending
      match value with
      | none => read rest (some (key, none)) options
      | some value => do
        let options ← options.set key value
        read rest none options
    | .plain =>
      match pending with
      | some (key, none) => read rest (some (key, some arg)) options
      | _ => .error .unknownArgument

def fromVariable (key : OptionKey) (found : Option String) (options : Options) :
    Except UsageError Options :=
  match options.get? key, found with
  | none, some value => options.set key value
  | _, _ => .ok options

def parse (env : Environment) (args : List String) : Except UsageError Options := do
  let options ← read args none empty
  let options ← fromVariable .config env.config options
  fromVariable .socket env.socket options

end Options
end ResourceBroker
