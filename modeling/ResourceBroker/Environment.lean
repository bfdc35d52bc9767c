/-!
The environment variables that the broker looks at, and the paths that follow from them.
-/

namespace ResourceBroker

/-- Variables that are not set are `none`; a variable may be set to the empty text. -/
structure Environment where
  socket : Option String
  config : Option String
  runtimeDir : Option String
  user : Option String
deriving DecidableEq

def joinPath (base name : String) : String :=
  if base.isEmpty then name
  else if base.endsWith "/" then base ++ name
  else base ++ "/" ++ name

namespace Environment

/-- Where the socket is, apart from the variable that names it: in the runtime directory if there is
one, else in a directory of the user's own. -/
def standardSocketPath (env : Environment) : String :=
  match env.runtimeDir with
  | some dir => joinPath (joinPath dir "ccrbd") "ccrbd.sock"
  | none => joinPath ("/tmp/ccrbd-" ++ env.user.getD "unknown") "ccrbd.sock"

def defaultSocketPath (env : Environment) : String :=
  env.socket.getD env.standardSocketPath

end Environment

def defaultConfigPath : String := "/etc/ccrbd/config.toml"

end ResourceBroker
