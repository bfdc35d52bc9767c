import ResourceBroker.Json.Literal

/-!
Reading a JSON text. The grammar alone is checked here, to any depth: what a member may hold, and how
deep values may nest, is up to the reader of the tree.
-/

namespace ResourceBroker.Json

def isSpace (c : Char) : Bool := c = ' ' || c = '\t' || c = '\n' || c = '\r'

def skipSpace (s : List Char) : List Char := s.dropWhile isSpace

def readNumber (s : List Char) : Option (Json × List Char) :=
  (scanNumeral s).map fun (numeral, rest) => (.number (.ofNumeral numeral), rest)

def readKey (s : List Char) : Option (Text × List Char) :=
  match skipSpace s with
  | '"' :: rest => do
    let (key, rest) ← readString rest
    match skipSpace rest with
    | ':' :: rest => some (key, rest)
    | _ => none
  | _ => none

mutual

/-- One value at the front of the text. The number bounds the calls; twice the length suffices, since
of two nested calls at least one consumes a character. -/
def readValue : Nat → List Char → Option (Json × List Char)
  | 0, _ => none
  | fuel + 1, s =>
    match skipSpace s with
    | 'n' :: 'u' :: 'l' :: 'l' :: rest => some (.null, rest)
    | 't' :: 'r' :: 'u' :: 'e' :: rest => some (.bool true, rest)
    | 'f' :: 'a' :: 'l' :: 's' :: 'e' :: rest => some (.bool false, rest)
    | '"' :: rest => (readString rest).map fun (text, rest) => (.string text, rest)
    | '[' :: rest =>
      match skipSpace rest with
      | ']' :: rest => some (.array [], rest)
      | rest => (readElements fuel rest).map fun (values, rest) => (.array values, rest)
    | '{' :: rest =>
      match skipSpace rest with
      | '}' :: rest => some (.object [], rest)
      | rest => (readMembers fuel rest).map fun (members, rest) => (.object members, rest)
    | rest => readNumber rest

def readElements : Nat → List Char → Option (List Json × List Char)
  | 0, _ => none
  | fuel + 1, s => do
    let (value, rest) ← readValue fuel s
    match skipSpace rest with
    | ',' :: rest =>
      let (values, rest) ← readElements fuel rest
      pure (value :: values, rest)
    | ']' :: rest => pure ([value], rest)
    | _ => none

def readMembers : Nat → List Char → Option (List (Text × Json) × List Char)
  | 0, _ => none
  | fuel + 1, s => do
    let (key, rest) ← readKey s
    let (value, rest) ← readValue fuel rest
    match skipSpace rest with
    | ',' :: rest =>
      let (members, rest) ← readMembers fuel rest
      pure ((key, value) :: members, rest)
    | '}' :: rest => pure ([(key, value)], rest)
    | _ => none

end

def parse? (s : List Char) : Option Json := do
  let (value, rest) ← readValue (2 * s.length + 2) s
  if (skipSpace rest).isEmpty then pure value else none

end ResourceBroker.Json
