import ResourceBroker.Toml.Literal

/-!
Reading a TOML document: lines with headers and assignments, in order, each applied to the tree that
the lines before it have built.
-/

namespace ResourceBroker.Toml

mutual

/-- A value. Arrays and inline tables nest to 79 levels; `room` counts those left. -/
def readValue : Nat → Nat → List Char → Option (Toml × List Char)
  | 0, _, _ => none
  | fuel + 1, room, s =>
    match s with
    | '[' :: rest =>
      if room = 0 then none
      else match skipSpace false rest with
        | ']' :: rest => some (.array [], rest)
        | rest => (readElements fuel (room - 1) rest).map fun (values, rest) => (.array values, rest)
    | '{' :: rest =>
      if room = 0 then none
      else match skipBlank rest with
        | '}' :: rest => some (.table .inlined [], rest)
        | rest => (readPairs fuel (room - 1) [] rest).map fun (entries, rest) =>
          (.table .inlined entries, rest)
    | 't' :: 'r' :: 'u' :: 'e' :: rest => some (.boolean true, rest)
    | 'f' :: 'a' :: 'l' :: 's' :: 'e' :: rest => some (.boolean false, rest)
    | s => ((readString s).map fun (text, rest) => (.string (String.ofList text), rest)).orElse
        fun _ => readNumber s

def readElements : Nat → Nat → List Char → Option (List Toml × List Char)
  | 0, _, _ => none
  | fuel + 1, room, s => do
    let (value, rest) ← readValue fuel room s
    match skipSpace false rest with
    | ']' :: rest => pure ([value], rest)
    | ',' :: rest =>
      match skipSpace false rest with
      | ']' :: rest => pure ([value], rest)
      | rest =>
        let (values, rest) ← readElements fuel room rest
        pure (value :: values, rest)
    | _ => none

def readPairs : Nat → Nat → Entries → List Char → Option (Entries × List Char)
  | 0, _, _, _ => none
  | fuel + 1, room, entries, s => do
    let ((path, key), rest) ← readKey s
    let rest ← readMark '=' rest
    let (value, rest) ← readValue fuel room (skipBlank rest)
    let entries ← assign path key value entries
    match skipBlank rest with
    | '}' :: rest => pure (entries, rest)
    | ',' :: rest => readPairs fuel room entries rest
    | _ => none

end

structure Draft where
  root : Entries
  header : List String

def readHeader (draft : Draft) (s : List Char) : Option (Draft × List Char) := do
  let ((path, key), rest) ← readKey s
  let rest ← readMark ']' rest
  pure (⟨← openTable path key draft.root, path ++ [key]⟩, ← endOfLine? rest)

def readItemHeader (draft : Draft) (s : List Char) : Option (Draft × List Char) := do
  let ((path, key), rest) ← readKey s
  let rest ← readMark ']' rest
  let rest ← readMark ']' rest
  pure (⟨← openItem path key draft.root, path ++ [key]⟩, ← endOfLine? rest)

def readAssignment (draft : Draft) (s : List Char) : Option (Draft × List Char) := do
  let ((path, key), rest) ← readKey s
  let rest ← readMark '=' rest
  let (value, rest) ← readValue (2 * rest.length + 2) 79 (skipBlank rest)
  let rest ← endOfLine? rest
  pure ({ draft with root := ← assignBelow draft.header path key value draft.root }, rest)

def readLine (draft : Draft) : List Char → Option (Draft × List Char)
  | '[' :: '[' :: rest => readItemHeader draft rest
  | '[' :: rest => readHeader draft rest
  | s => readAssignment draft s

/-- The lines up to the end of the text. Each takes at least one character. -/
def readLines : Nat → Draft → List Char → Option Draft
  | 0, _, _ => none
  | fuel + 1, draft, s =>
    match skipBlank s with
    | [] => some draft
    | '#' :: rest => do readLines fuel draft (← endOfLine? ('#' :: rest))
    | '\n' :: rest => readLines fuel draft rest
    | '\r' :: rest => do readLines fuel draft (← newline? ('\r' :: rest))
    | s => do
      let (draft, rest) ← readLine draft s
      readLines fuel draft rest

def skipMark : List Char → List Char
  | c :: rest => if c.toNat = 0xFEFF then rest else c :: rest
  | [] => []

def parse? (text : String) : Option Toml := do
  let s := skipMark text.toList
  let draft ← readLines (s.length + 1) ⟨[], []⟩ s
  pure (.table .written draft.root)

end ResourceBroker.Toml
