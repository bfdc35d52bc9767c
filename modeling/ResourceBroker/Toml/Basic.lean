/-!
TOML documents as trees, and the assignments that build them up.

A table remembers how it came to be, since that decides who may still add to it: a header may open a
table that only deeper headers have implied, dotted keys may add to tables that dotted keys made, and
a table written inline is closed.
-/

namespace ResourceBroker

namespace Toml

inductive TableForm where
  | written
  | implied
  | dotted
  | inlined
deriving DecidableEq, Repr

end Toml

/-- Of numbers with a fraction and of dates only the form is checked, since no setting takes one. -/
inductive Toml where
  | string (text : String)
  | integer (n : Int)
  | float
  | boolean (b : Bool)
  | datetime
  | array (elements : List Toml)
  | table (form : Toml.TableForm) (entries : List (String × Toml))
  | tables (items : List (List (String × Toml)))

namespace Toml

abbrev Entries := List (String × Toml)

def put (key : String) (value : Toml) : Entries → Entries
  | [] => [(key, value)]
  | (other, old) :: rest =>
    if other = key then (key, value) :: rest else (other, old) :: put key value rest

def changeLast {α : Type} (change : α → Option α) : List α → Option (List α)
  | [] => none
  | [x] => (change x).map ([·])
  | x :: y :: rest => (changeLast change (y :: rest)).map (x :: ·)

/-- Changes the entries that a path leads to, making the tables on the way as needed. A list of
tables is entered at its last item. Dotted keys do not enter a table that a header wrote. -/
def atPath (dotted : Bool) (change : TableForm → Entries → Option Entries) :
    List String → TableForm → Entries → Option Entries
  | [], form, entries => change form entries
  | key :: path, _, entries =>
    match entries.lookup key with
    | none =>
      let form := if dotted then .dotted else .implied
      (atPath dotted change path form []).map fun inner => put key (.table form inner) entries
    | some (.table form inner) =>
      if form = .inlined ∨ (dotted ∧ form = .written) then none
      else (atPath dotted change path form inner).map fun inner =>
        put key (.table form inner) entries
    | some (.tables items) =>
      (changeLast (atPath dotted change path .written) items).map fun items =>
        put key (.tables items) entries
    | some _ => none

/-- Sets a key below the current table. A dotted key ends in a table that dotted keys made, and no key
is set twice. -/
def assign (path : List String) (key : String) (value : Toml) (entries : Entries) :
    Option Entries :=
  atPath true (fun form entries =>
    if (form == .dotted) == path.isEmpty then none
    else match entries.lookup key with
      | some _ => none
      | none => some (entries ++ [(key, value)])) path .written entries

def openTable (path : List String) (key : String) (root : Entries) : Option Entries :=
  atPath false (fun _ entries =>
    match entries.lookup key with
    | none => some (entries ++ [(key, .table .written [])])
    | some (.table .implied inner) => some (put key (.table .written inner) entries)
    | some _ => none) path .written root

def openItem (path : List String) (key : String) (root : Entries) : Option Entries :=
  atPath false (fun _ entries =>
    match entries.lookup key with
    | none => some (entries ++ [(key, .tables [[]])])
    | some (.tables items) => some (put key (.tables (items ++ [[]])) entries)
    | some _ => none) path .written root

def assignBelow (header : List String) (path : List String) (key : String) (value : Toml)
    (root : Entries) : Option Entries :=
  atPath false (fun _ entries => assign path key value entries) header .written root

end Toml
end ResourceBroker
