import ResourceBroker.Json.Parser

/-!
Reading typed values out of JSON trees.

A value is read where it stands in the text, or from a copy that was held back until the tag deciding
its type was known. In the text, values may nest to a limited depth, counted over the whole text, and
what nobody reads is skipped unseen. A held copy was checked as a whole when it was made.
-/

namespace ResourceBroker.Json

/-- Where a value that is being read stands: in the text, with `room` levels left, or in a copy. -/
inductive Origin where
  | text (room : Nat)
  | held
deriving DecidableEq

/-- Arrays and objects may nest to 127 levels. -/
def Origin.top : Origin := .text 128

def Origin.enter? : Origin → Option Origin
  | .text room => if room ≤ 1 then none else some (.text (room - 1))
  | .held => some .held

def Origin.canHold : Origin → Json → Bool
  | .text room, value => value.isHoldable room
  | .held, _ => true

abbrev Reader (α : Type) := Origin → Json → Option α

namespace Reader

variable {α β : Type}

def string : Reader String
  | _, .string text => text
  | _, _ => none

def bool : Reader Bool
  | _, .bool b => some b
  | _, _ => none

/-- A numeral without fraction or exponent in the given range; minus zero is none. -/
def integer (low high : Int) : Reader Int
  | _, .number (.integer n) => if low ≤ n ∧ n ≤ high then some n else none
  | _, _ => none

def uint8 : Reader UInt8 := fun o v => (integer 0 (UInt8.size - 1) o v).map fun n => .ofNat n.toNat

def uint16 : Reader UInt16 := fun o v => (integer 0 (UInt16.size - 1) o v).map fun n => .ofNat n.toNat

def uint32 : Reader UInt32 := fun o v => (integer 0 (UInt32.size - 1) o v).map fun n => .ofNat n.toNat

def uint64 : Reader UInt64 := fun o v => (integer 0 (UInt64.size - 1) o v).map fun n => .ofNat n.toNat

def int64 : Reader Int64 := fun o v => (integer Int64.minValue.toInt Int64.maxValue.toInt o v).map .ofInt

def real : Reader Binary64
  | _, .number n => n.toReal?
  | _, _ => none

def optional (read : Reader α) : Reader (Option α)
  | _, .null => some none
  | o, v => (read o v).map some

def list (read : Reader α) : Reader (List α)
  | o, .array elements => do
    let inside ← o.enter?
    elements.mapM (read inside)
  | _, _ => none

/-- The value null, and in a held copy an empty object as well. -/
def isUnit : Origin → Json → Bool
  | _, .null => true
  | .held, .object [] => true
  | _, _ => false

def named (names : List (String × α)) : Reader α
  | _, .string (some name) => names.lookup name
  | o, .object [(some name, content)] => do
    let inside ← o.enter?
    if isUnit inside content then names.lookup name else none
  | _, _ => none

end Reader

structure Record where
  origin : Origin
  members : List (String × Json)

namespace Record

variable {α : Type}

def required (r : Record) (name : String) (read : Reader α) : Option α := do
  read r.origin (← r.members.lookup name)

def optional (r : Record) (name : String) (read : Reader α) : Option (Option α) :=
  match r.members.lookup name with
  | none => some none
  | some value => Reader.optional read r.origin value

def withDefault (r : Record) (name : String) (default : α) (read : Reader α) : Option α :=
  match r.members.lookup name with
  | none => some default
  | some value => read r.origin value

end Record

namespace Reader

def unrepeated (names : List String) (members : List (String × Json)) : Bool :=
  names.all fun name => (members.filter fun (key, _) => key == name).length ≤ 1

/-- An object with each of the named members at most once and any others, or an array of all named
members in order. -/
def record (names : List String) : Reader Record
  | o, .object members => do
    let inside ← o.enter?
    let members ← keyed? members
    if unrepeated names members then some ⟨inside, members⟩ else none
  | o, .array elements => do
    let inside ← o.enter?
    if elements.length = names.length then some ⟨inside, names.zip elements⟩ else none
  | _, _ => none

/-- An object with no members but the named ones, each at most once, or an array of the first of the
named members in order. -/
def closedRecord (names : List String) : Reader Record
  | o, .object members => do
    let inside ← o.enter?
    let members ← keyed? members
    if unrepeated names members && members.all (fun (key, _) => names.contains key) then
      some ⟨inside, members⟩
    else none
  | o, .array elements => do
    let inside ← o.enter?
    if elements.length ≤ names.length then some ⟨inside, names.zip elements⟩ else none
  | _, _ => none

def map (read : Reader α) : Reader (List (String × α))
  | o, .object members => do
    let inside ← o.enter?
    let members ← keyed? members
    let pairs ← members.mapM fun (key, value) => (read inside value).map (key, ·)
    pure (SortedMap.ofList pairs)
  | _, _ => none

/-- The name that a tag chooses. In a held copy a tag may also be the number of the name. -/
def tagName (names : List String) : Reader String
  | _, .string (some name) => if names.contains name then some name else none
  | .held, .number (.integer n) => if 0 ≤ n then names[n.toNat]? else none
  | _, _ => none

/-- A value whose type is told by a tag among its members, or by the first of its elements. The rest
is held until the tag is known, and is handed on with the name. -/
def tagged (tag : String) (names : List String) : Reader (String × Json)
  | o, .object members => do
    let inside ← o.enter?
    let members ← keyed? members
    let rest := members.filter fun (key, _) => key != tag
    match members.filter fun (key, _) => key == tag with
    | [(_, value)] =>
      let name ← tagName names inside value
      if rest.all fun (_, value) => inside.canHold value then some (name, Json.record rest) else none
    | _ => none
  | o, .array (value :: rest) => do
    let inside ← o.enter?
    let name ← tagName names inside value
    if rest.all inside.canHold then some (name, .array rest) else none
  | _, _ => none

def noContent : Reader Unit
  | _, .object _ => some ()
  | _, .array [] => some ()
  | _, _ => none

/-- Type and content side by side under two keys, each exactly once, or as an array of two, in which
the type is told as the tag of a tagged value is. Content in front of the type is held until the type
is known. -/
def besideTag (tag content : String) (types : List (String × α)) (contentOf : α → Reader β) :
    Reader β
  | o, .object members => do
    let inside ← o.enter?
    let members ← keyed? members
    match members.filter fun (key, _) => key == tag || key == content with
    | [(first, x), (second, y)] =>
      if first = tag ∧ second = content then do
        contentOf (← named types inside x) inside y
      else if first = content ∧ second = tag then do
        if inside.canHold x then contentOf (← named types inside y) .held x else none
      else none
    | _ => none
  | o, .array [x, y] => do
    let inside ← o.enter?
    let name ← tagName (types.map Prod.fst) inside x
    contentOf (← types.lookup name) inside y
  | _, _ => none

def keyedChoice (choose : String → Option (Reader α)) : Reader α
  | o, .object [(some key, value)] => do
    let inside ← o.enter?
    let read ← choose key
    read inside value
  | _, _ => none

end Reader

def decode? {α : Type} (read : Reader α) (s : List Char) : Option α := do
  read .top (← parse? s)

end ResourceBroker.Json
