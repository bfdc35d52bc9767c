import ResourceBroker.Binary64.Basic
import ResourceBroker.SortedMap

/-!
JSON documents as trees. A tree keeps the members of an object in the order and number in which they
were written; what repeated keys mean is left to the reader of the tree.

Two things that a text may hold have no value: a string with an unpaired surrogate escape, and a
number beyond every finite one. They stand in the tree as `none` and `tooLarge`, because a member
that nobody reads may hold them.
-/

namespace ResourceBroker

namespace Json

/-- The characters of a string literal, or `none` if its escapes leave a surrogate unpaired. -/
abbrev Text := Option String

/-- A numeric literal: whole numbers of 64 bits stay exact, all others are rounded. -/
inductive Number where
  | integer (value : Int)
  | real (value : Binary64)
  | tooLarge
deriving DecidableEq

end Json

inductive Json where
  | null
  | bool (value : Bool)
  | number (value : Json.Number)
  | string (text : Json.Text)
  | array (elements : List Json)
  | object (members : List (Json.Text × Json))

namespace Json

def ofString (s : String) : Json := .string (some s)

def ofNat (n : Nat) : Json := .number (.integer n)

def ofInt (n : Int) : Json := .number (.integer n)

def record (members : List (String × Json)) : Json :=
  .object (members.map fun (key, value) => (some key, value))

mutual

/-- Whether the whole value can be kept for a later reading: each text and number in it has a value,
and its arrays and objects nest less than `room` deep. -/
def isHoldable : Nat → Json → Bool
  | _, .null => true
  | _, .bool _ => true
  | _, .number n => n != .tooLarge
  | _, .string text => text.isSome
  | room, .array elements => 1 < room && allHoldable (room - 1) elements
  | room, .object members => 1 < room && membersHoldable (room - 1) members
termination_by structural _ value => value

def allHoldable : Nat → List Json → Bool
  | _, [] => true
  | room, value :: rest => isHoldable room value && allHoldable room rest
termination_by structural _ values => values

def membersHoldable : Nat → List (Text × Json) → Bool
  | _, [] => true
  | room, (key, value) :: rest =>
    key.isSome && isHoldable room value && membersHoldable room rest
termination_by structural _ members => members

end

def keyed? (members : List (Text × Json)) : Option (List (String × Json)) :=
  members.mapM fun (key, value) => key.map (·, value)

mutual

/-- The same value with the members of each object sorted by key; of several members with one key
the last stands for all. -/
def sorted : Json → Json
  | .array elements => .array (sortedAll elements)
  | .object members => record (SortedMap.ofList (sortedMembers members))
  | value => value
termination_by structural value => value

def sortedAll : List Json → List Json
  | [] => []
  | value :: rest => sorted value :: sortedAll rest
termination_by structural values => values

/-- Members whose key has no characters are left out. -/
def sortedMembers : List (Text × Json) → List (String × Json)
  | [] => []
  | (none, _) :: rest => sortedMembers rest
  | (some key, value) :: rest => (key, sorted value) :: sortedMembers rest
termination_by structural members => members

end

end Json
end ResourceBroker
