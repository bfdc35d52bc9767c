import ResourceBroker.Text.Numeral

/-!
Identities of connections and of registered applications.
-/

namespace ResourceBroker

structure ConnectionId where
  uuid : BitVec 128
deriving DecidableEq, Repr

structure AccessToken where
  text : String
deriving DecidableEq, Repr

/-- Tokens have 32 digits. -/
def AccessToken.ofNat (n : Nat) : AccessToken :=
  ⟨String.ofList (Text.padZero 32 (Text.hexadecimal (BitVec.ofNat 128 n).toNat))⟩

namespace ConnectionId

def groupWidths : List Nat := [8, 4, 4, 4, 12]

def cut {α : Type} : List Nat → List α → List (List α)
  | [], _ => []
  | width :: widths, s => s.take width :: cut widths (s.drop width)

def render (c : ConnectionId) : String :=
  let digits := Text.padZero 32 (Text.hexadecimal c.uuid.toNat)
  String.ofList (List.intercalate ['-'] (cut groupWidths digits))

def ofDigits? (s : List Char) : Option ConnectionId :=
  if s.length = 32 then (Text.hexadecimal? s).map fun n => ⟨BitVec.ofNat 128 n⟩ else none

/-- Drops a hyphen after each group but the last, and fails where one is missing. -/
def ungroup? : List Nat → List Char → Option (List Char)
  | [], s => if s.isEmpty then some [] else none
  | [_], s => some s
  | width :: widths, s =>
    match s.drop width with
    | '-' :: rest => (ungroup? widths rest).map (s.take width ++ ·)
    | _ => none

def ofGroups? (s : List Char) : Option ConnectionId := do
  ofDigits? (← ungroup? groupWidths s)

def unbrace? : List Char → Option (List Char)
  | '{' :: rest => match rest.reverse with
    | '}' :: inside => some inside.reverse
    | _ => none
  | _ => none

def urnScheme : List Char := ['u', 'r', 'n', ':', 'u', 'u', 'i', 'd', ':']

def ofUrn? (s : List Char) : Option (List Char) :=
  if (s.take urnScheme.length).map Char.toLower = urnScheme then some (s.drop urnScheme.length)
  else none

/-- Reads 32 digits of either case, bare or in groups; groups may also stand in braces or behind the
scheme of a resource name. -/
def ofText? (s : String) : Option ConnectionId :=
  (ofDigits? s.toList).orElse fun _ => (ofGroups? s.toList).orElse fun _ =>
    ((unbrace? s.toList).orElse fun _ => ofUrn? s.toList).bind ofGroups?

end ConnectionId
end ResourceBroker
