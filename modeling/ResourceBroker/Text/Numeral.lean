/-!
Decimal and hexadecimal numerals over ASCII digits. `idNumeral?` reads the identifiers of objects,
instances and resources: an optional plus sign and digits that denote at most 65535.
-/

namespace ResourceBroker.Text

/-- ASCII digits alone count; digits of other scripts do not. -/
def digit? (c : Char) : Option Nat :=
  if '0' ≤ c ∧ c ≤ '9' then some (c.toNat - '0'.toNat) else none

def isDigit (c : Char) : Bool := (digit? c).isSome

def hexDigit? (c : Char) : Option Nat :=
  if '0' ≤ c ∧ c ≤ '9' then some (c.toNat - '0'.toNat)
  else if 'a' ≤ c ∧ c ≤ 'f' then some (c.toNat - 'a'.toNat + 10)
  else if 'A' ≤ c ∧ c ≤ 'F' then some (c.toNat - 'A'.toNat + 10)
  else none

def ofDigits (base : Nat) (digits : List Nat) : Nat :=
  digits.foldl (fun n d => n * base + d) 0

def spanDigits (s : List Char) : List Nat × List Char :=
  ((s.takeWhile isDigit).filterMap digit?, s.dropWhile isDigit)

def natural? (s : List Char) : Option Nat :=
  if s.isEmpty then none else (s.mapM digit?).map (ofDigits 10)

def hexadecimal? (s : List Char) : Option Nat :=
  if s.isEmpty then none else (s.mapM hexDigit?).map (ofDigits 16)

/-- An optional plus sign, then digits denoting a number below 65536; leading zeros are allowed. -/
def idNumeral? (s : List Char) : Option UInt16 :=
  let digits := match s with
    | '+' :: rest => rest
    | _ => s
  match natural? digits with
  | some n => if n < UInt16.size then some (UInt16.ofNat n) else none
  | none => none

def decimal (n : Nat) : List Char := Nat.toDigits 10 n

def hexadecimal (n : Nat) : List Char := Nat.toDigits 16 n

def padZero (width : Nat) (s : List Char) : List Char :=
  List.replicate (width - s.length) '0' ++ s

end ResourceBroker.Text
