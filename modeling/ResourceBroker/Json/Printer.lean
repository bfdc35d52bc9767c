import ResourceBroker.Binary64.Shortest
import ResourceBroker.Json.Basic
import ResourceBroker.Text.Numeral

/-!
Writing JSON without space between tokens. Strings escape only what must be escaped; real numbers
have the fewest digits that read back.
-/

namespace ResourceBroker.Json

def escapeChar (c : Char) : List Char :=
  if c = '"' then ['\\', '"']
  else if c = '\\' then ['\\', '\\']
  else if c = '\x08' then ['\\', 'b']
  else if c = '\t' then ['\\', 't']
  else if c = '\n' then ['\\', 'n']
  else if c = '\x0c' then ['\\', 'f']
  else if c = '\r' then ['\\', 'r']
  else if c.toNat < 0x20 then ['\\', 'u'] ++ Text.padZero 4 (Text.hexadecimal c.toNat)
  else [c]

def renderString (s : String) : List Char := '"' :: s.toList.flatMap escapeChar ++ ['"']

/-- Where real numbers are written without an exponent: from `10 ^ least` to below `10 ^ bound`. -/
structure PositionalRange where
  least : Int
  bound : Int

def positional : PositionalRange := ⟨-5, 16⟩

def renderPositional (digits : List Char) (leading : Int) : List Char :=
  if leading < 0 then
    ['0', '.'] ++ List.replicate (-leading - 1).toNat '0' ++ digits
  else
    let whole := digits.take (leading.toNat + 1)
    let fraction := digits.drop (leading.toNat + 1)
    whole ++ List.replicate (leading.toNat + 1 - whole.length) '0' ++ ['.'] ++
      (if fraction.isEmpty then ['0'] else fraction)

/-- With one digit before the point, no point after a single digit, and a signed exponent. -/
def renderScientific (digits : List Char) (leading : Int) : List Char :=
  digits.take 1 ++ (if digits.length ≤ 1 then [] else '.' :: digits.drop 1) ++
    ['e', if leading < 0 then '-' else '+'] ++ Text.decimal leading.natAbs

def renderMagnitude (d : Decimal) : List Char :=
  let digits := Text.decimal d.coefficient
  let leading := d.exponent + digits.length - 1
  if positional.least ≤ leading ∧ leading < positional.bound then renderPositional digits leading
  else renderScientific digits leading

def renderReal (x : Binary64) : List Char :=
  (if x.negative then ['-'] else []) ++
    (if x.isZero then ['0', '.', '0'] else renderMagnitude (Decimal.shortest x.rank))

def renderInt (n : Int) : List Char :=
  (if n < 0 then ['-'] else []) ++ Text.decimal n.natAbs

/-- A number without a value has no text of its own and is written as null. -/
def renderNumber : Number → List Char
  | .integer n => renderInt n
  | .real x => renderReal x
  | .tooLarge => ['n', 'u', 'l', 'l']

mutual

def render : Json → List Char
  | .null => ['n', 'u', 'l', 'l']
  | .bool true => ['t', 'r', 'u', 'e']
  | .bool false => ['f', 'a', 'l', 's', 'e']
  | .number n => renderNumber n
  | .string text => renderString (text.getD "")
  | .array [] => ['[', ']']
  | .array (value :: rest) => '[' :: render value ++ renderElements rest
  | .object [] => ['{', '}']
  | .object ((key, value) :: rest) =>
    '{' :: renderString (key.getD "") ++ ':' :: render value ++ renderMembers rest
termination_by structural value => value

def renderElements : List Json → List Char
  | [] => [']']
  | value :: rest => ',' :: render value ++ renderElements rest
termination_by structural values => values

def renderMembers : List (Text × Json) → List Char
  | [] => ['}']
  | (key, value) :: rest =>
    ',' :: renderString (key.getD "") ++ ':' :: render value ++ renderMembers rest
termination_by structural members => members

end

def print (value : Json) : String := String.ofList (render value)

end ResourceBroker.Json
