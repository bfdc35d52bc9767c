import ResourceBroker.Binary64.Basic
import ResourceBroker.Text.Numeral
import ResourceBroker.Toml.Basic

/-!
The tokens of TOML: blanks, comments, line ends, the four kinds of strings, numbers and dates.
-/

namespace ResourceBroker.Toml

def isBlank (c : Char) : Bool := c = ' ' || c = '\t'

def skipBlank (s : List Char) : List Char := s.dropWhile isBlank

def newline? : List Char → Option (List Char)
  | '\n' :: rest => some rest
  | '\r' :: '\n' :: rest => some rest
  | _ => none

def isPlain (c : Char) : Bool := c = '\t' || (0x20 ≤ c.toNat && c.toNat ≠ 0x7F)

def skipComment : List Char → List Char
  | '#' :: rest => rest.dropWhile isPlain
  | s => s

def endOfLine? (s : List Char) : Option (List Char) :=
  match skipComment (skipBlank s) with
  | [] => some []
  | s => newline? s

def apostrophe : Char := Char.ofNat 39

/-- Blanks, comments and line ends in any number, as they may stand between the elements of an array.
The flag says that a comment is being skipped. -/
def skipSpace : Bool → List Char → List Char
  | _, [] => []
  | _, '\n' :: rest => skipSpace false rest
  | _, '\r' :: rest =>
    match rest with
    | '\n' :: _ => skipSpace false rest
    | _ => '\r' :: rest
  | true, c :: rest => if isPlain c then skipSpace true rest else c :: rest
  | false, c :: rest =>
    if isBlank c then skipSpace false rest
    else if c = '#' then skipSpace true rest
    else c :: rest

def simpleEscape? : Char → Option Char
  | 'b' => some '\x08'
  | 't' => some '\t'
  | 'n' => some '\n'
  | 'f' => some '\x0c'
  | 'r' => some '\r'
  | '"' => some '"'
  | '\\' => some '\\'
  | _ => none

def scalar? (digits : List Char) : Option Char := do
  let n ← Text.hexadecimal? digits
  if n < 0xD800 ∨ (0xDFFF < n ∧ n < 0x110000) then some (Char.ofNat n) else none

def prepend (c : Char) (found : List Char × List Char) : List Char × List Char :=
  (c :: found.1, found.2)

def readBasic : List Char → Option (List Char × List Char)
  | [] => none
  | '"' :: rest => some ([], rest)
  | '\\' :: 'u' :: a :: b :: c :: d :: rest => do
    let escaped ← scalar? [a, b, c, d]
    (readBasic rest).map (prepend escaped)
  | '\\' :: 'U' :: a :: b :: c :: d :: e :: f :: g :: h :: rest => do
    let escaped ← scalar? [a, b, c, d, e, f, g, h]
    (readBasic rest).map (prepend escaped)
  | '\\' :: c :: rest => do
    let escaped ← simpleEscape? c
    (readBasic rest).map (prepend escaped)
  | c :: rest => if isPlain c then (readBasic rest).map (prepend c) else none

def readLiteral : List Char → Option (List Char × List Char)
  | [] => none
  | c :: rest =>
    if c = apostrophe then some ([], rest)
    else if isPlain c then (readLiteral rest).map (prepend c)
    else none

/-- The end of a string of several lines: three quotes, of which up to two more may belong to the
string itself. -/
def closing? (quote : Char) (s : List Char) : Option (List Char × List Char) :=
  match (s.takeWhile (· = quote)).length with
  | 0 | 1 | 2 => none
  | 3 => some ([], s.drop 3)
  | 4 => some ([quote], s.drop 4)
  | _ => some ([quote, quote], s.drop 5)

def endsLine (s : List Char) : Bool := (newline? (skipBlank s)).isSome

/-- A string of several lines with escapes. Behind a backslash at the end of a line, the flag says,
line ends and blanks are dropped. -/
def readBasicLines : Bool → List Char → Option (List Char × List Char)
  | _, [] => none
  | skipping, c :: rest =>
    match closing? '"' (c :: rest) with
    | some found => some found
    | none =>
      match c, rest with
      | '\n', rest =>
        if skipping then readBasicLines true rest
        else (readBasicLines false rest).map (prepend '\n')
      | '\r', '\n' :: rest =>
        if skipping then readBasicLines true rest
        else (readBasicLines false rest).map (prepend '\n')
      | '\\', 'u' :: a :: b :: c :: d :: rest => do
        let escaped ← scalar? [a, b, c, d]
        (readBasicLines false rest).map (prepend escaped)
      | '\\', 'U' :: a :: b :: c :: d :: e :: f :: g :: h :: rest => do
        let escaped ← scalar? [a, b, c, d, e, f, g, h]
        (readBasicLines false rest).map (prepend escaped)
      | '\\', c :: rest =>
        if endsLine (c :: rest) then readBasicLines true (c :: rest)
        else do
          let escaped ← simpleEscape? c
          (readBasicLines false rest).map (prepend escaped)
      | c, rest =>
        if skipping && isBlank c then readBasicLines true rest
        else if isPlain c && c ≠ '\\' then (readBasicLines false rest).map (prepend c)
        else none

def readLiteralLines : List Char → Option (List Char × List Char)
  | [] => none
  | c :: rest =>
    match closing? apostrophe (c :: rest) with
    | some found => some found
    | none =>
      match c, rest with
      | '\n', rest => (readLiteralLines rest).map (prepend '\n')
      | '\r', '\n' :: rest => (readLiteralLines rest).map (prepend '\n')
      | c, rest => if isPlain c then (readLiteralLines rest).map (prepend c) else none

/-- A line end right after the opening quotes does not count. -/
def afterOpening (s : List Char) : List Char := (newline? s).getD s

def readString (s : List Char) : Option (List Char × List Char) :=
  if s.take 3 = ['"', '"', '"'] then readBasicLines false (afterOpening (s.drop 3))
  else if s.take 3 = [apostrophe, apostrophe, apostrophe] then
    readLiteralLines (afterOpening (s.drop 3))
  else match s with
    | '"' :: rest => readBasic rest
    | c :: rest => if c = apostrophe then readLiteral rest else none
    | [] => none

def isBareKeyChar (c : Char) : Bool := c.isAlphanum || c = '_' || c = '-'

def readKeyPart : List Char → Option (List Char × List Char)
  | '"' :: rest => readBasic rest
  | s@(c :: rest) =>
    if c = apostrophe then readLiteral rest
    else if isBareKeyChar c then some (s.takeWhile isBareKeyChar, s.dropWhile isBareKeyChar)
    else none
  | [] => none

def readKeyParts : Nat → List Char → Option (List String × List Char)
  | 0, _ => none
  | fuel + 1, s => do
    let (part, rest) ← readKeyPart (skipBlank s)
    match skipBlank rest with
    | '.' :: rest =>
      let (parts, rest) ← readKeyParts fuel rest
      pure (String.ofList part :: parts, rest)
    | rest => pure ([String.ofList part], rest)

/-- A key of at most 79 parts, split into the way and the last part. -/
def readKey (s : List Char) : Option ((List String × String) × List Char) := do
  let (parts, rest) ← readKeyParts 79 s
  pure ((parts.dropLast, ← parts.getLast?), rest)

def moreDigits (isDigit : Char → Bool) : List Char → List Char × List Char
  | [] => ([], [])
  | [c] => if isDigit c then ([c], []) else ([], [c])
  | c :: d :: rest =>
    if isDigit c then prepend c (moreDigits isDigit (d :: rest))
    else if c = '_' && isDigit d then prepend d (moreDigits isDigit rest)
    else ([], c :: d :: rest)

def readDigits (isDigit : Char → Bool) : List Char → Option (List Char × List Char)
  | [] => none
  | c :: rest => if isDigit c then some (prepend c (moreDigits isDigit rest)) else none

def readSign : List Char → Bool × List Char
  | '+' :: rest => (false, rest)
  | '-' :: rest => (true, rest)
  | s => (false, s)

def readWhole : List Char → Option (List Char × List Char)
  | '0' :: rest => some (['0'], rest)
  | s => readDigits Text.isDigit s

def inInt64 (n : Int) : Bool := Int64.minValue.toInt ≤ n && n ≤ Int64.maxValue.toInt

def integerToken (n : Int) (rest : List Char) : Option (Toml × List Char) :=
  if inInt64 n then some (.integer n, rest) else none

def isOctal (c : Char) : Bool := '0' ≤ c && c ≤ '7'

def isBinary (c : Char) : Bool := c = '0' || c = '1'

def isHexadecimal (c : Char) : Bool := (Text.hexDigit? c).isSome

def readBased (base : Nat) (isDigit : Char → Bool) (s : List Char) : Option (Toml × List Char) := do
  let (digits, rest) ← readDigits isDigit s
  integerToken (Text.ofDigits base (digits.filterMap Text.hexDigit?)) rest

def readInteger (s : List Char) : Option (Toml × List Char) :=
  match s with
  | '0' :: 'x' :: rest => readBased 16 isHexadecimal rest
  | '0' :: 'o' :: rest => readBased 8 isOctal rest
  | '0' :: 'b' :: rest => readBased 2 isBinary rest
  | s => do
    let (negative, s) := readSign s
    let (digits, rest) ← readWhole s
    let n : Int := Text.ofDigits 10 (digits.filterMap Text.digit?)
    integerToken (if negative then -n else n) rest

def readFractionPart : List Char → Option (List Char × List Char)
  | '.' :: rest => readDigits Text.isDigit rest
  | s => some ([], s)

def readExponentPart : List Char → Option ((Bool × List Char) × List Char)
  | c :: rest =>
    if c = 'e' ∨ c = 'E' then do
      let (negative, rest) := readSign rest
      let (digits, rest) ← readDigits Text.isDigit rest
      pure ((negative, digits), rest)
    else some ((false, []), c :: rest)
  | [] => some ((false, []), [])

/-- Whether a positive decimal rounds past the largest finite number. Far out the count of digits
decides. -/
def overflows (mantissa : Nat) (exponent : Int) (digitCount : Nat) : Bool :=
  if mantissa = 0 ∨ exponent + digitCount < 300 then false
  else if 400 < exponent then true
  else
    (Binary64.ofRatio? false (mantissa * Nat.pow 10 exponent.toNat)
      (Nat.pow 10 (-exponent).toNat)).isNone

/-- A number with a fraction or an exponent. A positive one must not round to infinity. -/
def readDecimal (s : List Char) : Option (Toml × List Char) := do
  let (negative, s) := readSign s
  let (whole, s) ← readWhole s
  let (fraction, s) ← readFractionPart s
  let ((below, power), rest) ← readExponentPart s
  if fraction.isEmpty ∧ power.isEmpty then none
  else
    let digits := (whole ++ fraction).filterMap Text.digit?
    let e : Int := Text.ofDigits 10 (power.filterMap Text.digit?)
    let exponent := (if below then -e else e) - fraction.length
    if !negative ∧ overflows (Text.ofDigits 10 digits) exponent digits.length then none
    else pure (.float, rest)

def readSpecial (s : List Char) : Option (Toml × List Char) :=
  let (_, s) := readSign s
  if s.take 3 = ['i', 'n', 'f'] ∨ s.take 3 = ['n', 'a', 'n'] then some (.float, s.drop 3) else none

def readField (count low high : Nat) (s : List Char) : Option (Nat × List Char) := do
  let digits ← (s.take count).mapM Text.digit?
  let n := Text.ofDigits 10 digits
  if digits.length = count ∧ low ≤ n ∧ n ≤ high then some (n, s.drop count) else none

def readMark (c : Char) : List Char → Option (List Char)
  | d :: rest => if d = c then some rest else none
  | [] => none

def monthLength (year : Nat) : Nat → Nat
  | 2 => if year % 4 = 0 ∧ (year % 100 ≠ 0 ∨ year % 400 = 0) then 29 else 28
  | 4 | 6 | 9 | 11 => 30
  | _ => 31

def readDate (s : List Char) : Option (List Char) := do
  let (year, s) ← readField 4 0 9999 s
  let s ← readMark '-' s
  let (month, s) ← readField 2 1 12 s
  let s ← readMark '-' s
  let (_, s) ← readField 2 1 (monthLength year month) s
  pure s

def readSecondFraction : List Char → Option (List Char)
  | '.' :: rest => match Text.spanDigits rest with
    | ([], _) => none
    | (_, rest) => some rest
  | s => some s

def readTime (s : List Char) : Option (List Char) := do
  let (_, s) ← readField 2 0 23 s
  let s ← readMark ':' s
  let (_, s) ← readField 2 0 59 s
  let s ← readMark ':' s
  let (_, s) ← readField 2 0 60 s
  readSecondFraction s

def readOffset : List Char → Option (List Char)
  | 'Z' :: rest => some rest
  | 'z' :: rest => some rest
  | c :: rest =>
    if c = '+' ∨ c = '-' then do
      let (_, s) ← readField 2 0 23 rest
      let s ← readMark ':' s
      let (_, s) ← readField 2 0 59 s
      pure s
    else some (c :: rest)
  | [] => some []

def isTimeMark (c : Char) : Bool := c = 'T' || c = 't' || c = ' '

def readDatetime (s : List Char) : Option (Toml × List Char) :=
  match readDate s with
  | some rest =>
    match rest with
    | c :: later =>
      match if isTimeMark c then readTime later else none with
      | some rest => (readOffset rest).map (Toml.datetime, ·)
      | none => some (.datetime, rest)
    | [] => some (.datetime, [])
  | none => (readTime s).map (Toml.datetime, ·)

def readNumber (s : List Char) : Option (Toml × List Char) :=
  (readDatetime s).orElse fun _ => (readDecimal s).orElse fun _ => (readSpecial s).orElse fun _ =>
    readInteger s

end ResourceBroker.Toml
