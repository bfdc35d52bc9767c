import ResourceBroker.Json.Basic
import ResourceBroker.Text.Numeral

/-!
The literals of JSON: strings with their escapes, and numerals.

A numeral with a fraction or an exponent, or past 64 bits, is rounded in steps: its leading digits
are gathered in a 64-bit word, the word is rounded to binary64, and one or two rounded products with
powers of ten follow. The result may differ from the nearest number by some last places.
-/

namespace ResourceBroker.Json

/-- What one escape or plain character of a string stands for: a code point, or one half of a
surrogate pair. -/
abbrev CodeUnit := Nat

def isHighSurrogate (u : CodeUnit) : Bool := 0xD800 ≤ u && u ≤ 0xDBFF

def isLowSurrogate (u : CodeUnit) : Bool := 0xDC00 ≤ u && u ≤ 0xDFFF

/-- Reads surrogate pairs as one character each; a surrogate without its partner has no reading. -/
def joinSurrogates : List CodeUnit → Option (List Char)
  | [] => some []
  | [u] => if isHighSurrogate u || isLowSurrogate u then none else some [Char.ofNat u]
  | u :: v :: rest =>
    if isHighSurrogate u && isLowSurrogate v then
      (joinSurrogates rest).map
        (Char.ofNat (0x10000 + (u - 0xD800) * 0x400 + (v - 0xDC00)) :: ·)
    else if isHighSurrogate u || isLowSurrogate u then none
    else (joinSurrogates (v :: rest)).map (Char.ofNat u :: ·)

def simpleEscape? : Char → Option Char
  | '"' => some '"'
  | '\\' => some '\\'
  | '/' => some '/'
  | 'b' => some '\x08'
  | 'f' => some '\x0c'
  | 'n' => some '\n'
  | 'r' => some '\r'
  | 't' => some '\t'
  | _ => none

def scanString : List Char → Option (List CodeUnit × List Char)
  | [] => none
  | '"' :: rest => some ([], rest)
  | '\\' :: 'u' :: a :: b :: c :: d :: rest => do
    let digits ← [a, b, c, d].mapM Text.hexDigit?
    let (units, rest) ← scanString rest
    pure (Text.ofDigits 16 digits :: units, rest)
  | '\\' :: c :: rest => do
    let escaped ← simpleEscape? c
    let (units, rest) ← scanString rest
    pure (escaped.toNat :: units, rest)
  | c :: rest =>
    if c = '\\' ∨ c.toNat < 0x20 then none
    else do
      let (units, rest) ← scanString rest
      pure (c.toNat :: units, rest)

def readString (s : List Char) : Option (Text × List Char) := do
  let (units, rest) ← scanString s
  pure ((joinSurrogates units).map String.ofList, rest)

structure Numeral where
  negative : Bool
  whole : List Nat
  fraction : List Nat
  exponent : Option (Bool × List Nat)

/-- A zero stands alone in front of the point. -/
def scanWhole : List Char → Option (List Nat × List Char)
  | '0' :: rest => some ([0], rest)
  | s => match Text.spanDigits s with
    | ([], _) => none
    | found => some found

def scanFraction : List Char → Option (List Nat × List Char)
  | '.' :: rest => match Text.spanDigits rest with
    | ([], _) => none
    | found => some found
  | s => some ([], s)

def scanExponentDigits (negative : Bool) (s : List Char) :
    Option (Option (Bool × List Nat) × List Char) :=
  match Text.spanDigits s with
  | ([], _) => none
  | (digits, rest) => some (some (negative, digits), rest)

def scanSignedExponent : List Char → Option (Option (Bool × List Nat) × List Char)
  | '+' :: rest => scanExponentDigits false rest
  | '-' :: rest => scanExponentDigits true rest
  | s => scanExponentDigits false s

def scanExponent : List Char → Option (Option (Bool × List Nat) × List Char)
  | 'e' :: rest => scanSignedExponent rest
  | 'E' :: rest => scanSignedExponent rest
  | s => some (none, s)

def scanUnsigned (negative : Bool) (s : List Char) : Option (Numeral × List Char) := do
  let (whole, s) ← scanWhole s
  let (fraction, s) ← scanFraction s
  let (exponent, s) ← scanExponent s
  pure (⟨negative, whole, fraction, exponent⟩, s)

def scanNumeral : List Char → Option (Numeral × List Char)
  | '-' :: rest => scanUnsigned true rest
  | s => scanUnsigned false s

def gather : Nat → List Nat → Nat × List Nat
  | n, [] => (n, [])
  | n, d :: rest => if n * 10 + d < UInt64.size then gather (n * 10 + d) rest else (n, d :: rest)

def powerOfTen? (k : Nat) : Option Binary64 := Binary64.ofRatio? false (Nat.pow 10 k) 1

/-- `± n * 10 ^ e` by rounded steps. A quotient by more than `10 ^ 308` takes two; past two such
powers nothing of a 64-bit word is left. -/
def scale? (negative : Bool) (n : Nat) (e : Int) : Option Binary64 := do
  let x ← Binary64.ofRatio? negative n 1
  if x.isZero then pure x
  else if 0 ≤ e then
    if e ≤ 308 then x.mul? (← powerOfTen? e.toNat) else none
  else if -308 ≤ e then x.div? (← powerOfTen? (-e).toNat)
  else if -616 ≤ e then
    (← x.div? (← powerOfTen? 308)).div? (← powerOfTen? (-e - 308).toNat)
  else pure (Binary64.zero negative)

def Number.ofReal? : Option Binary64 → Number
  | some x => .real x
  | none => .tooLarge

/-- A numeral of digits alone that fits 64 bits. Minus zero is the real number, since no whole number
has that sign. -/
def Number.ofWhole (negative : Bool) (n : Nat) : Number :=
  if negative then
    if 0 < n ∧ Int64.minValue.toInt ≤ -n then .integer (-n) else .ofReal? (scale? true n 0)
  else .integer n

def Number.ofNumeral (numeral : Numeral) : Number :=
  let (n, dropped) := gather 0 numeral.whole
  if dropped.isEmpty && numeral.fraction.isEmpty && numeral.exponent.isNone then
    .ofWhole numeral.negative n
  else
    let (n, unread) := gather n numeral.fraction
    let shift : Int := dropped.length - (numeral.fraction.length - unread.length : Nat)
    match numeral.exponent with
    | none => .ofReal? (scale? numeral.negative n shift)
    | some (below, digits) =>
      let e := Text.ofDigits 10 digits
      if e ≤ Int32.maxValue.toInt then
        .ofReal? (scale? numeral.negative n (if below then shift - e else shift + e))
      else if n = 0 ∨ below then .real (Binary64.zero numeral.negative)
      else .tooLarge

def Number.toReal? : Number → Option Binary64
  | .integer n => Binary64.ofInt? n
  | .real x => some x
  | .tooLarge => none

end ResourceBroker.Json
