import ResourceBroker.Text.Numeral

/-!
Spans of time and their text: a number in the largest unit that is not zero, with as many decimals
as it needs.
-/

namespace ResourceBroker

structure Duration where
  nanoseconds : Nat
deriving DecidableEq, Repr

namespace Duration

def ofParts (seconds nanoseconds : Nat) : Duration := ⟨seconds * 1000000000 + nanoseconds⟩

def ofMilliseconds (n : Nat) : Duration := ⟨n * 1000000⟩

/-- A span in units of `10 ^ places` nanoseconds, without trailing zeros after the point. -/
def renderIn (places : Nat) (unit : String) (d : Duration) : String :=
  let whole := d.nanoseconds / Nat.pow 10 places
  let part := Text.padZero places (Text.decimal (d.nanoseconds % Nat.pow 10 places))
  let fraction := (part.reverse.dropWhile (· = '0')).reverse
  String.ofList (Text.decimal whole ++ (if fraction.isEmpty then [] else '.' :: fraction)) ++ unit

def render (d : Duration) : String :=
  if 1000000000 ≤ d.nanoseconds then renderIn 9 "s" d
  else if 1000000 ≤ d.nanoseconds then renderIn 6 "ms" d
  else if 1000 ≤ d.nanoseconds then renderIn 3 "µs" d
  else renderIn 0 "ns" d

theorem ofMilliseconds_pos {n : Nat} (h : 0 < n) : 0 < (ofMilliseconds n).nanoseconds := by
  simp [ofMilliseconds]
  omega

end Duration
end ResourceBroker
