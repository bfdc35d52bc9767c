import ResourceBroker.Text.Numeral
import ResourceBroker.Text.Printable

/-!
Quoted texts for messages: double quotes around, with escapes for the quote, the backslash, the
usual controls and every character that is not printable, so that a message stays on one line and
shows what the text holds.
-/

namespace ResourceBroker.Text

def escapeChar (c : Char) : List Char :=
  if c = '"' then ['\\', '"']
  else if c = '\\' then ['\\', '\\']
  else if c = '\n' then ['\\', 'n']
  else if c = '\r' then ['\\', 'r']
  else if c = '\t' then ['\\', 't']
  else if c.toNat = 0 then ['\\', '0']
  else if isPrintable c then [c]
  else ['\\', 'u', '{'] ++ hexadecimal c.toNat ++ ['}']

def quote (s : String) : String :=
  String.ofList (['"'] ++ s.toList.flatMap escapeChar ++ ['"'])

end ResourceBroker.Text
