import ResourceBroker.Text.Blank

/-!
Lines of bytes. A stream is cut at its line feeds, and each line is read as UTF-8 without the blanks
around its text.
-/

namespace ResourceBroker.Text

def lineFeed : UInt8 := 10

/-- The lines that a stream completes, without their line feeds, and the start of the next line. -/
def splitLines : List UInt8 → List (List UInt8) × List UInt8
  | [] => ([], [])
  | byte :: rest =>
    let (lines, last) := splitLines rest
    if byte = lineFeed then ([] :: lines, last)
    else match lines with
      | [] => ([], byte :: last)
      | line :: lines => ((byte :: line) :: lines, last)

def encode (s : List Char) : List UInt8 := s.flatMap String.utf8EncodeChar

def decode? (bytes : List UInt8) : Option (List Char) :=
  (String.fromUTF8? bytes.toByteArray).map String.toList

def lineText? (line : List UInt8) : Option (List Char) := (decode? line).map trim

theorem decode?_encode (s : List Char) : decode? (encode s) = some s := by
  have h : (encode s).toByteArray = (String.ofList s).toByteArray := by
    simp [encode, List.utf8Encode]
  rw [decode?, h, String.fromUTF8?, dif_pos (String.ofList s).isValidUTF8]
  exact congrArg some String.toList_ofList

end ResourceBroker.Text
