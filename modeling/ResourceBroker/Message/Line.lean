import ResourceBroker.Json.Printer
import ResourceBroker.Message.Codec
import ResourceBroker.Text.Line

/-!
Messages as lines. A stream carries one message per line, without line feeds inside, so a reader cuts
the stream at its line feeds and decodes what it gets.
-/

namespace ResourceBroker

/-- A line that holds one value, with the line feed that ends it. -/
def Json.toLine (value : Json) : List UInt8 := Text.encode (value.render ++ ['\n'])

def Request.toLine (request : Request) : List UInt8 := request.toJson.toLine

def Outbound.toLine (message : Outbound) : List UInt8 := message.toJson.toLine

def Request.ofText? (text : List Char) : Option Request := Json.decode? Request.read text

def Outbound.ofText? (text : List Char) : Option Outbound := Json.decode? Outbound.read text

end ResourceBroker
