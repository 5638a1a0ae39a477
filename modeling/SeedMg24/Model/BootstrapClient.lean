import SeedMg24.Foundation.Conversations
import SeedMg24.Foundation.JsonValues
import SeedMg24.Model.BootstrapHost

/-!
# The serial client of the bootstrap protocol

`BootstrapSerialClient` of `tools/bootstrap/serial_client.py`, as a program over the calls it makes:
what the ports, the clock and the source of random numbers answer is open, and every call on a port
may raise.  What is written is ASCII, so a text; a line that is read is decoded as UTF-8.  How Python
prints a float, and a value that is no string, is a parameter.  Pauses are left out.
-/

set_option autoImplicit false

namespace SeedMg24.Model

open Foundation Foundation.Json

namespace BootstrapClient

/-! ## Calls -/

/-- The classes of exceptions that are told apart. -/
inductive ExceptionKind where
  | osError
  | protocolError
  | runtimeError
  | valueError
  | keyError
  | attributeError
  | typeError
  | other
deriving DecidableEq, Repr

/-- An exception with what `str` makes of it. -/
structure Raised where
  kind : ExceptionKind
  message : Text
deriving DecidableEq, Repr

/-- An item of `comports`. -/
structure PortInfo where
  device : Text
  serialNumber : Option Text
  vid : Option ℕ
  pid : Option ℕ
deriving DecidableEq, Repr

/-- A call on the outside.  There is one connection at a time, the one that was opened last. -/
inductive Call where
  | comports
  | openPort (port : Text)
  | write (line : Text)
  | flush
  | resetInputBuffer
  | readline
  | close
  | tokenHex
  | monotonic
deriving DecidableEq, Repr

/-- What a call is answered with. -/
@[reducible] def Answer : Call → Type
  | .comports => Except Raised (List PortInfo)
  | .openPort _ => Except Raised Unit
  | .write _ => Except Raised Unit
  | .flush => Except Raised Unit
  | .resetInputBuffer => Except Raised Unit
  | .readline => Except Raised (List UInt8)
  | .close => Except Raised Unit
  | .tokenHex => Text
  | .monotonic => ℚ

/-- A program that may raise. -/
abbrev Session : Type → Type := ExceptT Raised (Program Answer)

/-- Code that goes on whether a part of it has raised or not. -/
def attempt {α : Type} (part : Session α) : Session (Except Raised α) :=
  ExceptT.mk (part.run >>= fun result => .done (.ok result))

namespace Call

/-! The calls as programs. -/

def listPorts : Session (List PortInfo) := ExceptT.mk (Program.call comports Program.done)
def openSerial (port : Text) : Session Unit := ExceptT.mk (Program.call (openPort port) Program.done)
def writeLine (line : Text) : Session Unit := ExceptT.mk (Program.call (write line) Program.done)
def flushPort : Session Unit := ExceptT.mk (Program.call flush Program.done)
def resetInput : Session Unit := ExceptT.mk (Program.call resetInputBuffer Program.done)
def readLine : Session (List UInt8) := ExceptT.mk (Program.call readline Program.done)
def closeSerial : Session Unit := ExceptT.mk (Program.call close Program.done)
def newRequestId : Session Text := ExceptT.lift (Program.call tokenHex Program.done)
def now : Session ℚ := ExceptT.lift (Program.call monotonic Program.done)

end Call

/-! ## The protocol, for any values -/

/-- How Python prints what is printed nowhere else: `repr` of a float, and `str` of a value. -/
structure Printing where
  floatText : Double → Text
  strOf : Json → Text

mutual

/-- `json.dumps` of a value, with its members in their order. -/
def print (printing : Printing) : Json → Text
  | .null => "null".toList
  | .bool b => (if b then "true" else "false").toList
  | .int z => str z
  | .float x => printing.floatText x
  | .str s => '"' :: BootstrapHost.dumpsString s ++ ['"']
  | .arr items => '[' :: [','].intercalate (printItems printing items) ++ [']']
  | .obj members => objectText (printMembers printing members)

def printItems (printing : Printing) : List Json → List Text
  | [] => []
  | j :: items => print printing j :: printItems printing items

def printMembers (printing : Printing) : List (Text × Json) → List (Text × Text)
  | [] => []
  | (key, j) :: members =>
    (BootstrapHost.dumpsString key, print printing j) :: printMembers printing members

end

/-- SOURCE: protocol.py:32-33 -/
def canonicalJson (printing : Printing) (j : Json) : Text := print printing j.canonical

/-- The members of a request, the later of two with one key counting.
SOURCE: protocol.py:47-58 -/
def requestBody (requestId action : Text) (fields : List (Text × Json)) : Json :=
  if action = "confirm_factory_reset".toList then
    .obj ([("t".toList, .str "bootstrap_request".toList),
      ("v".toList, .int BootstrapHost.SCHEMA_VERSION), ("id".toList, .str requestId),
      ("a".toList, .str action)] ++ fields.map fun field => (BootstrapHost.aliasOf field.1, field.2))
  else
    .obj ([("type".toList, .str "bootstrap_request".toList),
      ("schema_version".toList, .int BootstrapHost.SCHEMA_VERSION),
      ("request_id".toList, .str requestId), ("action".toList, .str action)] ++ fields)

/-- `ProtocolError`. -/
def protocolError (message : Text) : Raised := ⟨.protocolError, message⟩

/-- SOURCE: protocol.py:42-62 -/
def encodeRequest (printing : Printing) (requestId action : Text) (fields : List (Text × Json)) :
    Except Raised Text :=
  if !BootstrapHost.validRequestId requestId then throw (protocolError "invalid request_id".toList)
  else if action ∉ BootstrapHost.ALLOWED_ACTIONS then throw (protocolError "unknown action".toList)
  else
    let line := BootstrapHost.PREFIX ++ canonicalJson printing (requestBody requestId action fields) ++
      "\n".toList
    if line.length > BootstrapHost.MAX_LINE_BYTES then
      throw (protocolError "request exceeds line limit".toList)
    else return line

/-- Whether the status of a response is a list or a dictionary: such a value is not looked up in a
set. -/
def hasUnhashableStatus (line : Text) : Bool :=
  match (loads (line.drop BootstrapHost.PREFIX.length)).bind (·.get? "status".toList) with
  | some (.arr _) => true
  | some (.obj _) => true
  | _ => false

/-- SOURCE: protocol.py:65-81 -/
def decodeResponse (line : List UInt8) (requestId action : Text) : Except Raised Json :=
  if line.length > BootstrapHost.MAX_LINE_BYTES ∨ !BootstrapHost.PREFIX.toBytes.isPrefixOf line then
    throw (protocolError "invalid response framing".toList)
  else match Text.decodeUtf8 line with
    | none => throw (protocolError "malformed response".toList)
    | some text =>
      match BootstrapHost.decodeResponse text requestId action with
      | .ok body => return body
      | .error e =>
        if e.message = "invalid response status".toList && hasUnhashableStatus text then
          throw ⟨.typeError, "unhashable type".toList⟩
        else throw (protocolError e.message)

/-! ## The client -/

/-- Opening a connection.
SOURCE: serial_client.py:11-28 -/
def openClient (port : Text) : Session Unit := do
  if port = [] then throw ⟨.valueError, "explicit port and bounded timeout required".toList⟩
  Call.openSerial port
  Call.writeLine "\n".toList
  Call.flushPort
  Call.resetInput

/-- `str` of the code of an error. -/
def errorCode (printing : Printing) (response : Json) : Text :=
  match response.get? "error_code".toList with
  | none => "device_error".toList
  | some (.str s) => s
  | some j => printing.strOf j

/-- The lines that are read until one is the response.
SOURCE: serial_client.py:38-54 -/
def readResponse (printing : Printing) (requestId action : Text) : ℕ → Session Json
  | 0 => throw (protocolError "bootstrap response timeout".toList)
  | left + 1 => do
    let line ← Call.readLine
    if line = [] then throw (protocolError "bootstrap response timeout".toList)
    else if !BootstrapHost.PREFIX.toBytes.isPrefixOf line then
      readResponse printing requestId action left
    else match decodeResponse line requestId action with
      | .error e =>
        if e = protocolError "response correlation mismatch".toList then
          readResponse printing requestId action left
        else throw e
      | .ok response =>
        if isStr (response.get? "status".toList) "error".toList then
          throw (protocolError (errorCode printing response))
        else return response

/-- SOURCE: serial_client.py:33-54 -/
def request (printing : Printing) (action : Text) (fields : List (Text × Json)) : Session Json := do
  let requestId ← Call.newRequestId
  Call.resetInput
  let line ← ExceptT.mk (.done (encodeRequest printing requestId action fields))
  Call.writeLine line
  Call.flushPort
  readResponse printing requestId action 64

/-- `request(...)["result"]`. -/
def requestResult (printing : Printing) (action : Text) (fields : List (Text × Json)) :
    Session Json := do
  let response ← request printing action fields
  match response.get? "result".toList with
  | none => throw ⟨.keyError, "'result'".toList⟩
  | some result => return result

/-- A `with` block: the connection is closed whether the block has raised or not, and where closing
raises that is what is raised.
SOURCE: serial_client.py:56-60 -/
def withClient {α : Type} (port : Text) (block : Session α) : Session α := do
  openClient port
  let result ← attempt block
  Call.closeSerial
  match result with
  | .ok value => return value
  | .error e => throw e

end BootstrapClient

end SeedMg24.Model
