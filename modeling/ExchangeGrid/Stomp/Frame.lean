import ExchangeGrid.Text.Utf8
import ExchangeGrid.Text.Blank

namespace ExchangeGrid
namespace Stomp

/-!
# STOMP frames

A frame is a command, a list of headers and an opaque body.  Headers keep the order in which
they stand on the wire, and of headers with one name the first counts.
-/

/-- What a frame asks for or reports. -/
inductive Command
  | connect
  | stomp
  | send
  | subscribe
  | unsubscribe
  | disconnect
  | connected
  | message
  | receipt
  | error
  deriving DecidableEq, Repr

/-- The word that opens a frame on the wire. -/
def Command.name : Command → String
  | .connect => "CONNECT"
  | .stomp => "STOMP"
  | .send => "SEND"
  | .subscribe => "SUBSCRIBE"
  | .unsubscribe => "UNSUBSCRIBE"
  | .disconnect => "DISCONNECT"
  | .connected => "CONNECTED"
  | .message => "MESSAGE"
  | .receipt => "RECEIPT"
  | .error => "ERROR"

def Command.all : List Command :=
  [.connect, .stomp, .send, .subscribe, .unsubscribe, .disconnect,
    .connected, .message, .receipt, .error]

/-- The command with a name, in the exact spelling. -/
def Command.ofName? (name : String) : Option Command :=
  Command.all.find? (·.name == name)

theorem Command.ofName?_name (command : Command) :
    Command.ofName? command.name = some command := by
  cases command <;> decide

/-- The frames of the opening exchange carry their headers verbatim; all others escape them. -/
def Command.escapes : Command → Bool
  | .connect | .stomp | .connected => false
  | _ => true

structure Header where
  name : String
  value : String
  deriving DecidableEq, Repr

structure Frame where
  command : Command
  headers : List Header := []
  body : List UInt8 := []
  deriving DecidableEq, Repr

/-- The value of the first header with a name. -/
def Frame.header? (frame : Frame) (name : String) : Option String :=
  (frame.headers.find? (·.name == name)).map (·.value)

def Frame.withHeader (frame : Frame) (name value : String) : Frame :=
  { frame with headers := frame.headers ++ [⟨name, value⟩] }

/-- The body read as text, with replacement characters where it is none. -/
def Frame.text (frame : Frame) : String :=
  Utf8.repair frame.body

/-- What an ERROR frame says: its `message` header, and its body without the blanks at the end
when it has one. -/
def Frame.complaint (frame : Frame) : String :=
  let summary := (frame.header? "message").getD "error frame"
  if frame.body.isEmpty then summary
  else summary ++ ": " ++ Blank.trimEnd frame.text

end Stomp
end ExchangeGrid
