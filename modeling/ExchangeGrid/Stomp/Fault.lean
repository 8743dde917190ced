import ExchangeGrid.Stomp.Frame
import ExchangeGrid.Text.Quoted

namespace ExchangeGrid
namespace Stomp

/-!
# What can go wrong with a STOMP connection

A fault is the cause; `Fault.message` is the only place where it is put into words.
-/

/-- A way in which bytes or frames break the rules of STOMP. -/
inductive Violation
  | headNotText
  | unknownCommand (name : String)
  | malformedHeader (line : String)
  | unknownEscape (after : Option Char)
  | malformedLength (value : String)
  | missingTerminator
  | unexpectedReply (command : Command)
  deriving DecidableEq, Repr

def Violation.message : Violation → String
  | .headNotText => "frame header is not UTF-8"
  | .unknownCommand name => "unknown command " ++ Quoted.text name
  | .malformedHeader line => "malformed header line " ++ Quoted.text line
  | .unknownEscape after => "invalid header escape \\" ++ String.ofList after.toList
  | .malformedLength value => "invalid content-length " ++ Quoted.text value
  | .missingTerminator => "body not terminated by NUL after content-length bytes"
  | .unexpectedReply command => "expected CONNECTED, got " ++ command.name

/-- What the transport below reported. -/
inductive Breakage
  | leftover
  | readFailed (detail : String)
  | writeFailed (detail : String)
  deriving DecidableEq, Repr

def Breakage.message : Breakage → String
  | .leftover => "bytes remaining on stream"
  | .readFailed detail | .writeFailed detail => detail

/-- Why a STOMP operation failed, or why a connection ended. -/
inductive Fault
  | transport (breakage : Breakage)
  | protocol (violation : Violation)
  | tooLarge (limit : Nat)
  | refused (complaint : String)
  | handshakeTimeout
  | closed
  deriving DecidableEq, Repr

def Fault.message : Fault → String
  | .transport breakage => "io: " ++ breakage.message
  | .protocol violation => "protocol: " ++ violation.message
  | .tooLarge limit => "frame exceeds " ++ toString limit ++ " bytes"
  | .refused complaint => "server error: " ++ complaint
  | .handshakeTimeout => "handshake timed out"
  | .closed => "connection closed"

end Stomp
end ExchangeGrid
