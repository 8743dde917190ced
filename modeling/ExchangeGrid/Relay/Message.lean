import ExchangeGrid.Text.Utf8

namespace ExchangeGrid
namespace Relay

/-!
# Messages on a socket

A message may come in pieces, and small control messages may come between them.  An assembler
puts the pieces together and refuses those that cannot belong to any message.
-/

inductive PieceKind
  | text
  | binary
  | continuation
  | ping
  | pong
  | close
  deriving DecidableEq, Repr

structure Piece where
  kind : PieceKind
  data : List UInt8
  isLast : Bool := true
  deriving DecidableEq, Repr

/-- A whole message. -/
inductive Message
  | text (data : List UInt8)
  | binary (data : List UInt8)
  | ping (data : List UInt8)
  | pong (data : List UInt8)
  | close (data : List UInt8)
  deriving DecidableEq, Repr

def Message.data : Message → List UInt8
  | text data | binary data | ping data | pong data | close data => data

/-- The bytes that a message carries for the user of the socket. -/
def Message.payload : Message → List UInt8
  | text data | binary data => data
  | _ => []

/-- Whether a message ends what comes from the other side. -/
def Message.isClose : Message → Bool
  | close _ => true
  | _ => false

def controlLimit : Nat := 125

/-- The code in the first two bytes of a close message. -/
def closeCode? : List UInt8 → Option Nat
  | high :: low :: _ => some (high.toNat * 256 + low.toNat)
  | _ => none

def isSendable (code : Nat) : Bool :=
  (1000 ≤ code && code ≤ 1003) || (1007 ≤ code && code ≤ 1013) || (3000 ≤ code && code ≤ 4999)

/-- The code and the reason with which a code that may not be sent is answered. -/
def violationNotice : List UInt8 :=
  [3, 234] ++ Utf8.bytes "Protocol violation"

def closeReply (data : List UInt8) : List UInt8 :=
  match closeCode? data with
  | none => []
  | some code => if isSendable code then data else violationNotice

/-- A message of which some pieces have come. -/
structure Unfinished where
  isText : Bool
  data : List UInt8
  deriving DecidableEq, Repr

/-- What comes of a piece. -/
inductive Assembled
  | message (message : Message)
  | unfinished (soFar : Unfinished)
  | violation
  deriving DecidableEq, Repr

/-- Finish a message, or go on; a text has to be one as far as it has come. -/
def Unfinished.settle (unfinished : Unfinished) (isLast : Bool) : Assembled :=
  if isLast then
    if !unfinished.isText then .message (.binary unfinished.data)
    else if (Utf8.text? unfinished.data).isSome then .message (.text unfinished.data)
    else .violation
  else if unfinished.isText && !Utf8.begins unfinished.data then .violation
  else .unfinished unfinished

/-- A control message stands alone, and is short. -/
def control (piece : Piece) (message : Message) : Assembled :=
  if piece.isLast && piece.data.length ≤ controlLimit then .message message else .violation

/-- Whether a close message has a code with a readable reason, or nothing at all. -/
def isCloseData : List UInt8 → Bool
  | [] => true
  | [_] => false
  | _ :: _ :: reason => (Utf8.text? reason).isSome

/-- Take a piece, given what came before it. -/
def assemble (before : Option Unfinished) (piece : Piece) : Assembled :=
  match piece.kind, before with
  | .text, none => (Unfinished.mk true piece.data).settle piece.isLast
  | .binary, none => (Unfinished.mk false piece.data).settle piece.isLast
  | .continuation, some unfinished =>
    { unfinished with data := unfinished.data ++ piece.data }.settle piece.isLast
  | .ping, _ => control piece (.ping piece.data)
  | .pong, _ => control piece (.pong piece.data)
  | .close, _ =>
    if isCloseData piece.data then control piece (.close piece.data) else .violation
  | _, _ => .violation

end Relay
end ExchangeGrid
