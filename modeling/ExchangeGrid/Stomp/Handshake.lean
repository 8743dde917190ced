import ExchangeGrid.Stomp.Wire

namespace ExchangeGrid
namespace Stomp

/-!
# Opening a session

A client opens a session with one CONNECT frame, and the first thing that comes back decides.
Bytes behind that first frame are not lost: they belong to the session that it opens.
-/

/-- What a client says of itself when it connects. -/
structure Introduction where
  host : String
  login : Option String := none
  passcode : Option String := none
  deriving DecidableEq, Repr

/-- A header that stands only when there is a value for it. -/
def Frame.withHeaderIfAny (frame : Frame) (name : String) : Option String → Frame
  | some value => frame.withHeader name value
  | none => frame

/-- The frame that opens a session: version 1.2, and no heart-beats. -/
def Introduction.frame (introduction : Introduction) : Frame :=
  let frame : Frame := { command := .connect }
  (((((frame.withHeader "accept-version" "1.2").withHeader "host" introduction.host).withHeader
    "heart-beat" "0,0").withHeaderIfAny "login" introduction.login).withHeaderIfAny
    "passcode" introduction.passcode)

/-- What was agreed when a session was opened. -/
structure Agreement where
  version : String
  session : Option String
  deriving DecidableEq, Repr

namespace Handshake

/-- The version of a broker that names none. -/
def oldestVersion : String := "1.0"

/-- What the first frame decides. -/
def judge (frame : Frame) : Except Fault Agreement :=
  match frame.command with
  | .connected => .ok ⟨(frame.header? "version").getD oldestVersion, frame.header? "session"⟩
  | .error => .error (.refused frame.complaint)
  | command => .error (.protocol (.unexpectedReply command))

/-- How the end of the input is told when some bytes are left of it. -/
def endFault (rest : List UInt8) : Fault :=
  if rest.isEmpty then .closed else .transport .leftover

/-- What is decided so far, with the bytes that are left. -/
structure Decision where
  outcome : Except Fault Agreement
  rest : List UInt8

/-- Look for a decision in what has arrived.  Without one, more has to come. -/
def decide? (limit : Nat) (arrived : List UInt8) (ended : Bool) : Option Decision :=
  match decode limit arrived with
  | .frame frame rest => some ⟨judge frame, rest⟩
  | .fault fault rest => some ⟨.error fault, rest⟩
  | .waiting rest => if ended then some ⟨.error (endFault rest), rest⟩ else none

/-- A look of the client at its input, with what is new there since the look before: bytes, the end
of the input, or nothing. -/
structure Look where
  time : Nat
  bytes : List UInt8 := []
  isEnd : Bool := false
  deriving DecidableEq, Repr

/-- A decision, and when it fell. -/
structure Opened where
  decision : Decision
  time : Nat

/-- Give up waiting when the limit of time is reached. -/
def giveUp (timeout : Nat) (arrived : List UInt8) : Opened :=
  ⟨⟨.error .handshakeTimeout, arrived⟩, timeout⟩

/-- Wait for a decision.  The client looks at its input first and at the clock then, so that what
can be read when the limit of time is reached still counts.  That look is the last one, and the
clock wakes the client for it if nothing else does. -/
def await (limit timeout : Nat) : List UInt8 → List Look → Opened
  | arrived, [] => giveUp timeout arrived
  | arrived, look :: looks =>
    if timeout < look.time then giveUp timeout arrived
    else
      let arrived := arrived ++ look.bytes
      match decide? limit arrived look.isEnd with
      | some decision => ⟨decision, look.time⟩
      | none =>
        if timeout ≤ look.time then giveUp timeout arrived else await limit timeout arrived looks

/-- The looks that are left once the client waits no longer. -/
def remaining (limit timeout : Nat) : List UInt8 → List Look → List Look
  | _, [] => []
  | arrived, look :: looks =>
    if timeout < look.time then look :: looks
    else
      let arrived := arrived ++ look.bytes
      match decide? limit arrived look.isEnd with
      | some _ => looks
      | none => if timeout ≤ look.time then looks else remaining limit timeout arrived looks

/-- An attempt to open a session: the frames that went out, and what was decided. -/
structure Approach where
  sent : List Frame
  opened : Opened

/-- Introduce the client, and wait for a decision unless sending that has failed.  The clock starts
once the introduction is out. -/
def connect (introduction : Introduction) (timeout : Nat) (failure : Option String)
    (looks : List Look) : Approach :=
  match failure with
  | some detail => ⟨[], ⟨⟨.error (.transport (.writeFailed detail)), []⟩, 0⟩⟩
  | none => ⟨[introduction.frame], await defaultLimit timeout [] looks⟩

end Handshake
end Stomp
end ExchangeGrid
