import ExchangeGrid.Config
import ExchangeGrid.Relay.Machine

namespace ExchangeGrid
namespace Rehearsal

/-!
# A peer for rehearsals

A relay with a peer at its socket, a client at its pipe, and someone who holds it.  None of them
does anything by itself.  After everything that happens, reader and writer of the relay work until
both wait.
-/

/-- What happens in a rehearsal of a relay. -/
inductive RelayCue
  | peerSend (piece : Relay.Piece)
  | peerReceive
  | clientWrite (bytes : List UInt8)
  | clientReceive
  | pass (milliseconds : Nat)
  | probe (milliseconds : Nat) (answered : Bool)
  | askClosed
  | close
  | release
  | losePeer
  | loseClient

/-- What the peer has received, and whether the socket was closed after it. -/
structure Seen where
  messages : List Relay.Message := []
  ended : Bool := false

/-- What comes of it. -/
inductive RelayFinding
  | done
  | absent
  | truth (value : Bool)
  | seen (seen : Seen)
  | bytes (data : List UInt8) (ended : Bool)
  | probed (alive : Bool) (seen : Seen) (waited : Nat)
  | closed (failed : Bool)

/-- A relay and what is around it. -/
structure Peer where
  relay : Relay
  unfinished : Option Relay.Unfinished := none
  shown : Nat := 0
  isHeld : Bool := true

namespace Peer

def start (settings : PubSubSettings) : Peer where
  relay := (Relay.start settings.pongWait (Config.pingPeriod settings)).settle

/-- Change the relay and let it come to rest. -/
def alter (peer : Peer) (change : Relay → Relay) : Peer :=
  { peer with relay := (change peer.relay).settle }

def hasSocket (peer : Peer) : Bool :=
  !peer.relay.peerIsGone && !peer.relay.isDown

/-- Send a piece, which may be part of a message.  Behind a piece that cannot be part of any,
nothing is read. -/
def send (peer : Peer) (piece : Relay.Piece) : Peer :=
  if peer.relay.inboxEnd.isSome then peer
  else match Relay.assemble peer.unfinished piece with
  | .message message =>
    let unfinished := match piece.kind with
      | .text | .binary | .continuation => none
      | _ => peer.unfinished
    { peer with unfinished }.alter (·.arrive message)
  | .unfinished soFar => { peer with unfinished := some soFar }
  | .violation => peer.alter Relay.breakInbox

/-- What the peer has received since it last looked. -/
def look (peer : Peer) : Seen × Peer :=
  (⟨peer.relay.sent.drop peer.shown, peer.relay.isDown⟩,
    { peer with shown := peer.relay.sent.length })

/-- Receive what the pipe holds.  What its reading makes room for comes with the next look. -/
def receive (peer : Peer) : RelayFinding × Peer :=
  let data := peer.relay.available
  (.bytes data peer.relay.isDown, peer.alter (·.receive data.length))

def answerPings (peer : Peer) (seen : Seen) : Peer :=
  seen.messages.foldl (fun peer message =>
    match message with
    | .ping data => if peer.hasSocket then peer.alter (·.arrive (.pong data)) else peer
    | _ => peer) peer

/-- Ask for a ping, and wait for a pong. -/
def probe (peer : Peer) (milliseconds : Nat) (answered : Bool) : RelayFinding × Peer :=
  let relay := peer.relay
  let asked := if relay.cancelled then none else relay.request?
  let peer := match asked with
    | some asked => { peer with relay := asked.settle }
    | none => peer
  let (seen, peer) := if answered && !peer.relay.peerIsGone then peer.look else ({}, peer)
  let peer := if answered then peer.answerPings seen else peer
  if asked.isNone then (.probed false seen 0, peer)
  else
    let isOver := fun (later : Relay) => later.pongs != relay.pongs || later.reader == .stopped
    let later := peer.relay.wait milliseconds isOver
    let alive := later.pongs != relay.pongs
    (.probed alive seen (later.now - relay.now), { peer with relay := later })

def hasFailed (relay : Relay) : Bool :=
  match relay.writer with
  | .stopped (some _) => true
  | _ => false

def play (peer : Peer) : RelayCue → RelayFinding × Peer
  | .peerSend piece =>
    if peer.hasSocket then (.truth true, peer.send piece) else (.truth false, peer)
  | .peerReceive =>
    if peer.relay.peerIsGone then (.absent, peer)
    else
      let (seen, peer) := peer.look
      (.seen seen, peer)
  | .clientWrite bytes =>
    if peer.relay.clientIsGone || peer.relay.isDown then (.truth false, peer)
    else (.truth true, peer.alter (·.write bytes))
  | .clientReceive =>
    if peer.relay.clientIsGone then (.absent, peer) else peer.receive
  | .pass milliseconds =>
    (.done, { peer with relay := peer.relay.wait milliseconds fun _ => false })
  | .probe milliseconds answered =>
    if peer.isHeld then peer.probe milliseconds answered else (.absent, peer)
  | .askClosed => if peer.isHeld then (.truth peer.relay.cancelled, peer) else (.absent, peer)
  | .close =>
    if peer.isHeld then
      let peer := { peer with isHeld := false }.alter Relay.cancel
      (.closed (hasFailed peer.relay), peer)
    else (.absent, peer)
  | .release => (.done, { peer with isHeld := false }.alter Relay.cancel)
  | .losePeer => (.done, peer.alter Relay.losePeer)
  | .loseClient => (.done, peer.alter Relay.loseClient)

end Peer
end Rehearsal
end ExchangeGrid
