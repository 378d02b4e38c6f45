import Frick.Server.Gateway

/-!
# The writer task of a connection

The writer of `run_connection` takes one message after the other from an unbounded channel and waits
for the socket to accept it. Its counter `buffered` goes up before the wait and down after it.
-/

namespace Frick.Server

/-- `Outbound`, a frame by the length of its bytes. -/
inductive OutboundMessage where
  | frame (frameLen : Nat)
  | close (code : Nat)

/-- The channel of a connection and its writer task: the frame that the socket has not accepted yet,
the counter, whether the loop has returned and the code it closed with. `overflowed` remembers that
the backlog has been over the limit, and `late` the frames sent since. -/
structure OutboundWriter where
  channel : List OutboundMessage := []
  sending : Option Nat := none
  buffered : Nat := 0
  returned : Bool := false
  closeCode : Option Nat := none
  overflowed : Bool := false
  late : List Nat := []

/-- A message is enqueued, the writer receives one, or the socket accepts or fails the frame. -/
inductive WriterEvent where
  | enqueue (message : OutboundMessage)
  | recv
  | accept
  | sendError

def OutboundMessage.length : OutboundMessage → Nat
  | .frame frameLen => frameLen
  | .close _ => 0

open OutboundMessage (length)

namespace OutboundWriter

variable (maxOutbound : Nat) (w : OutboundWriter)

/-- The bytes enqueued and not yet accepted by the socket. -/
def backlog : Nat := (w.channel.map length).sum + w.sending.getD 0

/-- A turn of the loop up to its wait. -/
def recv : OutboundWriter :=
  match w.returned, w.sending, w.channel with
  | false, none, .close code :: channel =>
    { w with channel, returned := true, closeCode := some code }
  | false, none, .frame frameLen :: channel =>
    if w.buffered + frameLen > maxOutbound then
      { w with channel, returned := true, closeCode := some tryAgainLater }
    else
      { w with
        channel
        buffered := w.buffered + frameLen
        sending := some frameLen
        late := if w.overflowed then w.late ++ [frameLen] else w.late }
  | _, _, _ => w

/-- One event of the channel, the loop or the socket. -/
def handle : WriterEvent → OutboundWriter
  | .enqueue message => { w with channel := w.channel ++ [message] }
  | .recv => w.recv maxOutbound
  | .accept => { w with sending := none, buffered := w.buffered - w.sending.getD 0 }
  | .sendError => { w with returned := w.returned || w.sending.isSome, sending := none }

/-- One event, and whether the backlog is over the limit now. -/
def step (event : WriterEvent) : OutboundWriter :=
  let after := w.handle maxOutbound event
  { after with overflowed := after.overflowed || decide (maxOutbound < after.backlog) }

end OutboundWriter

end Frick.Server
