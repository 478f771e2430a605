import Mathlib.Data.List.Basic

/-! The WebSocket pump of the network bridge: a reader and a writer thread share one socket
behind a mutex and meet the caller at two bounded frame channels; the setup thread waits for
both. What the socket calls return is an input of every step.
-/

namespace XousAppSignal.Net

/-- Bounded capacity of the frame channels. -/
def frameChannelCapacity : Nat := 16

/-- A frame as the caller sees it. -/
inductive WsFrame where
  | binary (bytes : List UInt8)
  | text (text : String)
  | ping (bytes : List UInt8)
  | pong (bytes : List UInt8)
  | close (code : UInt16) (reason : String)
  deriving DecidableEq

/-- The caller's error, as far as the pump builds it. -/
inductive HttpError where
  | network (message : String)
  deriving DecidableEq

/-- What travels on the incoming channel. -/
abbrev Item := Except HttpError WsFrame

/-- The close frame of the WebSocket library, with its code as a number. -/
structure CloseFrame where
  code : UInt16
  reason : String
  deriving DecidableEq

/-- A message of the WebSocket library. -/
inductive Message where
  | binary (bytes : List UInt8)
  | text (text : String)
  | ping (bytes : List UInt8)
  | pong (bytes : List UInt8)
  | close (frame : Option CloseFrame)
  | frame
  deriving DecidableEq

/-- The `io::ErrorKind`s the reader looks for. -/
inductive IoErrorKind where
  | wouldBlock
  | timedOut
  | other
  deriving DecidableEq

/-- The errors of the WebSocket library, with their display text where it is used. -/
inductive WsError where
  | connectionClosed
  | alreadyClosed
  | io (kind : IoErrorKind) (display : String)
  | other (display : String)
  deriving DecidableEq

-----------------------------------------------------------------------------------------
-- The reader
-----------------------------------------------------------------------------------------

/-- What the reader does after a read: send an item and go on, send an item and stop, read
again, read again unless the receiver is gone, or stop.
-/
inductive AfterRead where
  | forward (item : Item)
  | forwardLast (item : Item)
  | again
  | tick
  | stop
  deriving DecidableEq

/-- A read error as an item. -/
def readFailed (display : String) : Item := .error (.network ("ws read: " ++ display))

/-- The match of `reader_loop` on the result of a read. -/
def afterRead : Except WsError Message → AfterRead
  | .ok (.binary bytes) => .forward (.ok (.binary bytes))
  | .ok (.text text) => .forward (.ok (.text text))
  | .ok (.ping bytes) => .forward (.ok (.ping bytes))
  | .ok (.pong bytes) => .forward (.ok (.pong bytes))
  | .ok (.close (some frame)) => .forwardLast (.ok (.close frame.code frame.reason))
  | .ok (.close none) => .forwardLast (.ok (.close 1005 ""))
  | .ok .frame => .again
  | .error .connectionClosed => .stop
  | .error .alreadyClosed => .stop
  | .error (.io .wouldBlock _) => .tick
  | .error (.io .timedOut _) => .tick
  | .error (.io .other display) => .forward (readFailed display)
  | .error (.other display) => .forward (readFailed display)

/-- One turn of `reader_loop`: whether the mutex is poisoned, what the read returns, and
whether the receiver is gone by then.
-/
structure ReadTurn where
  poisoned : Bool := false
  result : Except WsError Message
  receiverGone : Bool := false

/-- What `reader_loop` did in the turns so far: the items it pushed, the reads that returned,
and whether it has ended. Otherwise it is in a further read.
-/
structure ReaderRun where
  items : List Item
  reads : Nat
  ended : Bool
  deriving DecidableEq

/-- One more read, with the items it led to, before the rest of a run. -/
def ReaderRun.after (items : List Item) (run : ReaderRun) : ReaderRun :=
  ⟨items ++ run.items, run.reads + 1, run.ended⟩

def readerLoop : List ReadTurn → ReaderRun
  | [] => ⟨[], 0, false⟩
  | turn :: rest =>
      if turn.poisoned then ⟨[], 0, true⟩
      else
        match afterRead turn.result with
        | .forward item =>
            if turn.receiverGone then ⟨[], 1, true⟩ else (readerLoop rest).after [item]
        | .forwardLast item => ⟨if turn.receiverGone then [] else [item], 1, true⟩
        | .again => (readerLoop rest).after []
        | .tick => if turn.receiverGone then ⟨[], 1, true⟩ else (readerLoop rest).after []
        | .stop => ⟨[], 1, true⟩

-----------------------------------------------------------------------------------------
-- The threads and the channels
-----------------------------------------------------------------------------------------

inductive ReaderState where
  | reading
  | pushing (item : Item) (last : Bool)
  | exited
  deriving DecidableEq

inductive WriterState where
  | receiving
  | sending (frame : WsFrame)
  | exited
  deriving DecidableEq

/-- The setup thread joins the reader, then the writer, then drops its sender. -/
inductive SetupState where
  | joiningReader
  | joiningWriter
  | done
  deriving DecidableEq

/-- A connection after its handshake. The caller holds the receiver of the incoming channel
and the sender of the outgoing one until it drops them; `sent` is what went to the socket.
-/
structure Pump where
  reader : ReaderState := .reading
  writer : WriterState := .receiving
  setup : SetupState := .joiningReader
  poisoned : Bool := false
  incoming : List Item := []
  outgoing : List WsFrame := []
  holdsIncoming : Bool := true
  holdsOutgoing : Bool := true
  sent : List Message := []

/-- The message the writer makes of a frame. -/
def toMessage : WsFrame → Message
  | .binary bytes => .binary bytes
  | .text text => .text text
  | .ping bytes => .ping bytes
  | .pong bytes => .pong bytes
  | .close code reason => .close (some ⟨code, reason⟩)

/-- A step of one of the threads. A socket call locks the mutex, runs and unlocks; without a
result it panicked, which ends the thread and poisons the mutex.
-/
inductive PumpStep where
  | read (result : Option (Except WsError Message))
  | push
  | dequeue
  | send (result : Option (Except WsError Unit))
  | joinReader
  | joinWriter

/-- What the caller does with its channel ends. -/
inductive CallerStep where
  | submit (frame : WsFrame)
  | take
  | dropIncoming
  | dropOutgoing

namespace Pump

/-- The reader after a read that returned. -/
def readReturned (result : Except WsError Message) (pump : Pump) : Pump :=
  match afterRead result with
  | .forward item => { pump with reader := .pushing item false }
  | .forwardLast item => { pump with reader := .pushing item true }
  | .again => pump
  | .tick => if pump.holdsIncoming then pump else { pump with reader := .exited }
  | .stop => { pump with reader := .exited }

/-- A step of a thread, when it is not blocked. A send on the incoming channel waits for room
and fails once the receiver is dropped; a receive on the outgoing channel waits for a frame
and fails once the sender is dropped and no frame is left.
-/
def step (pump : Pump) : PumpStep → Option Pump
  | .read result =>
      match pump.reader with
      | .reading =>
          if pump.poisoned then some { pump with reader := .exited }
          else
            match result with
            | some result => some (pump.readReturned result)
            | none => some { pump with reader := .exited, poisoned := true }
      | _ => none
  | .push =>
      match pump.reader with
      | .pushing item last =>
          if !pump.holdsIncoming then some { pump with reader := .exited }
          else if pump.incoming.length < frameChannelCapacity then
            some
              { pump with
                incoming := pump.incoming ++ [item]
                reader := if last then .exited else .reading }
          else none
      | _ => none
  | .dequeue =>
      match pump.writer, pump.outgoing with
      | .receiving, frame :: rest =>
          some { pump with writer := .sending frame, outgoing := rest }
      | .receiving, [] =>
          if pump.holdsOutgoing then none else some { pump with writer := .exited }
      | _, _ => none
  | .send result =>
      match pump.writer with
      | .sending frame =>
          if pump.poisoned then some { pump with writer := .exited }
          else
            let pump := { pump with sent := pump.sent ++ [toMessage frame] }
            match result with
            | some (.ok _) => some { pump with writer := .receiving }
            | some (.error _) => some { pump with writer := .exited }
            | none => some { pump with writer := .exited, poisoned := true }
      | _ => none
  | .joinReader =>
      if pump.setup = .joiningReader ∧ pump.reader = .exited then
        some { pump with setup := .joiningWriter }
      else none
  | .joinWriter =>
      if pump.setup = .joiningWriter ∧ pump.writer = .exited then
        some { pump with setup := .done }
      else none

/-- A step of the caller. The writer's exit drops the receiver of the outgoing channel, which
then takes no frame.
-/
def callerStep (pump : Pump) : CallerStep → Option Pump
  | .submit frame =>
      if pump.holdsOutgoing ∧ pump.writer ≠ .exited
          ∧ pump.outgoing.length < frameChannelCapacity then
        some { pump with outgoing := pump.outgoing ++ [frame] }
      else none
  | .take =>
      match pump.holdsIncoming, pump.incoming with
      | true, _ :: rest => some { pump with incoming := rest }
      | _, _ => none
  | .dropIncoming => some { pump with holdsIncoming := false }
  | .dropOutgoing => some { pump with holdsOutgoing := false }

/-- A move of a thread or of the caller. -/
def move (pump : Pump) : PumpStep ⊕ CallerStep → Option Pump
  | .inl step => pump.step step
  | .inr step => pump.callerStep step

/-- Every sender of the incoming channel is dropped: the reader's with its thread, and the
setup thread's after both joins.
-/
def incomingClosed (pump : Pump) : Bool :=
  pump.reader = .exited && pump.setup = .done

/-- No thread can take a step. -/
def Stuck (pump : Pump) : Prop := ∀ step, pump.step step = none

end Pump

end XousAppSignal.Net
