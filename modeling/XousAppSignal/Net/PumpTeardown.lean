import XousAppSignal.Library.Runs
import XousAppSignal.Net.WsPump

/-! The teardown of a pump: what is left of the threads once none of them can move, and whether
the caller then sees the incoming channel closed.
-/

namespace XousAppSignal.Net.Pump

/-- A half that is left waits for the caller: the writer for a frame on an empty outgoing
channel, or the reader for room on a full incoming one.
-/
def AwaitsCaller (pump : Pump) : Prop :=
  (pump.writer = .receiving ∧ pump.outgoing = [])
  ∨ ∃ item last, pump.reader = .pushing item last
      ∧ frameChannelCapacity ≤ pump.incoming.length

/-- The setup thread has joined what it says it has joined. -/
structure JoinsInOrder (pump : Pump) : Prop where
  reader : pump.setup ≠ .joiningReader → pump.reader = .exited
  writer : pump.setup = .done → pump.writer = .exited

/-- What a step of a thread can do. -/
inductive Stepped (pump : Pump) : PumpStep → Pump → Prop where
  | read {result : Option (Except WsError Message)} (after : ReaderState) (poisoned : Bool)
      (reads : pump.reader = .reading)
      : Stepped pump (.read result) { pump with reader := after, poisoned }
  | push (item : Item) (last : Bool) (after : ReaderState) (incoming : List Item)
      (pushes : pump.reader = .pushing item last)
      : Stepped pump .push { pump with reader := after, incoming }
  | dequeue (after : WriterState) (outgoing : List WsFrame)
      (receives : pump.writer = .receiving)
      : Stepped pump .dequeue { pump with writer := after, outgoing }
  | send {result : Option (Except WsError Unit)} (frame : WsFrame) (after : WriterState)
      (poisoned : Bool) (sent : List Message) (sends : pump.writer = .sending frame)
      : Stepped pump (.send result) { pump with writer := after, poisoned, sent }
  | joinReader (waits : pump.setup = .joiningReader) (exited : pump.reader = .exited)
      : Stepped pump .joinReader { pump with setup := .joiningWriter }
  | joinWriter (waits : pump.setup = .joiningWriter) (exited : pump.writer = .exited)
      : Stepped pump .joinWriter { pump with setup := .done }

theorem readReturned_eq (result : Except WsError Message) (pump : Pump)
    : ∃ after, pump.readReturned result = { pump with reader := after } := by
  unfold readReturned
  split
  · exact ⟨_, rfl⟩
  · exact ⟨_, rfl⟩
  · exact ⟨pump.reader, rfl⟩
  · split
    · exact ⟨pump.reader, rfl⟩
    · exact ⟨_, rfl⟩
  · exact ⟨_, rfl⟩

/-- Every step of a thread is one of the listed ones. -/
theorem step_cases {pump after : Pump} {step : PumpStep}
    (stepped : pump.step step = some after)
    : Stepped pump step after := by
  cases step with
  | read result =>
      simp only [Pump.step] at stepped
      split at stepped
      · next reads =>
          split at stepped
          · cases stepped
            exact .read _ _ reads
          · split at stepped
            · next result =>
                obtain ⟨next, same⟩ := readReturned_eq result pump
                rw [same] at stepped
                cases stepped
                exact .read _ pump.poisoned reads
            · cases stepped
              exact .read _ _ reads
      · cases stepped
  | push =>
      simp only [Pump.step] at stepped
      split at stepped
      · next item last pushes =>
          split at stepped
          · cases stepped
            exact .push item last _ pump.incoming pushes
          · split at stepped
            · cases stepped
              exact .push item last _ _ pushes
            · cases stepped
      · cases stepped
  | dequeue =>
      simp only [Pump.step] at stepped
      split at stepped
      · cases stepped
        exact .dequeue _ _ ‹_›
      · split at stepped
        · cases stepped
        · cases stepped
          exact .dequeue _ pump.outgoing ‹_›
      · cases stepped
  | send result =>
      simp only [Pump.step] at stepped
      split at stepped
      · next frame sends =>
          split at stepped
          · cases stepped
            exact .send frame _ pump.poisoned pump.sent sends
          · split at stepped
            · cases stepped
              exact .send frame _ pump.poisoned _ sends
            · cases stepped
              exact .send frame _ pump.poisoned _ sends
            · cases stepped
              exact .send frame _ _ _ sends
      · cases stepped
  | joinReader =>
      simp only [Pump.step] at stepped
      split at stepped
      · next ready =>
          cases stepped
          exact .joinReader ready.1 ready.2
      · cases stepped
  | joinWriter =>
      simp only [Pump.step] at stepped
      split at stepped
      · next ready =>
          cases stepped
          exact .joinWriter ready.1 ready.2
      · cases stepped

/-- An exited thread takes no more steps, so a join stays true. -/
theorem JoinsInOrder.step {pump after : Pump} {step : PumpStep}
    (joins : JoinsInOrder pump) (stepped : pump.step step = some after)
    : JoinsInOrder after := by
  cases step_cases stepped with
  | read next poisoned reads =>
      refine ⟨fun joined => ?_, joins.writer⟩
      rw [joins.reader joined] at reads
      cases reads
  | push item last next incoming pushes =>
      refine ⟨fun joined => ?_, joins.writer⟩
      rw [joins.reader joined] at pushes
      cases pushes
  | dequeue next outgoing receives =>
      refine ⟨joins.reader, fun done => ?_⟩
      rw [joins.writer done] at receives
      cases receives
  | send frame next poisoned sent sends =>
      refine ⟨joins.reader, fun done => ?_⟩
      rw [joins.writer done] at sends
      cases sends
  | joinReader waits exited => exact ⟨fun _ => exited, fun done => by cases done⟩
  | joinWriter waits exited =>
      exact ⟨fun _ => joins.reader (by rw [waits]; simp), fun _ => exited⟩

theorem JoinsInOrder.callerStep {pump after : Pump} {step : CallerStep}
    (joins : JoinsInOrder pump) (stepped : pump.callerStep step = some after)
    : JoinsInOrder after := by
  cases step with
  | submit frame =>
      simp only [Pump.callerStep] at stepped
      split at stepped
      · cases stepped
        exact ⟨joins.reader, joins.writer⟩
      · cases stepped
  | take =>
      simp only [Pump.callerStep] at stepped
      split at stepped
      · cases stepped
        exact ⟨joins.reader, joins.writer⟩
      · cases stepped
  | dropIncoming =>
      cases stepped
      exact ⟨joins.reader, joins.writer⟩
  | dropOutgoing =>
      cases stepped
      exact ⟨joins.reader, joins.writer⟩

theorem JoinsInOrder.move {pump after : Pump} {move : PumpStep ⊕ CallerStep}
    (moved : pump.move move = some after) (joins : JoinsInOrder pump)
    : JoinsInOrder after := by
  cases move with
  | inl step => exact joins.step moved
  | inr step => exact joins.callerStep moved

-----------------------------------------------------------------------------------------
-- Stuck states
-----------------------------------------------------------------------------------------

variable {pump : Pump}

/-- The reader of a stuck pump has ended, or waits for room while the receiver is there. -/
theorem Stuck.reader (stuck : pump.Stuck)
    : pump.reader = .exited
      ∨ ∃ item last, pump.reader = .pushing item last
          ∧ frameChannelCapacity ≤ pump.incoming.length := by
  cases state : pump.reader with
  | exited => exact .inl rfl
  | reading =>
      have blocked := stuck (.read none)
      simp only [Pump.step, state] at blocked
      split at blocked <;> cases blocked
  | pushing item last =>
      have blocked := stuck .push
      simp only [Pump.step, state] at blocked
      split at blocked
      · cases blocked
      · split at blocked
        · cases blocked
        · next full => exact .inr ⟨item, last, rfl, Nat.le_of_not_lt full⟩

/-- The writer of a stuck pump has ended, or waits for a frame. -/
theorem Stuck.writer (stuck : pump.Stuck)
    : pump.writer = .exited ∨ (pump.writer = .receiving ∧ pump.outgoing = []) := by
  cases state : pump.writer with
  | exited => exact .inl rfl
  | sending frame =>
      have blocked := stuck (.send none)
      simp only [Pump.step, state] at blocked
      split at blocked <;> cases blocked
  | receiving =>
      have blocked := stuck .dequeue
      simp only [Pump.step, state] at blocked
      cases queued : pump.outgoing with
      | nil => exact .inr ⟨rfl, rfl⟩
      | cons frame rest =>
          rw [queued] at blocked
          cases blocked

/-- Once both halves have ended, a stuck setup thread is through. -/
theorem Stuck.setup (stuck : pump.Stuck) (reader : pump.reader = .exited)
    (writer : pump.writer = .exited)
    : pump.setup = .done := by
  cases state : pump.setup with
  | done => rfl
  | joiningReader =>
      have blocked := stuck .joinReader
      simp [Pump.step, state, reader] at blocked
  | joiningWriter =>
      have blocked := stuck .joinWriter
      simp [Pump.step, state, writer] at blocked

/-- In every reachable state in which no thread can move, whether or not a half has ended and
the caller holds its ends, the incoming channel is closed exactly if no half is left that waits
for the caller.
-/
theorem incoming_closed_iff {moves : List (PumpStep ⊕ CallerStep)}
    (reached : Runs.run? Pump.move {} moves = some pump) (stuck : pump.Stuck)
    : pump.incomingClosed = true ↔ ¬ pump.AwaitsCaller := by
  have joins : JoinsInOrder pump :=
    Runs.run?_invariant (fun _ _ _ => JoinsInOrder.move) reached
      ⟨fun joined => absurd rfl joined, fun done => by cases done⟩
  constructor
  · intro closed
    simp only [incomingClosed, Bool.and_eq_true, decide_eq_true_eq] at closed
    rintro (⟨receives, -⟩ | ⟨item, last, pushes, -⟩)
    · rw [joins.writer closed.2] at receives
      cases receives
    · rw [closed.1] at pushes
      cases pushes
  · intro alone
    have reader : pump.reader = .exited := by
      rcases stuck.reader with exited | waits
      · exact exited
      · exact absurd (.inr waits) alone
    have writer : pump.writer = .exited := by
      rcases stuck.writer with exited | waits
      · exact exited
      · exact absurd (.inl waits) alone
    simp [incomingClosed, reader, stuck.setup reader writer]

/-- The connection closes while the writer sends a frame: both halves end, and the caller sees
the incoming channel closed.
-/
def closedWhileSending : List (PumpStep ⊕ CallerStep) :=
  [.inr (.submit (.ping [])), .inl .dequeue, .inl (.read (some (.error .connectionClosed))),
    .inl (.send (some (.error .alreadyClosed))), .inl .joinReader, .inl .joinWriter]

theorem incoming_closed_while_sending
    : ∃ pump : Pump, Runs.run? Pump.move {} closedWhileSending = some pump
        ∧ pump.Stuck ∧ pump.incomingClosed = true := by
  have reached : Runs.run? Pump.move {} closedWhileSending = some _ := rfl
  refine ⟨_, reached, fun step => ?_, ?_⟩
  · cases step <;> rfl
  · refine (incoming_closed_iff reached (fun step => by cases step <;> rfl)).mpr ?_
    rintro (⟨receives, -⟩ | ⟨item, last, pushes, -⟩)
    · cases receives
    · cases pushes

/-- The connection closes while the writer waits for a frame: the reader has ended, the setup
thread waits for the writer, no thread can move, and the incoming channel stays open.
-/
theorem incoming_open_after_close
    : ∃ pump : Pump,
        Runs.run? Pump.move {}
          [.inl (.read (some (.error .connectionClosed))), .inl .joinReader] = some pump
        ∧ pump.reader = .exited
        ∧ pump.holdsIncoming = true ∧ pump.holdsOutgoing = true
        ∧ pump.Stuck
        ∧ pump.incomingClosed = false := by
  refine ⟨_, rfl, rfl, rfl, rfl, fun step => ?_, rfl⟩
  cases step <;> rfl

end XousAppSignal.Net.Pump
