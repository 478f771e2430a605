import XousAppSignal.Worker.ReceiveLoop

/-! Close code 4409, another connection of the same device. A failed open looks at the code and
leaves; the end of an open stream does not, and the loop dials again.
-/

namespace XousAppSignal.Worker

/-- The connection was lost, or could not be opened, while 4409 was reported. -/
def Note.displaces : Note → Bool
  | .openFailed _ (some 4409) => true
  | .ended (some 4409) => true
  | _ => false

def Note.isConflict : Note → Bool
  | .emitted (.signalConflictingDevice _) => true
  | _ => false

/-- The note is of no displacement and tells the UI of none. -/
def Note.harmless (note : Note) : Prop := note.displaces = false ∧ note.isConflict = false

theorem harmless_openFailed (err : String) {closeCode : Option Nat}
    (other : closeCode ≠ some 4409)
    : (Note.openFailed err closeCode).harmless := by
  refine ⟨?_, rfl⟩
  unfold Note.displaces
  split
  · next same =>
      cases same
      exact absurd rfl other
  · next same => cases same
  · rfl

/-- A step notes a failed open under 4409 with its event and ends the loop, or it notes
neither a displacement nor such an event.
-/
theorem LoopStep.displaced_or_harmless {loop next : LoopState} {noted : List Note}
    (moved : LoopStep loop noted next) (streams : .ended (some 4409) ∉ noted)
    : (∃ err reason,
        noted = [.openFailed err (some 4409), .emitted (.signalConflictingDevice reason)]
        ∧ next.stage = .over)
      ∨ ∀ note ∈ noted, note.harmless := by
  cases moved with
  | displaced err reason calling => exact .inl ⟨err, reason, rfl, rfl⟩
  | opened calling =>
      exact .inr (List.forall_mem_cons.mpr ⟨⟨rfl, rfl⟩, greeting_all ⟨rfl, rfl⟩⟩)
  | expired err reason closeCode calling reauth spent =>
      have code : closeCode = some 4401 := by simp_all [isReauth403]
      refine .inr (List.forall_mem_cons.mpr ⟨harmless_openFailed err (by simp [code]), ?_⟩)
      simp [Note.harmless, Note.displaces, Note.isConflict]
  | refused err closeCode calling reauth unspent =>
      have code : closeCode = some 4401 := by simp_all [isReauth403]
      exact .inr (List.forall_mem_cons.mpr
        ⟨harmless_openFailed err (by simp [code]), banner_all fun _ => ⟨rfl, rfl⟩⟩)
  | failed err closeCode calling undisplaced other =>
      exact .inr (List.forall_mem_cons.mpr
        ⟨harmless_openFailed err undisplaced, banner_all fun _ => ⟨rfl, rfl⟩⟩)
  | ended closeCode running =>
      refine .inr fun note listed => ?_
      obtain rfl := List.mem_singleton.mp listed
      refine ⟨?_, rfl⟩
      unfold Note.displaces
      split
      · next same => cases same
      · next same =>
          cases same
          exact absurd List.mem_cons_self streams
      · rfl
  | counted reason ending => exact .inr (banner_all fun _ => ⟨rfl, rfl⟩)
  | _ => exact .inr (by simp [Note.harmless, Note.displaces, Note.isConflict])

/-- Until the first displacement the UI is told of none; that one ends the loop. -/
inductive Displacement (loop : LoopState) (notes : List Note) : Prop where
  | undisturbed (none : ∀ note ∈ notes, note.harmless)
  | told (earlier : List Note) (err reason : String)
      (split
        : notes = earlier
            ++ [.openFailed err (some 4409), .emitted (.signalConflictingDevice reason)])
      (none : ∀ note ∈ earlier, note.harmless)
      (ended : loop.stage = .over)

theorem displacement_start (loop : LoopState) : Displacement loop [] :=
  .undisturbed (by simp)

/-- One step, as long as no stream ends under 4409. -/
theorem Displacement.step {loop next : LoopState} {notes noted : List Note}
    (displacement : Displacement loop notes) (moved : LoopStep loop noted next)
    (streams : .ended (some 4409) ∉ noted)
    : Displacement next (notes ++ noted) := by
  cases displacement with
  | told earlier err reason split none ended =>
      obtain ⟨rfl, rfl⟩ := moved.over_final ended
      exact .told earlier err reason (by simpa using split) none ended
  | undisturbed none =>
      rcases moved.displaced_or_harmless streams with ⟨err, reason, rfl, ended⟩ | harmless
      · exact .told notes err reason rfl none ended
      · exact .undisturbed (List.forall_mem_append.mpr ⟨none, harmless⟩)

/-- The closed event channel may end the task anywhere. -/
theorem Displacement.cut {loop : LoopState} {notes : List Note}
    (displacement : Displacement loop notes)
    : Displacement { loop with stage := .over } notes := by
  cases displacement with
  | undisturbed none => exact .undisturbed none
  | told earlier err reason split none ended => exact .told earlier err reason split none rfl

/-- A run in which no stream ends under 4409. -/
theorem Displacement.run {platform : Platform} {start watch : Watch}
    {inputs : List (ManagerInput × Option Nat)}
    (displacement : Displacement start.loop start.notes)
    (reached : Runs.run? (Watch.step platform) start inputs = some watch)
    (streams
      : ∀ input ∈ inputs, input.1 = .advance .streamEnded → input.2 ≠ some 4409)
    : Displacement watch.loop watch.notes := by
  let Inv (watch : Watch) : Prop := Displacement watch.loop watch.notes
  have stable (input) (member : input ∈ inputs) (watch next : Watch)
      (stepped : watch.step platform input = some next) (before : Inv watch)
      : Inv next := by
    change Displacement next.loop next.notes
    obtain ⟨notes, moved | ⟨-, none, ended⟩⟩ := Watch.step_cases stepped
    · rw [notes]
      refine before.step moved fun listed => ?_
      obtain ⟨ended, code⟩ := (Watch.mem_noted listed).1 _ rfl
      exact streams input member ended code
    · rw [notes, none, List.append_nil, ended]
      exact before.cut
  exact Runs.run?_keeps stable reached displacement

/-- After a displacement nothing is noted but the event that tells of it. -/
theorem Displacement.settled {loop : LoopState} {notes before later : List Note} {note : Note}
    (displacement : Displacement loop notes) (split : notes = before ++ note :: later)
    (displaces : note.displaces = true)
    : (∃ reason, later = [.emitted (.signalConflictingDevice reason)])
      ∧ notes.countP Note.isConflict = 1 ∧ loop.stage = .over := by
  have listed : note ∈ notes := split ▸ List.mem_append_right before List.mem_cons_self
  cases displacement with
  | undisturbed none => simp [(none note listed).1] at displaces
  | told earlier err reason told none ended =>
      have quiet : earlier.countP Note.isConflict = 0 :=
        List.countP_eq_zero.mpr fun other there => by simp [(none other there).2]
      refine ⟨?_, by simp [told, quiet, Note.isConflict], ended⟩
      rw [told] at split
      rcases List.append_eq_append_iff.mp split with ⟨gap, rfl, rest⟩ | ⟨gap, rfl, rest⟩
      · -- Of the last two notes only the failed open displaces.
        cases gap with
        | nil =>
            obtain ⟨-, rfl⟩ := List.cons.inj rest
            exact ⟨reason, rfl⟩
        | cons first gap =>
            obtain ⟨-, rest⟩ := List.cons.inj rest
            cases gap with
            | nil =>
                obtain ⟨rfl, -⟩ := List.cons.inj rest
                cases displaces
            | cons second gap => simp at rest
      · cases gap with
        | nil =>
            obtain ⟨-, rfl⟩ := List.cons.inj rest
            exact ⟨reason, rfl⟩
        | cons first gap =>
            obtain ⟨rfl, -⟩ := List.cons.inj rest
            simp [(none note (by simp)).1] at displaces

/-- In every run of the task in which no stream ends while 4409 is reported: once the
connection is displaced, `receive_messages` is not called again, the UI is told exactly once,
and the task has nothing left to do but return.
-/
theorem displacement_terminal (platform : Platform)
    (inputs : List (ManagerInput × Option Nat)) (watch : Watch)
    (reached : Runs.run? (Watch.step platform) {} inputs = some watch)
    (streams
      : ∀ input ∈ inputs, input.1 = .advance .streamEnded → input.2 ≠ some 4409)
    (before later : List Note) (note : Note) (split : watch.notes = before ++ note :: later)
    (displaces : note.displaces = true)
    : .called ∉ later ∧ watch.notes.countP Note.isConflict = 1
      ∧ watch.loop.stage = .over := by
  have displacement := (displacement_start _).run reached streams
  obtain ⟨⟨reason, rfl⟩, told, ended⟩ := displacement.settled split displaces
  exact ⟨by simp, told, ended⟩

/-- The server closes an open stream with 4409: the task counts a failure, backs off and
calls `receive_messages` again, and the UI never hears of the other device.
-/
theorem displaced_stream_reopened
    : let inputs : List (ManagerInput × Option Nat) :=
        [(.accept .startReceive, none), (.advance (.wake 0 .insertion), none),
          (.advance .recv, none), (.advance (.wake 0 .insertion), none),
          (.advance (.opened (.ok ()) none), none), (.deliver true, none),
          (.advance (.wake 0 .insertion), none), (.advance .streamEnded, some 4409),
          (.advance .fetchNext, some 4409), (.deliver true, some 4409),
          (.advance (.wake 0 .insertion), some 4409), (.advance .slept, some 4409)]
      ∃ watch before later,
        Runs.run? (Watch.step (.knowing ⟨1⟩)) {} inputs = some watch
        ∧ watch.notes = before ++ .ended (some 4409) :: later
        ∧ .called ∈ later ∧ watch.notes.countP Note.isConflict = 0 := by
  refine ⟨_, [.called, .opened, .emitted .receiveStarted],
    [.emitted (.receiveError "receive stream ended (auto-retrying)"), .called], rfl, rfl, ?_,
    rfl⟩
  simp

/-- The open fails while 4409 is reported: the UI is told and the task leaves. -/
theorem displacement_terminal_open
    : let inputs : List (ManagerInput × Option Nat) :=
        [(.accept .startReceive, none), (.advance (.wake 0 .insertion), none),
          (.advance .recv, none), (.advance (.wake 0 .insertion), none),
          (.advance (.opened (.error "HTTP 409") (some 4409)), some 4409)]
      ∃ watch before later,
        Runs.run? (Watch.step (.knowing ⟨1⟩)) {} inputs = some watch
        ∧ watch.notes = before ++ .openFailed "HTTP 409" (some 4409) :: later
        ∧ .called ∉ later ∧ watch.notes.countP Note.isConflict = 1
        ∧ watch.loop.stage = .over := by
  intro inputs
  refine ⟨_, [.called], _, rfl, rfl, ?_⟩
  exact displacement_terminal (.knowing ⟨1⟩) inputs _ rfl (by simp [inputs]) [.called] _
    (.openFailed "HTTP 409" (some 4409)) rfl rfl

end XousAppSignal.Worker
