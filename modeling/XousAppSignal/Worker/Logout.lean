import XousAppSignal.Store.Wipe
import XousAppSignal.Worker.WorldSteps

/-! Logging out while a manager task is still running. The wipe empties the store, but the
task is not waited for: whatever it stores or flushes afterwards is account state again.
-/

namespace XousAppSignal.Worker

open Store
open StoreOp (Buffered)

variable {ρ : Type} {platform : Platform} {format : RecordFormat ρ}

theorem World.Handled.store {world after : World ρ} {cmd : Cmd}
    (handled : Handled world cmd after)
    : after.store = world.store
      ∨ after.store = world.store.clearRegistration.2.clear.2
      ∨ after.store = world.store.hasAccountState.2 := by
  cases handled with
  | linkRefused deviceName | linkStarted deviceName => exact .inr (.inr rfl)
  | loggedOut => exact .inr (.inl rfl)
  | _ => exact .inl rfl

/-- What a dispatcher step does to the store: nothing, a wipe, or the pre-link probe. -/
theorem World.Dispatched.store {world after : World ρ} {input : DispatcherInput}
    (dispatched : Dispatched world input after)
    : after.store = world.store
      ∨ after.store = world.store.clearRegistration.2.clear.2
      ∨ after.store = world.store.hasAccountState.2 := by
  have dropped (control : Bool → DispatcherControl) (cancelled : Bool) (cmd : Cmd)
      : (world.linkingCmd control cancelled cmd).store = world.store := by
    unfold linkingCmd
    split <;> rfl
  cases dispatched with
  | commandWhileLinking cancelled cmd => exact .inl (dropped _ _ _)
  | commandWhileEnding cancelled linked cmd => exact .inl (dropped _ _ _)
  | registrationLoaded attempts result =>
      left
      rcases registrationLoaded_cases attempts result world with
        ⟨info, moved⟩ | ⟨control, -, moved⟩ <;> rw [moved] <;> rfl
  | command cmd => exact (handleCmd_cases cmd world).store
  | accountInfoLoaded result =>
      left
      unfold World.accountInfoLoaded
      split
      · rfl
      · dsimp only
        split <;> rfl
  | forwarded op after control taken forwarded =>
      left
      rcases forward_cases forwarded with rfl | ⟨index, rfl⟩ <;> rfl
  | linkEnded cancelled result =>
      left
      unfold World.linkEnded
      split <;> rfl
  | linkReturned cancelled linked =>
      left
      unfold World.linkReturned
      split <;> rfl
  | _ => exact .inl rfl

/-- The input puts no account state into the store: no key is written into a probed
dictionary, and no session is dirty when the sessions are flushed.
-/
def WorldInput.Quiet (world : World ρ) : WorldInput ρ → Prop
  | .library (.kv op _) => op.spares
  | .manager _ (.item .queueEmpty _ _) => world.store.sessionDirty = ∅
  | .manager _ (.sendReturned .ok _ _ _) => world.store.sessionDirty = ∅
  | _ => True

theorem TaskInput.onStore_drained {store : Buffered ρ} (drained : Drained store)
    (control : Control) (input : TaskInput)
    : Drained (input.onStore platform format control store) := by
  have aborted : Drained store.abortBatch := fun _ => rfl
  unfold TaskInput.onStore
  split
  · exact @Drained.perform _ format _ drained .beginSendBatch
  · split
    · split
      · simp only [settleBatch, PddbStore.commitBatch, PddbStore.onBackend,
          BufferingBackend.commitInternal]
        split <;> exact fun _ => rfl
      · exact drained
      · exact aborted
      · exact drained
    · exact drained
  · split
    · exact aborted
    · exact drained
  · split
    · exact aborted
    · exact drained
  · next order => exact drained.perform (.flushSessions order)
  · exact drained

theorem TaskInput.onStore_wiped {world : World ρ} (wiped : Wiped world.store)
    {index : Nat} {input : TaskInput} (quiet : (WorldInput.manager index input).Quiet world)
    (control : Control)
    : Wiped (input.onStore platform format control world.store) := by
  have aborted : Wiped world.store.abortBatch := BufferingBackend.Vacant.abort wiped
  unfold TaskInput.onStore
  split
  · exact BufferingBackend.Vacant.begin wiped
  · next outcome now flushOrder commitOrder =>
      split
      · split
        · next attempt complete =>
            obtain rfl := judge_complete complete
            simp only [settleBatch, PddbStore.flushSessions_clean quiet]
            exact BufferingBackend.Vacant.commit wiped commitOrder
        · exact wiped
        · exact aborted
        · exact wiped
      · exact wiped
  · split
    · exact aborted
    · exact wiped
  · split
    · exact aborted
    · exact wiped
  · next order => exact @Wiped.perform _ _ wiped format (.flushSessions order) quiet
  · exact wiped

/-- What a whole step of the worker does to the store. -/
theorem World.step_store {world after : World ρ} {input : WorldInput ρ}
    (stepped : world.step platform format input = some after)
    : (∃ input', Dispatched world input' after)
      ∨ (∃ index taskInput control, input = .manager index taskInput
          ∧ after.store = taskInput.onStore platform format control world.store)
      ∨ (∃ call, input = .library call ∧ after.store = call.perform format world.store)
      ∨ after.store = world.store := by
  cases step_cases stepped with
  | dispatched dispatched => exact .inl ⟨_, dispatched⟩
  | advanced index input manager task =>
      exact .inr (.inl ⟨index, input, manager.task.control, rfl, rfl⟩)
  | library call => exact .inr (.inr (.inl ⟨call, rfl, rfl⟩))
  | _ => exact .inr (.inr (.inr rfl))

theorem World.step_drained {world after : World ρ} {input : WorldInput ρ}
    (stepped : world.step platform format input = some after) (drained : Drained world.store)
    : Drained after.store := by
  rcases World.step_store stepped with ⟨input', dispatched⟩
    | ⟨index, taskInput, control, -, store⟩ | ⟨call, -, store⟩ | store
  · rcases dispatched.store with store | store | store
    · exact store ▸ drained
    · rw [store]
      exact @Drained.perform _ format _
        (@Drained.perform _ format _ drained .clearRegistration) .clear
    · rw [store]
      exact @Drained.perform _ format _ drained .hasAccountState
  · rw [store]
    exact TaskInput.onStore_drained drained control taskInput
  · rw [store]
    exact drained.perform (.trait call)
  · exact store ▸ drained

theorem World.step_wiped {world after : World ρ} {input : WorldInput ρ}
    (quiet : input.Quiet world) (stepped : world.step platform format input = some after)
    (wiped : Wiped world.store)
    : Wiped after.store := by
  rcases World.step_store stepped with ⟨input', dispatched⟩
    | ⟨index, taskInput, control, rfl, store⟩ | ⟨call, rfl, store⟩ | store
  · rcases dispatched.store with store | store | store
    · exact store ▸ wiped
    · rw [store]
      exact @Wiped.perform _ _ (@Wiped.perform _ _ wiped format .clearRegistration trivial)
        format .clear trivial
    · rw [store]
      exact @Wiped.perform _ _ wiped format .hasAccountState trivial
  · rw [store]
    exact TaskInput.onStore_wiped wiped quiet control
  · rw [store]
    cases call with
    | session op trait => exact wiped.session format trait
    | kv op other => exact wiped.kv quiet
  · exact store ▸ wiped

/-- In every run of the worker: once a logout wiped the store, it holds no account state in
any later state, as long as no step after the wipe writes a key of the account or flushes a
dirty session.
-/
theorem logout_is_final (platform : Platform) (format : RecordFormat ρ) (inner : InnerBackend)
    (before later : List (WorldInput ρ)) (world loggedOut after : World ρ)
    (reached : Runs.run? (World.step platform format) (.start inner) before = some world)
    (ready : world.dispatcher.control = .ready)
    (logout : world.step platform format (.dispatcher (.cmd .logout)) = some loggedOut)
    (cleared : world.store.clearRegistration.2.clear.1 = .ok ())
    (quiet : Runs.Guarded? (World.step platform format) WorldInput.Quiet loggedOut later)
    (continued : Runs.run? (World.step platform format) loggedOut later = some after)
    : after.store.hasAccountState.1 = false := by
  have drained : Drained world.store :=
    Runs.run?_invariant (fun _ _ _ stepped drained => World.step_drained stepped drained)
      reached (fun _ => rfl)
  have wipe : loggedOut.store = world.store.clearRegistration.2.clear.2 := by
    simp only [World.step, World.dispatch, ready] at logout
    split at logout
    · cases logout
    · split at logout
      · cases logout
      · obtain rfl := Option.some.inj logout
        rfl
  have wiped : Wiped loggedOut.store := by
    rw [wipe]
    exact (Wiped.of_clear (@Drained.perform _ format _ drained .clearRegistration) cleared).1
  have stays : Wiped after.store :=
    quiet.invariant (fun _ _ _ quiet stepped wiped => World.step_wiped quiet stepped wiped)
      continued wiped
  exact stays.hasAccountState

/-- The receive stream is open when the user logs out. After `LoggedOut` was emitted the
library stores a session for an item of the stream, and the flush of the emptied queue
writes it: the store holds account state again.
-/
theorem session_flushed_after_logout
    : let peer : ProtocolAddress := ⟨"peer", defaultDeviceId⟩
      let before : List (WorldInput UInt8) :=
        [.dispatcher (.loaded (.ok ⟨"xas", "aci", "phone"⟩)), .dispatcherDelivers,
          .dispatcher .adopt, .dispatcher (.cmd .startReceive), .dispatcher .forward,
          .manager 0 (.wake 0 .insertion), .manager 0 .recv, .manager 0 (.wake 0 .insertion),
          .manager 0 (.opened (.ok ()) none), .managerDelivers 0,
          .manager 0 (.wake 0 .insertion)]
      let later : List (WorldInput UInt8) :=
        [.dispatcherDelivers, .library (.session (.storeSession .aci peer 7) rfl),
          .manager 0 (.item .queueEmpty none .insertion)]
      ∃ world loggedOut after,
        Runs.run? (World.step (.knowing ⟨1⟩) .oneByte) (.start { map := ∅ }) before
          = some world
        ∧ world.dispatcher.control = .ready
        ∧ world.step (.knowing ⟨1⟩) .oneByte (.dispatcher (.cmd .logout)) = some loggedOut
        ∧ world.store.clearRegistration.2.clear.1 = .ok ()
        ∧ Runs.run? (World.step (.knowing ⟨1⟩) .oneByte) loggedOut later = some after
        ∧ after.log.getLast?.any Event.resets = true
        ∧ after.store.hasAccountState.1 = true := by
  refine ⟨_, _, _, rfl, rfl, rfl, rfl, rfl, rfl, rfl⟩

/-- The same logout, with the task noticing its closed channel and ending before anything
else happens.
-/
theorem logout_is_final_idle_task
    : let before : List (WorldInput UInt8) :=
        [.dispatcher (.loaded (.ok ⟨"xas", "aci", "phone"⟩)), .dispatcherDelivers,
          .dispatcher .adopt, .manager 0 (.wake 0 .insertion),
          .library (.kv (.put (dictIdentity .aci) "peer" [1]) (by decide))]
      let later : List (WorldInput UInt8) :=
        [.dispatcherDelivers, .manager 0 .recv, .manager 0 .proceed]
      ∃ world loggedOut after,
        Runs.run? (World.step (.knowing ⟨1⟩) .oneByte) (.start { map := ∅ }) before
          = some world
        ∧ world.store.hasAccountState.1 = true
        ∧ world.step (.knowing ⟨1⟩) .oneByte (.dispatcher (.cmd .logout)) = some loggedOut
        ∧ Runs.run? (World.step (.knowing ⟨1⟩) .oneByte) loggedOut later = some after
        ∧ after.store.hasAccountState.1 = false := by
  intro before later
  refine ⟨_, _, _, rfl, rfl, rfl, rfl, ?_⟩
  exact logout_is_final (.knowing ⟨1⟩) .oneByte { map := ∅ } before later _ _ _ rfl rfl rfl rfl
    ⟨trivial, fun _ _ => ⟨trivial, fun _ _ => ⟨trivial, fun _ _ => trivial⟩⟩⟩ rfl

end XousAppSignal.Worker
