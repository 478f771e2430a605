import XousAppSignal.Ui.ComposeText
import XousAppSignal.Ui.HomeEffects
import XousAppSignal.Ui.LinkedScreens

/-! Username lookups and the results that come back for them. The app remembers no more than
that a lookup is in progress; here each result is handled together with the number of the
lookup it answers, so that a late one can be told from the one that is waited for.
-/

namespace XousAppSignal.Ui

open Worker

/-- A username lookup put on the command channel. -/
structure Lookup where
  /-- The screen it was started from. -/
  screen : Screen
  /-- How many resets came before it. -/
  resets : Nat
  answered : Bool
  deriving DecidableEq

/-- A session with the lookups it has started, oldest first. -/
structure LookupTrace where
  session : Session
  lookups : List Lookup
  resets : Nat

/-- An action of the session other than a result, or the result of a lookup. -/
inductive LookupAction where
  | act (action : Action)
  | answer (env : Env) (id : Nat) (result : Except String (Option Uuid))

/-- The action handles the result of a username lookup. -/
def Action.answersLookup : Action → Bool
  | .event _ received => received.isUsernameResolveResult
  | _ => false

/-- The conversation that a result names. -/
def resolvedUuid : Except String (Option Uuid) → Option Uuid
  | .ok (some uuid) => some uuid
  | _ => none

namespace LookupTrace

def start (app : App) : LookupTrace := ⟨.start app, [], 0⟩

def app (trace : LookupTrace) : App := trace.session.app

/-- The lookup of this number, as long as its result has not been handled. -/
def waiting (trace : LookupTrace) (id : Nat) : Option Lookup :=
  (trace.lookups[id]?).filter (fun lookup => !lookup.answered)

/-- The lookup that the app is waiting for: the newest one, while the flag is set. -/
def running (trace : LookupTrace) : Option Lookup :=
  if trace.app.usernameLookupInProgress then trace.lookups.getLast? else none

/-- An action that handles no result; a lookup it puts on the channel is noted down. -/
def record (platform : Platform) (trace : LookupTrace) (action : Action) : LookupTrace where
  session := trace.session.act platform action
  lookups :=
    if (action.outcome platform trace.app).2.any Cmd.isResolveUsername then
      trace.lookups ++ [⟨trace.app.screen, trace.resets, false⟩]
    else trace.lookups
  resets := if action.resets then trace.resets + 1 else trace.resets

/-- The app after the result of a lookup. -/
def handled (platform : Platform) (trace : LookupTrace) (env : Env)
    (result : Except String (Option Uuid))
    : App :=
  (trace.app.handleWorkerEvent platform env (.usernameResolveResult result)).1

/-- One action; each lookup has one result, which may come at any later time. -/
def step (platform : Platform) (trace : LookupTrace) : LookupAction → Option LookupTrace
  | .act action => if action.answersLookup then none else some (trace.record platform action)
  | .answer env id result =>
      match trace.waiting id with
      | none => none
      | some lookup =>
          some {
            session := trace.session.act platform (.event env (.usernameResolveResult result))
            lookups := trace.lookups.set id { lookup with answered := true }
            resets := trace.resets }

/-- A stale result does no harm. If the user has gone to another screen than the one the
lookup was started from, the result leaves the screen and the compose buffer alone; and it
does not end a lookup that was started after a reset which its own lookup was before.
-/
def StaleDropped (platform : Platform) (trace : LookupTrace) : LookupAction → Prop
  | .act _ => True
  | .answer env id result =>
      ∀ lookup ∈ trace.waiting id,
        let after := trace.handled platform env result
        (trace.app.screen ≠ lookup.screen
          → after.screen = trace.app.screen ∧ after.composeBuffer = trace.app.composeBuffer)
        ∧ ∀ current ∈ trace.running,
          lookup.resets < current.resets → after.usernameLookupInProgress = true

/-- While a lookup is in progress, a result comes in only if there was no reset since its own
lookup was started, and one that names a conversation only if Home or that very conversation
is shown.
-/
def AnsweredInTime (trace : LookupTrace) : LookupAction → Prop
  | .act _ => True
  | .answer _ id result =>
      ∀ lookup ∈ trace.waiting id,
        trace.app.usernameLookupInProgress = true
        → lookup.resets = trace.resets
          ∧ ∀ uuid ∈ resolvedUuid result,
            trace.app.screen = .home ∨ trace.app.screen = .thread uuid

instance (trace : LookupTrace) : ∀ action, Decidable (trace.AnsweredInTime action)
  | .act _ => .isTrue trivial
  | .answer _ _ _ => Option.decidableForallMem _

end LookupTrace

-----------------------------------------------------------------------------------------
-- What an action does to the lookup in progress
-----------------------------------------------------------------------------------------

/-- An action that handles no result either asks for a lookup from Home or at most ends the
one in progress, and a reset ends it.
-/
inductive LookupEffect (app : App) (action : Action) (outcome : Outcome) : Prop where
  | kept
      : outcome.1.usernameLookupInProgress
          = (app.usernameLookupInProgress && !action.resets)
        → outcome.2.any Cmd.isResolveUsername = false → LookupEffect app action outcome
  | asked
      : app.screen = .home → action.resets = false
        → outcome.2.any Cmd.isResolveUsername = true → LookupEffect app action outcome

theorem Steady.lookupEffect {app : App} {action : Action} {outcome : Outcome}
    (steady : Steady app outcome) (keeps : action.resets = false)
    : LookupEffect app action outcome := by
  refine .kept ?_ ?_
  · rw [steady.lookup, keeps]
    simp
  · simpa using steady.cmds

theorem Action.outcome_lookup (platform : Platform) (app : App) {action : Action}
    (other : action.answersLookup = false)
    : LookupEffect app action (action.outcome platform app) := by
  cases action with
  | press stroke =>
      unfold outcome
      dsimp only
      split
      · exact (Steady.refl app).lookupEffect rfl
      · have effect := App.handleKey_home platform stroke.env stroke.key app
        generalize app.handleKey platform stroke.env stroke.key = outcome at effect
        cases effect with
        | steady steady => exact steady.lookupEffect rfl
        | down shown key room => exact .kept (by simp [resets]) (by simp)
        | asked raw shown idle => exact .asked shown rfl rfl
  | event env received =>
      have home := App.handleWorkerEvent_home platform env received app
      refine .kept ?_ ?_
      · rw [outcome, home.lookup]
        have noResult : received.isUsernameResolveResult = false := other
        simp [noResult, resets]
      · simpa [outcome] using home.cmds
  | focus env foreground =>
      exact (App.handleFocusChange_steady env foreground app).lookupEffect rfl

namespace LookupTrace

/-- Lookups are started from Home, and the one in progress after the last reset. -/
structure Tracked (trace : LookupTrace) : Prop where
  home : ∀ lookup ∈ trace.lookups, lookup.screen = .home
  past : ∀ lookup ∈ trace.lookups, lookup.resets ≤ trace.resets
  current
    : trace.app.usernameLookupInProgress = true
      → ∃ lookup, trace.lookups.getLast? = some lookup ∧ lookup.resets = trace.resets

theorem Tracked.start {app : App} (start : App.Start app) : (LookupTrace.start app).Tracked := by
  refine ⟨by simp [LookupTrace.start], by simp [LookupTrace.start], fun asked => ?_⟩
  cases start <;> cases asked

theorem Tracked.record (platform : Platform) {trace : LookupTrace} (tracked : trace.Tracked)
    {action : Action} (other : action.answersLookup = false)
    : (trace.record platform action).Tracked := by
  have effect := action.outcome_lookup platform trace.app other
  have after : (trace.record platform action).app = (action.outcome platform trace.app).1 :=
    trace.session.act_app platform action
  cases effect with
  | kept flag cmds =>
      have same : (trace.record platform action).lookups = trace.lookups := if_neg (by simp [cmds])
      refine ⟨same ▸ tracked.home, fun lookup listed => ?_, fun asked => ?_⟩
      · refine Nat.le_trans (tracked.past lookup (same ▸ listed)) ?_
        unfold LookupTrace.record
        dsimp only
        split <;> omega
      · rw [after, flag, Bool.and_eq_true, Bool.not_eq_true'] at asked
        obtain ⟨lookup, newest, fresh⟩ := tracked.current asked.1
        refine ⟨lookup, same ▸ newest, ?_⟩
        rw [fresh]
        exact (if_neg (by simp [asked.2])).symm
  | asked shown keeps cmds =>
      have more : (trace.record platform action).lookups
          = trace.lookups ++ [⟨trace.app.screen, trace.resets, false⟩] := if_pos cmds
      have resets : (trace.record platform action).resets = trace.resets := if_neg (by simp [keeps])
      refine ⟨fun lookup listed => ?_, fun lookup listed => ?_, fun _ => ?_⟩
      · rw [more] at listed
        rcases List.mem_append.mp listed with earlier | new
        · exact tracked.home lookup earlier
        · rw [List.mem_singleton.mp new]
          exact shown
      · rw [more] at listed
        rw [resets]
        rcases List.mem_append.mp listed with earlier | new
        · exact tracked.past lookup earlier
        · rw [List.mem_singleton.mp new]
      · refine ⟨⟨trace.app.screen, trace.resets, false⟩, ?_, resets.symm⟩
        rw [more]
        exact List.getLast?_concat

theorem mem_of_waiting {trace : LookupTrace} {id : Nat} {lookup : Lookup}
    (waiting : trace.waiting id = some lookup)
    : lookup ∈ trace.lookups :=
  List.mem_of_getElem? (Option.filter_eq_some_iff.mp waiting).1

/-- No lookup is in progress after a result. -/
theorem handled_idle (platform : Platform) (trace : LookupTrace) (env : Env)
    (result : Except String (Option Uuid))
    : (trace.handled platform env result).usernameLookupInProgress = false := by
  have home := App.handleWorkerEvent_home platform env (.usernameResolveResult result) trace.app
  rw [handled, home.lookup]
  simp [Event.isUsernameResolveResult]

theorem Tracked.step (platform : Platform) {trace next : LookupTrace} {action : LookupAction}
    (stepped : trace.step platform action = some next) (tracked : trace.Tracked)
    : next.Tracked := by
  cases action with
  | act action =>
      rw [LookupTrace.step] at stepped
      split at stepped
      · cases stepped
      · next other =>
          cases stepped
          exact tracked.record platform (by simpa using other)
  | answer env id result =>
      rw [LookupTrace.step] at stepped
      split at stepped
      · cases stepped
      · next lookup waiting =>
          cases stepped
          have listed := mem_of_waiting waiting
          refine ⟨fun other member => ?_, fun other member => ?_, fun asked => ?_⟩
          · rcases List.mem_or_eq_of_mem_set member with old | rfl
            · exact tracked.home other old
            · exact tracked.home lookup listed
          · rcases List.mem_or_eq_of_mem_set member with old | rfl
            · exact tracked.past other old
            · exact tracked.past lookup listed
          · have idle := handled_idle platform trace env result
            rw [handled] at idle
            exact absurd (idle.symm.trans asked) (by simp)

/-- A result that no lookup waits for is ignored. -/
theorem handled_ignored (platform : Platform) {trace : LookupTrace} (env : Env)
    (result : Except String (Option Uuid))
    (idle : trace.app.usernameLookupInProgress = false)
    : trace.handled platform env result = trace.app := by
  simp [handled, App.handleWorkerEvent, App.handleUsernameResolveResult, idle]

/-- A result that a lookup waits for opens the conversation it names. -/
theorem handled_screen (platform : Platform) {trace : LookupTrace} (env : Env)
    (result : Except String (Option Uuid))
    (waiting : trace.app.usernameLookupInProgress = true)
    : (trace.handled platform env result).screen
      = ((resolvedUuid result).map .thread).getD trace.app.screen := by
  rcases result with reason | _ | uuid <;>
    simp [handled, App.handleWorkerEvent, App.handleUsernameResolveResult, waiting, resolvedUuid]

theorem handled_compose (platform : Platform) (trace : LookupTrace) (env : Env)
    (result : Except String (Option Uuid))
    : (trace.handled platform env result).composeBuffer = trace.app.composeBuffer := by
  simp only [handled, App.handleWorkerEvent, App.handleUsernameResolveResult]
  repeat' split
  all_goals rfl

/-- Any result ends the lookup in progress and opens what it names, so it does no harm exactly
when it comes in time.
-/
theorem Tracked.staleDropped_iff (platform : Platform) {trace : LookupTrace}
    (tracked : trace.Tracked) (action : LookupAction)
    : trace.StaleDropped platform action ↔ trace.AnsweredInTime action := by
  cases action with
  | act action => exact Iff.rfl
  | answer env id result =>
      refine forall₂_congr fun lookup waiting => ?_
      have listed := mem_of_waiting waiting
      have compose := handled_compose platform trace env result
      dsimp only
      rw [tracked.home lookup listed]
      cases flag : trace.app.usernameLookupInProgress with
      | false =>
          have idle : trace.running = none := if_neg (by simp [flag])
          simp [handled_ignored platform env result flag, idle]
      | true =>
          obtain ⟨current, newest, fresh⟩ := tracked.current flag
          have running : trace.running = some current := (if_pos flag).trans newest
          have ended := handled_idle platform trace env result
          have screen := handled_screen platform env result flag
          constructor
          · rintro ⟨kept, spared⟩
            refine fun _ => ⟨?_, fun uuid named => ?_⟩
            · by_contra stale
              have before : lookup.resets < current.resets := by
                have past := tracked.past lookup listed
                omega
              exact absurd (ended.symm.trans (spared current running before)) (by simp)
            · by_cases home : trace.app.screen = .home
              · exact .inl home
              · rw [(kept home).1, named] at screen
                exact .inr screen
          · intro inTime
            obtain ⟨same, shown⟩ := inTime rfl
            refine ⟨fun away => ⟨?_, compose⟩, fun other found before => ?_⟩
            · rw [screen]
              cases named : resolvedUuid result with
              | none => rfl
              | some uuid =>
                  rcases shown uuid named with home | there
                  · exact absurd home away
                  · exact there.symm
            · obtain rfl := Option.some.inj (running.symm.trans found)
              omega

end LookupTrace

/-- In any order of key presses, events and results, no stale result does harm exactly in the
runs where every result comes in time.
-/
theorem stale_results_dropped_iff (platform : Platform) {app : App} (start : App.Start app)
    (actions : List LookupAction)
    : Runs.Guarded? (LookupTrace.step platform) (LookupTrace.StaleDropped platform) (.start app)
        actions
      ↔ Runs.Guarded? (LookupTrace.step platform) LookupTrace.AnsweredInTime (.start app)
        actions :=
  Runs.guarded?_congr (fun _ _ _ => LookupTrace.Tracked.step platform)
    (fun _ action tracked => tracked.staleDropped_iff platform action)
    (LookupTrace.Tracked.start start)

-- A linked session on Home that looks usernames up.
section Lookups

/-- The account is there, so the app is linked and shows Home. -/
def linkUp (now : UInt64) : LookupAction :=
  .act (.event (.online now) (.accountInfo (.ok ⟨"xas", "aci", "+1"⟩)))

/-- F1, and this username in the prompt. -/
def lookUp (now : UInt64) (username : String) : LookupAction :=
  .act (.press ⟨{ Env.online now with answer := .ok username }, keyF1⟩)

/-- Home, a lookup, and the settings. -/
def lookupAndLeave : List LookupAction :=
  [linkUp 1, lookUp 2 "bobby.01", .act (.press ⟨.online 3, keyF4⟩)]

/-- Home, a lookup, a logout, and another lookup on the account linked next. -/
def lookupsAroundReset : List LookupAction :=
  [linkUp 1, lookUp 2 "bobby.01", .act (.event (.online 3) .loggedOut), linkUp 4,
    lookUp 5 "carol.02"]

/-- Witness: the result comes while Home is shown. -/
theorem stale_results_dropped_home
    : Runs.Guarded? (LookupTrace.step .twoContacts) (LookupTrace.StaleDropped .twoContacts)
        (.start .initial)
        [linkUp 1, lookUp 2 "bobby.01", .answer (.online 3) 0 (.ok (some bob))] :=
  (stale_results_dropped_iff .twoContacts .plain _).mpr (by decide)

/-- Counterexample: the result takes the user from the settings to a conversation, and the
result of a lookup from before the logout opens Bob's conversation for Carol's username.
-/
theorem stale_result_hijacks
    : (∃ trace,
        Runs.run? (LookupTrace.step .twoContacts) (.start .initial) lookupAndLeave = some trace
        ∧ trace.app.screen = .settings
        ∧ (trace.handled .twoContacts (.online 4) (.ok (some bob))).screen = .thread bob
        ∧ ¬trace.StaleDropped .twoContacts (.answer (.online 4) 0 (.ok (some bob))))
      ∧ ∃ trace,
        Runs.run? (LookupTrace.step .twoContacts) (.start .initial) lookupsAroundReset
          = some trace
        ∧ trace.app.usernameLookupPending = some "carol.02"
        ∧ (trace.handled .twoContacts (.online 6) (.ok (some bob))).screen = .thread bob
        ∧ ¬trace.StaleDropped .twoContacts (.answer (.online 6) 0 (.ok (some bob))) := by
  refine ⟨⟨_, rfl, rfl, rfl, fun dropped => ?_⟩, ⟨_, rfl, rfl, rfl, fun dropped => ?_⟩⟩
  · have kept := (dropped ⟨.home, 0, false⟩ rfl).1 (by decide)
    exact absurd kept.1 (by decide)
  · have spared := (dropped ⟨.home, 0, false⟩ rfl).2 ⟨.home, 1, false⟩ rfl (by decide)
    exact absurd spared (by decide)

end Lookups

end XousAppSignal.Ui
