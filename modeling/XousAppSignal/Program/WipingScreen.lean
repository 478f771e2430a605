import XousAppSignal.Library.Runs
import XousAppSignal.Program.Channels

/-! The wipe from the pre-link menu. Its logout is followed through the command channel, the
worker and the event channel; until the logged-out event that answers it is handled, the
screen is to stay `Screen.wiping` and the UI is to send nothing.
-/

namespace XousAppSignal

open Store (InnerBackend RecordFormat)
open Ui (App Env KeyPress)
open Worker

variable {ρ : Type}

namespace Ui.App

/-- The events that replace the screen of a wipe. -/
def leavesWiping (app : App) : Event → Bool
  | .linkComplete .. => true
  | .linkError _ => app.linkingInProgress
  | .staleStoreDetected => true
  | .accountInfo (.ok _) => !app.linked
  | .loggedOut => true
  | .signalAuthExpired _ => true
  | .signalConflictingDevice _ => true
  | .usernameResolveResult (.ok (some _)) => app.usernameLookupInProgress
  | _ => false

/-- The focus change asks the worker for the account. -/
def asksOnFocus (env : Env) (foreground : Bool) (app : App) : Bool :=
  foreground && !app.linked && app.accountAci.isNone && env.channel.isOk

variable {app : App}

/-- The wiping screen takes no keys. -/
theorem handleKey_wiping (shown : app.screen = .wiping) (platform : Platform) (env : Env)
    (key : Char)
    : app.handleKey platform env key = (app, []) := by
  rw [handleKey, shown]

/-- Any other event leaves the screen alone and sends nothing. -/
theorem handleWorkerEvent_stays {event : Event} (stays : app.leavesWiping event = false)
    (platform : Platform) (env : Env)
    : (app.handleWorkerEvent platform env event).1.screen = app.screen
      ∧ (app.handleWorkerEvent platform env event).2 = [] := by
  cases event with
  | linkComplete deviceName aci phone => cases stays
  | linkError reason =>
      have idle : app.linkingInProgress = false := stays
      simp [handleWorkerEvent, idle]
  | staleStoreDetected => cases stays
  | accountInfo answer =>
      cases answer with
      | error reason => exact ⟨rfl, rfl⟩
      | ok info =>
          have linked : app.linked = true := by simpa [leavesWiping] using stays
          simp [handleWorkerEvent, linked]
  | loggedOut => cases stays
  | signalAuthExpired reason => cases stays
  | signalConflictingDevice reason => cases stays
  | usernameResolveResult answer =>
      simp only [handleWorkerEvent, handleUsernameResolveResult]
      split
      · simp
      · next running =>
          cases answer with
          | error reason => simp
          | ok found =>
              cases found with
              | none => simp
              | some uuid =>
                  have idle : app.usernameLookupInProgress = false := stays
                  rw [idle] at running
                  exact absurd rfl running
  | _ => exact ⟨rfl, rfl⟩

theorem handleWorkerEvent_leaves {event : Event} (leaves : app.leavesWiping event = true)
    (platform : Platform) (env : Env)
    : (app.handleWorkerEvent platform env event).1.screen ≠ .wiping := by
  cases event with
  | linkComplete deviceName aci phone => simp [handleWorkerEvent]
  | linkError reason =>
      have running : app.linkingInProgress = true := leaves
      simp [handleWorkerEvent, running]
  | staleStoreDetected => simp [handleWorkerEvent]
  | accountInfo answer =>
      cases answer with
      | error reason => cases leaves
      | ok info =>
          have unlinked : app.linked = false := by simpa [leavesWiping] using leaves
          simp [handleWorkerEvent, unlinked]
  | loggedOut => simp [handleWorkerEvent, resetToUnlinked]
  | signalAuthExpired reason => simp [handleWorkerEvent, resetToUnlinked]
  | signalConflictingDevice reason => simp [handleWorkerEvent, resetToUnlinked]
  | usernameResolveResult answer =>
      cases answer with
      | error reason => cases leaves
      | ok found =>
          cases found with
          | none => cases leaves
          | some uuid =>
              have running : app.usernameLookupInProgress = true := leaves
              simp [handleWorkerEvent, handleUsernameResolveResult, running]
  | _ => cases leaves

/-- Only a confirmed wipe whose logout was accepted shows the wiping screen. -/
theorem handleKey_opens_wiping {platform : Platform} {env : Env} {key : Char}
    (elsewhere : app.screen ≠ .wiping)
    (opened : (app.handleKey platform env key).1.screen = .wiping)
    : (app.handleKey platform env key).2 = [.logout] := by
  have step := app.handleKey_step platform env key
  generalize app.handleKey platform env key = outcome at step opened ⊢
  cases step with
  | wiping shown => rfl
  | shown leads focus =>
      exact absurd ((leads.stays_of (.inr (.inl opened))).trans opened) elsewhere
  | sent uuid shown trigger typed =>
      obtain ⟨text, store, status, cmds, outcome, -⟩ := app.sendCompose_frame env uuid
      rw [outcome] at opened
      exact absurd opened elsewhere
  | loggingOut | focusDown | syncing | lookingUp | edited => exact absurd opened elsewhere
  | linking | notLinking | linkCancelled | accountAsked | opened | newChat => cases opened

theorem handleFocusChange_stays {env : Env} {foreground : Bool}
    (stays : app.asksOnFocus env foreground = false)
    : app.handleFocusChange env foreground = (app, []) := by
  unfold handleFocusChange
  split
  · next asks =>
      unfold queryAccount
      split
      · next taken =>
          rw [asksOnFocus, asks, taken] at stays
          cases stays
      · rfl
  · rfl

theorem handleFocusChange_asks {env : Env} {foreground : Bool}
    (asks : app.asksOnFocus env foreground = true)
    : (app.handleFocusChange env foreground).2 = [.getAccountInfo] := by
  unfold asksOnFocus at asks
  rw [Bool.and_eq_true] at asks
  unfold handleFocusChange queryAccount
  rw [if_pos asks.1, Program.channel_ok asks.2]

end Ui.App

-----------------------------------------------------------------------------------------
-- The logout of a wipe
-----------------------------------------------------------------------------------------

/-- Where the logout of a wipe, or its answer, is. -/
inductive Wipe where
  /-- On the command channel behind `ahead` commands. -/
  | queued (ahead : Nat)
  /-- Received while a link is in flight: the worker drops it and never answers. -/
  | dropped
  /-- Performed; the answer waits for the event channel. -/
  | performed
  /-- The answer is on its way behind `ahead` events. -/
  | answered (ahead : Nat)
  /-- The answer has been handled. -/
  | finished
  deriving DecidableEq

/-- Both channels and the dispatcher's outbox are first in, first out. -/
def Wipe.next (program : Program ρ) : Turn ρ → Wipe → Wipe
  | .receive, .queued 0 =>
      if program.world.dispatcher.control.inLink then .dropped else .performed
  | .receive, .queued (ahead + 1) => .queued ahead
  | .worker .dispatcherDelivers, .performed => .answered program.events.length
  | .handle _, .answered 0 => .finished
  | .handle _, .answered (ahead + 1) => .answered ahead
  | _, wipe => wipe

/-- The program with the place of the wipe's logout. -/
structure Watched (ρ : Type) where
  program : Program ρ
  wipe : Wipe

namespace Watched

def step (ui : Ui.Platform) (platform : Platform) (format : RecordFormat ρ)
    (watched : Watched ρ) (turn : Turn ρ)
    : Option (Watched ρ) :=
  (watched.program.step ui platform format turn).map (fun after =>
    ⟨after, watched.wipe.next watched.program turn⟩)

/-- The place is right: what is there is the logout or a logged-out event. -/
def Tracks (watched : Watched ρ) : Prop :=
  match watched.wipe with
  | .queued ahead => watched.program.commands[ahead]? = some .logout
  | .performed =>
      watched.program.world.dispatcher.outbox.map Emit.event = [.loggedOut]
      ∧ watched.program.world.dispatcher.control = .ready
  | .answered ahead => watched.program.events[ahead]? = some .loggedOut
  | .dropped => True
  | .finished => True

/-- The turn neither handles an event that replaces the screen, other than the answer to the
wipe, nor asks for the account on a focus change.
-/
def KeepsWiping (watched : Watched ρ) : Turn ρ → Prop
  | .handle _ =>
      watched.wipe ≠ .answered 0 → watched.wipe ≠ .finished
        → ∀ event ∈ watched.program.events.head?,
            watched.program.app.leavesWiping event = false
  | .focus env foreground =>
      watched.wipe ≠ .finished → watched.program.app.asksOnFocus env foreground = false
  | _ => True

/-- Until the answer is handled the screen is the wiping one, and nothing more than
`accepted` was put on the command channel.
-/
def Wiping (accepted : List Cmd) (watched : Watched ρ) : Prop :=
  watched.wipe ≠ .finished
    → watched.program.app.screen = .wiping ∧ watched.program.accepted = accepted

variable {ui : Ui.Platform} {platform : Platform} {format : RecordFormat ρ}

theorem step_some {watched next : Watched ρ} {turn : Turn ρ}
    (stepped : watched.step ui platform format turn = some next)
    : watched.program.step ui platform format turn = some next.program
      ∧ next.wipe = watched.wipe.next watched.program turn := by
  obtain ⟨after, moves, rfl⟩ := Option.map_eq_some_iff.mp stepped
  exact ⟨moves, rfl⟩

/-- A handled answer stays handled. -/
theorem wipe_ne_finished {watched : Watched ρ} {turn : Turn ρ}
    (stays : watched.wipe.next watched.program turn ≠ .finished)
    : watched.wipe ≠ .finished := by
  intro done
  rw [done] at stays
  cases turn with
  | worker input => cases input <;> exact stays rfl
  | _ => exact stays rfl

/-- What a turn of the UI's own does to the screen and the command channel. -/
theorem react_wiping {accepted : List Cmd} {env : Env} {outcome : Ui.Outcome}
    {program after : Program ρ} (reacted : program.react env outcome = some after)
    (screen : outcome.1.screen = .wiping) (cmds : outcome.2 = [])
    (same : program.accepted = accepted)
    : after.app.screen = .wiping ∧ after.accepted = accepted := by
  obtain ⟨-, rfl⟩ := Program.react_some reacted
  exact ⟨screen, by simp [cmds, same]⟩

/-- A turn that meets the condition leaves the wiping screen up and sends nothing. -/
theorem Wiping.step {accepted : List Cmd} {watched next : Watched ρ} {turn : Turn ρ}
    (keeps : watched.KeepsWiping turn)
    (stepped : watched.step ui platform format turn = some next)
    (wiping : watched.Wiping accepted)
    : next.Wiping accepted := by
  obtain ⟨moves, moved⟩ := step_some stepped
  intro waits
  rw [moved] at waits
  have before := wipe_ne_finished waits
  obtain ⟨shown, same⟩ := wiping before
  cases turn with
  | press stroke =>
      simp only [Program.step] at moves
      split at moves
      · rw [← Option.some.inj moves]
        exact ⟨shown, same⟩
      · rw [Ui.App.handleKey_wiping shown] at moves
        exact react_wiping moves shown rfl same
  | focus env foreground =>
      simp only [Program.step] at moves
      rw [Ui.App.handleFocusChange_stays (keeps before)] at moves
      exact react_wiping moves shown rfl same
  | handle env =>
      simp only [Program.step] at moves
      split at moves
      · cases moves
      · next event rest queued =>
          -- The answer itself may replace the screen: handling it ends the wipe.
          have other : watched.wipe ≠ .answered 0 := by
            intro first
            rw [first] at waits
            exact waits rfl
          have stays := keeps other before event (by rw [queued]; rfl)
          obtain ⟨screen, cmds⟩ := Ui.App.handleWorkerEvent_stays stays ui env
          exact react_wiping moves (screen.trans shown) cmds same
  | receive =>
      simp only [Program.step] at moves
      split at moves
      · cases moves
      · obtain ⟨world, -, taken⟩ := Option.map_eq_some_iff.mp moves
        rw [← taken]
        exact ⟨shown, same⟩
  | worker input =>
      simp only [Program.step] at moves
      split at moves
      · obtain ⟨world, -, taken⟩ := Option.map_eq_some_iff.mp moves
        rw [← taken]
        exact ⟨shown, same⟩
      · cases moves

/-- A turn that breaks the condition takes the wiping screen down or sends a command. -/
theorem Wiping.broken {accepted : List Cmd} {watched next : Watched ρ} {turn : Turn ρ}
    (breaks : ¬ watched.KeepsWiping turn)
    (stepped : watched.step ui platform format turn = some next)
    (wiping : watched.Wiping accepted)
    : ¬ next.Wiping accepted := by
  obtain ⟨moves, moved⟩ := step_some stepped
  intro still
  cases turn with
  | handle env =>
      simp only [KeepsWiping, Classical.not_imp, not_forall, Bool.not_eq_false] at breaks
      obtain ⟨other, before, event, head, leaves⟩ := breaks
      simp only [Program.step] at moves
      split at moves
      · cases moves
      · next first rest queued =>
          obtain rfl : first = event := by simpa [queued] using head
          obtain ⟨-, after⟩ := Program.react_some moves
          have waits : next.wipe ≠ .finished := by
            rw [moved]
            cases place : watched.wipe with
            | answered ahead =>
                cases ahead with
                | zero => exact absurd place other
                | succ ahead => simp [Wipe.next]
            | finished => exact absurd place before
            | _ => simp [Wipe.next]
          have shown := (still waits).1
          rw [after] at shown
          exact Ui.App.handleWorkerEvent_leaves leaves ui env shown
  | focus env foreground =>
      simp only [KeepsWiping, Classical.not_imp, Bool.not_eq_false] at breaks
      obtain ⟨before, asks⟩ := breaks
      obtain ⟨-, after⟩ := Program.react_some moves
      have waits : next.wipe ≠ .finished := by
        rw [moved]
        exact before
      have same := (still waits).2
      rw [after, (wiping before).2, Ui.App.handleFocusChange_asks asks] at same
      simp at same
  | press stroke => exact breaks trivial
  | receive => exact breaks trivial
  | worker input => exact breaks trivial

-----------------------------------------------------------------------------------------
-- The place of the logout
-----------------------------------------------------------------------------------------

/-- What is on a channel keeps its place when more is put on it. -/
theorem getElem?_stays {α : Type} {items : List α} {index : Nat} {item : α}
    (found : items[index]? = some item) (more : List α)
    : (items ++ more)[index]? = some item := by
  rw [List.getElem?_append_left (List.getElem?_eq_some_iff.mp found).1, found]

/-- A turn of the user's leaves the logout where it is. -/
theorem next_of_isUser {turn : Turn ρ} (user : turn.isUser = true) (program : Program ρ)
    (wipe : Wipe)
    : wipe.next program turn = wipe := by
  cases turn with
  | press stroke => rfl
  | focus env foreground => rfl
  | _ => cases user

/-- A turn of the worker's own moves only an answer that waits in its outbox. -/
theorem next_worker {wipe : Wipe} (elsewhere : wipe ≠ .performed) (program : Program ρ)
    (input : WorldInput ρ)
    : wipe.next program (.worker input) = wipe := by
  cases wipe with
  | performed => exact absurd rfl elsewhere
  | _ => cases input <;> rfl

/-- The worker takes the logout up unless a link is in flight. -/
theorem performed_logout {world after : World ρ}
    (dispatched : World.Dispatched world (.cmd .logout) after)
    (free : world.dispatcher.control.inLink = false)
    : after.dispatcher.outbox.map Emit.event = [.loggedOut]
      ∧ after.dispatcher.control = .ready := by
  cases dispatched with
  | commandWhileLinking cancelled _ control =>
      rw [control] at free
      cases free
  | commandWhileEnding cancelled linked _ control =>
      rw [control] at free
      cases free
  | command _ control taken =>
      simp [World.handleCmd, World.logout, World.reply, taken, World.dropOps]

theorem waits_of_tracks {program : Program ρ} (tracks : Tracks ⟨program, .performed⟩)
    : program.world.dispatcher.outbox ≠ [] := by
  intro none
  have only := tracks.1
  rw [none] at only
  cases only

/-- The dispatcher moves on only after its answer has been taken. -/
theorem not_dispatched {world after : World ρ} {input : DispatcherInput}
    (ready : world.dispatcher.control = .ready) (waits : world.dispatcher.outbox ≠ [])
    (running : (WorldInput.dispatcher input : WorldInput ρ).keepsServing = true)
    : ¬ World.Dispatched world input after := by
  intro dispatched
  cases dispatched with
  | closed => cases running
  | command cmd control taken => exact waits taken
  | _ => simp_all

/-- What the worker has answered is the logged-out event, as it moves along. -/
theorem Tracks.step {watched next : Watched ρ} {turn : Turn ρ}
    (joined : watched.program.Joined)
    (stepped : watched.step ui platform format turn = some next) (tracks : watched.Tracks)
    : next.Tracks := by
  obtain ⟨moves, moved⟩ := step_some stepped
  obtain ⟨program, wipe⟩ := watched
  obtain ⟨after, place⟩ := next
  dsimp only at joined moves moved
  subst moved
  have turned := Program.step_cases joined moves
  cases turned with
  | acted user outcome reacts effect =>
      rw [next_of_isUser user]
      cases wipe with
      | queued ahead => exact getElem?_stays tracks _
      | _ => exact tracks
  | handled env event rest outcome queued flags =>
      cases wipe with
      | queued ahead => exact getElem?_stays tracks _
      | answered ahead =>
          cases ahead with
          | zero => trivial
          | succ ahead =>
              simp only [Tracks, queued, List.getElem?_cons_succ] at tracks
              exact tracks
      | _ => exact tracks
  | received cmd rest world queued dispatched =>
      cases wipe with
      | queued ahead =>
          simp only [Tracks, queued] at tracks
          cases ahead with
          | zero =>
              obtain rfl := Option.some.inj tracks
              simp only [Wipe.next]
              split
              · trivial
              · next free => exact performed_logout dispatched (by simpa using free)
          | succ ahead => exact tracks
      | performed =>
          have keeps := @WorldInput.keepsServing_cmd ρ cmd (joined.commands cmd (by simp [queued]))
          exact absurd dispatched (not_dispatched tracks.2 (waits_of_tracks tracks) keeps)
      | _ => exact tracks
  | worked input world sent internal worked log =>
      cases wipe with
      | queued ahead =>
          rw [next_worker (by simp)]
          exact tracks
      | answered ahead =>
          rw [next_worker (by simp)]
          exact getElem?_stays tracks _
      | dropped =>
          rw [next_worker (by simp)]
          trivial
      | finished =>
          rw [next_worker (by simp)]
          trivial
      | performed =>
          cases worked with
          | dispatched dispatched =>
              exact absurd dispatched (not_dispatched tracks.2 (waits_of_tracks tracks)
                (WorldInput.keepsServing_of_internal internal))
          | delivered first rest queued isOpen =>
              obtain rfl : [first.event] = sent := List.append_cancel_left log
              have only : first.event :: rest.map Emit.event = [.loggedOut] := by
                simpa [queued] using tracks.1
              simp [Tracks, Wipe.next, (List.cons.inj only).1]
          | dropped first rest queued closed | hungUp first rest queued closed =>
              rw [joined.serving.isOpen] at closed
              cases closed
          | advanced | managerDelivered | library => exact tracks
          | uiGone => cases internal

end Watched

/-- The key that shows the wiping screen puts a logout on the channel, behind what is there. -/
theorem Program.wiping_pressed {ui : Ui.Platform} {platform : Platform}
    {format : RecordFormat ρ} {program wiped : Program ρ} {stroke : KeyPress}
    (pressed : program.step ui platform format (.press stroke) = some wiped)
    (shown : program.app.screen ≠ .wiping) (wiping : wiped.app.screen = .wiping)
    : wiped.commands = program.commands ++ [.logout] := by
  simp only [step] at pressed
  split at pressed
  · cases pressed
    exact absurd wiping shown
  · obtain ⟨-, rfl⟩ := react_some pressed
    simp only at wiping ⊢
    rw [Ui.App.handleKey_opens_wiping shown wiping]

/-- The program of a watched run runs by itself. -/
theorem Watched.joined_step {ui : Ui.Platform} {platform : Platform} {format : RecordFormat ρ}
    {watched next : Watched ρ} {turn : Turn ρ}
    (stepped : watched.step ui platform format turn = some next)
    (kept : watched.program.Joined ∧ watched.Tracks)
    : next.program.Joined ∧ next.Tracks :=
  ⟨kept.1.step (Program.step_cases kept.1 (step_some stepped).1), kept.2.step kept.1 stepped⟩

/-- From the key that confirms a wipe on, the screen stays the wiping one and the UI sends
nothing more until the answer to the wipe's logout is handled, exactly if until then no event
that replaces the screen is handled and no focus change asks for the account. What is taken
for the logout and its answer are a logout and a logged-out event.
-/
theorem wiping_until_logged_out_iff (ui : Ui.Platform) (platform : Platform)
    (format : RecordFormat ρ) (inner : InnerBackend) {app : App} {earlier : List (Turn ρ)}
    {program wiped : Program ρ} {stroke : KeyPress}
    (reached
      : Runs.run? (Program.step ui platform format) (.start app inner) earlier = some program)
    (pressed : program.step ui platform format (.press stroke) = some wiped)
    (shown : program.app.screen ≠ .wiping) (wiping : wiped.app.screen = .wiping)
    {turns : List (Turn ρ)} {final : Watched ρ}
    (run
      : Runs.run? (Watched.step ui platform format)
          ⟨wiped, .queued program.commands.length⟩ turns = some final)
    : final.Tracks
      ∧ (Runs.Guarded? (Watched.step ui platform format) Watched.KeepsWiping
            ⟨wiped, .queued program.commands.length⟩ turns
          ↔ ∀ done watched, done <+: turns
              → Runs.run? (Watched.step ui platform format)
                  ⟨wiped, .queued program.commands.length⟩ done = some watched
              → watched.Wiping wiped.accepted) := by
  have joined : program.Joined :=
    Runs.run?_invariant
      (fun _ _ _ stepped joined => joined.step (Program.step_cases joined stepped)) reached
      (Program.joined_start inner)
  have tracks : Watched.Tracks ⟨wiped, .queued program.commands.length⟩ := by
    simp [Watched.Tracks, Program.wiping_pressed pressed shown wiping]
  have starts : Watched.Wiping wiped.accepted ⟨wiped, .queued program.commands.length⟩ :=
    fun _ => ⟨wiping, rfl⟩
  refine ⟨?_, ?_, ?_⟩
  · have kept :=
      Runs.run?_invariant (fun _ _ _ => Watched.joined_step) run
        (And.intro (joined.step (Program.step_cases joined pressed)) tracks)
    exact kept.2
  · rintro keeps done watched ⟨rest, rfl⟩ here
    exact keeps.left.invariant (fun _ _ _ => Watched.Wiping.step) here starts
  · intro stays
    refine Runs.guarded?_of_reached fun done turn rest watched split here => ?_
    by_contra breaks
    -- The run goes on after `done`, so the turn that breaks the condition is taken.
    obtain ⟨next, stepped⟩ : ∃ next, watched.step ui platform format turn = some next := by
      rw [← split, Runs.run?_append, here] at run
      obtain ⟨next, stepped, -⟩ := Option.bind_eq_some_iff.mp (Option.bind_some .. ▸ run)
      exact ⟨next, stepped⟩
    have before := stays done watched ⟨turn :: rest, split⟩ here
    refine before.broken breaks stepped (stays (done ++ [turn]) next ⟨rest, ?_⟩ ?_)
    · rw [List.append_assoc]
      exact split
    · exact Runs.run?_concat here stepped

/-- The wipe is confirmed by typing `yes`, and everything else works. -/
def Ui.Env.confirming : Env := { Ui.Env.unnamed with answer := .ok "yes" }

/-- A start-up before the store is mounted, and the cursor on the wipe entry of the Menu. -/
def unmountedStart : List (Turn UInt8) :=
  List.replicate 10 (.worker (.dispatcher (.loaded (.error "PDDB not mounted"))))
    ++ [.press ⟨.unnamed, '↑'⟩]

/-- A key is typed while the wipe runs, and its answer is handled. -/
def undisturbedWipe : List (Turn UInt8) :=
  [.press ⟨.unnamed, '\x1b'⟩, .receive, .worker .dispatcherDelivers, .handle .unnamed]

theorem wiping_until_logged_out_undisturbed
    : ∃ program wiped, ∃ final : Watched UInt8,
        Runs.run? (Program.step .bare (.knowing ⟨1⟩) .oneByte) (.start .initial { map := ∅ })
          unmountedStart = some program
        ∧ program.step .bare (.knowing ⟨1⟩) .oneByte (.press ⟨.confirming, '\x0d'⟩) = some wiped
        ∧ Runs.run? (Watched.step .bare (.knowing ⟨1⟩) .oneByte)
            ⟨wiped, .queued program.commands.length⟩ undisturbedWipe = some final
        ∧ final.wipe = .finished ∧ final.Tracks
        ∧ ∀ done watched, done <+: undisturbedWipe
            → Runs.run? (Watched.step .bare (.knowing ⟨1⟩) .oneByte)
                ⟨wiped, .queued program.commands.length⟩ done = some watched
            → watched.Wiping wiped.accepted := by
  refine ⟨_, _, _, rfl, rfl, rfl, rfl, ?_⟩
  have wipe {program wiped final} (reached pressed shown wiping run) :=
    @wiping_until_logged_out_iff UInt8 .bare (.knowing ⟨1⟩) .oneByte { map := ∅ } .initial
      unmountedStart program wiped ⟨.confirming, '\x0d'⟩ reached pressed shown wiping
      undisturbedWipe final run
  have elsewhere {program : Program UInt8} (shown) : program.app.screen ≠ .wiping :=
    of_decide_eq_false shown
  refine ⟨(wipe rfl rfl (elsewhere rfl) rfl rfl).1,
    (wipe rfl rfl (elsewhere rfl) rfl rfl).2.mp ?_⟩
  refine ⟨trivial, fun _ typed => ⟨trivial, fun _ received => ⟨trivial, fun _ delivered =>
    ⟨?_, fun _ _ => trivial⟩⟩⟩⟩
  obtain rfl := Option.some.inj typed
  obtain rfl := Option.some.inj received
  obtain rfl := Option.some.inj delivered
  exact fun other => absurd rfl other

/-- The app came to the foreground before the wipe: the answer to its account query arrives
first, shows Home and starts the receiver while the logout still waits on the channel.
-/
theorem account_answer_during_wipe
    : ∃ program wiped, ∃ watched : Watched UInt8,
        Runs.run? (Program.step .bare (.knowing ⟨1⟩) .oneByte) (.start .initial { map := ∅ })
          (unmountedStart ++ [.focus .unnamed true, .receive]) = some program
        ∧ program.step .bare (.knowing ⟨1⟩) .oneByte (.press ⟨.confirming, '\x0d'⟩) = some wiped
        ∧ wiped.app.screen = .wiping
        ∧ Runs.run? (Watched.step .bare (.knowing ⟨1⟩) .oneByte)
            ⟨wiped, .queued program.commands.length⟩
            [.worker (.dispatcher (.loaded (.ok ⟨"xas", "aci", "+1"⟩))),
              .worker .dispatcherDelivers, .handle .unnamed]
          = some watched
        ∧ watched.wipe = .queued 0
        ∧ watched.program.app.screen = .home
        ∧ watched.program.accepted = wiped.accepted ++ [.startReceive] :=
  ⟨_, _, _, rfl, rfl, rfl, rfl, rfl, rfl, rfl⟩

end XousAppSignal
