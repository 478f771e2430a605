import XousAppSignal.Ui.ComposeText

/-! The screens behind the link: which of them can be on screen while no account is linked,
and what an unlinked app can compose and send.
-/

namespace XousAppSignal.Ui

open Worker

/-- The screens that work on a linked account. -/
def Screen.isPostLink : Screen → Bool
  | .home => true
  | .thread _ => true
  | .settings => true
  | .profile => true
  | _ => false

/-- Commands that act for a linked account: a message, a contact sync, a lookup. -/
def needsAccount : Cmd → Bool
  | .sendMessage .. => true
  | .syncContacts => true
  | .resolveUsername _ => true
  | _ => false

/-- What an action does to the app, with the commands it sends. -/
def Action.outcome (platform : Platform) (app : App) : Action → Outcome
  | .press stroke =>
      if stroke.key = '\x00' then (app, []) else app.handleKey platform stroke.env stroke.key
  | .event env received => app.handleWorkerEvent platform env received
  | .focus env foreground => app.handleFocusChange env foreground

/-- The action resets the app to its unlinked state. -/
def Action.resets : Action → Bool
  | .event _ received => received.resets
  | _ => false

theorem Session.act_app (platform : Platform) (session : Session) (action : Action)
    : (session.act platform action).app = (action.outcome platform session.app).1 := by
  cases action with
  | press stroke =>
      unfold act Action.outcome
      dsimp only
      split <;> rfl
  | event env received => rfl
  | focus env foreground => rfl

-----------------------------------------------------------------------------------------
-- The invariant
-----------------------------------------------------------------------------------------

/-- A post-link screen, the preflight on the way to Home and a running username lookup are
found only in a linked app.
-/
structure App.LinkGated (app : App) : Prop where
  screen : app.screen.isPostLink = true → app.linked = true
  resume : ∀ reason, app.screen = .noInternet .home reason → app.linked = true
  lookup : app.usernameLookupInProgress = true → app.linked = true

/-- A linked app meets every condition. -/
theorem App.LinkGated.of_linked {app : App} (linked : app.linked = true) : app.LinkGated :=
  ⟨fun _ => linked, fun _ _ => linked, fun _ => linked⟩

/-- In an unlinked app nothing is composed, no command needs an account, and a logout is the
wipe of the pre-link menu.
-/
structure Quiet (app : App) (outcome : Outcome) : Prop where
  compose
    : outcome.1.composeBuffer = app.composeBuffer ∨ outcome.1.composeBuffer = ""
  cmds : ∀ cmd ∈ outcome.2, needsAccount cmd = false
  logout : .logout ∈ outcome.2 → app.screen = .menu

/-- What keys, events and focus changes do to an unlinked app that stays unlinked. -/
structure StaysOut (app : App) (outcome : Outcome) : Prop extends Quiet app outcome where
  screen : outcome.1.screen.isPostLink = false
  resume : ∀ reason, outcome.1.screen ≠ .noInternet .home reason
  lookup : outcome.1.usernameLookupInProgress = app.usernameLookupInProgress

theorem StaysOut.gated {app : App} {outcome : Outcome} (out : StaysOut app outcome)
    (gated : app.LinkGated) (unlinked : app.linked = false)
    : outcome.1.LinkGated := by
  refine ⟨fun shown => ?_, fun reason shown => absurd shown (out.resume reason), fun asked => ?_⟩
  · rw [out.screen] at shown
    cases shown
  · rw [out.lookup] at asked
    rw [gated.lookup asked] at unlinked
    cases unlinked

/-- Going to a screen before the link without a command. -/
theorem StaysOut.silent {app next : App} (compose : next.composeBuffer = app.composeBuffer)
    (screen : next.screen.isPostLink = false)
    (resume : ∀ reason, next.screen ≠ .noInternet .home reason)
    (lookup : next.usernameLookupInProgress = app.usernameLookupInProgress)
    : StaysOut app (next, []) :=
  ⟨⟨.inl compose, by simp, by simp⟩, screen, resume, lookup⟩

/-- Going to a screen before the link with one command. -/
theorem StaysOut.sending {app next : App} {cmds : List Cmd} {cmd : Cmd}
    (only : ∀ sent ∈ cmds, sent = cmd) (quiet : needsAccount cmd = false)
    (logout : cmd = .logout → app.screen = .menu)
    (compose : next.composeBuffer = app.composeBuffer)
    (screen : next.screen.isPostLink = false)
    (resume : ∀ reason, next.screen ≠ .noInternet .home reason)
    (lookup : next.usernameLookupInProgress = app.usernameLookupInProgress)
    : StaysOut app (next, cmds) := by
  refine ⟨⟨.inl compose, fun sent member => ?_, fun member => ?_⟩, screen, resume, lookup⟩
  · rw [only sent member, quiet]
  · exact logout (only _ member).symm

-----------------------------------------------------------------------------------------
-- Keys
-----------------------------------------------------------------------------------------

namespace App

/-- The landing screen of an unlinked app is the Menu. -/
theorem landing_out {app : App} (unlinked : app.linked = false) : app.landing = .menu := by
  simp [landing, unlinked]

/-- An unlinked app shows none of the gated screens. -/
theorem LinkGated.before {app : App} (gated : app.LinkGated) (unlinked : app.linked = false)
    : app.screen.isPostLink = false ∧ ∀ reason, app.screen ≠ .noInternet .home reason := by
  constructor
  · by_contra behind
    rw [gated.screen (by simpa using behind)] at unlinked
    cases unlinked
  · intro reason shown
    rw [gated.resume reason shown] at unlinked
    cases unlinked

/-- Keys lead from the screens before the link only to each other, besides leaving Help. -/
theorem Leads.before {key : Char} {app : App} {screen : Screen} (leads : app.Leads key screen)
    (gated : app.LinkGated) (unlinked : app.linked = false)
    (stays : app.screen = .help → isBackKey key = false)
    : screen.isPostLink = false ∧ ∀ reason, screen ≠ .noInternet .home reason := by
  obtain ⟨before, resume⟩ := gated.before unlinked
  cases leads with
  | stays => exact ⟨before, resume⟩
  | aboutBack | preflightBack =>
      rw [landing_out unlinked]
      exact ⟨rfl, by simp⟩
  | menuHome shown linked | linkedHome kind shown linked
  | linkedPreflight kind reason shown linked =>
      rw [linked] at unlinked
      cases unlinked
  | helpBack shown back =>
      rw [stays shown] at back
      cases back
  | preflightHome reason shown | preflightAgain reason again shown =>
      exact absurd shown (resume reason)
  | homeSettings shown | homeHelp shown | threadHome uuid shown | threadSettings uuid shown
  | threadHelp uuid shown | settingsProfile shown | settingsHelp shown | settingsAbout shown
  | settingsHome shown | profileBack shown =>
      rw [shown] at before
      cases before
  | menuAbout | menuHelp | wipeRefused | linkFailed | linkPreflight | linkedMenu =>
      exact ⟨rfl, by simp⟩

/-- Every key typed in an unlinked app keeps it out, unless it leaves Help. Witness: the
screens behind the link cannot be shown, so their keys cannot be typed.
-/
theorem handleKey_out (platform : Platform) (env : Env) (key : Char) {app : App}
    (gated : app.LinkGated) (unlinked : app.linked = false)
    (stays : app.screen = .help → isBackKey key = false)
    : StaysOut app (app.handleKey platform env key) := by
  obtain ⟨before, -⟩ := gated.before unlinked
  have step := app.handleKey_step platform env key
  generalize app.handleKey platform env key = outcome at step ⊢
  cases step with
  | shown leads focus =>
      obtain ⟨screen, resume⟩ := leads.before gated unlinked stays
      exact .silent rfl screen resume rfl
  | linking deviceName offers =>
      exact .sending (fun _ => List.mem_singleton.mp) rfl (by simp) rfl rfl (by simp) rfl
  | notLinking => exact .silent rfl rfl (by simp) rfl
  | linkCancelled shown =>
      exact .sending (fun _ => Env.mem_send) rfl (by simp) rfl rfl (by simp) rfl
  | wiping shown =>
      exact .sending (fun _ => List.mem_singleton.mp) rfl (fun _ => shown) rfl rfl (by simp) rfl
  | loggingOut shown | accountAsked shown | focusDown shown | opened d shown | syncing shown
  | newChat uuid shown | lookingUp raw shown | edited uuid text shown | sent uuid shown =>
      rw [shown] at before
      cases before

/-- No key links or unlinks the app. -/
theorem handleKey_linked (platform : Platform) (env : Env) (key : Char) (app : App)
    : (app.handleKey platform env key).1.linked = app.linked := by
  have step := app.handleKey_step platform env key
  generalize app.handleKey platform env key = outcome at step ⊢
  cases step with
  | sent uuid shown trigger typed =>
      obtain ⟨text, store, status, cmds, outcome, -⟩ := app.sendCompose_frame env uuid
      rw [outcome]
  | _ => rfl

-----------------------------------------------------------------------------------------
-- Worker events and focus changes
-----------------------------------------------------------------------------------------

theorem handleFocusChange_out (env : Env) (foreground : Bool) {app : App}
    (gated : app.LinkGated) (unlinked : app.linked = false)
    : StaysOut app (app.handleFocusChange env foreground) := by
  obtain ⟨screen, resume⟩ := gated.before unlinked
  rcases app.handleFocusChange_step env foreground with idle | asked
  · rw [idle]
    exact .silent rfl screen resume rfl
  · rw [asked]
    exact .sending (fun _ => List.mem_singleton.mp) rfl (by simp) rfl screen resume rfl

theorem handleFocusChange_linked (env : Env) (foreground : Bool) (app : App)
    : (app.handleFocusChange env foreground).1.linked = app.linked := by
  rcases app.handleFocusChange_step env foreground with idle | asked
  · rw [idle]
  · rw [asked]

/-- Forgetting the account leaves the app on the Menu. -/
theorem resetToUnlinked_gated (app : App) (status : String)
    : LinkGated { app.resetToUnlinked with lastStatus := status } :=
  ⟨by simp [resetToUnlinked, Screen.isPostLink], by simp [resetToUnlinked],
    by simp [resetToUnlinked]⟩

/-- An update of the other fields keeps the invariant. -/
theorem LinkGated.of_same {app next : App} (gated : app.LinkGated)
    (screen : next.screen = app.screen) (linked : next.linked = app.linked)
    (lookup : next.usernameLookupInProgress = true → app.usernameLookupInProgress = true)
    : next.LinkGated := by
  refine ⟨fun shown => ?_, fun reason shown => ?_, fun asked => ?_⟩
  · rw [linked]
    exact gated.screen (screen ▸ shown)
  · rw [linked]
    exact gated.resume reason (screen ▸ shown)
  · rw [linked]
    exact gated.lookup (lookup asked)

/-- Every event keeps the invariant: those that open a screen behind the link also link the
app, or answer a lookup that only a linked app runs.
-/
theorem handleWorkerEvent_gated (platform : Platform) (env : Env) (event : Event) {app : App}
    (gated : app.LinkGated)
    : (app.handleWorkerEvent platform env event).1.LinkGated := by
  cases event with
  | linkComplete deviceName aci phone => exact .of_linked rfl
  | linkError reason =>
      unfold handleWorkerEvent
      dsimp only
      split
      · exact gated
      · exact ⟨by simp [Screen.isPostLink], by simp, gated.lookup⟩
  | staleStoreDetected =>
      exact ⟨by simp [handleWorkerEvent, Screen.isPostLink], by simp [handleWorkerEvent],
        gated.lookup⟩
  | accountInfo answer =>
      cases answer with
      | error reason => exact gated.of_same rfl rfl id
      | ok info =>
          unfold handleWorkerEvent
          dsimp only
          split
          · exact .of_linked rfl
          · exact gated.of_same rfl rfl id
  | loggedOut => exact resetToUnlinked_gated app _
  | signalAuthExpired reason => exact resetToUnlinked_gated app _
  | signalConflictingDevice reason => exact resetToUnlinked_gated app _
  | usernameResolveResult answer =>
      simp only [handleWorkerEvent, handleUsernameResolveResult]
      split
      · exact gated
      · next running =>
          have linked := gated.lookup (by simpa using running)
          split
          all_goals exact .of_linked linked
  | _ => exact gated.of_same rfl rfl id

/-- No event composes a message, and the only command one sends starts the receiver. -/
theorem handleWorkerEvent_quiet (platform : Platform) (env : Env) (event : Event) (app : App)
    : Quiet app (app.handleWorkerEvent platform env event) := by
  have silent {next : App} (compose : next.composeBuffer = app.composeBuffer)
      : Quiet app (next, []) :=
    ⟨.inl compose, by simp, by simp⟩
  have receiving {next : App} (compose : next.composeBuffer = app.composeBuffer)
      : Quiet app (next, env.send .startReceive) := by
    refine ⟨.inl compose, fun sent member => ?_, fun member => ?_⟩
    · rw [Env.mem_send member]
      rfl
    · cases Env.mem_send member
  cases event with
  | linkComplete deviceName aci phone => exact receiving rfl
  | linkError reason =>
      unfold handleWorkerEvent
      dsimp only
      split <;> exact silent rfl
  | accountInfo answer =>
      cases answer with
      | error reason => exact silent rfl
      | ok info =>
          unfold handleWorkerEvent
          dsimp only
          split
          · exact receiving rfl
          · exact silent rfl
  | loggedOut => exact ⟨.inr rfl, by simp [handleWorkerEvent], by simp [handleWorkerEvent]⟩
  | signalAuthExpired reason =>
      exact ⟨.inr rfl, by simp [handleWorkerEvent], by simp [handleWorkerEvent]⟩
  | signalConflictingDevice reason =>
      exact ⟨.inr rfl, by simp [handleWorkerEvent], by simp [handleWorkerEvent]⟩
  | usernameResolveResult answer =>
      simp only [handleWorkerEvent, handleUsernameResolveResult]
      repeat' split
      all_goals exact silent rfl
  | _ => exact silent rfl

end App

-----------------------------------------------------------------------------------------
-- Runs
-----------------------------------------------------------------------------------------

/-- The action does not leave the Help screen of an unlinked app. -/
def LeavesHelpLinked (session : Session) : Action → Prop
  | .press stroke =>
      session.app.screen = .help → isBackKey stroke.key = true → session.app.linked = true
  | _ => True

instance (session : Session) : ∀ action, Decidable (LeavesHelpLinked session action)
  | .press stroke =>
      inferInstanceAs (Decidable (session.app.screen = .help → isBackKey stroke.key = true
        → session.app.linked = true))
  | .event _ _ => .isTrue trivial
  | .focus _ _ => .isTrue trivial

/-- Both session starts meet the invariant. -/
theorem App.Start.gated {app : App} (start : App.Start app) : app.LinkGated := by
  cases start with
  | plain =>
      exact ⟨by simp [App.initial, Screen.isPostLink], by simp [App.initial],
        by simp [App.initial]⟩
  | seeded order rows => exact .of_linked rfl

/-- The invariant of a step, with what an unlinked app does in it. -/
theorem Action.outcome_gated (platform : Platform) {session : Session} {action : Action}
    (leaves : LeavesHelpLinked session action) (gated : session.app.LinkGated)
    : (action.outcome platform session.app).1.LinkGated
      ∧ (session.app.linked = false
        → Quiet session.app (action.outcome platform session.app)) := by
  have unmoved : Quiet session.app (session.app, []) := ⟨.inl rfl, by simp, by simp⟩
  cases action with
  | event env received =>
      exact ⟨session.app.handleWorkerEvent_gated platform env received gated,
        fun _ => session.app.handleWorkerEvent_quiet platform env received⟩
  | focus env foreground =>
      cases linked : session.app.linked with
      | true =>
          refine ⟨.of_linked ?_, fun unlinked => by cases unlinked⟩
          rw [outcome, App.handleFocusChange_linked, linked]
      | false =>
          have out := App.handleFocusChange_out env foreground gated linked
          exact ⟨out.gated gated linked, fun _ => out.toQuiet⟩
  | press stroke =>
      unfold outcome
      dsimp only
      split
      · exact ⟨gated, fun _ => unmoved⟩
      · cases linked : session.app.linked with
        | true =>
            refine ⟨.of_linked ?_, fun unlinked => by cases unlinked⟩
            rw [App.handleKey_linked, linked]
        | false =>
            have out :=
              App.handleKey_out platform stroke.env stroke.key gated linked (by
                intro help
                by_contra back
                rw [leaves help (by simpa using back)] at linked
                cases linked)
            exact ⟨out.gated gated linked, fun _ => out.toQuiet⟩

/-- Leaving the Help screen of an unlinked app shows an unlinked Home. -/
theorem help_opens_unlinked_home (platform : Platform) {session : Session} {action : Action}
    (leaves : ¬ LeavesHelpLinked session action)
    : (session.act platform action).app.screen = .home
      ∧ (session.act platform action).app.linked = false := by
  cases action with
  | event env received => exact absurd trivial leaves
  | focus env foreground => exact absurd trivial leaves
  | press stroke =>
      simp only [LeavesHelpLinked, Classical.not_imp, Bool.not_eq_true] at leaves
      obtain ⟨help, back, unlinked⟩ := leaves
      have typed : stroke.key ≠ '\x00' := by
        intro filler
        rw [filler] at back
        cases back
      have shown : (session.app.handleKey platform stroke.env stroke.key)
          = ({ session.app with screen := .home }, []) := by
        rw [App.handleKey, help]
        exact if_pos back
      simp [Session.act, typed, Session.record, shown, unlinked]

/-- The invariant holds after every guarded run. -/
theorem gated_of_guarded (platform : Platform) {app : App} (start : App.Start app)
    {actions : List Action}
    (guarded : Runs.Guarded (Session.act platform) LeavesHelpLinked (.start app) actions)
    : (Runs.run (Session.act platform) (.start app) actions).app.LinkGated := by
  have stable (session : Session) (action : Action)
      (leaves : LeavesHelpLinked session action) (gated : session.app.LinkGated)
      : (session.act platform action).app.LinkGated := by
    rw [Session.act_app]
    exact (Action.outcome_gated platform leaves gated).1
  exact guarded.invariant stable start.gated

/-- Home, Thread, Settings and Profile are on screen only in a linked app, and an unlinked
app composes nothing and starts no sync and no lookup, in every state of a run exactly when
the run leaves Help only while linked. The logout that an unlinked app never starts is the one
of Settings: the wipe of the pre-link menu sends `Cmd::Logout` too.
-/
theorem postLink_screens_linked_iff (platform : Platform) {app : App} (start : App.Start app)
    (inputs : List Input)
    : Runs.Guarded (Session.act platform) LeavesHelpLinked (.start app)
        (inputs.flatMap Input.actions)
      ↔ ∀ done rest, done ++ rest = inputs.flatMap Input.actions →
          let reached := (Runs.run (Session.act platform) (.start app) done).app
          (reached.screen.isPostLink = true → reached.linked = true)
          ∧ ∀ action ∈ rest.head?, reached.linked = false
              → Quiet reached (action.outcome platform reached) := by
  constructor
  · intro guarded done rest split
    have before := gated_of_guarded platform start (split ▸ guarded).left
    refine ⟨before.screen, fun action next unlinked => ?_⟩
    obtain ⟨later, rfl⟩ : ∃ later, rest = action :: later := by
      cases rest with
      | nil => cases next
      | cons head later =>
          obtain rfl := Option.some.inj next
          exact ⟨later, rfl⟩
    have leaves := Runs.guarded_iff_reached.mp guarded done action later split
    exact (Action.outcome_gated platform leaves before).2 unlinked
  · intro screens
    refine Runs.guarded_iff_reached.mpr fun done action rest split => ?_
    by_contra leaves
    obtain ⟨home, unlinked⟩ := help_opens_unlinked_home platform leaves
    have after := (screens (done ++ [action]) rest (by simpa using split)).1
    rw [Runs.run_append] at after
    have linked := after (by rw [Runs.run_cons, Runs.run_nil, home]; rfl)
    rw [Runs.run_cons, Runs.run_nil, unlinked] at linked
    cases linked

/-- An unlinked app that visits About, opens Help and stays there. -/
def Input.readHelp : List Input := [.typing 1 ['↓', '∴', '∴', '↓', '∴']]

theorem postLink_screens_linked_help
    : Runs.Guarded (Session.act .twoContacts) LeavesHelpLinked (.start .initial)
        (Input.readHelp.flatMap Input.actions)
      ∧ ∀ done rest, done ++ rest = Input.readHelp.flatMap Input.actions →
          let reached := (Runs.run (Session.act .twoContacts) (.start .initial) done).app
          (reached.screen.isPostLink = true → reached.linked = true)
          ∧ ∀ action ∈ rest.head?, reached.linked = false
              → Quiet reached (action.outcome .twoContacts reached) := by
  have stays
      : Runs.Guarded (Session.act .twoContacts) LeavesHelpLinked (.start .initial)
          (Input.readHelp.flatMap Input.actions) := by
    decide +kernel
  exact ⟨stays, (postLink_screens_linked_iff .twoContacts .plain Input.readHelp).mp stays⟩

/-- Help opened on the Menu and left with Enter shows Home in an unlinked app, and F2 there
starts a contact sync.
-/
theorem unlinked_home_after_help
    : let session :=
        Runs.run (Session.step .twoContacts) (.start .initial)
          [.typing 1 ['↓', '↓', '∴', '∴'], .typing 2 [keyF2]]
      session.app.screen = .home ∧ session.app.linked = false
      ∧ session.history.head? = some (.sent .syncContacts) :=
  ⟨by decide +kernel, by decide +kernel, rfl⟩

end XousAppSignal.Ui
