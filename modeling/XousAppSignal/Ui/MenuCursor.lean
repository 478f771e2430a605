import XousAppSignal.Ui.LinkedScreens

/-! The cursor of the Menu. Linking takes the link and wipe entries off the Menu, and of all
ways into the Menu only one leaves a linked app linked: the refusal of a link over a stale
store, which keeps the cursor where it was.
-/

namespace XousAppSignal.Ui

open Worker

/-- The screens on the way to a link, or to a wipe without one. -/
def Screen.isPreLink : Screen → Bool
  | .menu => true
  | .linking => true
  | .wiping => true
  | .noInternet .link _ => true
  | _ => false

theorem Screen.OffersLink.isPreLink {screen : Screen} (offers : screen.OffersLink)
    : screen.isPreLink = true := by
  cases offers <;> rfl

/-- The cursor is on a visible entry, and in a linked app Enter does no more than open About
or Help.
-/
structure MenuShown (platform : Platform) (app : App) : Prop where
  cursor : app.screen = .menu → app.selected ∈ app.menuItems
  enter
    : ∀ stroke : KeyPress, isEnter stroke.key = true → app.screen = .menu → app.linked = true
        → (Action.press stroke).outcome platform app = ({ app with screen := .about }, [])
          ∨ (Action.press stroke).outcome platform app = ({ app with screen := .help }, [])

namespace App

theorem menuItems_linked {app : App} (linked : app.linked = true)
    : app.menuItems = [.about, .help] := by
  simp [menuItems, linked]

/-- Every entry is visible in an unlinked app. -/
theorem mem_menuItems_unlinked {app : App} (unlinked : app.linked = false) (item : MenuItem)
    : item ∈ app.menuItems := by
  cases item <;> simp [menuItems, unlinked]

/-- Moving over some entries ends on one of them. -/
theorem moveIn_mem {α : Type} [DecidableEq α] {items : List α} (nonempty : items ≠ [])
    (current : α) (delta : Int)
    : moveIn items current delta ∈ items := by
  have size : 0 < (items.length : Int) := by
    exact_mod_cast List.length_pos_iff.mpr nonempty
  unfold moveIn
  dsimp only
  generalize ((items.findIdx? (· = current)).getD 0 : Int) + delta = place
  have low := Int.emod_nonneg place (ne_of_gt size)
  have high := Int.emod_lt_of_pos place size
  have inside : (place % items.length).toNat < items.length := by omega
  rw [List.getElem?_eq_getElem inside, Option.getD_some]
  exact List.getElem_mem inside

-----------------------------------------------------------------------------------------
-- The invariant
-----------------------------------------------------------------------------------------

/-- A linked app is on no screen before the link, but for the Menu with the cursor on a
visible entry.
-/
def CursorGated (app : App) : Prop :=
  app.linked = true → app.screen.isPreLink = true
    → app.screen = .menu ∧ app.selected ∈ app.menuItems

theorem CursorGated.of_unlinked {app : App} (unlinked : app.linked = false)
    : app.CursorGated := by
  intro linked
  rw [unlinked] at linked
  cases linked

theorem CursorGated.of_past {app : App} (past : app.screen.isPreLink = false)
    : app.CursorGated := by
  intro _ before
  rw [past] at before
  cases before

/-- An update of the other fields keeps the invariant. -/
theorem CursorGated.of_same {app next : App} (gated : app.CursorGated)
    (screen : next.screen = app.screen) (linked : next.linked = app.linked)
    (selected : next.selected = app.selected)
    : next.CursorGated := by
  intro isLinked before
  rw [screen] at before ⊢
  rw [selected, menuItems, linked]
  exact gated (linked ▸ isLinked) before

/-- On a visible entry Enter opens About or Help in a linked app. -/
theorem CursorGated.shown {app : App} (gated : app.CursorGated) (platform : Platform)
    : MenuShown platform app := by
  refine ⟨fun shown => ?_, fun stroke enter shown linked => ?_⟩
  · cases linked : app.linked with
    | false => exact mem_menuItems_unlinked linked _
    | true => exact (gated linked (by rw [shown]; rfl)).2
  · obtain ⟨-, visible⟩ := gated linked (by rw [shown]; rfl)
    rw [menuItems_linked linked] at visible
    have key : stroke.key = '∴' ∨ stroke.key = '\x0d' := by simpa [isEnter] using enter
    have typed : stroke.key ≠ '\x00' := by
      rcases key with key | key <;> rw [key] <;> decide
    have opens : app.handleKey platform stroke.env stroke.key
        = app.handleMenuKey stroke.env stroke.key := by
      rw [handleKey, shown]
    have arrow : stroke.key ≠ '↑' ∧ stroke.key ≠ '↓' := by
      rcases key with key | key <;> rw [key] <;> decide
    rw [Action.outcome, if_neg typed, opens, handleMenuKey, if_neg arrow.1, if_neg arrow.2,
      if_pos enter]
    rcases List.mem_pair.mp visible with here | here <;> rw [here]
    · exact .inl rfl
    · exact .inr rfl

-----------------------------------------------------------------------------------------
-- Keys
-----------------------------------------------------------------------------------------

theorem handleMenuKey_cursor (env : Env) (key : Char) {app : App} (shown : app.screen = .menu)
    (linked : app.linked = true) (visible : app.selected ∈ app.menuItems)
    : (app.handleMenuKey env key).1.CursorGated := by
  have moved (delta : Int) : (app.moveCursor delta).CursorGated := by
    intro _ _
    refine ⟨shown, ?_⟩
    have items : (app.moveCursor delta).menuItems = app.menuItems := rfl
    rw [items]
    exact moveIn_mem (List.ne_nil_of_mem visible) _ _
  have stays : app.CursorGated := fun _ _ => ⟨shown, visible⟩
  rw [menuItems_linked linked, List.mem_pair] at visible
  unfold handleMenuKey
  split
  · exact moved _
  · split
    · exact moved _
    · split
      · rcases visible with here | here <;> rw [here]
        · exact .of_past rfl
        · exact .of_past rfl
      · split
        · exact .of_past rfl
        · exact stays

/-- No key leads a linked app back before the link. Witness: About and the preflight go to
Home, the other screens lead to each other.
-/
theorem Leads.past {key : Char} {app : App} {screen : Screen} (leads : app.Leads key screen)
    (linked : app.linked = true) (past : app.screen.isPreLink = false)
    : screen.isPreLink = false := by
  have landing : app.landing = .home := by simp [App.landing, linked]
  cases leads with
  | stays => exact past
  | aboutBack | preflightBack =>
      rw [landing]
      rfl
  | linkedMenu kind shown unlinked =>
      rw [linked] at unlinked
      cases unlinked
  | wipeRefused shown =>
      rw [shown] at past
      cases past
  | linkPreflight reason offers =>
      rw [offers.isPreLink] at past
      cases past
  | _ => rfl

theorem handleKey_past (platform : Platform) (env : Env) (key : Char) {app : App}
    (linked : app.linked = true) (past : app.screen.isPreLink = false)
    : (app.handleKey platform env key).1.screen.isPreLink = false := by
  have step := app.handleKey_step platform env key
  generalize app.handleKey platform env key = outcome at step ⊢
  cases step with
  | shown leads focus => exact leads.past linked past
  | linking deviceName offers =>
      rw [offers.isPreLink] at past
      cases past
  | linkCancelled shown | wiping shown =>
      rw [shown] at past
      cases past
  | sent uuid shown trigger typed =>
      obtain ⟨text, store, status, cmds, outcome, -⟩ := app.sendCompose_frame env uuid
      rw [outcome]
      exact past
  | notLinking | accountAsked | opened | newChat => rfl
  | loggingOut | focusDown | syncing | lookingUp | edited => exact past

theorem handleKey_cursor (platform : Platform) (env : Env) (key : Char) {app : App}
    (gated : app.CursorGated)
    : (app.handleKey platform env key).1.CursorGated := by
  cases linked : app.linked with
  | false => exact .of_unlinked (by rw [handleKey_linked, linked])
  | true =>
      cases before : app.screen.isPreLink with
      | false => exact .of_past (handleKey_past platform env key linked before)
      | true =>
          obtain ⟨shown, visible⟩ := gated linked before
          rw [handleKey, shown]
          exact handleMenuKey_cursor env key shown linked visible

-----------------------------------------------------------------------------------------
-- Worker events and focus changes
-----------------------------------------------------------------------------------------

/-- Every event keeps the invariant, a refused link only with the cursor on a visible entry:
the other events that change the screen of a linked app lead past the link, or unlink it.
-/
theorem handleWorkerEvent_cursor (platform : Platform) (env : Env) (event : Event) {app : App}
    (visible : event.refusesLink = true → app.linked = true → app.selected ∈ app.menuItems)
    (gated : app.CursorGated)
    : (app.handleWorkerEvent platform env event).1.CursorGated := by
  cases event with
  | linkComplete deviceName aci phone => exact .of_past rfl
  | linkError reason =>
      unfold handleWorkerEvent
      dsimp only
      split
      · exact gated
      · exact .of_past rfl
  | staleStoreDetected => exact fun linked _ => ⟨rfl, visible rfl linked⟩
  | accountInfo answer =>
      cases answer with
      | error reason => exact gated.of_same rfl rfl rfl
      | ok info =>
          unfold handleWorkerEvent
          dsimp only
          split
          · exact .of_past rfl
          · exact gated.of_same rfl rfl rfl
  | loggedOut => exact .of_unlinked rfl
  | signalAuthExpired reason => exact .of_unlinked rfl
  | signalConflictingDevice reason => exact .of_unlinked rfl
  | usernameResolveResult answer =>
      simp only [handleWorkerEvent, handleUsernameResolveResult]
      split
      · exact gated
      · split
        · exact .of_past rfl
        · exact gated.of_same rfl rfl rfl
        · exact gated.of_same rfl rfl rfl
  | _ => exact gated.of_same rfl rfl rfl

theorem handleFocusChange_cursor (env : Env) (foreground : Bool) {app : App}
    (gated : app.CursorGated)
    : (app.handleFocusChange env foreground).1.CursorGated := by
  rcases app.handleFocusChange_step env foreground with idle | asked
  · rw [idle]
    exact gated
  · rw [asked]
    exact gated.of_same rfl rfl rfl

end App

-----------------------------------------------------------------------------------------
-- Runs
-----------------------------------------------------------------------------------------

/-- A link is refused only while the app is unlinked or the cursor on a visible entry. -/
def RefusedOnVisible (session : Session) : Action → Prop
  | .event _ received =>
      received.refusesLink = true → session.app.linked = true
        → session.app.selected ∈ session.app.menuItems
  | _ => True

instance (session : Session) : ∀ action, Decidable (RefusedOnVisible session action)
  | .event _ received =>
      inferInstanceAs (Decidable (received.refusesLink = true → session.app.linked = true
        → session.app.selected ∈ session.app.menuItems))
  | .press _ => .isTrue trivial
  | .focus _ _ => .isTrue trivial

theorem App.Start.cursor {app : App} (start : App.Start app) : app.CursorGated := by
  cases start with
  | plain => exact .of_unlinked rfl
  | seeded order rows => exact .of_past rfl

theorem Session.act_cursor (platform : Platform) {session : Session} {action : Action}
    (refused : RefusedOnVisible session action) (gated : session.app.CursorGated)
    : (session.act platform action).app.CursorGated := by
  rw [Session.act_app]
  cases action with
  | press stroke =>
      unfold Action.outcome
      dsimp only
      split
      · exact gated
      · exact App.handleKey_cursor platform stroke.env stroke.key gated
  | event env received =>
      exact App.handleWorkerEvent_cursor platform env received refused gated
  | focus env foreground => exact App.handleFocusChange_cursor env foreground gated

/-- A refusal on an entry that is not shown leaves the cursor on it, in the Menu. -/
theorem refusal_hides_cursor (platform : Platform) {session : Session} {action : Action}
    (hidden : ¬RefusedOnVisible session action)
    : ¬MenuShown platform (session.act platform action).app := by
  intro shown
  cases action with
  | press stroke => exact hidden trivial
  | focus env foreground => exact hidden trivial
  | event env received =>
      refine hidden fun refuses _ => ?_
      cases received with
      | staleStoreDetected => exact shown.cursor rfl
      | _ => cases refuses

/-- In every state of a run the Menu's cursor is on a visible entry, and Enter runs no other,
exactly when no link is refused in a linked app with the cursor on an entry that is not shown.
-/
theorem menu_cursor_visible_iff (platform : Platform) {app : App} (start : App.Start app)
    (inputs : List Input)
    : Runs.Guarded (Session.act platform) RefusedOnVisible (.start app)
        (inputs.flatMap Input.actions)
      ↔ ∀ done rest, done ++ rest = inputs.flatMap Input.actions
          → MenuShown platform (Runs.run (Session.act platform) (.start app) done).app := by
  constructor
  · intro guarded done rest split
    have stable (session : Session) (action : Action)
        (refused : RefusedOnVisible session action) (gated : session.app.CursorGated)
        : (session.act platform action).app.CursorGated :=
      session.act_cursor platform refused gated
    have gated : App.CursorGated (Runs.run (Session.act platform) (.start app) done).app :=
      (split ▸ guarded).left.invariant stable start.cursor
    exact gated.shown platform
  · intro shown
    refine Runs.guarded_iff_reached.mpr fun done action rest split => ?_
    by_contra hidden
    have after := shown (done ++ [action]) rest (by simpa using split)
    rw [Runs.run_append, Runs.run_cons, Runs.run_nil] at after
    exact refusal_hides_cursor platform hidden after

/-- Link is refused on the unlinked Menu: the cursor moves to the wipe from there. -/
def Input.refusedLink : List Input :=
  [.typing 1 ['∴'], .event (.online 2) .staleStoreDetected, .typing 3 ['↑']]

theorem menu_cursor_visible_refused
    : MenuShown .twoContacts
        (Runs.run (Session.act .twoContacts) (.start .initial)
          (Input.refusedLink.flatMap Input.actions)).app :=
  (menu_cursor_visible_iff .twoContacts .plain Input.refusedLink).mp (by decide +kernel) _ []
    (List.append_nil _)

/-- The name of the device is typed in. -/
def Env.named (now : UInt64) : Env := { Env.online now with answer := .ok "xas" }

/-- Link is pressed while the account is still being queried: the answer links the app, the
refusal of the link then shows the Menu with the cursor on Link, and Enter links again.
-/
theorem menu_cursor_on_hidden_link
    : let session :=
        Runs.run (Session.step .twoContacts) (.start .initial)
          [.focus (.online 1) true, .keys [⟨.named 2, '∴'⟩],
            .event (.online 3) (.accountInfo (.ok ⟨"xas", "aci", "+1"⟩)),
            .event (.online 4) .staleStoreDetected]
      session.app.screen = .menu ∧ session.app.linked = true
      ∧ session.app.selected = .link ∧ session.app.menuItems = [.about, .help]
      ∧ ¬MenuShown .twoContacts session.app
      ∧ (session.step .twoContacts (.keys [⟨.named 5, '∴'⟩])).history.head?
        = some (.sent (.linkDevice "xas")) := by
  intro session
  have here : session.app.selected ∉ session.app.menuItems := by decide +kernel
  exact ⟨by decide +kernel, by decide +kernel, by decide +kernel, by decide +kernel,
    fun shown => here (shown.cursor (by decide +kernel)), rfl⟩

end XousAppSignal.Ui
