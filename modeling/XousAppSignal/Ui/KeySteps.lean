import XousAppSignal.Ui.HandleWorkerEvent

/-! Everything that one key or one focus change can do, listed once: the screens it leads to,
the fields it changes and the commands it sends. What keys keep is derived from these lists.
-/

namespace XousAppSignal.Ui

open Worker

/-- The keys Profile and Help go back on. -/
def isBackKey (key : Char) : Bool := isEnter key || key = keyEsc || key = keyF1

/-- The screens on which Enter can start a link. -/
inductive Screen.OffersLink : Screen → Prop where
  | menu : OffersLink .menu
  | noInternet (reason : String) : OffersLink (.noInternet .link reason)

/-- The screens a key leads to that does no more than show them. -/
inductive App.Leads (key : Char) (app : App) : Screen → Prop where
  | stays : Leads key app app.screen
  | menuAbout : app.screen = .menu → Leads key app .about
  | menuHelp : app.screen = .menu → Leads key app .help
  | menuHome : app.screen = .menu → app.linked = true → Leads key app .home
  | wipeRefused : app.screen = .menu → Leads key app .menu
  | linkFailed : app.screen.OffersLink → Leads key app (.linked .failure)
  | linkPreflight (reason : String)
      : app.screen.OffersLink → Leads key app (.noInternet .link reason)
  | aboutBack : app.screen = .about → Leads key app app.landing
  | linkedHome (kind : LinkedKind)
      : app.screen = .linked kind → app.linked = true → Leads key app .home
  | linkedPreflight (kind : LinkedKind) (reason : String)
      : app.screen = .linked kind → app.linked = true
        → Leads key app (.noInternet .home reason)
  | linkedMenu (kind : LinkedKind)
      : app.screen = .linked kind → app.linked = false → Leads key app .menu
  | homeSettings : app.screen = .home → Leads key app .settings
  | homeHelp : app.screen = .home → Leads key app .help
  | threadHome (uuid : Uuid) : app.screen = .thread uuid → Leads key app .home
  | threadSettings (uuid : Uuid) : app.screen = .thread uuid → Leads key app .settings
  | threadHelp (uuid : Uuid) : app.screen = .thread uuid → Leads key app .help
  | settingsProfile : app.screen = .settings → Leads key app .profile
  | settingsHelp : app.screen = .settings → Leads key app .help
  | settingsAbout : app.screen = .settings → Leads key app .about
  | settingsHome : app.screen = .settings → Leads key app .home
  | profileBack : app.screen = .profile → Leads key app .settings
  | helpBack : app.screen = .help → isBackKey key = true → Leads key app .home
  | preflightHome (reason : String)
      : app.screen = .noInternet .home reason → Leads key app .home
  | preflightAgain (reason again : String)
      : app.screen = .noInternet .home reason → Leads key app (.noInternet .home again)
  | preflightBack (next : NextScreenAfterInternet) (reason : String)
      : app.screen = .noInternet next reason → Leads key app app.landing

/-- Everything a key can do, with the screen it is typed on. -/
inductive KeyStep (platform : Platform) (env : Env) (key : Char) (app : App)
    : Outcome → Prop where
  /-- Only the screen, the cursors and the status change; the focus of Home moves no further
  down.
  -/
  | shown {screen : Screen} {selected : MenuItem} {homeFocus : Nat}
      {settingsSelected : SettingsItem} {lastStatus : String}
      : app.Leads key screen → homeFocus ≤ app.homeFocus
        → KeyStep platform env key app
            ({ app with screen, selected, homeFocus, settingsSelected, lastStatus }, [])
  | linking (deviceName : String)
      : app.screen.OffersLink
        → KeyStep platform env key app
            ({ app with screen := .linking, linkingInProgress := true },
              [.linkDevice deviceName])
  /-- The command channel is closed. -/
  | notLinking (lastStatus reason : String)
      : app.screen.OffersLink → env.channel = .error reason
        → KeyStep platform env key app
            ({ app with
              screen := .linked .failure
              lastStatus
              linkingInProgress := false }, [])
  | linkCancelled
      : app.screen = .linking
        → KeyStep platform env key app
            ({ app with
              linkingInProgress := false
              screen := .menu
              selected := .link
              lastStatus := "" }, env.send .linkCancel)
  | wiping
      : app.screen = .menu
        → KeyStep platform env key app ({ app with screen := .wiping }, [.logout])
  | loggingOut : app.screen = .settings → KeyStep platform env key app (app, env.send .logout)
  | accountAsked
      : app.screen = .settings
        → KeyStep platform env key app
            ({ app with accountQueryPending := true, screen := .profile }, [.getAccountInfo])
  | focusDown
      : app.screen = .home → key = '↓' → app.homeFocus < app.store.dialogues.length - 1
        → KeyStep platform env key app ({ app with homeFocus := app.homeFocus + 1 }, [])
  | opened (d : DialogueSummary)
      : app.screen = .home → isEnter key = true → app.store.dialogues[app.homeFocus]? = some d
        → KeyStep platform env key app
            ({ app with
              store := app.store.markThreadRead env.order d.uuid
              screen := .thread d.uuid }, [])
  | syncing : app.screen = .home → KeyStep platform env key app (app, env.send .syncContacts)
  | newChat (uuid : Uuid)
      : app.screen = .home
        → KeyStep platform env key app
            ({ app with screen := .thread uuid, composeBuffer := "" }, [])
  | lookingUp (raw : String)
      : app.screen = .home → app.usernameLookupInProgress = false
        → KeyStep platform env key app
            ({ app with
              usernameLookupInProgress := true
              usernameLookupPending := some raw }, [.resolveUsername raw])
  | edited (uuid : Uuid) (text : String)
      : app.screen = .thread uuid → text.toList.Sublist (app.composeBuffer.toList ++ [key])
        → KeyStep platform env key app ({ app with composeBuffer := text }, [])
  | sent (uuid : Uuid)
      : app.screen = .thread uuid
        → (isEnter key = true ∨ key = keyF1 ∧ isComposeChar platform key = false)
        → app.composeBuffer ≠ "" → KeyStep platform env key app (app.sendCompose env uuid)

variable {platform : Platform} {env : Env} {key : Char} {app : App}

theorem App.Leads.step {screen : Screen} (leads : app.Leads key screen)
    : KeyStep platform env key app ({ app with screen }, []) :=
  .shown leads (Nat.le_refl _)

theorem KeyStep.idle : KeyStep platform env key app (app, []) := App.Leads.stays.step

namespace App

theorem landing_cases (app : App) : app.landing = .home ∨ app.landing = .menu := by
  unfold landing
  split <;> simp

/-- A screen with a cost of its own is not merely shown. -/
theorem Leads.stays_of {screen : Screen} (leads : app.Leads key screen)
    (own : screen = .linking ∨ screen = .wiping ∨ ∃ uuid, screen = .thread uuid)
    : app.screen = screen := by
  have landing := app.landing_cases
  cases leads with
  | stays => rfl
  | aboutBack | preflightBack =>
      rcases landing with home | menu
      · simp [home] at own
      · simp [menu] at own
  | _ => simp at own

-----------------------------------------------------------------------------------------
-- Flows
-----------------------------------------------------------------------------------------

theorem driveLink_step (offers : app.screen.OffersLink)
    : KeyStep platform env key app (app.driveLink env) := by
  unfold driveLink
  split
  · exact .shown (.linkFailed offers) (Nat.le_refl _)
  · exact .shown (.linkFailed offers) (Nat.le_refl _)
  · dsimp only
    split
    · exact .linking _ offers
    · next closed => exact .notLinking _ _ offers closed

theorem driveWipeSettings_step (shown : app.screen = .menu)
    : KeyStep platform env key app (app.driveWipeSettings env) := by
  unfold driveWipeSettings
  split
  · exact .idle
  · split
    · exact .idle
    · split
      · exact .wiping shown
      · exact (Leads.wipeRefused shown).step

theorem driveLogout_step (shown : app.screen = .settings)
    : KeyStep platform env key app (app.driveLogout env) := by
  unfold driveLogout
  split
  · exact .idle
  · split
    · exact .loggingOut shown
    · exact .idle

theorem driveNewChat_step (shown : app.screen = .home)
    : KeyStep platform env key app (app.driveNewChat platform env) := by
  unfold driveNewChat
  split
  · dsimp only
    split
    · exact .idle
    · split
      · exact .newChat _ shown
      · split
        · next accepted =>
            split
            · exact .idle
            · rw [Bool.and_eq_true, Bool.not_eq_true'] at accepted
              exact .lookingUp _ shown accepted.2
        · exact .idle
  · exact .idle

theorem openProfile_step (shown : app.screen = .settings)
    : KeyStep platform env key app (app.openProfile env) := by
  unfold openProfile queryAccount
  cases app.accountAci.isNone <;> cases env.channel
  all_goals first
    | exact (Leads.settingsProfile shown).step
    | exact .accountAsked shown

-----------------------------------------------------------------------------------------
-- Screens
-----------------------------------------------------------------------------------------

theorem handleMenuKey_step (shown : app.screen = .menu)
    : KeyStep platform env key app (app.handleMenuKey env key) := by
  have offers : app.screen.OffersLink := shown ▸ .menu
  unfold handleMenuKey
  split
  · exact .shown .stays (Nat.le_refl _)
  · split
    · exact .shown .stays (Nat.le_refl _)
    · split
      · split
        · split
          · exact driveLink_step offers
          · exact (Leads.linkPreflight _ offers).step
        · exact (Leads.menuAbout shown).step
        · exact (Leads.menuHelp shown).step
        · exact driveWipeSettings_step shown
      · split
        · next escaped => exact .shown (.menuHome shown escaped.2) (Nat.le_refl _)
        · exact .idle

theorem handleAboutKey_step (shown : app.screen = .about)
    : KeyStep platform env key app (app.handleAboutKey key) := by
  unfold handleAboutKey
  split
  · exact (Leads.aboutBack shown).step
  · exact .idle

theorem handleLinkingKey_step (shown : app.screen = .linking)
    : KeyStep platform env key app (app.handleLinkingKey env key) := by
  unfold handleLinkingKey
  split
  · exact .linkCancelled shown
  · exact .idle

theorem handleLinkedKey_step {kind : LinkedKind} (shown : app.screen = .linked kind)
    : KeyStep platform env key app (app.handleLinkedKey env key) := by
  unfold handleLinkedKey
  split
  · split
    · next linked =>
        split
        · exact .shown (.linkedHome kind shown linked) (Nat.zero_le _)
        · exact .shown (.linkedPreflight kind _ shown linked) (Nat.le_refl _)
    · next unlinked =>
        exact .shown (.linkedMenu kind shown (by simpa using unlinked)) (Nat.le_refl _)
  · exact .idle

theorem handleNoInternetKey_step {next : NextScreenAfterInternet} {reason : String}
    (shown : app.screen = .noInternet next reason)
    : KeyStep platform env key app (app.handleNoInternetKey env next key) := by
  unfold handleNoInternetKey
  split
  · cases next with
    | link =>
        have offers : app.screen.OffersLink := shown ▸ .noInternet reason
        split
        · exact driveLink_step offers
        · cases ‹NextScreenAfterInternet.link = .home›
        · exact (Leads.linkPreflight _ offers).step
    | home =>
        split
        · cases ‹NextScreenAfterInternet.home = .link›
        · exact .shown (.preflightHome reason shown) (Nat.zero_le _)
        · exact (Leads.preflightAgain reason _ shown).step
  · split
    · exact .shown (.preflightBack next reason shown) (Nat.le_refl _)
    · exact .idle

theorem handleHomeKey_step (shown : app.screen = .home)
    : KeyStep platform env key app (app.handleHomeKey platform env key) := by
  unfold handleHomeKey
  split
  · exact .shown .stays (Nat.sub_le _ _)
  · split
    · next down =>
        split
        · next room => exact .focusDown shown down room
        · exact .idle
    · split
      · next enter =>
          split
          · next d focused => exact .opened d shown enter focused
          · exact .idle
      · repeat' split
        all_goals first
          | exact driveNewChat_step shown
          | exact .shown (.homeSettings shown) (Nat.le_refl _)
          | exact (Leads.homeHelp shown).step
          | exact .syncing shown
          | exact .idle

theorem handleThreadKey_step {uuid : Uuid} (shown : app.screen = .thread uuid)
    : KeyStep platform env key app (app.handleThreadKey platform env uuid key) := by
  unfold handleThreadKey
  split
  · next enter =>
      split
      · exact (Leads.threadHome uuid shown).step
      · next typed => exact .sent uuid shown (.inl enter) typed
  · split
    · refine .edited uuid _ shown ?_
      rw [String.toList_ofList]
      exact (List.dropLast_sublist _).trans (List.sublist_append_left _ _)
    · split
      · refine .edited uuid _ shown ?_
        simp
      · next plain =>
          split
          · next f1 =>
              split
              · exact .idle
              · next typed => exact .sent uuid shown (.inr ⟨f1, by simpa using plain⟩) typed
          · repeat' split
            all_goals first
              | exact .shown (.threadSettings uuid shown) (Nat.le_refl _)
              | exact (Leads.threadHelp uuid shown).step
              | exact .idle

theorem handleSettingsKey_step (shown : app.screen = .settings)
    : KeyStep platform env key app (app.handleSettingsKey env key) := by
  unfold handleSettingsKey
  repeat' split
  all_goals first
    | exact openProfile_step shown
    | exact driveLogout_step shown
    | exact (Leads.settingsHelp shown).step
    | exact (Leads.settingsAbout shown).step
    | exact (Leads.settingsHome shown).step
    | exact .shown .stays (Nat.le_refl _)

/-- Every key does one of the listed things, by the screen it is typed on. -/
theorem handleKey_step (platform : Platform) (env : Env) (key : Char) (app : App)
    : KeyStep platform env key app (app.handleKey platform env key) := by
  unfold handleKey
  split
  · next shown => exact handleMenuKey_step shown
  · next shown => exact handleAboutKey_step shown
  · next shown => exact handleLinkingKey_step shown
  · exact .idle
  · next shown => exact handleLinkedKey_step shown
  · next shown => exact handleHomeKey_step shown
  · next shown => exact handleThreadKey_step shown
  · next shown => exact handleSettingsKey_step shown
  · next shown =>
      unfold handleBackKey
      split
      · exact (Leads.profileBack shown).step
      · exact .idle
  · next shown =>
      unfold handleBackKey
      split
      · next back => exact (Leads.helpBack shown back).step
      · exact .idle
  · next shown => exact handleNoInternetKey_step shown

/-- A send changes the compose buffer, the store and the status, and at most sends the
message.
-/
theorem sendCompose_frame (env : Env) (uuid : Uuid) (app : App)
    : ∃ composeBuffer store lastStatus cmds,
        app.sendCompose env uuid = ({ app with composeBuffer, store, lastStatus }, cmds)
        ∧ ∀ cmd ∈ cmds, cmd = .sendMessage uuid.toString app.composeBuffer env.now := by
  unfold sendCompose
  split
  · exact ⟨_, _, _, _, rfl, by simp⟩
  · dsimp only
    split
    · exact ⟨_, _, _, _, rfl, by simp⟩
    · exact ⟨_, _, _, _, rfl, by simp⟩

/-- A focus change does nothing, or asks for the account. -/
theorem handleFocusChange_step (env : Env) (foreground : Bool) (app : App)
    : app.handleFocusChange env foreground = (app, [])
      ∨ app.handleFocusChange env foreground
        = ({ app with accountQueryPending := true }, [.getAccountInfo]) := by
  unfold handleFocusChange queryAccount
  repeat' split
  all_goals simp

end App

end XousAppSignal.Ui
