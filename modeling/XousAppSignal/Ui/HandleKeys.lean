import XousAppSignal.Ui.App

/-! The key dispatch of the UI: one function per screen, as the arms of `handle_keys`. -/

namespace XousAppSignal.Ui

open Worker

/-- Enter, as the keyboard's centre key or a carriage return. -/
def isEnter (key : Char) : Bool := key == '∴' || key == '\x0d'

def keyEsc : Char := '\x1b'

def keyBackspace : Char := '\x08'

def keyMenu : Char := '☰'

def keyF1 : Char := '\x11'

def keyF2 : Char := '\x12'

def keyF3 : Char := '\x13'

def keyF4 : Char := '\x14'

namespace App

def handleMenuKey (env : Env) (key : Char) (app : App) : Outcome :=
  if key = '↑' then (app.moveCursor (-1), [])
  else if key = '↓' then (app.moveCursor 1, [])
  else if isEnter key then
    match app.selected with
    | .link =>
        match checkInternet env with
        | .ok _ => app.driveLink env
        | .error reason => ({ app with screen := .noInternet .link reason }, [])
    | .about => ({ app with screen := .about }, [])
    | .help => ({ app with screen := .help }, [])
    | .wipeSettings => app.driveWipeSettings env
  else if key = keyEsc ∧ app.linked then ({ app with screen := .home, selected := .about }, [])
  else (app, [])

def handleAboutKey (key : Char) (app : App) : Outcome :=
  if isEnter key || key = keyF1 || key = keyEsc then ({ app with screen := app.landing }, [])
  else (app, [])

def handleLinkedKey (env : Env) (key : Char) (app : App) : Outcome :=
  if isEnter key then
    if app.linked then
      match checkInternet env with
      | .ok _ => ({ app with screen := .home, homeFocus := 0, lastStatus := "" }, [])
      | .error reason =>
          ({ app with screen := .noInternet .home reason, lastStatus := "" }, [])
    else ({ app with screen := .menu, selected := .link, lastStatus := "" }, [])
  else (app, [])

def handleNoInternetKey (env : Env) (next : NextScreenAfterInternet) (key : Char) (app : App)
    : Outcome :=
  if isEnter key then
    match checkInternet env, next with
    | .ok _, .link => app.driveLink env
    | .ok _, .home => ({ app with screen := .home, homeFocus := 0 }, [])
    | .error reason, _ => ({ app with screen := .noInternet next reason }, [])
  else if key = keyEsc || key = keyBackspace then
    ({ app with screen := app.landing, selected := .link }, [])
  else (app, [])

def handleLinkingKey (env : Env) (key : Char) (app : App) : Outcome :=
  if key = keyEsc || key = keyBackspace then
    ({ app with
      linkingInProgress := false
      screen := .menu
      selected := .link
      lastStatus := "" }, env.send .linkCancel)
  else (app, [])

def openSettings (app : App) : App :=
  { app with screen := .settings, settingsSelected := .profile }

def handleHomeKey (platform : Platform) (env : Env) (key : Char) (app : App) : Outcome :=
  if key = '↑' then ({ app with homeFocus := app.homeFocus - 1 }, [])
  else if key = '↓' then
    if app.homeFocus < app.store.dialogues.length - 1 then
      ({ app with homeFocus := app.homeFocus + 1 }, [])
    else (app, [])
  else if isEnter key then
    match app.store.dialogues[app.homeFocus]? with
    | some d =>
        ({ app with
          store := app.store.markThreadRead env.order d.uuid
          screen := .thread d.uuid }, [])
    | none => (app, [])
  else if key = keyMenu || key = keyEsc then (app.openSettings, [])
  else if key = keyF1 then app.driveNewChat platform env
  else if key = keyF2 then (app, env.send .syncContacts)
  else if key = keyF3 then ({ app with screen := .help }, [])
  else if key = keyF4 then (app.openSettings, [])
  else (app, [])

def handleThreadKey (platform : Platform) (env : Env) (uuid : Uuid) (key : Char) (app : App)
    : Outcome :=
  if isEnter key then
    if app.composeBuffer = "" then ({ app with screen := .home }, [])
    else app.sendCompose env uuid
  else if key = keyBackspace then
    ({ app with composeBuffer := String.ofList app.composeBuffer.toList.dropLast }, [])
  else if isComposeChar platform key then
    ({ app with composeBuffer := app.composeBuffer.push key }, [])
  else if key = keyF1 then
    if app.composeBuffer = "" then (app, []) else app.sendCompose env uuid
  else if key = keyF4 then (app.openSettings, [])
  else if key = keyF3 then ({ app with screen := .help }, [])
  else (app, [])

/-- Ask the worker for the account; the query is pending once the channel took it. -/
def queryAccount (env : Env) (app : App) : Outcome :=
  match env.channel with
  | .ok _ => ({ app with accountQueryPending := true }, [.getAccountInfo])
  | .error _ => (app, [])

def openProfile (env : Env) (app : App) : Outcome :=
  let (app, cmds) := if app.accountAci.isNone then app.queryAccount env else (app, [])
  ({ app with screen := .profile }, cmds)

def handleSettingsKey (env : Env) (key : Char) (app : App) : Outcome :=
  if key = '↑' then (app.settingsMove (-1), [])
  else if key = '↓' then (app.settingsMove 1, [])
  else if isEnter key then
    match app.settingsSelected with
    | .profile => app.openProfile env
    | .help => ({ app with screen := .help }, [])
    | .about => ({ app with screen := .about }, [])
    | .logout => app.driveLogout env
  else if key = keyEsc || key = keyMenu || key = keyF1 then ({ app with screen := .home }, [])
  else (app, [])

/-- Profile and Help: Enter, Esc or F1 goes back. -/
def handleBackKey (back : Screen) (key : Char) (app : App) : Outcome :=
  if isEnter key || key = keyEsc || key = keyF1 then ({ app with screen := back }, [])
  else (app, [])

/-- One turn of the `handle_keys` loop on a key that is not a filler. -/
def handleKey (platform : Platform) (env : Env) (key : Char) (app : App) : Outcome :=
  match app.screen with
  | .menu => app.handleMenuKey env key
  | .about => app.handleAboutKey key
  | .linking => app.handleLinkingKey env key
  | .wiping => (app, [])
  | .linked _ => app.handleLinkedKey env key
  | .home => app.handleHomeKey platform env key
  | .thread uuid => app.handleThreadKey platform env uuid key
  | .settings => app.handleSettingsKey env key
  | .profile => app.handleBackKey .settings key
  | .help => app.handleBackKey .home key
  | .noInternet next _ => app.handleNoInternetKey env next key

end App

end XousAppSignal.Ui
