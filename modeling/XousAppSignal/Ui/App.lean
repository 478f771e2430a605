import XousAppSignal.Text
import XousAppSignal.Ui.MessageStore
import XousAppSignal.Worker.Cmd

/-! The UI state machine's state, and the flows a key press can start. What a flow reads
from outside (modal answers, connectivity, the clock, whether the command channel takes a
command, the hash order of a rebuild) is an explicit environment input.
-/

namespace XousAppSignal.Ui

open Worker

/-- Outcome of the link flow, shown on `Screen.linked`. -/
inductive LinkedKind where
  | success
  | failure
  deriving DecidableEq

/-- What to do when the no-internet preflight clears. -/
inductive NextScreenAfterInternet where
  | link
  | home
  deriving DecidableEq

inductive Screen where
  | menu
  | about
  | linking
  | wiping
  | linked (kind : LinkedKind)
  | home
  | thread (uuid : Uuid)
  | settings
  | profile
  | help
  | noInternet (next : NextScreenAfterInternet) (reason : String)
  deriving DecidableEq

inductive MenuItem where
  | link
  | about
  | help
  | wipeSettings
  deriving DecidableEq

inductive SettingsItem where
  | profile
  | help
  | about
  | logout
  deriving DecidableEq

/-- Capacity of the in-RAM message buffer. -/
def inboxCapacity : Nat := 5

/-- The UI state, without the drawing handles. -/
structure App where
  screen : Screen
  selected : MenuItem
  linked : Bool
  store : MessageStore
  homeFocus : Nat
  composeBuffer : String
  lastStatus : String
  linkingInProgress : Bool
  settingsSelected : SettingsItem
  accountDeviceName : Option String
  accountAci : Option String
  accountPhone : Option String
  accountQueryPending : Bool
  usernameLookupInProgress : Bool
  usernameLookupPending : Option String

/-- Library functions the UI calls: `char::is_alphanumeric`, `Uuid::parse_str` and
`Uuid::new_v5` in the OID namespace.
-/
structure Platform where
  isAlphanumeric : Char → Bool
  parseUuid : String → Option Uuid
  newV5 : List UInt8 → Uuid

/-- The radio status the preflight reads, with the link state's `Debug` text. -/
structure WlanStatus where
  connected : Bool
  linkState : String
  ipv4 : List UInt8

/-- What one key press or event finds outside the app. -/
structure Env where
  /-- `XAS_BYPASS_PREFLIGHT` is set. -/
  bypassPreflight : Bool
  /-- `none` when there is no COM service; otherwise its answer to `wlan_status`. -/
  wlan : Option (Except String WlanStatus)
  /-- The result of `Modals::new`. -/
  modals : Except String Unit
  /-- The first field of the modal the flow opens. -/
  answer : Except String String
  /-- `next_attempt_device_name`. -/
  defaultName : String
  /-- `unix_now_ms`. -/
  now : UInt64
  /-- Whether `send_blocking` delivers; an error is a closed channel. -/
  channel : Except String Unit
  /-- Hash order of the first rebuild. -/
  order : HashOrder
  /-- Hash order of a second rebuild in the same flow. -/
  orderAfter : HashOrder

/-- The state after a flow, with the commands that were put on the channel. -/
abbrev Outcome := App × List Cmd

/-- The command if the channel takes it. -/
def Env.send (env : Env) (cmd : Cmd) : List Cmd :=
  match env.channel with
  | .ok _ => [cmd]
  | .error _ => []

theorem Env.mem_send {env : Env} {cmd sent : Cmd} (member : sent ∈ env.send cmd)
    : sent = cmd := by
  unfold send at member
  split at member
  · simpa using member
  · cases member

/-- `char::is_ascii_punctuation`. -/
def isAsciiPunctuation (c : Char) : Bool :=
  let n := c.toNat
  (0x21 ≤ n && n ≤ 0x2f) || (0x3a ≤ n && n ≤ 0x40) || (0x5b ≤ n && n ≤ 0x60)
    || (0x7b ≤ n && n ≤ 0x7e)

/-- Whether a character is acceptable in the compose buffer. -/
def isComposeChar (platform : Platform) (c : Char) : Bool :=
  platform.isAlphanumeric c || c == ' ' || isAsciiPunctuation c

/-- The `name.000` shape: 3–32 letters, digits or underscores, a dot, 2–9 digits. -/
def looksLikeSignalUsername (s : String) : Bool :=
  match s.toList.span (· != '.') with
  | (_, []) => false
  | (nick, _ :: rest) =>
      let nickBytes := (String.ofList nick).utf8ByteSize
      let restBytes := (String.ofList rest).utf8ByteSize
      3 ≤ nickBytes && nickBytes ≤ 32
        && nick.all (fun c => c.isAlphanum || c == '_')
        && 2 ≤ restBytes && restBytes ≤ 9
        && rest.all Char.isDigit

/-- The typed confirmation of the destructive modals. -/
def Env.confirmed (env : Env) : Bool :=
  match env.answer with
  | .ok text => (trim text).toList.map Char.toLower == ['y', 'e', 's']
  | .error _ => false

/-- No-internet preflight. -/
def checkInternet (env : Env) : Except String Unit :=
  if env.bypassPreflight then .ok ()
  else
    match env.wlan with
    | none => .ok ()
    | some (.error e) => .error ("COM didn't respond: " ++ e)
    | some (.ok status) =>
        if !status.connected then .error ("Wi-Fi link is " ++ status.linkState ++ ".")
        else if status.ipv4 = [0, 0, 0, 0] then
          .error "Joined a network but no\nDHCP lease yet."
        else .ok ()

namespace App

/-- The state `run` starts from. -/
def initial : App where
  screen := .menu
  selected := .link
  linked := false
  store := .new inboxCapacity
  homeFocus := 0
  composeBuffer := ""
  lastStatus := ""
  linkingInProgress := false
  settingsSelected := .profile
  accountDeviceName := none
  accountAci := none
  accountPhone := none
  accountQueryPending := false
  usernameLookupInProgress := false
  usernameLookupPending := none

/-- The hosted-mode start with a seeded history, linked and on Home. -/
def seeded (order : HashOrder) (rows : List ThreadMessage) : App :=
  { initial with
    store := initial.store.seed order rows
    linked := true
    screen := .home
    homeFocus := 0 }

/-- Wipe link-derived state back to the pre-link Menu. -/
def resetToUnlinked (app : App) : App :=
  { app with
    linked := false
    store := app.store.clear
    homeFocus := 0
    composeBuffer := ""
    linkingInProgress := false
    usernameLookupInProgress := false
    usernameLookupPending := none
    accountDeviceName := none
    accountAci := none
    accountPhone := none
    screen := .menu
    selected := .link }

/-- The visible menu entries. -/
def menuItems (app : App) : List MenuItem :=
  if app.linked then [.about, .help] else [.link, .about, .help, .wipeSettings]

/-- The entry `delta` places from `current`, wrapping around; a cursor on no visible
entry counts as the first.
-/
def moveIn {α : Type} [DecidableEq α] (items : List α) (current : α) (delta : Int) : α :=
  let idx := (items.findIdx? (· = current)).getD 0
  let new := ((idx : Int) + delta) % items.length
  (items[new.toNat]?).getD current

def moveCursor (delta : Int) (app : App) : App :=
  { app with selected := moveIn app.menuItems app.selected delta }

def settingsItems : List SettingsItem := [.profile, .help, .about, .logout]

def settingsMove (delta : Int) (app : App) : App :=
  { app with settingsSelected := moveIn settingsItems app.settingsSelected delta }

/-- The landing screen: Home once linked, else the Menu. -/
def landing (app : App) : Screen := if app.linked then .home else .menu

/-- Optimistic send of the compose buffer to the open conversation. -/
def sendCompose (env : Env) (recipientUuid : Uuid) (app : App) : Outcome :=
  -- The group reply-block refuses and keeps the typed text.
  if app.store.isGroupThread recipientUuid then
    ({ app with lastStatus := "Group reply not supported yet" }, [])
  else
    let body := app.composeBuffer
    let pushed := app.store.pushOutgoingPending env.order recipientUuid body env.now
    match env.channel with
    | .ok _ =>
        ({ app with composeBuffer := "", store := pushed },
          [.sendMessage recipientUuid.toString body env.now])
    | .error _ =>
        ({ app with
          composeBuffer := ""
          store := (pushed.markSendFailed env.orderAfter env.now).2 }, [])

/-- Pre-link "Wipe settings". -/
def driveWipeSettings (env : Env) (app : App) : Outcome :=
  match env.modals with
  | .error _ => (app, [])
  | .ok _ =>
      if !env.confirmed then (app, [])
      else
        match env.channel with
        | .ok _ => ({ app with screen := .wiping }, [.logout])
        | .error _ => ({ app with screen := .menu }, [])

/-- Settings → Logout. The screen changes only when the logged-out event arrives. -/
def driveLogout (env : Env) (app : App) : Outcome :=
  match env.modals with
  | .error _ => (app, [])
  | .ok _ => if env.confirmed then (app, env.send .logout) else (app, [])

/-- Prompt for a UUID or username and open an empty thread for it. -/
def driveNewChat (platform : Platform) (env : Env) (app : App) : Outcome :=
  match env.modals, env.answer with
  | .ok _, .ok text =>
      let raw := trim text
      if raw = "" then (app, [])
      else
        match platform.parseUuid raw with
        | some uuid => ({ app with screen := .thread uuid, composeBuffer := "" }, [])
        | none =>
            -- Phone numbers and unrecognised input only open a notification.
            if looksLikeSignalUsername raw && !app.usernameLookupInProgress then
              match env.channel with
              | .error _ => (app, [])
              | .ok _ =>
                  ({ app with
                    usernameLookupInProgress := true
                    usernameLookupPending := some raw }, [.resolveUsername raw])
            else (app, [])
  | _, _ => (app, [])

/-- Start the link flow. -/
def driveLink (env : Env) (app : App) : Outcome :=
  match env.modals, env.answer with
  | .error e, _ =>
      ({ app with
        screen := .linked .failure
        lastStatus := "Modals init failed:\n" ++ e }, [])
  | .ok _, .error e =>
      ({ app with
        screen := .linked .failure
        lastStatus := "device name modal:\n" ++ e }, [])
  | .ok _, .ok text =>
      let trimmed := trim text
      let deviceName := if trimmed = "" then env.defaultName else trimmed
      match env.channel with
      | .ok _ =>
          ({ app with screen := .linking, linkingInProgress := true },
            [.linkDevice deviceName])
      | .error e =>
          ({ app with
            screen := .linked .failure
            lastStatus := "Cmd::LinkDevice send:\n" ++ e
            linkingInProgress := false }, [])

end App

end XousAppSignal.Ui
