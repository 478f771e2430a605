import XousAppSignal.Uuid

/-! Commands from the UI to the worker and the worker's events back to it. -/

namespace XousAppSignal.Worker

/-- Commands the UI puts on the worker's command channel. -/
inductive Cmd where
  | hello
  | getWhoami
  | linkDevice (deviceName : String)
  | linkCancel
  | startReceive
  | sendMessage (recipient body : String) (timestamp : UInt64)
  | getAccountInfo
  | syncContacts
  | logout
  | resolveUsername (username : String)
  | shutdown
  deriving DecidableEq

/-- Account identity as the Profile screen shows it. -/
structure AccountInfoData where
  deviceName : String
  aci : String
  phone : String
  deriving DecidableEq

/-- Events the worker puts on the event channel. -/
inductive Event where
  | pong
  | whoami (answer : Except String String)
  | linkUrl (url : String)
  | linkComplete (deviceName aci phone : String)
  | linkError (reason : String)
  | staleStoreDetected
  | accountInfo (answer : Except String AccountInfoData)
  | receiveStarted
  | message (sender : String) (senderPhone senderName : Option String) (body : String)
      (timestamp : UInt64) (groupMasterKey : Option (List UInt8))
  | receiveError (reason : String)
  | sendComplete (timestamp : UInt64)
  | sendError (reason : String) (timestamp : Option UInt64)
  | contactResolved (aciUuid : Uuid) (name : String)
  | syncComplete
  | syncError (reason : String)
  | loggedOut
  | signalAuthExpired (reason : String)
  | signalConflictingDevice (reason : String)
  | usernameResolveResult (answer : Except String (Option Uuid))
  | shuttingDown

/-- The events that make the UI drop its linked state. -/
def Event.resets : Event → Bool
  | .loggedOut => true
  | .signalAuthExpired _ => true
  | .signalConflictingDevice _ => true
  | _ => false

/-- The event is an inbound message. -/
def Event.isMessage : Event → Bool
  | .message .. => true
  | _ => false

/-- The event tells how a send ended. -/
def Event.endsSend : Event → Bool
  | .sendComplete _ => true
  | .sendError _ (some _) => true
  | _ => false

/-- The event tells how a link attempt ended. -/
def Event.isLinkOutcome : Event → Bool
  | .linkComplete .. => true
  | .linkError _ => true
  | .staleStoreDetected => true
  | _ => false

/-- The event refuses a link over a stale store. -/
def Event.refusesLink : Event → Bool
  | .staleStoreDetected => true
  | _ => false

/-- The event answers an account query. -/
def Event.isAccountInfo : Event → Bool
  | .accountInfo _ => true
  | _ => false

/-- The event answers a username lookup. -/
def Event.isUsernameResolveResult : Event → Bool
  | .usernameResolveResult _ => true
  | _ => false

/-- The command is a `SendMessage`. -/
def Cmd.isSendMessage : Cmd → Bool
  | .sendMessage .. => true
  | _ => false

/-- The command is a `LinkDevice`. -/
def Cmd.isLinkDevice : Cmd → Bool
  | .linkDevice _ => true
  | _ => false

/-- The command is a `StartReceive`. -/
def Cmd.isStartReceive : Cmd → Bool
  | .startReceive => true
  | _ => false

/-- The command is a `GetAccountInfo`. -/
def Cmd.isGetAccountInfo : Cmd → Bool
  | .getAccountInfo => true
  | _ => false

/-- The command is a `Logout`. -/
def Cmd.isLogout : Cmd → Bool
  | .logout => true
  | _ => false

/-- The command is a `ResolveUsername`. -/
def Cmd.isResolveUsername : Cmd → Bool
  | .resolveUsername _ => true
  | _ => false

/-- Commands of the UI that neither ask for the account nor concern a link. -/
def Cmd.isRoutine : Cmd → Bool
  | .startReceive => true
  | .sendMessage .. => true
  | .syncContacts => true
  | .logout => true
  | .resolveUsername _ => true
  | _ => false

theorem Cmd.isRoutine_ne_shutdown {cmd : Cmd} (routine : cmd.isRoutine = true)
    : cmd ≠ .shutdown := by
  rintro rfl
  cases routine

end XousAppSignal.Worker
