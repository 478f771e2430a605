import XousAppSignal.Store.TraitCalls
import XousAppSignal.Text
import XousAppSignal.Worker.Cmd

/-! Sending one message: recipient parsing, the retry loop, and the write batch opened
around each attempt. What the protocol library does to the store during an attempt, and how
the attempt ends, are inputs.
-/

namespace XousAppSignal.Worker

open Store

/-- Library functions the worker calls: `Uuid::parse_str`, `str::to_lowercase` and the
`Debug` form of a string.
-/
structure Platform where
  parseUuid : String → Option Uuid
  toLowercase : String → String
  debug : String → String

/-- A platform for runs on fixed inputs: it knows one UUID, and lower-cases and quotes ASCII
text.
-/
def Platform.knowing (uuid : Uuid) : Platform where
  parseUuid text := if text = uuid.toString then some uuid else none
  toLowercase text := String.ofList (text.toList.map Char.toLower)
  debug text := "\"" ++ text ++ "\""

/-- Send payload forwarded to the manager task. -/
structure InnerSend where
  recipient : String
  body : String
  timestamp : UInt64
  deriving DecidableEq

/-- A contact record as the worker reads it, the phone number in E.164 form. -/
structure Contact where
  phoneNumber : Option String
  uuid : Uuid
  name : String

/-- The outcome of listing the contacts; `none` stands for a record that does not decode. -/
abbrev Contacts := Except Unit (List (Option Contact))

/-- The first contact with this phone number. -/
def findByPhone (target : String) (contacts : List (Option Contact)) : Option Uuid :=
  contacts.findSome? (fun entry =>
    entry.bind (fun contact =>
      if contact.phoneNumber = some target then some contact.uuid else none))

/-- A recipient is an ACI UUID, or a phone number known to the contacts store. -/
def resolveRecipient (platform : Platform) (contacts : Contacts) (recipient : String)
    : Except String Uuid :=
  let target := trim recipient
  match platform.parseUuid target with
  | some uuid => .ok uuid
  | none =>
      if startsWith '+' target then
        match contacts with
        | .error _ => .error "couldn't read contacts store"
        | .ok listed =>
            match findByPhone target listed with
            | some uuid => .ok uuid
            | none =>
                .error ("phone " ++ target ++ " not in contacts (receive a message from them "
                  ++ "first, or use their ACI UUID)")
      else
        .error ("recipient must be ACI UUID or +e164 phone number; got "
          ++ platform.debug recipient)

/-- How `send_message` returned: success, an error with its text, or a caught panic with
its payload if that is a string.
-/
inductive SendOutcome where
  | ok
  | err (message : String)
  | panic (payload : Option String)
  deriving DecidableEq

def sendMaxAttempts : Nat := 6

/-- The error text of a connection that closed under the send. -/
def isWebsocketClosing (platform : Platform) (message : String) : Bool :=
  containsText "websocket closing" (platform.toLowercase message)

/-- What `handle_send` does after an attempt. -/
inductive Verdict where
  | complete
  | retry
  | defer
  | fail (reason : String)
  deriving DecidableEq

def judge (platform : Platform) (attempt : Nat) : SendOutcome → Verdict
  | .ok => .complete
  | .err message =>
      if isWebsocketClosing platform message then
        if attempt < sendMaxAttempts then .retry else .defer
      else .fail message
  | .panic payload => .fail ("panic in send: " ++ payload.getD "unknown panic payload")

/-- A retried attempt is never the last one, so the loop ends inside its body. -/
theorem judge_retry {platform : Platform} {attempt : Nat} {outcome : SendOutcome}
    (again : judge platform attempt outcome = .retry)
    : attempt < sendMaxAttempts := by
  cases outcome with
  | ok => cases again
  | panic payload => cases again
  | err message =>
      simp only [judge] at again
      split at again
      · split at again
        · assumption
        · cases again
      · cases again

theorem judge_complete {platform : Platform} {attempt : Nat} {outcome : SendOutcome}
    (done : judge platform attempt outcome = .complete)
    : outcome = .ok := by
  cases outcome with
  | ok => rfl
  | panic payload => cases done
  | err message =>
      simp only [judge] at done
      split at done
      · split at done <;> cases done
      · cases done

/-- How `handle_send` ends: with an event, or by deferring to the receipt window. -/
inductive SendReport where
  | event (event : Event)
  | deferred

open StoreOp (Buffered)

variable {ρ : Type}

/-- One attempt: the store calls of `send_message` and how it returned, with the hash
orders its flush and commit happen to meet.
-/
structure Attempt (ρ : Type) where
  calls : List (TraitCall ρ)
  outcome : SendOutcome
  flushOrder : FlushOrder := .insertion
  commitOrder : HashOrder := .insertion

/-- The success arm: sessions first, into the open batch, then the commit. Both results are
only logged.
-/
def settleBatch (format : RecordFormat ρ) (flushOrder : FlushOrder) (commitOrder : HashOrder)
    (store : Buffered ρ)
    : Buffered ρ :=
  let (_, store) := store.flushSessions format flushOrder
  let (_, store) := store.commitBatch commitOrder
  store

/-- The retry loop from attempt number `attempt` on. The guard of an attempt that does not
succeed is dropped, which aborts its batch. Attempts beyond the given ones have not
returned yet: there is no report.
-/
def sendLoop (platform : Platform) (format : RecordFormat ρ) (timestamp : UInt64)
    : Nat → List (Attempt ρ) → Buffered ρ → Option SendReport × Buffered ρ
  | _, [], store => (none, store)
  | attempt, current :: later, store =>
      match store.beginSendBatch with
      | (.error e, store) =>
          (some (.event (.sendError ("internal: begin_send_batch: " ++ e.display)
            (some timestamp))), store)
      | (.ok (), store) =>
          let store := Runs.run (TraitCall.perform format) store current.calls
          match judge platform attempt current.outcome with
          | .complete =>
              (some (.event (.sendComplete timestamp)),
                settleBatch format current.flushOrder current.commitOrder store)
          | .retry =>
              sendLoop platform format timestamp (attempt + 1) later store.abortBatch
          | .defer => (some .deferred, store.abortBatch)
          | .fail reason =>
              (some (.event (.sendError reason (some timestamp))), store.abortBatch)

def handleSend (platform : Platform) (format : RecordFormat ρ) (contacts : Contacts)
    (send : InnerSend) (attempts : List (Attempt ρ)) (store : Buffered ρ)
    : Option SendReport × Buffered ρ :=
  match resolveRecipient platform contacts send.recipient with
  | .error reason => (some (.event (.sendError reason (some send.timestamp))), store)
  | .ok _ => sendLoop platform format send.timestamp 1 attempts store

end XousAppSignal.Worker
