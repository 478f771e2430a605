import XousAppSignal.Ui.SendStatuses
import XousAppSignal.Ui.StoreCalls

/-! The label of a row against the sender of its message. A row remembers its conversation and
not its sender: outside groups the two are the same, and a group row has the pseudo-thread
of the group. Here each row goes with the one who wrote it.
-/

namespace XousAppSignal.Ui

open Worker

/-- Who wrote a message: this device, or the sender named in the message event. -/
inductive Author where
  | us
  | peer (sender : String)
  deriving DecidableEq

namespace Author

/-- The message was sent by this account. -/
def isAci (platform : Platform) (aci : Uuid) : Author → Bool
  | .us => false
  | .peer sender => platform.parseUuid sender = some aci

/-- The message was received, but from somebody else. -/
def isOther (platform : Platform) (aci : Uuid) : Author → Bool
  | .us => false
  | .peer sender => platform.parseUuid sender ≠ some aci

end Author

/-- The label is the bare UUID of the account. -/
def isRawLabel (platform : Platform) (aci : Uuid) (label : String) : Bool :=
  looksLikeRawUuid label && platform.parseUuid label = some aci

/-- "You" is no UUID. -/
theorem looksLikeRawUuid_you : looksLikeRawUuid "You" = false := by decide

-----------------------------------------------------------------------------------------
-- The authors of the rows
-----------------------------------------------------------------------------------------

/-- A store with the authors of its rows. -/
structure Authored where
  store : MessageStore
  authors : List Author

/-- The authors move with the rows. -/
def Authored.call (sender : String) (authored : Authored) (call : StoreCall) : Authored where
  store := call.step authored.store
  authors :=
    match call with
    | .pushIncoming .. => authored.store.room authored.authors ++ [.peer sender]
    | .pushOutgoingPending .. => authored.store.room authored.authors ++ [.us]
    | .clear => []
    | _ => authored.authors

/-- The sender named by an action, if it is a message. -/
def Action.sender : Action → String
  | .event _ (.message sender _ _ _ _ _) => sender
  | _ => ""

/-- The contact that an action resolves, with the name. -/
def Action.contact : Action → Option (Uuid × String)
  | .event _ (.contactResolved aci name) => some (aci, name)
  | _ => none

theorem Action.of_contact {action : Action} {aci : Uuid} {name : String}
    (resolves : action.contact = some (aci, name))
    : ∃ env, action = .event env (.contactResolved aci name) := by
  unfold contact at resolves
  split at resolves
  · next env uuid text =>
      cases resolves
      exact ⟨env, rfl⟩
  · cases resolves

/-- A session with the authors of the rows in its store. -/
structure AuthorTrace where
  session : Session
  authors : List Author

namespace AuthorTrace

def store (trace : AuthorTrace) : MessageStore := trace.session.app.store

/-- The rows with their authors. -/
def rows (trace : AuthorTrace) : List (Author × ThreadMessage) :=
  trace.authors.zip trace.store.messages

/-- The labels of the rows by certain authors. -/
def labels (among : Author → Bool) (trace : AuthorTrace) : List String :=
  (trace.rows.filter (fun row => among row.1)).map (fun row => row.2.authorLabel)

/-- Perform one action. -/
def act (platform : Platform) (trace : AuthorTrace) (action : Action) : AuthorTrace where
  session := trace.session.act platform action
  authors :=
    (Runs.run (Authored.call action.sender) ⟨trace.store, trace.authors⟩
      (action.storeCalls platform trace.session.app)).authors

/-- After a contact is resolved, no row sent by the account carries its bare UUID, the rows
sent by others carry their labels, and the own ones carry "You".
-/
def Relabelled (platform : Platform) (trace : AuthorTrace) (action : Action) : Prop :=
  ∀ contact ∈ action.contact,
    let aci := contact.1
    let after := trace.act platform action
    (∀ row ∈ after.rows, row.1.isAci platform aci = true
      → isRawLabel platform aci row.2.authorLabel = false)
    ∧ after.labels (Author.isOther platform aci) = trace.labels (Author.isOther platform aci)
    ∧ ∀ row ∈ after.rows, row.1 = .us → row.2.authorLabel = "You"

/-- What resolving a contact relies on: no group row carries the bare UUID of the account that
sent it, the name is no such UUID, and a row of the account's conversation labelled with a
UUID is the account's own, unless that label is the name.
-/
structure InOwnThread (platform : Platform) (aci : Uuid) (name : String) (trace : AuthorTrace)
    : Prop where
  groups
    : ∀ row ∈ trace.rows, row.1.isAci platform aci = true → row.2.group = true
      → isRawLabel platform aci row.2.authorLabel = true → row.2.uuid = aci
  named
    : ∀ row ∈ trace.rows, row.1.isAci platform aci = true → row.2.uuid = aci
      → looksLikeRawUuid row.2.authorLabel = true → isRawLabel platform aci name = false
  others
    : ∀ row ∈ trace.rows, row.1.isOther platform aci = true → row.2.uuid = aci
      → looksLikeRawUuid row.2.authorLabel = true → row.2.authorLabel = name

instance (platform : Platform) (aci : Uuid) (name : String) (trace : AuthorTrace)
    : Decidable (trace.InOwnThread platform aci name) :=
  decidable_of_iff (_ ∧ _ ∧ _)
    ⟨fun ⟨groups, named, others⟩ => ⟨groups, named, others⟩,
      fun own => ⟨own.groups, own.named, own.others⟩⟩

/-- A contact is resolved only in such a state. -/
def ResolvedInOwnThread (platform : Platform) (trace : AuthorTrace) (action : Action) : Prop :=
  ∀ contact ∈ action.contact, trace.InOwnThread platform contact.1 contact.2

instance (platform : Platform) (trace : AuthorTrace) (action : Action)
    : Decidable (trace.ResolvedInOwnThread platform action) :=
  Option.decidableForallMem _

end AuthorTrace

-----------------------------------------------------------------------------------------
-- What a row tells of its author
-----------------------------------------------------------------------------------------

/-- The part of a row that depends on its author. -/
structure RowOrigin where
  outgoing : Bool
  uuid : Uuid
  group : Bool
  authorLabel : String

def ThreadMessage.origin (m : ThreadMessage) : RowOrigin :=
  ⟨m.outgoing, m.uuid, m.group, m.authorLabel⟩

/-- A row of ours is labelled "You"; one of a sender is filed under the sender's conversation,
unless it is a group row.
-/
def Written (platform : Platform) : Author → RowOrigin → Prop
  | .us, origin => origin.outgoing = true ∧ origin.authorLabel = "You"
  | .peer sender, origin =>
      origin.outgoing = false
      ∧ (origin.group = false → origin.uuid = (platform.parseUuid sender).getD ⟨0⟩)

/-- Each row was written by the author it goes with. -/
def Authored.Aligned (platform : Platform) (authored : Authored) : Prop :=
  List.Forall₂ (Written platform) authored.authors
    (authored.store.messages.map ThreadMessage.origin)

/-- A message of the sender is pushed into the sender's conversation or a group's. -/
def StoreCall.Filed (platform : Platform) (sender : String) : StoreCall → Prop
  | .pushIncoming _ uuid _ _ _ group =>
      group = false → uuid = (platform.parseUuid sender).getD ⟨0⟩
  | _ => True

theorem Action.storeCalls_filed (platform : Platform) (app : App) (action : Action)
    : ∀ call ∈ action.storeCalls platform app, call.Filed platform action.sender := by
  intro call listed
  cases action with
  | focus => cases listed
  | press stroke =>
      unfold storeCalls at listed
      dsimp only at listed
      split at listed
      · cases listed
      · unfold App.keyCalls at listed
        split at listed
        · unfold App.sendCalls at listed
          rcases List.mem_cons.mp listed with rfl | mark
          · trivial
          · split at mark
            · cases mark
            · cases List.mem_singleton.mp mark
              trivial
        · obtain ⟨uuid, -, rfl⟩ := List.mem_map.mp listed
          trivial
  | event env received =>
      unfold storeCalls App.eventCalls at listed
      dsimp only at listed
      split at listed
      · cases List.mem_singleton.mp listed
        intro single
        unfold App.messageThread at single ⊢
        split at single
        · cases single
        · rfl
      · cases List.mem_singleton.mp listed
        trivial
      · cases List.mem_singleton.mp listed
        trivial
      · cases List.mem_singleton.mp listed
        trivial
      · split at listed
        · cases List.mem_singleton.mp listed
          trivial
        · cases listed
      · split at listed
        · cases List.mem_singleton.mp listed
          trivial
        · cases listed

namespace Authored

variable {platform : Platform} {authored : Authored}

theorem Aligned.push (aligned : authored.Aligned platform) {order : HashOrder}
    {row : ThreadMessage} {author : Author} (written : Written platform author row.origin)
    : Aligned platform
        ⟨authored.store.push order row, authored.store.room authored.authors ++ [author]⟩ := by
  unfold Aligned
  rw [MessageStore.push_map]
  exact forall₂_concat (authored.store.room_forall₂ aligned) written

/-- A change that no row's origin shows. -/
theorem Aligned.of_origins (aligned : authored.Aligned platform) {store : MessageStore}
    (same
      : store.messages.map ThreadMessage.origin
        = authored.store.messages.map ThreadMessage.origin)
    : Aligned platform ⟨store, authored.authors⟩ := by
  unfold Aligned
  rw [same]
  exact aligned

/-- A new label on some UUID-labelled rows: none of them is ours. -/
theorem Aligned.resolve (aligned : authored.Aligned platform) (order : HashOrder) (aci : Uuid)
    (name : String)
    : Aligned platform
        ⟨(authored.store.resolveAuthorLabels order aci name).2, authored.authors⟩ := by
  unfold Aligned at aligned ⊢
  rw [MessageStore.resolveAuthorLabels, MessageStore.Shows.updateRows_messages,
    StoreCall.updateAll, List.map_map]
  rw [List.forall₂_map_right_iff] at aligned ⊢
  refine aligned.imp fun author m written => ?_
  dsimp only [Function.comp_apply]
  split
  · next hit =>
      cases author with
      | us =>
          have label : m.authorLabel = "You" := written.2
          rw [label, looksLikeRawUuid_you] at hit
          simp at hit
      | peer sender => exact written
  · exact written

theorem Aligned.call (aligned : authored.Aligned platform) {sender : String}
    {call : StoreCall} (filed : call.Filed platform sender)
    : (authored.call sender call).Aligned platform := by
  cases call with
  | pushIncoming order uuid authorLabel body timestamp group => exact aligned.push ⟨rfl, filed⟩
  | pushOutgoingPending order uuid body timestamp => exact aligned.push ⟨rfl, rfl⟩
  | markSendDelivered order timestamp | markSendFailed order timestamp =>
      exact aligned.of_origins
        (MessageStore.setOutgoingStatus_map _ (fun _ _ => rfl) order timestamp _ _)
  | markThreadRead order uuid =>
      refine aligned.of_origins (MessageStore.updateRows_map _ ?_ order _ _)
      exact fun _ => rfl
  | resolveAuthorLabels order aci name => exact aligned.resolve order aci name
  | clear => exact .nil

end Authored

-----------------------------------------------------------------------------------------
-- Runs
-----------------------------------------------------------------------------------------

namespace AuthorTrace

variable {platform : Platform} {trace : AuthorTrace}

/-- The rows of the trace were written by its authors. -/
def Aligned (platform : Platform) (trace : AuthorTrace) : Prop :=
  Authored.Aligned platform ⟨trace.store, trace.authors⟩

/-- The store of the calls is that of the session. -/
theorem run_call_store (sender : String) (authored : Authored) (calls : List StoreCall)
    : (Runs.run (Authored.call sender) authored calls).store
      = Runs.run StoreCall.step authored.store calls := by
  induction calls generalizing authored with
  | nil => rfl
  | cons call rest ih => exact ih (authored.call sender call)

theorem Aligned.act (aligned : trace.Aligned platform) (action : Action)
    : (trace.act platform action).Aligned platform := by
  have kept := Runs.run_keeps
    (fun call listed (authored : Authored) (before : authored.Aligned platform) =>
      before.call (action.storeCalls_filed platform trace.session.app call listed)) aligned
  have store : (trace.act platform action).store
      = (Runs.run (Authored.call action.sender) ⟨trace.store, trace.authors⟩
          (action.storeCalls platform trace.session.app)).store := by
    rw [run_call_store]
    exact trace.session.act_store platform action
  unfold Aligned
  rw [store]
  exact kept

/-- The label of a row after its conversation is resolved. -/
def relabel (aci : Uuid) (name : String) (m : ThreadMessage) : ThreadMessage :=
  if m.uuid = aci && looksLikeRawUuid m.authorLabel then { m with authorLabel := name } else m

theorem act_contact_rows (platform : Platform) (trace : AuthorTrace) (env : Env) (aci : Uuid)
    (name : String)
    : (trace.act platform (.event env (.contactResolved aci name))).rows
      = trace.rows.map (fun row => (row.1, relabel aci name row.2)) := by
  have messages : (trace.act platform (.event env (.contactResolved aci name))).store.messages
      = trace.store.messages.map (relabel aci name) :=
    MessageStore.Shows.updateRows_messages ..
  have authors : (trace.act platform (.event env (.contactResolved aci name))).authors
      = trace.authors := rfl
  rw [rows, messages, authors, List.zip_map_right]
  rfl

/-- A row of the trace was written by the author it goes with. -/
theorem Aligned.written (aligned : trace.Aligned platform) {row : Author × ThreadMessage}
    (listed : row ∈ trace.rows)
    : Written platform row.1 row.2.origin :=
  List.forall₂_zip (List.forall₂_map_right_iff.mp aligned) listed

/-- Outside groups, what an account sent is filed under its own conversation. -/
theorem Aligned.filed (aligned : trace.Aligned platform) {row : Author × ThreadMessage}
    (listed : row ∈ trace.rows) {aci : Uuid} (sent : row.1.isAci platform aci = true)
    (single : row.2.group = false)
    : row.2.uuid = aci := by
  have written := aligned.written listed
  obtain ⟨author, m⟩ := row
  cases author with
  | us => cases sent
  | peer sender =>
      have parsed : platform.parseUuid sender = some aci := by simpa [Author.isAci] using sent
      have filed := written.2 single
      rwa [parsed] at filed

theorem relabel_label (aci : Uuid) (name : String) (m : ThreadMessage)
    : (relabel aci name m).authorLabel
      = if m.uuid = aci ∧ looksLikeRawUuid m.authorLabel = true then name else m.authorLabel := by
  unfold relabel
  simp only [Bool.and_eq_true, decide_eq_true_eq]
  split <;> rfl

/-- A label of the account's that is left in place stands on a group row. -/
theorem Aligned.unreached (aligned : trace.Aligned platform) {row : Author × ThreadMessage}
    (listed : row ∈ trace.rows) {aci : Uuid} (sent : row.1.isAci platform aci = true)
    (elsewhere : row.2.uuid ≠ aci)
    : row.2.group = true := by
  by_contra single
  exact elsewhere (aligned.filed listed sent (by simpa using single))

/-- Resolving a contact does what it should exactly in the states that allow it. -/
theorem Aligned.relabelled_iff (aligned : trace.Aligned platform) (action : Action)
    : trace.Relabelled platform action ↔ trace.ResolvedInOwnThread platform action := by
  refine forall₂_congr fun contact resolves => ?_
  obtain ⟨aci, name⟩ := contact
  obtain ⟨env, rfl⟩ := Action.of_contact resolves
  have rows := act_contact_rows platform trace env aci name
  have shaped {label : String} (raw : isRawLabel platform aci label = true)
      : looksLikeRawUuid label = true :=
    (Bool.and_eq_true_iff.mp raw).1
  dsimp only
  constructor
  · rintro ⟨senders, others, -⟩
    have sender (row : Author × ThreadMessage) (listed : row ∈ trace.rows)
        (sent : row.1.isAci platform aci = true)
        : isRawLabel platform aci (relabel aci name row.2).authorLabel = false := by
      refine senders (row.1, relabel aci name row.2) ?_ sent
      rw [rows]
      exact List.mem_map_of_mem listed
    refine ⟨fun row listed sent _ raw => ?_, fun row listed sent own uuid => ?_, ?_⟩
    · by_contra elsewhere
      have clean := sender row listed sent
      rw [relabel_label, if_neg (fun hit => elsewhere hit.1), raw] at clean
      cases clean
    · have clean := sender row listed sent
      rwa [relabel_label, if_pos ⟨own, uuid⟩] at clean
    · intro row listed other own uuid
      unfold labels at others
      rw [rows, List.filter_map, List.map_map] at others
      have same := List.map_inj_left.mp others row (List.mem_filter.mpr ⟨listed, other⟩)
      dsimp only [Function.comp_apply] at same
      rw [relabel_label, if_pos ⟨own, uuid⟩] at same
      exact same.symm
  · intro allows
    refine ⟨?_, ?_, ?_⟩
    · rw [rows]
      intro row listed sent
      obtain ⟨old, member, rfl⟩ := List.mem_map.mp listed
      dsimp only at sent ⊢
      rw [relabel_label]
      split
      · next hit => exact allows.named old member sent hit.1 hit.2
      · next miss =>
          by_contra raw
          rw [Bool.not_eq_false] at raw
          have elsewhere : old.2.uuid ≠ aci := fun own => miss ⟨own, shaped raw⟩
          have group := aligned.unreached member sent elsewhere
          exact elsewhere (allows.groups old member sent group raw)
    · unfold labels
      rw [rows, List.filter_map, List.map_map]
      refine List.map_congr_left fun row listed => ?_
      obtain ⟨member, other⟩ := List.mem_filter.mp listed
      dsimp only [Function.comp_apply]
      rw [relabel_label]
      split
      · next hit => exact (allows.others row member other hit.1 hit.2).symm
      · rfl
    · rw [rows]
      intro row listed us
      obtain ⟨⟨author, m⟩, member, rfl⟩ := List.mem_map.mp listed
      dsimp only at us ⊢
      subst us
      have label : m.authorLabel = "You" := (aligned.written member).2
      rw [relabel_label, label, looksLikeRawUuid_you, if_neg (by simp)]

/-- The states a UI session starts in; seeded rows come with those who wrote them. -/
inductive Start (platform : Platform) : AuthorTrace → Prop where
  | plain : Start platform ⟨.start .initial, []⟩
  | seeded (order : HashOrder) {rows : List ThreadMessage} {authors : List Author}
      : List.Forall₂ (Written platform) authors (rows.map ThreadMessage.origin)
        → Start platform ⟨.start (.seeded order rows), authors⟩

theorem Start.aligned (start : Start platform trace) : trace.Aligned platform := by
  cases start with
  | plain => exact .nil
  | seeded order written => exact written

end AuthorTrace

/-- Whatever messages come in and whatever else is done, every contact that is resolved
reaches all rows of its sender and no others exactly if each is resolved in a state that
allows it.
-/
theorem contacts_relabelled_iff (platform : Platform) {trace : AuthorTrace}
    (start : AuthorTrace.Start platform trace) (actions : List Action)
    : Runs.Guarded (AuthorTrace.act platform) (AuthorTrace.Relabelled platform) trace actions
      ↔ Runs.Guarded (AuthorTrace.act platform) (AuthorTrace.ResolvedInOwnThread platform)
        trace actions :=
  Runs.guarded_congr (fun _ action aligned => aligned.act action)
    (fun _ action aligned => aligned.relabelled_iff action) start.aligned

-- Messages of Alice's, who is no contact yet.
section FirstSight

/-- A message of Alice's without a name and a phone number. -/
def fromAlice (now : UInt64) (group : Option (List UInt8)) : Action :=
  .event (.online now) (.message alice.toString none none "hi" now group)

/-- The account is there. -/
def linkedUp : Action := .event (.online 0) (.accountInfo (.ok ⟨"xas", "aci", "+1"⟩))

def aliceResolved : Action := .event (.online 9) (.contactResolved alice "Alice")

/-- Witness: Alice wrote outside groups only. -/
theorem contacts_relabelled_direct
    : Runs.Guarded (AuthorTrace.act .twoContacts) (AuthorTrace.Relabelled .twoContacts)
        ⟨.start .initial, []⟩ [linkedUp, fromAlice 1 none, aliceResolved] :=
  (contacts_relabelled_iff .twoContacts .plain _).mpr (by decide)

/-- Counterexample: the message to the group keeps Alice's UUID for a label. -/
theorem contact_misses_group
    : let trace := Runs.run (AuthorTrace.act .twoContacts) ⟨.start .initial, []⟩
        [linkedUp, fromAlice 1 none, fromAlice 2 (some [7])]
      (trace.act .twoContacts aliceResolved).store.messages.map ThreadMessage.authorLabel
          = ["Alice", alice.toString]
        ∧ ¬trace.Relabelled .twoContacts aliceResolved := by
  intro trace
  refine ⟨rfl, fun relabelled => ?_⟩
  have clean := (relabelled (alice, "Alice") rfl).1
    (.peer alice.toString, (trace.store.messages[1]?).get rfl) (by decide) (by decide)
  exact absurd clean (by decide)

end FirstSight

end XousAppSignal.Ui
