import XousAppSignal.Ui.ComposeText
import XousAppSignal.Ui.SendRows

/-! The status shown with a message against the outcome of its own send. The worker's event
carries only the timestamp of the send, and the row it is applied to is the newest outgoing
one with that timestamp, whatever its status. Messages of one millisecond share it.
-/

namespace XousAppSignal.Ui

open Worker

/-- A session with the send that made each row, and all sends so far. -/
structure SendTrace where
  session : Session
  owners : List (Option Nat)
  sends : List Send

/-- An action of the session, or the worker's event about one of its sends. -/
inductive SendAction where
  | act (action : Action)
  | outcome (env : Env) (id : Nat) (result : Except String Unit)

/-- The terminal event of a send. -/
def outcomeEvent (timestamp : UInt64) (result : Except String Unit) : Event :=
  match result with
  | .ok _ => .sendComplete timestamp
  | .error reason => .sendError reason (some timestamp)

namespace SendTrace

/-- The rows an app starts with belong to no send. -/
def start (app : App) : SendTrace := ⟨.start app, app.store.messages.map (fun _ => none), []⟩

def store (trace : SendTrace) : MessageStore := trace.session.app.store

/-- The owners and the sends move with the rows. -/
def record (platform : Platform) (trace : SendTrace) (action : Action) : SendTrace :=
  let session := trace.session.act platform action
  match trace.session.rowChange platform action with
  | .kept => { trace with session := session }
  | .sent send =>
      { session := session
        owners := trace.store.room trace.owners ++ [some trace.sends.length]
        sends := trace.sends ++ [send] }
  | .received =>
      { trace with session := session, owners := trace.store.room trace.owners ++ [none] }
  | .cleared => { trace with session := session, owners := [] }

/-- A send's only terminal event is its outcome. -/
def step (platform : Platform) (trace : SendTrace) : SendAction → Option SendTrace
  | .act action => if action.endsSend then none else some (trace.record platform action)
  | .outcome env id result =>
      match trace.sends[id]? with
      | some ⟨timestamp, none⟩ =>
          some {
            session :=
              trace.session.act platform (.event env (outcomeEvent timestamp result))
            owners := trace.owners
            sends := trace.sends.set id ⟨timestamp, some result⟩
          }
      | _ => none

/-- The newest outgoing row with the timestamp, after its send. -/
def newest (timestamp : UInt64) (trace : SendTrace) : Option (Option Nat × ThreadMessage) :=
  (trace.owners.reverse.zip trace.store.messages.reverse).find?
    (fun row => row.2.outgoing && row.2.timestamp == timestamp)

/-- The outcome of a send finds the send's own row, or none. -/
def HitsOwn (trace : SendTrace) : SendAction → Prop
  | .act _ => True
  | .outcome _ id _ =>
      ∀ send ∈ trace.sends[id]?, ∀ row ∈ trace.newest send.timestamp, row.1 = some id

instance (trace : SendTrace) (action : SendAction) : Decidable (HitsOwn trace action) :=
  match action with
  | .act _ => .isTrue trivial
  | .outcome _ id _ =>
      inferInstanceAs (Decidable (∀ send ∈ trace.sends[id]?,
        ∀ row ∈ trace.newest send.timestamp, row.1 = some id))

end SendTrace

/-- A row of a send shows the send's own status; an outgoing row of none is an old one. -/
def Shows (old : List SendView) (sends : List Send) : Option Nat → SendView → Prop
  | some id, view => ∃ send, sends[id]? = some send ∧ view = send.view
  | none, view => view.outgoing = true → view ∈ old

/-- Every row agrees with the outcome of its own send, and no send owns two rows. -/
structure SendTrace.Agrees (old : List SendView) (trace : SendTrace) : Prop where
  shows : List.Forall₂ (Shows old trace.sends) trace.owners trace.store.views
  distinct : trace.owners.Pairwise (fun first second => first = none ∨ first ≠ second)

variable {old : List SendView} {sends : List Send} {owners : List (Option Nat)}

/-- A new send changes no row's status. -/
theorem Shows.mono {owner : Option Nat} {view : SendView} (shows : Shows old sends owner view)
    (send : Send)
    : Shows old (sends ++ [send]) owner view := by
  cases owner with
  | none => exact shows
  | some id =>
      obtain ⟨own, found, same⟩ := shows
      have bound := (List.getElem?_eq_some_iff.mp found).1
      exact ⟨own, by rw [List.getElem?_append_left bound, found], same⟩

/-- The outcome of one send is not that of another. -/
theorem Shows.settle {owner : Option Nat} {view : SendView} {id : Nat}
    (shows : Shows old sends owner view) (other : owner ≠ some id) (send : Send)
    : Shows old (sends.set id send) owner view := by
  cases owner with
  | none => exact shows
  | some own =>
      obtain ⟨found, at_own, same⟩ := shows
      have apart : id ≠ own := fun equal => other (by rw [equal])
      exact ⟨found, by rw [List.getElem?_set_ne apart, at_own], same⟩

/-- A row of a send carries its timestamp. -/
theorem Shows.carries {m : ThreadMessage} {id : Nat} {send : Send}
    (shows : Shows old sends (some id) m.sendView) (found : sends[id]? = some send)
    : (m.outgoing && m.timestamp == send.timestamp) = true := by
  obtain ⟨own, at_own, same⟩ := shows
  obtain rfl := Option.some.inj (found.symm.trans at_own)
  obtain ⟨direction, stamp, -⟩ := SendView.mk.inj same
  rw [direction, stamp, Bool.true_and, beq_self_eq_true]

/-- Owners are sends of the run, by induction on the rows. -/
theorem owner_lt {views : List SendView}
    (shows : List.Forall₂ (Shows old sends) owners views)
    : ∀ id, some id ∈ owners → id < sends.length := by
  induction shows with
  | nil =>
      intro id member
      cases member
  | cons first _ ih =>
      intro id member
      rcases List.mem_cons.mp member with rfl | later
      · obtain ⟨send, found, -⟩ := first
        exact (List.getElem?_eq_some_iff.mp found).1
      · exact ih id later

namespace MessageStore

theorem room_sublist {α : Type} (store : MessageStore) (items : List α)
    : (store.room items).Sublist items := by
  unfold room
  split
  · exact List.drop_sublist ..
  · exact .refl items

theorem room_forall₂ {α β : Type} {R : α → β → Prop} {items : List α} {others : List β}
    (store : MessageStore) (all : List.Forall₂ R items others)
    : List.Forall₂ R (store.room items) (store.room others) := by
  unfold room
  split
  · exact List.forall₂_drop 1 all
  · exact all

end MessageStore

/-- A new last element keeps two aligned lists aligned. -/
theorem forall₂_concat {α β : Type} {R : α → β → Prop} {items : List α} {others : List β}
    (all : List.Forall₂ R items others) {item : α} {other : β} (last : R item other)
    : List.Forall₂ R (items ++ [item]) (others ++ [other]) :=
  List.rel_append all (.cons last .nil)

/-- The outcome of a send lands in the send's own row.
Witness: induction on the rows, newest first. A row that matches is the send's, and no later
one is; a row that does not match has another timestamp, hence another send.
-/
theorem updateFirst_shows {rows : List ThreadMessage} {id : Nat} {timestamp : UInt64}
    (result : Except String Unit) (waiting : sends[id]? = some ⟨timestamp, none⟩)
    (shows : List.Forall₂ (fun owner (m : ThreadMessage) => Shows old sends owner m.sendView)
      owners rows)
    (distinct : owners.Pairwise (fun first second => second = none ∨ second ≠ first))
    (own
      : ∀ row ∈ (owners.zip rows).find? (fun row => row.2.outgoing
          && row.2.timestamp == timestamp), row.1 = some id)
    : List.Forall₂ (fun owner (m : ThreadMessage) =>
          Shows old (sends.set id ⟨timestamp, some result⟩) owner m.sendView)
        owners
        ((MessageStore.updateFirst (fun m => m.outgoing && m.timestamp == timestamp)
          (fun m => { m with status := Send.ownStatus ⟨timestamp, some result⟩ })
          rows).getD rows) := by
  have bound := (List.getElem?_eq_some_iff.mp waiting).1
  induction shows with
  | nil => exact .nil
  | @cons owner m owners rest first later ih =>
      obtain ⟨apart, distinct⟩ := List.pairwise_cons.mp distinct
      rw [List.zip_cons_cons, List.find?_cons] at own
      by_cases hit : (m.outgoing && m.timestamp == timestamp) = true
      · rw [hit] at own
        have mine : owner = some id := own _ rfl
        subst mine
        rw [MessageStore.updateFirst, if_pos hit]
        refine .cons ⟨⟨timestamp, some result⟩, ?_, ?_⟩ ?_
        · exact List.getElem?_set_self bound
        · obtain ⟨direction, stamp⟩ := Bool.and_eq_true_iff.mp hit
          simp [ThreadMessage.sendView, Send.view, direction, beq_iff_eq.mp stamp]
        · have others : List.Forall₂ (fun owner (m : ThreadMessage) =>
              owner ≠ some id ∧ Shows old sends owner m.sendView) owners rest := by
            refine (List.forall₂_and_left owners rest).mpr ⟨?_, later⟩
            intro other member
            rcases apart other member with rfl | different
            · simp
            · exact different
          exact others.imp (fun _ _ shown => shown.2.settle shown.1 _)
      · rw [Bool.not_eq_true] at hit
        rw [hit] at own
        have other : owner ≠ some id := by
          rintro rfl
          exact absurd (first.carries waiting) (by simp [hit])
        have skipped := Option.getD_map (m :: ·) rest
          (MessageStore.updateFirst (fun m => m.outgoing && m.timestamp == timestamp)
            (fun m => { m with status := Send.ownStatus ⟨timestamp, some result⟩ }) rest)
        rw [MessageStore.updateFirst, hit, if_neg (by simp), skipped]
        exact .cons (first.settle other _) (ih distinct own)

theorem Send.ownStatus_ne_pending {send : Send} (settled : send.outcome.isSome = true)
    : send.ownStatus ≠ .pending := by
  obtain ⟨result, known⟩ := Option.isSome_iff_exists.mp settled
  rw [ownStatus, known]
  cases result <;> simp

namespace SendTrace

/-- What handling the terminal event does to the rows. -/
theorem outcomeEvent_store (platform : Platform) (env : Env) (timestamp : UInt64)
    (result : Except String Unit) (session : Session)
    : (session.act platform (.event env (outcomeEvent timestamp result))).app.store
      = (session.app.store.setOutgoingStatus env.order timestamp
          (Send.ownStatus ⟨timestamp, some result⟩)).2 := by
  cases result <;> rfl

theorem step_act {platform : Platform} {trace next : SendTrace} {action : Action}
    (stepped : trace.step platform (.act action) = some next)
    : action.endsSend = false ∧ next = trace.record platform action := by
  rw [step] at stepped
  split at stepped
  · cases stepped
  · next ongoing => exact ⟨by simpa using ongoing, (Option.some.inj stepped).symm⟩

theorem step_outcome {platform : Platform} {trace next : SendTrace} {env : Env} {id : Nat}
    {result : Except String Unit}
    (stepped : trace.step platform (.outcome env id result) = some next)
    : ∃ timestamp, trace.sends[id]? = some ⟨timestamp, none⟩
        ∧ next = {
            session := trace.session.act platform (.event env (outcomeEvent timestamp result))
            owners := trace.owners
            sends := trace.sends.set id ⟨timestamp, some result⟩ } := by
  rw [step] at stepped
  split at stepped
  · next timestamp waiting => exact ⟨timestamp, waiting, (Option.some.inj stepped).symm⟩
  · cases stepped

/-- An action other than the end of a send keeps every row in agreement with its send. -/
theorem Agrees.record (platform : Platform) {trace : SendTrace} (agrees : trace.Agrees old)
    {action : Action} (ongoing : action.endsSend = false)
    : (trace.record platform action).Agrees old := by
  have leads := trace.session.act_leads platform ongoing
  have kept := agrees.distinct.sublist (trace.store.room_sublist trace.owners)
  have left := trace.store.room_forall₂ agrees.shows
  unfold SendTrace.record
  cases change : trace.session.rowChange platform action with
  | kept =>
      rw [change] at leads
      exact ⟨leads ▸ agrees.shows, agrees.distinct⟩
  | sent send =>
      rw [change] at leads
      refine ⟨?_, ?_⟩
      · refine leads ▸ forall₂_concat (left.imp (fun _ _ shown => shown.mono send)) ?_
        exact ⟨send, List.getElem?_concat_length, rfl⟩
      · refine List.pairwise_append.mpr ⟨kept, List.pairwise_singleton .., ?_⟩
        intro owner member new isNew
        rw [List.mem_singleton.mp isNew]
        right
        rintro rfl
        exact absurd (owner_lt left _ member) (Nat.lt_irrefl _)
  | received =>
      rw [change] at leads
      obtain ⟨timestamp, leads⟩ := leads
      refine ⟨leads ▸ forall₂_concat left (fun outgoing => nomatch outgoing), ?_⟩
      refine List.pairwise_append.mpr ⟨kept, List.pairwise_singleton .., ?_⟩
      intro owner _ new isNew
      rw [List.mem_singleton.mp isNew]
      cases owner <;> simp
  | cleared =>
      rw [change] at leads
      exact ⟨leads ▸ .nil, .nil⟩

/-- The outcome of a send that finds its own row keeps every row in agreement. -/
theorem Agrees.outcome (platform : Platform) {trace next : SendTrace}
    (agrees : trace.Agrees old) {env : Env} {id : Nat} {result : Except String Unit}
    (own : trace.HitsOwn (.outcome env id result))
    (stepped : trace.step platform (.outcome env id result) = some next)
    : next.Agrees old := by
  obtain ⟨timestamp, waiting, rfl⟩ := step_outcome stepped
  refine ⟨?_, agrees.distinct⟩
  have shows := List.forall₂_reverse_iff.mpr (List.forall₂_map_right_iff.mp agrees.shows)
  have distinct := List.pairwise_reverse.mpr agrees.distinct
  have updated := updateFirst_shows result waiting shows distinct (own _ waiting)
  refine List.forall₂_map_right_iff.mpr (List.forall₂_reverse_iff.mp ?_)
  rw [store, outcomeEvent_store, MessageStore.setOutgoingStatus_messages, List.reverse_reverse]
  exact updated

theorem Agrees.step (platform : Platform) {trace next : SendTrace}
    (agrees : trace.Agrees old) {action : SendAction} (own : trace.HitsOwn action)
    (stepped : trace.step platform action = some next)
    : next.Agrees old := by
  cases action with
  | act action =>
      obtain ⟨ongoing, rfl⟩ := step_act stepped
      exact agrees.record platform ongoing
  | outcome env id result => exact agrees.outcome platform own stepped

theorem Agrees.start (app : App) : (SendTrace.start app).Agrees app.store.views := by
  refine ⟨?_, ?_⟩
  · refine List.forall₂_map_left_iff.mpr (List.forall₂_map_right_iff.mpr ?_)
    refine List.forall₂_same.mpr (fun m member _ => ?_)
    exact List.mem_map_of_mem member
  · exact List.pairwise_map.mpr (List.pairwise_of_forall (fun _ _ => .inl rfl))

/-- An outcome changes no timestamp. -/
theorem timestamps_settle {id : Nat} {timestamp : UInt64} {outcome : Option (Except String Unit)}
    (waiting : sends[id]? = some ⟨timestamp, none⟩)
    : (sends.set id ⟨timestamp, outcome⟩).map Send.timestamp = sends.map Send.timestamp := by
  refine List.ext_getElem? (fun position => ?_)
  rw [List.getElem?_map, List.getElem?_map]
  by_cases same : id = position
  · subst same
    rw [List.getElem?_set_self (List.getElem?_eq_some_iff.mp waiting).1, waiting]
    rfl
  · rw [List.getElem?_set_ne same]

/-- Sends keep their timestamps. -/
theorem timestamps_prefix {platform : Platform} {trace next : SendTrace} {action : SendAction}
    (stepped : trace.step platform action = some next)
    : trace.sends.map Send.timestamp <+: next.sends.map Send.timestamp := by
  cases action with
  | act action =>
      obtain ⟨-, rfl⟩ := step_act stepped
      unfold record
      split
      · exact List.prefix_rfl
      · rw [List.map_append]
        exact List.prefix_append ..
      · exact List.prefix_rfl
      · exact List.prefix_rfl
  | outcome env id result =>
      obtain ⟨timestamp, waiting, rfl⟩ := step_outcome stepped
      rw [timestamps_settle waiting]

/-- The row an outcome is applied to. -/
theorem Agrees.newest {trace : SendTrace} (agrees : trace.Agrees old) {timestamp : UInt64}
    {owner : Option Nat} {m : ThreadMessage}
    (hit : trace.newest timestamp = some (owner, m))
    : m.outgoing = true ∧ m.timestamp = timestamp
      ∧ Shows old trace.sends owner m.sendView := by
  have matched := List.find?_some hit
  obtain ⟨direction, stamp⟩ := Bool.and_eq_true_iff.mp matched
  have shows := List.forall₂_reverse_iff.mpr (List.forall₂_map_right_iff.mp agrees.shows)
  exact ⟨direction, beq_iff_eq.mp stamp,
    List.forall₂_zip shows (List.mem_of_find?_eq_some hit)⟩

/-- Among sends with different timestamps, an outcome finds the row of its own send. -/
theorem Agrees.hitsOwn {trace : SendTrace} (agrees : trace.Agrees old)
    (incoming : ∀ view ∈ old, view.outgoing = false)
    (distinct : (trace.sends.map Send.timestamp).Nodup) (action : SendAction)
    : trace.HitsOwn action := by
  cases action with
  | act action => trivial
  | outcome env id result =>
      rintro send found ⟨owner, m⟩ hit
      obtain ⟨direction, stamp, shown⟩ := agrees.newest hit
      cases owner with
      | none =>
          have outgoing := incoming m.sendView (shown direction)
          exact absurd (direction.symm.trans outgoing) (by simp)
      | some other =>
          obtain ⟨sent, at_other, same⟩ := shown
          have sameStamp : sent.timestamp = send.timestamp :=
            (congrArg SendView.timestamp same).symm.trans stamp
          have positions : (trace.sends.map Send.timestamp)[other]?
              = (trace.sends.map Send.timestamp)[id]? := by
            rw [List.getElem?_map, List.getElem?_map, at_other, found]
            exact congrArg some sameStamp
          have bound := (List.getElem?_eq_some_iff.mp at_other).1
          rw [(List.getElem?_inj (by simpa using bound) distinct).mp positions]

end SendTrace

/-- Messages sent at different times show their own outcomes, if the app starts without
outgoing rows.
-/
theorem agrees_of_distinct_timestamps (platform : Platform) {app : App}
    (incoming : ∀ view ∈ app.store.views, view.outgoing = false)
    {actions : List SendAction} {trace : SendTrace}
    (reached : Runs.run? (SendTrace.step platform) (.start app) actions = some trace)
    (distinct : (trace.sends.map Send.timestamp).Nodup)
    : trace.Agrees app.store.views := by
  have stable (trace : SendTrace) (action : SendAction) (next : SendTrace)
      (stepped : trace.step platform action = some next)
      (before : (trace.sends.map Send.timestamp).Nodup → trace.Agrees app.store.views)
      (distinct : (next.sends.map Send.timestamp).Nodup)
      : next.Agrees app.store.views := by
    have apart := distinct.sublist (SendTrace.timestamps_prefix stepped).sublist
    have agrees := before apart
    exact agrees.step platform (agrees.hitsOwn incoming apart action) stepped
  exact Runs.run?_invariant stable reached (fun _ => .start app) distinct

/-- Every send has had its terminal event. -/
def SendTrace.Settled (trace : SendTrace) : Prop :=
  ∀ send ∈ trace.sends, send.outcome.isSome = true

instance (trace : SendTrace) : Decidable trace.Settled :=
  inferInstanceAs (Decidable (∀ send ∈ trace.sends, send.outcome.isSome = true))

/-- A run in which no outcome finds the row of another send: every row shows the outcome of
its own send, and once all outcomes are in, no row of a send is pending.
-/
theorem statuses_are_own (platform : Platform) {app : App} {actions : List SendAction}
    {trace : SendTrace}
    (reached : Runs.run? (SendTrace.step platform) (.start app) actions = some trace)
    (own : Runs.Guarded? (SendTrace.step platform) SendTrace.HitsOwn (.start app) actions)
    : trace.Agrees app.store.views
      ∧ (trace.Settled
          → ∀ id m, (some id, m) ∈ trace.owners.zip trace.store.messages
            → m.status ≠ .pending) := by
  have agrees : trace.Agrees app.store.views := by
    refine own.invariant ?_ reached (.start app)
    exact fun trace action next own stepped agrees => agrees.step platform own stepped
  refine ⟨agrees, ?_⟩
  intro settled id m member
  obtain ⟨send, found, same⟩ :=
    List.forall₂_zip (List.forall₂_map_right_iff.mp agrees.shows) member
  have status : m.status = send.ownStatus := congrArg SendView.status same
  rw [status]
  exact send.ownStatus_ne_pending (settled send (List.mem_of_getElem? found))

-- Two messages to Bob, typed at the given times.
section TwoMessages

def twoMessages (first second : UInt64) : List SendAction :=
  let inputs : List Input :=
    twoConversations ++
      [.typing first ['\x0d', 'a', '\x0d'], .typing second ['b', '\x0d']]
  (inputs.flatMap Input.actions).map .act

/-- The first message fails and the second one completes. -/
def twoOutcomes : List SendAction :=
  [.outcome (.online 6) 0 (.error "timeout"), .outcome (.online 7) 1 (.ok ())]

/-- Sent in one millisecond, the first message stays pending: the failure is shown with the
second one until that completes.
-/
theorem outcomes_of_one_millisecond
    : ∃ trace,
        Runs.run? (SendTrace.step .twoContacts) (.start .initial)
          (twoMessages 4 4 ++ twoOutcomes) = some trace
        ∧ trace.Settled
        ∧ trace.sends.map Send.ownStatus = [.failed, .delivered]
        ∧ (trace.owners.zip (trace.store.messages.map ThreadMessage.status)).drop 2
          = [(some 0, .pending), (some 1, .delivered)]
        ∧ ¬trace.Agrees [] := by
  refine ⟨_, rfl, ?_, ?_, ?_, ?_⟩
  · decide
  · decide
  · decide
  · rintro ⟨shows, -⟩
    obtain ⟨send, found, same⟩ :=
      List.forall₂_zip (a := some 0) (b := ⟨true, 4, .pending⟩) shows (by decide)
    cases found
    cases same

/-- Witness: sent in different milliseconds, each message shows its own outcome. -/
theorem statuses_are_own_two
    : let actions := twoMessages 4 5 ++ twoOutcomes
      ∃ trace,
        Runs.run? (SendTrace.step .twoContacts) (.start .initial) actions = some trace
        ∧ trace.store.messages.map ThreadMessage.status = [.sent, .sent, .failed, .delivered]
        ∧ trace.Agrees [] := by
  intro actions
  have own : Runs.Guarded? (SendTrace.step .twoContacts) SendTrace.HitsOwn (.start .initial)
      actions := by
    decide
  refine ⟨_, rfl, ?_, (statuses_are_own .twoContacts rfl own).1⟩
  decide

end TwoMessages

end XousAppSignal.Ui
