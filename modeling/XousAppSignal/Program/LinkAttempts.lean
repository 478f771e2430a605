import XousAppSignal.Library.Runs
import XousAppSignal.Program.Channels
import XousAppSignal.Worker.LinkOutcomes

/-! Link attempts. Neither the commands nor the events name the attempt they belong to, so the
attempts are counted beside the run: which one the worker took up, whose events are on their
way, which ones the user cancelled and which ones the UI has seen the end of.
-/

namespace XousAppSignal

open Store (InnerBackend RecordFormat)
open Ui (App Env Outcome)
open Worker

variable {ρ : Type}

/-- A program with its link attempts, numbered from one as the channel accepts them. `owners`
names for every event on its way the attempt the worker had taken up when it was sent.
-/
structure Traced (ρ : Type) where
  program : Program ρ
  taken : Nat := 0
  owners : List Nat := []
  cancelled : List Nat := []
  settled : List Nat := []

namespace Traced

/-- The attempts the user has started. -/
def started (traced : Traced ρ) : Nat := traced.program.accepted.countP Cmd.isLinkDevice

/-- The worker takes an attempt up when it reads its command in the main loop. -/
def takenAfter (traced : Traced ρ) (turn : Turn ρ) : Nat :=
  match turn, traced.program.commands, traced.program.world.dispatcher.control with
  | .receive, .linkDevice _ :: rest, .ready => traced.started - rest.countP Cmd.isLinkDevice
  | _, _, _ => traced.taken

/-- A handled event leaves the queue; new events belong to the attempt taken up last. -/
def ownersAfter (traced : Traced ρ) (turn : Turn ρ) (next : Program ρ) : List Nat :=
  match turn with
  | .handle _ => traced.owners.tail
  | _ =>
      traced.owners
        ++ List.replicate (next.events.length - traced.program.events.length) traced.taken

/-- A `LinkCancel` is meant for the attempt the user started last. -/
def cancelledAfter (traced : Traced ρ) (next : Program ρ) : List Nat :=
  if .linkCancel ∈ next.accepted.drop traced.program.accepted.length then
    traced.started :: traced.cancelled
  else traced.cancelled

def settledAfter (traced : Traced ρ) (turn : Turn ρ) : List Nat :=
  match turn, traced.program.events, traced.owners with
  | .handle _, event :: _, owner :: _ =>
      if event.isLinkOutcome then owner :: traced.settled else traced.settled
  | _, _, _ => traced.settled

def step (ui : Ui.Platform) (platform : Platform) (format : RecordFormat ρ)
    (traced : Traced ρ) (turn : Turn ρ)
    : Option (Traced ρ) :=
  (traced.program.step ui platform format turn).map (fun next =>
    { program := next
      taken := traced.takenAfter turn
      owners := traced.ownersAfter turn next
      cancelled := traced.cancelledAfter next
      settled := traced.settledAfter turn })

def start (app : App) (inner : InnerBackend) : Traced ρ := { program := .start app inner }

/-- The worker took the attempt up, the user has not cancelled it, and the UI has not handled
any outcome of it.
-/
structure InProgress (traced : Traced ρ) (attempt : Nat) : Prop where
  counted : 0 < attempt
  taken : traced.taken = attempt
  wanted : attempt ∉ traced.cancelled
  unsettled : attempt ∉ traced.settled

/-- An attempt in progress is one for the UI too, so its URL opens the QR modal. -/
def Attributed (traced : Traced ρ) : Prop :=
  ∀ attempt, traced.InProgress attempt
    → traced.program.app.linkingInProgress = true
      ∧ ∀ url, traced.program.app.opensQrModal (.linkUrl url) = some url

/-- The attempts on the command channel. -/
def queued (traced : Traced ρ) : Nat := traced.program.commands.countP Cmd.isLinkDevice

/-- The attempt the worker has not sent the outcome of. What it sends before it took an
attempt up belongs to the startup.
-/
def running (traced : Traced ρ) : Nat :=
  if traced.taken = 0 then 0 else traced.program.world.dispatcher.outcomesDue

/-- The outcomes of attempts on the event channel. -/
def delivered (traced : Traced ρ) : Nat :=
  (traced.program.events.zip traced.owners).countP (fun sent =>
    sent.1.isLinkOutcome && sent.2 != 0)

/-- The attempts whose outcome the UI has yet to handle. -/
def awaited (traced : Traced ρ) : Nat := traced.queued + traced.running + traced.delivered

/-- The turn handles an event that ends a link on the UI side without being the outcome of an
attempt: a reset, or the `LinkComplete` of the registration found at startup.
-/
def handlesForeignEnd (traced : Traced ρ) (turn : Turn ρ) : Bool :=
  match turn, traced.program.events, traced.owners with
  | .handle _, event :: _, owner :: _ =>
      event.resets || (event.isLinkOutcome && owner == 0)
  | _, _, _ => false

/-- The user starts an attempt only after the outcome of every earlier one was handled, and no
foreign end is handled while an attempt that was not cancelled awaits its outcome.
-/
structure Calm (ui : Ui.Platform) (traced : Traced ρ) (turn : Turn ρ) : Prop where
  alone
    : (traced.program.userOutcome ui turn).2.any Cmd.isLinkDevice = true → traced.awaited = 0
  foreign
    : traced.handlesForeignEnd turn = true
        → traced.awaited = 0 ∨ traced.started ∈ traced.cancelled

-----------------------------------------------------------------------------------------
-- What one turn does to the attempts
-----------------------------------------------------------------------------------------

variable {ui : Ui.Platform} {platform : Platform} {format : RecordFormat ρ}

/-- A turn by what it does to the program and to the attempts. -/
inductive Turned (ui : Ui.Platform) (platform : Platform) (format : RecordFormat ρ)
    (traced : Traced ρ)
    : Turn ρ → Traced ρ → Prop where
  | acted {turn : Turn ρ} (outcome : Outcome)
      (reacts : traced.program.userOutcome ui turn = outcome)
      (effect : Ui.FlagEffect traced.program.app outcome)
      : Turned ui platform format traced turn
          { traced with
            program :=
              { traced.program with
                app := outcome.1
                commands := traced.program.commands ++ outcome.2
                accepted := traced.program.accepted ++ outcome.2 }
            cancelled :=
              if .linkCancel ∈ outcome.2 then traced.started :: traced.cancelled
              else traced.cancelled }
  | handled (env : Env) (event : Event) (rest : List Event) (owner : Nat) (owners : List Nat)
      (outcome : Outcome) (queued : traced.program.events = event :: rest)
      (owned : traced.owners = owner :: owners)
      (flags : Ui.App.EventFlags traced.program.app event outcome)
      : Turned ui platform format traced (.handle env)
          { traced with
            program :=
              { traced.program with
                app := outcome.1
                commands := traced.program.commands ++ outcome.2
                events := rest
                accepted := traced.program.accepted ++ outcome.2 }
            owners
            settled := if event.isLinkOutcome then owner :: traced.settled else traced.settled }
  | received (cmd : Cmd) (rest : List Cmd) (world : World ρ)
      (queued : traced.program.commands = cmd :: rest)
      (dispatched : World.Dispatched traced.program.world (.cmd cmd) world)
      : Turned ui platform format traced .receive
          { traced with
            program := { traced.program with world, commands := rest }
            taken := traced.takenAfter .receive }
  | worked (input : WorldInput ρ) (world : World ρ) (sent : List Event)
      (internal : input.isInternal = true)
      (stepped : World.Stepped platform format traced.program.world input world)
      (log : world.log = traced.program.world.log ++ sent)
      : Turned ui platform format traced (.worker input)
          { traced with
            program := { traced.program with world, events := traced.program.events ++ sent }
            owners := traced.owners ++ List.replicate sent.length traced.taken }

/-- Routine commands neither start nor cancel a link. -/
theorem routine_cmds {cmds : List Cmd} (routine : ∀ cmd ∈ cmds, cmd.isRoutine = true)
    : .linkCancel ∉ cmds ∧ cmds.countP Cmd.isLinkDevice = 0 := by
  refine ⟨fun sent => ?_, ?_⟩
  · have known := routine _ sent
    cases known
  · rw [List.countP_eq_zero]
    intro cmd sent linking
    have known := routine cmd sent
    cases cmd with
    | linkDevice deviceName => cases known
    | _ => cases linking

/-- Every turn of a joined program is one of the listed ones. -/
theorem step_cases {traced after : Traced ρ} {turn : Turn ρ}
    (joined : traced.program.Joined)
    (owned : traced.owners.length = traced.program.events.length)
    (stepped : traced.step ui platform format turn = some after)
    : Turned ui platform format traced turn after := by
  obtain ⟨next, moved, rfl⟩ := Option.map_eq_some_iff.mp stepped
  cases Program.step_cases joined moved with
  | @acted turn user outcome reacts effect =>
      have acts : Turned ui platform format traced turn _ := .acted outcome reacts effect
      have taken : traced.takenAfter turn = traced.taken := by
        cases turn <;> first | rfl | cases user
      have settled : traced.settledAfter turn = traced.settled := by
        cases turn <;> first | rfl | cases user
      have owners (next : Program ρ) (same : next.events = traced.program.events)
          : traced.ownersAfter turn next = traced.owners := by
        cases turn with
        | press stroke => simp [ownersAfter, same]
        | focus env foreground => simp [ownersAfter, same]
        | _ => cases user
      simpa [taken, settled, owners, cancelledAfter] using acts
  | handled env event rest outcome queued flags =>
      obtain ⟨owner, owners, known⟩ : ∃ owner owners, traced.owners = owner :: owners := by
        cases known : traced.owners with
        | nil => simp [known, queued] at owned
        | cons owner owners => exact ⟨owner, owners, rfl⟩
      have handles : Turned ui platform format traced (.handle env) _ :=
        .handled env event rest owner owners outcome queued known flags
      simpa [takenAfter, settledAfter, ownersAfter, cancelledAfter, queued, known,
        (routine_cmds flags.cmds).1] using handles
  | received cmd rest world queued dispatched =>
      have receives : Turned ui platform format traced .receive _ :=
        .received cmd rest world queued dispatched
      simpa [settledAfter, ownersAfter, cancelledAfter] using receives
  | worked input world sent internal moves log =>
      have works : Turned ui platform format traced (.worker input) _ :=
        .worked input world sent internal moves log
      simpa [takenAfter, settledAfter, ownersAfter, cancelledAfter] using works

/-- Among the turns of a calm run at most one attempt awaits its outcome; it is the one the
user started last, and the UI knows of it unless the user cancelled it.
-/
structure Sound (traced : Traced ρ) : Prop where
  joined : traced.program.Joined
  owned : traced.owners.length = traced.program.events.length
  counted : traced.queued ≤ traced.started
  single : traced.awaited ≤ 1
  known
    : 0 < traced.awaited
        → traced.program.app.linkingInProgress = true ∨ traced.started ∈ traced.cancelled
  current
    : 0 < traced.taken
        → traced.taken ∈ traced.settled ∨ traced.taken = traced.started ∧ 0 < traced.awaited
  owner
    : ∀ sent ∈ traced.program.events.zip traced.owners,
        sent.1.isLinkOutcome = true → sent.2 ≠ 0 → sent.2 = traced.taken
  linking : traced.program.world.dispatcher.control.inLink = true → 0 < traced.taken
  startup : traced.program.world.dispatcher.control.isStartup = true → traced.taken = 0

theorem Sound.attributed {traced : Traced ρ} (sound : Sound traced) : traced.Attributed := by
  rintro attempt ⟨counted, rfl, wanted, unsettled⟩
  have flag : traced.program.app.linkingInProgress = true := by
    rcases sound.current counted with settled | ⟨latest, awaited⟩
    · exact absurd settled unsettled
    · rcases sound.known awaited with flag | cancelled
      · exact flag
      · exact absurd (latest ▸ cancelled) wanted
  exact ⟨flag, fun url => by simp [App.opensQrModal, flag]⟩

theorem sound_start {app : App} (inner : InnerBackend)
    : Sound (start app inner : Traced ρ) where
  joined := Program.joined_start inner
  owned := rfl
  counted := le_refl 0
  single := Nat.zero_le 1
  known := fun awaited => absurd awaited (Nat.lt_irrefl 0)
  current := fun taken => absurd taken (Nat.lt_irrefl 0)
  owner := by simp [start, Program.start]
  linking := fun inLink => by cases inLink
  startup := fun _ => rfl

/-- The attempts stay where they are, and the UI forgets about the one it awaits only when the
user cancels it.
-/
structure Rests (traced after : Traced ρ) : Prop where
  world : after.program.world = traced.program.world
  events : after.program.events = traced.program.events
  queued : after.queued = traced.queued
  started : after.started = traced.started
  taken : after.taken = traced.taken
  owners : after.owners = traced.owners
  settled : after.settled = traced.settled
  cancelled : traced.cancelled ⊆ after.cancelled
  flag
    : traced.program.app.linkingInProgress = true
        → after.program.app.linkingInProgress = true ∨ after.started ∈ after.cancelled

theorem Sound.rests {traced after : Traced ρ} (sound : Sound traced)
    (joined : after.program.Joined) (rests : Rests traced after)
    : Sound after := by
  have awaited : after.awaited = traced.awaited := by
    simp only [Traced.awaited, running, delivered, rests.queued, rests.taken, rests.world,
      rests.events, rests.owners]
  refine ⟨joined, ?_, ?_, ?_, fun waits => ?_, ?_, ?_, ?_, ?_⟩
  · rw [rests.owners, rests.events, sound.owned]
  · rw [rests.queued, rests.started]
    exact sound.counted
  · exact awaited ▸ sound.single
  · rcases sound.known (awaited ▸ waits) with flag | cancelled
    · exact rests.flag flag
    · exact .inr (rests.started ▸ rests.cancelled cancelled)
  · rw [rests.taken, rests.settled, rests.started, awaited]
    exact sound.current
  · rw [rests.events, rests.owners, rests.taken]
    exact sound.owner
  · rw [rests.world, rests.taken]
    exact sound.linking
  · rw [rests.world, rests.taken]
    exact sound.startup

/-- The user does something: an attempt is started only when none is awaited. -/
theorem Sound.acted {traced : Traced ρ} (sound : Sound traced) {outcome : Outcome}
    (joined : Program.Joined
      { traced.program with
        app := outcome.1
        commands := traced.program.commands ++ outcome.2
        accepted := traced.program.accepted ++ outcome.2 })
    (alone : outcome.2.any Cmd.isLinkDevice = true → traced.awaited = 0)
    (effect : Ui.FlagEffect traced.program.app outcome)
    : Sound
        { traced with
          program :=
            { traced.program with
              app := outcome.1
              commands := traced.program.commands ++ outcome.2
              accepted := traced.program.accepted ++ outcome.2 }
          cancelled :=
            if .linkCancel ∈ outcome.2 then traced.started :: traced.cancelled
            else traced.cancelled } := by
  cases effect with
  | routine routine =>
      obtain ⟨uncancelled, unstarted⟩ := routine_cmds routine.cmds
      refine sound.rests joined ⟨rfl, rfl, ?_, ?_, rfl, rfl, rfl, ?_, fun flag => ?_⟩
      · simp [queued, unstarted]
      · simp [started, unstarted]
      · simp [uncancelled]
      · exact .inl (routine.linking.trans flag)
  | asked same =>
      refine sound.rests joined ⟨rfl, rfl, ?_, ?_, rfl, rfl, rfl, ?_, fun flag => ?_⟩
      · simp [queued, Cmd.isLinkDevice]
      · simp [started, Cmd.isLinkDevice]
      · simp
      · exact .inl (same.trans flag)
  | cancelled shown =>
      refine sound.rests joined ⟨rfl, rfl, ?_, ?_, rfl, rfl, rfl, ?_, fun flag => ?_⟩
      · simp [queued, Cmd.isLinkDevice]
      · simp [started, Cmd.isLinkDevice]
      · simp
      · simp [started, Cmd.isLinkDevice]
  | @started next deviceName flag =>
      have none := alone rfl
      have counted := sound.counted
      refine ⟨joined, sound.owned, ?_, ?_, fun _ => .inl flag, fun taken => ?_, sound.owner,
        sound.linking, sound.startup⟩
      · simpa [queued, started, Cmd.isLinkDevice] using counted
      · simp only [awaited, queued, running, delivered, List.countP_append] at none ⊢
        simp only [List.countP_singleton, Cmd.isLinkDevice, if_true]
        omega
      · rcases sound.current taken with settled | ⟨-, awaited⟩
        · exact .inl settled
        · omega

/-- An end of a link that leaves the one awaited attempt awaited is not its outcome. -/
theorem foreign_of_awaited {event : Event} {owner left before : Nat}
    (ends : (event.isLinkOutcome || event.resets) = true)
    (counted : left + (if event.isLinkOutcome && owner != 0 then 1 else 0) = before)
    (single : before ≤ 1) (waits : 0 < left)
    : (event.resets || (event.isLinkOutcome && owner == 0)) = true := by
  rcases Bool.or_eq_true_iff.mp ends with settles | resets
  · by_cases startup : owner = 0
    · simp [settles, startup]
    · simp only [settles, bne_iff_ne.mpr startup, Bool.and_self, if_true] at counted
      omega
  · simp [resets]

/-- The UI handles the next event: an outcome of the awaited attempt settles it, and a
foreign end finds none awaited.
-/
theorem Sound.handled {traced after : Traced ρ} (sound : Sound traced) {event : Event}
    {rest : List Event} {owner : Nat} {owners : List Nat} {outcome : Outcome}
    (queued : traced.program.events = event :: rest) (owned : traced.owners = owner :: owners)
    (joined : after.program.Joined)
    (foreign : (event.resets || (event.isLinkOutcome && owner == 0)) = true
      → traced.awaited = 0 ∨ traced.started ∈ traced.cancelled)
    (flags : Ui.App.EventFlags traced.program.app event outcome)
    (handles
      : after
        = { traced with
            program :=
              { traced.program with
                app := outcome.1
                commands := traced.program.commands ++ outcome.2
                events := rest
                accepted := traced.program.accepted ++ outcome.2 }
            owners
            settled :=
              if event.isLinkOutcome then owner :: traced.settled else traced.settled })
    : Sound after := by
  have unstarted := (routine_cmds flags.cmds).2
  have zipped : traced.program.events.zip traced.owners = (event, owner) :: rest.zip owners := by
    rw [queued, owned, List.zip_cons_cons]
  have own := sound.owner
  rw [zipped] at own
  have sameQueued : after.queued = traced.queued := by simp [handles, Traced.queued, unstarted]
  have sameStarted : after.started = traced.started := by simp [handles, started, unstarted]
  have counted : after.awaited + (if event.isLinkOutcome && owner != 0 then 1 else 0)
      = traced.awaited := by
    simp only [awaited, sameQueued]
    simp only [handles, running, delivered, zipped, List.countP_cons]
    omega
  have single := sound.single
  refine ⟨joined, ?_, ?_, by omega, fun waits => ?_, fun taken => ?_, ?_, ?_, ?_⟩
  · have lengths := sound.owned
    rw [queued, owned] at lengths
    simpa [handles] using lengths
  · rw [sameQueued, sameStarted]
    exact sound.counted
  · -- A flag that was cleared while an attempt is still awaited was cleared by a foreign end.
    have sameCancelled : after.cancelled = traced.cancelled := by rw [handles]
    have flag : after.program.app.linkingInProgress
        = (traced.program.app.linkingInProgress && !(event.isLinkOutcome || event.resets)) := by
      rw [handles]
      exact flags.linking
    rw [flag, sameStarted, sameCancelled]
    cases ends : event.isLinkOutcome || event.resets with
    | false =>
        rcases sound.known (by omega) with known | cancelled
        · exact .inl (by rw [known]; rfl)
        · exact .inr cancelled
    | true =>
        rcases foreign (foreign_of_awaited ends counted single waits) with none | cancelled
        · omega
        · exact .inr cancelled
  · have sameTaken : after.taken = traced.taken := by rw [handles]
    have kept : traced.settled ⊆ after.settled := by
      rw [handles]
      dsimp only
      split <;> simp
    rw [sameTaken] at taken ⊢
    rw [sameStarted]
    rcases sound.current taken with settled | ⟨latest, waits⟩
    · exact .inl (kept settled)
    · by_cases more : 0 < after.awaited
      · exact .inr ⟨latest, more⟩
      · -- The event was the outcome that was awaited.
        left
        split at counted
        · next mine =>
            obtain ⟨settles, nonzero⟩ := Bool.and_eq_true_iff.mp mine
            have owner_taken : owner = traced.taken :=
              own (event, owner) (List.mem_cons_self ..) settles (bne_iff_ne.mp nonzero)
            rw [handles]
            simp [settles, owner_taken]
        · omega
  · intro sent listed
    rw [handles] at listed ⊢
    exact own sent (List.mem_cons_of_mem _ listed)
  · rw [handles]
    exact sound.linking
  · rw [handles]
    exact sound.startup

/-- Events sent together belong to one attempt. -/
theorem countP_zip_replicate (sent : List Event) (attempt : Nat)
    : (sent.zip (List.replicate sent.length attempt)).countP (fun sent =>
        sent.1.isLinkOutcome && sent.2 != 0)
      = if attempt = 0 then 0 else sent.countP Event.isLinkOutcome := by
  induction sent with
  | nil => simp
  | cons event rest ih =>
      rw [List.length_cons, List.replicate_succ, List.zip_cons_cons, List.countP_cons, ih,
        List.countP_cons]
      by_cases none : attempt = 0 <;> simp [none]

/-- The worker moves by itself: an outcome goes onto the event channel with its attempt. -/
theorem Sound.worked {traced : Traced ρ} (sound : Sound traced) {world : World ρ}
    {sent : List Event}
    (joined : Program.Joined
      { traced.program with world, events := traced.program.events ++ sent })
    (outcomes
      : traced.program.world.dispatcher.control.isStartup = true
          ∧ world.dispatcher.control.inLink = false
        ∨ World.SendsOutcomes traced.program.world world sent)
    : Sound
        { traced with
          program := { traced.program with world, events := traced.program.events ++ sent }
          owners := traced.owners ++ List.replicate sent.length traced.taken } := by
  have zipped : (traced.program.events ++ sent).zip
        (traced.owners ++ List.replicate sent.length traced.taken)
      = traced.program.events.zip traced.owners
        ++ sent.zip (List.replicate sent.length traced.taken) :=
    List.zip_append sound.owned.symm
  have same : Traced.awaited
        { traced with
          program := { traced.program with world, events := traced.program.events ++ sent }
          owners := traced.owners ++ List.replicate sent.length traced.taken }
      = traced.awaited := by
    simp only [awaited, queued, running, delivered, zipped, List.countP_append,
      countP_zip_replicate]
    by_cases none : traced.taken = 0
    · simp [none]
    · simp only [none, if_false]
      rcases outcomes with ⟨startup, -⟩ | sends
      · exact absurd (sound.startup startup) none
      · have due := sends.due
        omega
  refine ⟨joined, ?_, sound.counted, ?_, ?_, ?_, ?_, fun inLink => ?_, fun startup => ?_⟩
  · simp [sound.owned]
  · rw [same]
    exact sound.single
  · rw [same]
    exact sound.known
  · rw [same]
    exact sound.current
  · intro pair listed
    rw [zipped] at listed
    rcases List.mem_append.mp listed with earlier | new
    · exact sound.owner pair earlier
    · exact fun _ _ => List.eq_of_mem_replicate (List.of_mem_zip new).2
  · rcases outcomes with ⟨-, free⟩ | sends
    · rw [free] at inLink
      cases inLink
    · exact sound.linking (sends.inLink inLink)
  · rcases outcomes with ⟨startup, -⟩ | sends
    · exact sound.startup startup
    · rw [sends.stays] at startup
      cases startup

/-- The worker takes the awaited attempt up. -/
theorem Sound.takenUp {traced : Traced ρ} (sound : Sound traced) {world : World ρ}
    {deviceName : String} {rest : List Cmd}
    (first : traced.program.commands = .linkDevice deviceName :: rest)
    (joined : Program.Joined { traced.program with world, commands := rest })
    (started : world.dispatcher.control.isStartup = false)
    (due : world.dispatcher.outcomesDue = 1)
    : Sound
        { traced with
          program := { traced.program with world, commands := rest }
          taken := traced.started - rest.countP Cmd.isLinkDevice } := by
  have counted : traced.queued = rest.countP Cmd.isLinkDevice + 1 := by
    simp [queued, first, List.countP_cons, Cmd.isLinkDevice]
  have single := sound.single
  rw [awaited, counted] at single
  have last : rest.countP Cmd.isLinkDevice = 0 := by omega
  have undelivered : traced.delivered = 0 := by omega
  have positive : 0 < traced.started := by
    have bound := sound.counted
    omega
  rw [last, Nat.sub_zero]
  have one : Traced.awaited
        { traced with
          program := { traced.program with world, commands := rest }
          taken := traced.started } = 1 := by
    rw [delivered] at undelivered
    simp only [awaited, queued, running, delivered, last, due, undelivered,
      if_neg (Nat.ne_of_gt positive)]
  refine ⟨joined, sound.owned, ?_, one.le, fun _ => ?_, fun _ => ?_, ?_, fun _ => positive,
    fun startup => ?_⟩
  · simp [queued, last]
  · exact sound.known (by rw [awaited]; omega)
  · exact .inr ⟨rfl, by rw [one]; exact Nat.one_pos⟩
  · intro sent listed settles nonzero
    rw [delivered, List.countP_eq_zero] at undelivered
    have none := undelivered sent listed
    simp [settles, nonzero] at none
  · rw [started] at startup
    cases startup

/-- A command during a link finds no attempt behind it on the channel. -/
theorem Sound.busy {traced : Traced ρ} (sound : Sound traced) {cmd : Cmd} {rest : List Cmd}
    {world : World ρ} (first : traced.program.commands = cmd :: rest)
    (dispatched : World.Dispatched traced.program.world (.cmd cmd) world)
    (away : traced.program.world.dispatcher.control ≠ .ready)
    : cmd.isLinkDevice = false := by
  have shape := sound.joined.serving.shape
  have inLink : traced.program.world.dispatcher.control.inLink = true
      ∧ traced.program.world.dispatcher.outcomesDue = 1 := by
    cases dispatched with
    | commandWhileLinking cancelled _ control =>
        exact ⟨by rw [control]; rfl, (World.outcomesDue_linking shape control).1⟩
    | commandWhileEnding cancelled linked _ control waiting =>
        exact ⟨by rw [control]; rfl, (World.outcomesDue_ending shape control waiting).1⟩
    | command _ control => exact absurd control away
  have positive := sound.linking inLink.1
  have single := sound.single
  by_contra linking
  rw [Bool.not_eq_false] at linking
  simp only [awaited, queued, running, first, List.countP_cons, linking, if_true, inLink.2,
    if_neg (Nat.ne_of_gt positive)] at single
  omega

/-- The worker receives a command. -/
theorem Sound.received {traced : Traced ρ} (sound : Sound traced) {cmd : Cmd} {rest : List Cmd}
    {world : World ρ} (first : traced.program.commands = cmd :: rest)
    (dispatched : World.Dispatched traced.program.world (.cmd cmd) world)
    (joined : Program.Joined { traced.program with world, commands := rest })
    : Sound
        { traced with
          program := { traced.program with world, commands := rest }
          taken := traced.takenAfter .receive } := by
  have keeps := @WorldInput.keepsServing_cmd ρ cmd (sound.joined.commands cmd (by simp [first]))
  cases dispatched.linkStep sound.joined.serving.shape keeps with
  | takenUp deviceName _ ready taken started due =>
      simp only [takenAfter, first, ready]
      exact sound.takenUp first joined started due
  | startup _ startup =>
      have reads : traced.program.world.dispatcher.control.isStartup = false := by
        cases dispatched with
        | commandWhileLinking cancelled _ control => rw [control]; rfl
        | commandWhileEnding cancelled linked _ control => rw [control]; rfl
        | command _ control => rw [control]; rfl
      rw [reads] at startup
      cases startup
  | kept _ kept unready =>
      have other : cmd.isLinkDevice = false := by
        by_cases ready : traced.program.world.dispatcher.control = .ready
        · cases cmd with
          | linkDevice deviceName => exact absurd rfl (unready ready deviceName)
          | _ => rfl
        · exact sound.busy first dispatched ready
      have same : traced.takenAfter .receive = traced.taken := by
        cases cmd with
        | linkDevice deviceName => cases other
        | _ => simp only [takenAfter, first]
      have queue : rest.countP Cmd.isLinkDevice = traced.queued := by
        simp [queued, first, other]
      rw [same]
      have awaits : Traced.awaited
            { traced with program := { traced.program with world, commands := rest } }
          = traced.awaited := by
        simp only [awaited, running, delivered, kept.due, ← queue]
        rfl
      refine ⟨joined, sound.owned, ?_, ?_, ?_, ?_, sound.owner, fun inLink => ?_,
        fun startup => ?_⟩
      · exact queue.le.trans sound.counted
      · rw [awaits]
        exact sound.single
      · rw [awaits]
        exact sound.known
      · rw [awaits]
        exact sound.current
      · exact sound.linking (kept.inLink inLink)
      · rw [kept.stays] at startup
        cases startup

/-- One calm turn. -/
theorem Sound.step {traced after : Traced ρ} {turn : Turn ρ} (calm : Calm ui traced turn)
    (stepped : traced.step ui platform format turn = some after) (sound : Sound traced)
    : Sound after := by
  have joined : after.program.Joined := by
    obtain ⟨next, moved, rfl⟩ := Option.map_eq_some_iff.mp stepped
    exact sound.joined.step (Program.step_cases sound.joined moved)
  cases step_cases sound.joined sound.owned stepped with
  | acted outcome reacts effect => exact sound.acted joined (reacts ▸ calm.alone) effect
  | handled env event rest owner owners outcome queued owned flags =>
      refine sound.handled queued owned joined (fun foreign => calm.foreign ?_) flags rfl
      simpa only [handlesForeignEnd, queued, owned] using foreign
  | received cmd rest world first dispatched => exact sound.received first dispatched joined
  | worked input world sent internal moves log =>
      have keeps := WorldInput.keepsServing_of_internal internal
      refine sound.worked joined (moves.outcomes sound.joined.serving ?_ keeps log)
      rintro cmd rfl
      cases internal

end Traced

/-- In every calm run of the program, an attempt the worker has taken up and the user has not
cancelled is in progress on the UI side until an outcome of its own is handled, so its URL
opens the QR modal.
-/
theorem link_attempts_attributed (ui : Ui.Platform) (platform : Platform)
    (format : RecordFormat ρ) (inner : InnerBackend) (app : App) (turns : List (Turn ρ))
    (calm
      : Runs.Guarded? (Traced.step ui platform format) (Traced.Calm ui) (.start app inner)
          turns)
    : ∀ done traced, done <+: turns
        → Runs.run? (Traced.step ui platform format) (.start app inner) done = some traced
        → traced.Attributed := by
  rintro done traced ⟨rest, rfl⟩ reached
  have sound : traced.Sound :=
    calm.left.invariant (fun _ _ _ => Traced.Sound.step) reached (Traced.sound_start inner)
  exact sound.attributed

/-- The user cancels a link and starts the next one before the late `LinkError("Cancelled")`
is handled. It ends the second attempt for the UI, while the worker is still linking and has
sent no event for it.
-/
theorem stale_error_ends_next_attempt
    : let turns : List (Turn UInt8) :=
        [.worker (.dispatcher (.loaded (.error "NotYetRegistered"))), .press ⟨.unnamed, '\x0d'⟩,
          .receive, .press ⟨.unnamed, '\x1b'⟩, .receive, .worker (.dispatcher .linkCancelled),
          .worker .dispatcherDelivers, .worker (.dispatcher .linkReturned),
          .press ⟨.unnamed, '\x0d'⟩, .receive, .handle .unnamed]
      ∃ traced,
        Runs.run? (Traced.step .bare (.knowing ⟨1⟩) .oneByte) (.start .initial { map := ∅ })
          turns = some traced
        ∧ traced.InProgress 2
        ∧ traced.program.world.dispatcher.control = .linking false
        ∧ traced.settled = [1]
        ∧ traced.program.app.linkingInProgress = false
        ∧ traced.program.app.opensQrModal (.linkUrl "sgnl://linkdevice") = none := by
  refine ⟨_, rfl, ⟨Nat.two_pos, rfl, ?_, ?_⟩, rfl, rfl, rfl, rfl⟩
  · exact (by decide : 2 ∉ [1])
  · exact (by decide : 2 ∉ [1])

/-- The first attempt after a start: its URL is on the way and will open the modal. -/
theorem link_attempts_attributed_first
    : let turns : List (Turn UInt8) :=
        [.worker (.dispatcher (.loaded (.error "NotYetRegistered"))), .press ⟨.unnamed, '\x0d'⟩,
          .receive, .worker (.dispatcher (.linkUrl "sgnl://linkdevice")),
          .worker .dispatcherDelivers]
      ∃ traced,
        Runs.run? (Traced.step .bare (.knowing ⟨1⟩) .oneByte) (.start .initial { map := ∅ })
          turns = some traced
        ∧ traced.InProgress 1
        ∧ traced.Attributed := by
  refine ⟨_, rfl, ⟨Nat.one_pos, rfl, List.not_mem_nil, List.not_mem_nil⟩, ?_⟩
  refine link_attempts_attributed .bare (.knowing ⟨1⟩) .oneByte { map := ∅ } .initial
    [.worker (.dispatcher (.loaded (.error "NotYetRegistered"))), .press ⟨.unnamed, '\x0d'⟩,
      .receive, .worker (.dispatcher (.linkUrl "sgnl://linkdevice")),
      .worker .dispatcherDelivers] ?_ _ _ (List.prefix_refl _) rfl
  have still {traced : Traced UInt8} {input : WorldInput UInt8}
      : traced.Calm .bare (.worker input) :=
    ⟨fun sends => (by cases sends), fun handles => (by cases handles)⟩
  refine ⟨still, fun _ loaded => ⟨?_, fun _ _ => ⟨?_, fun _ _ => ⟨still, fun _ _ =>
    ⟨still, fun _ _ => trivial⟩⟩⟩⟩⟩
  · obtain rfl := Option.some.inj loaded
    exact ⟨fun _ => rfl, fun handles => (by cases handles)⟩
  · exact ⟨fun sends => (by cases sends), fun handles => (by cases handles)⟩

end XousAppSignal
