import XousAppSignal.Library.Runs
import XousAppSignal.Program.Channels

/-! Account queries. The dispatcher answers every `GetAccountInfo` it takes up with one
`AccountInfo`; while a link is in flight it takes up none, and a query received then is
dropped without an answer.
-/

namespace XousAppSignal

open Store (InnerBackend RecordFormat)
open Ui (App)
open Worker

variable {ρ : Type}

namespace Worker

/-- The registration is being read for a query. -/
def DispatcherControl.asking : DispatcherControl → Nat
  | .askingAccountInfo => 1
  | _ => 0

/-- The queries the dispatcher has taken up and whose answers the channel has not taken. -/
def Dispatcher.queriesHeld (dispatcher : Dispatcher) : Nat :=
  dispatcher.control.asking
    + dispatcher.outbox.countP (fun emit => emit.event.isAccountInfo)

/-- The link future has not returned: it still runs, or waits to send its last event. -/
def World.linkInFlight (world : World ρ) : Bool :=
  match world.dispatcher.control with
  | .linking _ => true
  | .linkEnding _ _ => !world.dispatcher.outbox.isEmpty
  | _ => false

/-- The query a command brings; with a link in flight the command is dropped. -/
def World.takesUp (world : World ρ) : DispatcherInput → Nat
  | .cmd .getAccountInfo => if world.dispatcher.control.inLink then 0 else 1
  | _ => 0

theorem Event.not_accountInfo_of_fromTask {event : Event} (spoken : event.fromTask = true)
    : event.isAccountInfo = false := by
  cases event <;> first | rfl | cases spoken

namespace World

theorem queriesHeld_goTo (control : DispatcherControl) (world : World ρ)
    : (world.goTo control).dispatcher.queriesHeld
      = control.asking
        + world.dispatcher.outbox.countP (fun emit => emit.event.isAccountInfo) :=
  rfl

theorem queriesHeld_reply (emit : Emit) (control : DispatcherControl) (world : World ρ)
    : (world.reply emit control).dispatcher.queriesHeld
      = control.asking
        + (world.dispatcher.outbox.countP (fun emit => emit.event.isAccountInfo)
          + if emit.event.isAccountInfo then 1 else 0) := by
  simp [World.reply, Dispatcher.queriesHeld, List.countP_append, List.countP_cons]

theorem queriesHeld_ready {world : World ρ} (ready : world.dispatcher.control = .ready)
    : world.dispatcher.queriesHeld
      = world.dispatcher.outbox.countP (fun emit => emit.event.isAccountInfo) := by
  simp [Dispatcher.queriesHeld, ready, DispatcherControl.asking]

theorem refused_isAccountInfo (op : WorkerOp) (reason : String)
    : (op.refused reason).isAccountInfo = false := by
  cases op <;> rfl

/-- A command taken up in the main loop: only a query adds to what is held. -/
theorem Handled.queries {world after : World ρ} {cmd : Cmd} (handled : Handled world cmd after)
    (ready : world.dispatcher.control = .ready)
    : after.dispatcher.queriesHeld
      = world.dispatcher.queriesHeld + world.takesUp (.cmd cmd) := by
  have none {cmd : Cmd} {op : WorkerOp} (carried : cmd.op? = some op)
      : world.takesUp (.cmd cmd) = 0 := by
    cases cmd <;> cases carried <;> rfl
  rw [queriesHeld_ready ready]
  cases handled with
  | nothingToCancel =>
      rw [queriesHeld_ready ready]
      rfl
  | accountCached info =>
      rw [queriesHeld_reply]
      simp [takesUp, ready, DispatcherControl.asking, DispatcherControl.inLink,
        Event.isAccountInfo]
  | accountAsked =>
      rw [queriesHeld_goTo]
      simp [takesUp, ready, DispatcherControl.asking, DispatcherControl.inLink, Nat.add_comm]
  | opRefused cmd op carried =>
      rw [queriesHeld_reply, none carried]
      simp [refused_isAccountInfo, DispatcherControl.asking]
  | opForwarded cmd op carried =>
      rw [queriesHeld_goTo, none carried]
      simp [DispatcherControl.asking]
  | asksWhoami | linkStarted deviceName =>
      rw [queriesHeld_goTo]
      simp [takesUp, DispatcherControl.asking]
  | greeted | linkRefused deviceName | stopping =>
      rw [queriesHeld_reply]
      simp [takesUp, DispatcherControl.asking, Event.isAccountInfo]
  | loggedOut =>
      rw [logout, queriesHeld_reply]
      simp [takesUp, DispatcherControl.asking, Event.isAccountInfo, dropOps]

/-- With a link in flight no answer waits to be sent. -/
theorem queriesHeld_inLink {world : World ρ} (shape : world.dispatcher.LinkShape)
    (inLink : world.dispatcher.control.inLink = true)
    : world.dispatcher.queriesHeld = 0 := by
  have silent : ∀ emit ∈ world.dispatcher.outbox, emit.event.isAccountInfo = false := by
    intro emit waits
    cases control : world.dispatcher.control with
    | linking cancelled =>
        obtain ⟨url, event⟩ := shape.linking cancelled control emit waits
        rw [event]
        rfl
    | linkEnding cancelled linked =>
        rcases shape.ending cancelled linked control with none | ⟨one, only, outcome⟩
        · rw [none] at waits
          cases waits
        · rw [only, List.mem_singleton] at waits
          rw [waits]
          cases event : one.event <;> rw [event] at outcome <;> first | rfl | cases outcome
    | _ => rw [control] at inLink; cases inLink
  have asking : world.dispatcher.control.asking = 0 := by
    cases control : world.dispatcher.control <;> rw [control] at inLink <;>
      first | rfl | cases inLink
  simp only [Dispatcher.queriesHeld, asking, Nat.zero_add, List.countP_eq_zero]
  exact fun emit waits => by simp [silent emit waits]

theorem asking_inLink {control : DispatcherControl} (inLink : control.inLink = true)
    : control.asking = 0 := by
  cases control <;> first | rfl | cases inLink

theorem queriesHeld_linkingCmd {world : World ρ} (held : world.dispatcher.queriesHeld = 0)
    {control : Bool → DispatcherControl} (inLink : ∀ cancelled, (control cancelled).inLink = true)
    (cancelled : Bool) (cmd : Cmd)
    : (world.linkingCmd control cancelled cmd).dispatcher.queriesHeld = 0 := by
  have outbox : world.dispatcher.outbox.countP (fun emit => emit.event.isAccountInfo) = 0 :=
    (Nat.add_eq_zero_iff.mp held).2
  cases cmd with
  | shutdown => rfl
  | _ => simp only [linkingCmd, queriesHeld_goTo, outbox, asking_inLink (inLink _)]

/-- The dispatcher holds a query from taking it up until the channel takes the answer. -/
theorem Dispatched.queries {world after : World ρ} {input : DispatcherInput}
    (dispatched : Dispatched world input after) (shape : world.dispatcher.LinkShape)
    (keeps : (WorldInput.dispatcher input : WorldInput ρ).keepsServing = true)
    : after.dispatcher.queriesHeld = world.dispatcher.queriesHeld + world.takesUp input := by
  have busy (inLink : world.dispatcher.control.inLink = true) (cmd : Cmd)
      : world.takesUp (.cmd cmd) = 0 := by
    cases cmd <;> simp [takesUp, inLink]
  have free (asking : world.dispatcher.control.asking = 0) (taken : world.dispatcher.outbox = [])
      : world.dispatcher.queriesHeld = 0 := by
    simp [Dispatcher.queriesHeld, asking, taken]
  cases dispatched with
  | commandWhileLinking cancelled cmd control =>
      have inLink : world.dispatcher.control.inLink = true := by rw [control]; rfl
      have held := queriesHeld_inLink shape inLink
      rw [held, busy inLink, queriesHeld_linkingCmd held (fun _ => rfl)]
  | commandWhileEnding cancelled linked cmd control =>
      have inLink : world.dispatcher.control.inLink = true := by rw [control]; rfl
      have held := queriesHeld_inLink shape inLink
      rw [held, busy inLink, queriesHeld_linkingCmd held (fun _ => rfl)]
  | closed => cases keeps
  | cancelledWhileLinking control =>
      rw [queriesHeld_inLink shape (by rw [control]; rfl)]
      rfl
  | cancelledWhileEnding linked control =>
      rw [queriesHeld_inLink shape (by rw [control]; rfl)]
      rfl
  | command cmd control => exact (handleCmd_cases cmd world).queries control
  | registrationLoaded attempts result control taken =>
      rw [free (by rw [control]; rfl) taken]
      rcases registrationLoaded_cases attempts result world with
        ⟨info, moved⟩ | ⟨control, rfl | rfl, moved⟩
      all_goals simp [moved, queriesHeld_goTo, queriesHeld_reply, taken, takesUp,
        DispatcherControl.asking, Event.isAccountInfo]
  | adopted info control taken =>
      simp [Dispatcher.queriesHeld, control, taken, takesUp, adopt, goTo, spawnManagerTask,
        dropOps, DispatcherControl.asking]
  | whoami answer control taken =>
      rw [free (by rw [control]; rfl) taken, queriesHeld_reply]
      simp [taken, takesUp, DispatcherControl.asking, Event.isAccountInfo]
  | accountInfoLoaded result control taken =>
      have held : world.dispatcher.queriesHeld = 1 := by
        simp [Dispatcher.queriesHeld, control, taken, DispatcherControl.asking]
      rw [held]
      cases result with
      | error message =>
          simp [World.accountInfoLoaded, queriesHeld_reply, taken, takesUp,
            DispatcherControl.asking, Event.isAccountInfo]
      | ok info =>
          simp only [World.accountInfoLoaded, queriesHeld_reply]
          split <;> simp [spawnManagerTask, dropOps, taken, takesUp, DispatcherControl.asking,
            Event.isAccountInfo]
  | forwarded op after control taken forwarded =>
      rw [free (by rw [control]; rfl) taken]
      rcases forward_cases forwarded with rfl | ⟨index, rfl⟩
      · simp [queriesHeld_reply, refused_isAccountInfo, taken, takesUp,
          DispatcherControl.asking]
      · simp [queriesHeld_goTo, taken, takesUp, DispatcherControl.asking]
  | linkUrl cancelled url control taken =>
      rw [queriesHeld_inLink shape (by rw [control]; rfl)]
      simp [queriesHeld_reply, taken, takesUp, DispatcherControl.asking, Event.isAccountInfo]
  | linkEnded cancelled result control taken =>
      rw [queriesHeld_inLink shape (by rw [control]; rfl)]
      cases result <;> simp [World.linkEnded, queriesHeld_reply, taken, takesUp,
        DispatcherControl.asking, Event.isAccountInfo]
  | linkReturned cancelled linked control taken =>
      rw [queriesHeld_inLink shape (by rw [control]; rfl)]
      cases linked <;> simp [World.linkReturned, Dispatcher.queriesHeld, adopt, goTo,
        spawnManagerTask, dropOps, taken, takesUp, DispatcherControl.asking]
  | stopped control taken =>
      rw [free (by rw [control]; rfl) taken, queriesHeld_goTo]
      simp [taken, takesUp, DispatcherControl.asking]

/-- What the dispatcher has answered and what it still holds only grow by what it takes up. -/
theorem Stepped.queries {platform : Platform} {format : RecordFormat ρ}
    {world after : World ρ} {input : WorldInput ρ} {sent : List Event}
    (stepped : Stepped platform format world input after) (serving : Serving world)
    (internal : input.isInternal = true) (log : after.log = world.log ++ sent)
    : sent.countP Event.isAccountInfo + after.dispatcher.queriesHeld
      = world.dispatcher.queriesHeld := by
  have silent (unsent : after.log = world.log) : sent = [] := by
    rw [unsent] at log
    simpa using log
  cases stepped with
  | @dispatched input after dispatched =>
      have keeps := WorldInput.keepsServing_of_internal internal
      have none : world.takesUp input = 0 := by
        cases input <;> first | rfl | cases internal
      rw [silent dispatched.channel.log, dispatched.queries serving.shape keeps, none]
      simp
  | delivered first rest queued =>
      obtain rfl : [first.event] = sent := List.append_cancel_left log
      simp only [Dispatcher.queriesHeld, queued, List.countP_cons, List.countP_nil]
      omega
  | dropped first rest queued closed | hungUp first rest queued closed =>
      rw [serving.isOpen] at closed
      cases closed
  | managerDelivered index manager event task found taken =>
      obtain rfl : event.toList = sent := List.append_cancel_left log
      have own := (Task.deliver_speaks taken
        (serving.speaks manager (List.mem_of_getElem? found))).1
      have other : event.toList.countP Event.isAccountInfo = 0 := by
        rw [List.countP_eq_zero]
        intro sent listed
        simp [Event.not_accountInfo_of_fromTask (own sent (Option.mem_toList.mp listed))]
      rw [other]
      exact Nat.zero_add _
  | advanced | library => simp [silent rfl]
  | uiGone => cases internal

end World

end Worker

-----------------------------------------------------------------------------------------
-- Runs of the whole program
-----------------------------------------------------------------------------------------

namespace Program

/-- The queries the command channel has accepted. -/
def asked (program : Program ρ) : Nat := program.accepted.countP Cmd.isGetAccountInfo

/-- The answers the worker has sent. -/
def answered (program : Program ρ) : Nat := program.world.log.countP Event.isAccountInfo

/-- The queries on the channel or with the dispatcher. -/
def waiting (program : Program ρ) : Nat :=
  program.commands.countP Cmd.isGetAccountInfo + program.world.dispatcher.queriesHeld

/-- Both channels are empty and the worker waits for a command. -/
structure Idle (program : Program ρ) : Prop where
  commands : program.commands = []
  events : program.events = []
  ready : program.world.dispatcher.control = .ready
  sent : program.world.dispatcher.outbox = []

/-- Every accepted query has had its one answer or is still waiting for it, and once nothing
is under way the UI waits for none.
-/
structure Answered (program : Program ρ) : Prop where
  each : program.asked = program.answered + program.waiting
  settled : program.Idle → program.app.accountQueryPending = false

/-- The turn does not make the worker receive a query while a link is in flight. -/
def HearsQueries (program : Program ρ) : Turn ρ → Prop
  | .receive =>
      program.commands.head? = some .getAccountInfo
        → program.world.linkInFlight = false
  | _ => True

/-- A pending query has an answer on its way. -/
structure Tracked (program : Program ρ) : Prop where
  joined : program.Joined
  each : program.asked = program.answered + program.waiting
  pending
    : program.app.accountQueryPending = true
        → 0 < program.events.countP Event.isAccountInfo + program.waiting

variable {ui : Ui.Platform} {platform : Platform} {format : RecordFormat ρ}

theorem Tracked.answered {program : Program ρ} (tracked : Tracked program)
    : Answered program := by
  refine ⟨tracked.each, fun idle => ?_⟩
  have none : program.waiting = 0 := by
    simp [waiting, idle.commands, World.queriesHeld_ready idle.ready, idle.sent]
  have way := tracked.pending
  rw [idle.events, none] at way
  simpa using way

/-- A query that is received outside a link is taken up, and no other command is. -/
theorem takesUp_received {program : Program ρ} {cmd : Cmd} {rest : List Cmd} {world : World ρ}
    (queued : program.commands = cmd :: rest)
    (dispatched : World.Dispatched program.world (.cmd cmd) world)
    (hears : program.HearsQueries .receive)
    : program.world.takesUp (.cmd cmd) = if cmd.isGetAccountInfo then 1 else 0 := by
  cases cmd with
  | getAccountInfo =>
      have free := hears (by rw [queued]; rfl)
      cases dispatched with
      | commandWhileLinking cancelled _ control => simp [World.linkInFlight, control] at free
      | commandWhileEnding cancelled linked _ control waiting =>
          simp [World.linkInFlight, control, waiting] at free
      | command _ control =>
          simp [World.takesUp, control, DispatcherControl.inLink, Cmd.isGetAccountInfo]
  | _ => rfl

theorem Tracked.step {program after : Program ρ} {turn : Turn ρ}
    (hears : program.HearsQueries turn)
    (stepped : program.step ui platform format turn = some after) (tracked : Tracked program)
    : Tracked after := by
  obtain ⟨joined, each, pending⟩ := tracked
  have turned := step_cases joined stepped
  have stays := joined.step turned
  cases turned with
  | acted user outcome reacts effect =>
      refine ⟨stays, ?_, fun waits => ?_⟩
      · simp only [asked, Program.answered, waiting, List.countP_append] at each ⊢
        omega
      · simp only [waiting, List.countP_append] at pending ⊢
        cases effect with
        | routine routine => have := pending (routine.pending ▸ waits); omega
        | asked => simp [Cmd.isGetAccountInfo]
        | started deviceName linking same | cancelled shown linking same =>
            have := pending (same ▸ waits)
            omega
  | handled env event rest outcome queued flags =>
      refine ⟨stays, ?_, fun waits => ?_⟩
      · simp only [asked, Program.answered, waiting, List.countP_append] at each ⊢
        omega
      · have still := flags.pending.symm.trans waits
        simp only [Bool.and_eq_true, Bool.not_eq_true'] at still
        have way := pending still.1
        simp only [waiting, queued, List.countP_cons, List.countP_append, still.2] at way ⊢
        simp only [Bool.false_eq_true, if_false] at way
        omega
  | received cmd rest world queued dispatched =>
      have keeps := @WorldInput.keepsServing_cmd ρ cmd (joined.commands cmd (by simp [queued]))
      have held := dispatched.queries joined.serving.shape keeps
      rw [takesUp_received queued dispatched hears] at held
      have same : Program.waiting { program with world, commands := rest } = program.waiting := by
        simp only [waiting, queued, List.countP_cons, held]
        omega
      refine ⟨stays, ?_, fun waits => ?_⟩
      · rw [same]
        simp only [asked, Program.answered, dispatched.channel.log] at each ⊢
        exact each
      · rw [same]
        exact pending waits
  | worked input world sent internal moves log =>
      have held := moves.queries joined.serving internal log
      refine ⟨stays, ?_, fun waits => ?_⟩
      · simp only [asked, Program.answered, waiting, log, List.countP_append] at each ⊢
        omega
      · have way := pending waits
        simp only [waiting, List.countP_append] at way ⊢
        omega

theorem tracked_start {app : App} (fresh : App.Start app) (inner : InnerBackend)
    : Tracked (start app inner : Program ρ) := by
  refine ⟨joined_start inner, rfl, fun waits => ?_⟩
  cases fresh <;> cases waits

/-- A link in flight takes every command off the channel. -/
theorem receive_enabled {program : Program ρ} {cmd : Cmd} {rest : List Cmd}
    (joined : Joined program) (queued : program.commands = cmd :: rest)
    (busy : program.world.linkInFlight = true)
    : ∃ after, program.step ui platform format .receive = some after := by
  have taken : ∃ world, program.world.dispatch (.cmd cmd) = some world := by
    unfold World.linkInFlight at busy
    split at busy
    · next cancelled control =>
        exact ⟨program.world.linkingCmd .linking cancelled cmd, by simp [World.dispatch, control]⟩
    · next cancelled linked control =>
        rw [Bool.not_eq_true'] at busy
        exact ⟨program.world.linkingCmd (fun cancelled => .linkEnding cancelled linked)
          cancelled cmd, by simp [World.dispatch, control, busy]⟩
    · cases busy
  obtain ⟨world, taken⟩ := taken
  exact ⟨moved world { program with commands := rest },
    by simp [step, queued, World.step, joined.serving.running, taken]⟩

/-- A query received with a link in flight is gone: it neither waits nor was answered. -/
theorem dropped_query {program after : Program ρ} {rest : List Cmd}
    (joined : Joined program) (queued : program.commands = .getAccountInfo :: rest)
    (busy : program.world.linkInFlight = true)
    (stepped : program.step ui platform format .receive = some after)
    : after.asked = program.asked ∧ after.answered = program.answered
      ∧ after.waiting + 1 = program.waiting := by
  have inLink : program.world.dispatcher.control.inLink = true := by
    unfold World.linkInFlight at busy
    split at busy
    · next control => rw [control]; rfl
    · next control => rw [control]; rfl
    · cases busy
  cases step_cases joined stepped with
  | received cmd rest' world queued' dispatched =>
      obtain ⟨rfl, rfl⟩ := List.cons.inj (queued.symm.trans queued')
      have held := dispatched.queries joined.serving.shape rfl
      simp only [World.takesUp, inLink, if_true] at held
      refine ⟨rfl, ?_, ?_⟩
      · simp only [Program.answered, dispatched.channel.log]
      · simp only [waiting, queued, List.countP_cons, held, Cmd.isGetAccountInfo, if_true]
        omega
  | acted user => cases user

end Program

/-- In a run of the program every account query is answered exactly once, and none is pending
once everything has come to rest, exactly if the worker receives no query while a link is in
flight.
-/
theorem account_queries_answered_iff (ui : Ui.Platform) (platform : Platform)
    (format : RecordFormat ρ) (inner : InnerBackend) (app : App) (fresh : App.Start app)
    (turns : List (Turn ρ))
    : (∀ done program, done <+: turns
        → Runs.run? (Program.step ui platform format) (.start app inner) done = some program
        → program.Answered)
      ↔ Runs.Guarded? (Program.step ui platform format) Program.HearsQueries
          (.start app inner) turns := by
  constructor
  · intro answered
    apply Runs.guarded?_of_reached
    intro done turn rest program split reached
    have before := answered done program ⟨turn :: rest, split⟩ reached
    have joined : program.Joined :=
      Runs.run?_invariant
        (fun _ _ _ stepped joined => joined.step (Program.step_cases joined stepped)) reached
        (Program.joined_start inner)
    cases turn with
    | receive =>
        intro head
        cases queued : program.commands with
        | nil => simp [queued] at head
        | cons cmd commands =>
            obtain rfl : cmd = .getAccountInfo := by simpa [queued] using head
            by_contra busy
            rw [Bool.not_eq_false] at busy
            obtain ⟨after, stepped⟩ := Program.receive_enabled joined queued busy
            have next := answered (done ++ [.receive]) after ⟨rest, by simp [← split]⟩
              (Runs.run?_concat reached stepped)
            have dropped := Program.dropped_query joined queued busy stepped
            have each := before.each
            have each' := next.each
            omega
    | _ => trivial
  · rintro hears done program ⟨rest, rfl⟩ reached
    have tracked : program.Tracked :=
      hears.left.invariant (fun _ _ _ => Program.Tracked.step) reached
        (Program.tracked_start fresh inner)
    exact tracked.answered

/-- The app comes to the foreground while a link is in flight: the query is dropped, the link
fails, and everything is at rest with the query still pending.
-/
theorem query_lost_during_link
    : let turns : List (Turn UInt8) :=
        [.worker (.dispatcher (.loaded (.error "NotYetRegistered"))), .press ⟨.unnamed, '\x0d'⟩,
          .receive, .focus .unnamed true, .receive,
          .worker (.dispatcher (.linked (.error "timed out"))), .worker .dispatcherDelivers,
          .worker (.dispatcher .linkReturned), .handle .unnamed]
      ∃ program,
        Runs.run? (Program.step .bare (.knowing ⟨1⟩) .oneByte)
          (.start .initial { map := ∅ }) turns = some program
        ∧ program.Idle
        ∧ program.asked = 1
        ∧ program.answered = 0
        ∧ program.app.accountQueryPending = true := by
  refine ⟨_, rfl, ⟨rfl, rfl, rfl, rfl⟩, rfl, rfl, rfl⟩

/-- The same query on a device that is not linking: in every state on the way it waits or is
answered.
-/
theorem account_queries_answered_foreground
    : let turns : List (Turn UInt8) :=
        [.worker (.dispatcher (.loaded (.error "NotYetRegistered"))), .focus .unnamed true,
          .receive, .worker (.dispatcher (.loaded (.error "NotYetRegistered"))),
          .worker .dispatcherDelivers, .handle .unnamed]
      (∃ program,
        Runs.run? (Program.step .bare (.knowing ⟨1⟩) .oneByte)
          (.start .initial { map := ∅ }) turns = some program
        ∧ program.asked = 1)
      ∧ ∀ done program, done <+: turns
          → Runs.run? (Program.step .bare (.knowing ⟨1⟩) .oneByte)
              (.start .initial { map := ∅ }) done = some program
          → program.Answered := by
  refine ⟨⟨_, rfl, rfl⟩, ?_⟩
  apply (account_queries_answered_iff .bare (.knowing ⟨1⟩) .oneByte { map := ∅ } .initial
    .plain _).mpr
  refine ⟨trivial, fun _ loaded => ⟨trivial, fun _ focused => ⟨?_, fun _ _ =>
    ⟨trivial, fun _ _ => ⟨trivial, fun _ _ => ⟨trivial, fun _ _ => trivial⟩⟩⟩⟩⟩⟩
  obtain rfl := Option.some.inj loaded
  obtain rfl := Option.some.inj focused
  exact fun _ => rfl

end XousAppSignal
