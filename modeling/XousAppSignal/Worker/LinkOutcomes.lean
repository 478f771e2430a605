import XousAppSignal.Worker.LinkShape

/-! The outcome of a link attempt. From the moment the dispatcher takes a link up until the
event channel takes the event that tells how it ended, exactly one outcome is to come.
-/

namespace XousAppSignal.Worker

open Store (RecordFormat)

variable {ρ : Type}

/-- The dispatcher still sees to the registration it found at its start. -/
def DispatcherControl.isStartup : DispatcherControl → Bool
  | .loading _ => true
  | .adopting _ => true
  | _ => false

/-- A link whose outcome is not known yet. -/
def DispatcherControl.runsLink : DispatcherControl → Nat
  | .linking _ => 1
  | _ => 0

/-- The outcomes the channel has yet to take. -/
def Dispatcher.outcomesDue (dispatcher : Dispatcher) : Nat :=
  dispatcher.control.runsLink
    + dispatcher.outbox.countP (fun emit => emit.event.isLinkOutcome)

theorem Event.not_linkOutcome_of_fromTask {event : Event} (spoken : event.fromTask = true)
    : event.isLinkOutcome = false := by
  cases event <;> first | rfl | cases spoken

theorem WorkerOp.refused_isLinkOutcome (op : WorkerOp) (reason : String)
    : (op.refused reason).isLinkOutcome = false := by
  cases op <;> rfl

namespace World

theorem outcomesDue_goTo (control : DispatcherControl) (world : World ρ)
    : (world.goTo control).dispatcher.outcomesDue
      = control.runsLink
        + world.dispatcher.outbox.countP (fun emit => emit.event.isLinkOutcome) :=
  rfl

theorem outcomesDue_reply (emit : Emit) (control : DispatcherControl) (world : World ρ)
    : (world.reply emit control).dispatcher.outcomesDue
      = control.runsLink
        + (world.dispatcher.outbox.countP (fun emit => emit.event.isLinkOutcome)
          + if emit.event.isLinkOutcome then 1 else 0) := by
  simp [World.reply, Dispatcher.outcomesDue, List.countP_append, List.countP_cons]

/-- While the link runs nothing but its URL waits to be sent. -/
theorem outcomesDue_linking {world : World ρ} (shape : world.dispatcher.LinkShape)
    {cancelled : Bool} (control : world.dispatcher.control = .linking cancelled)
    : world.dispatcher.outcomesDue = 1
      ∧ world.dispatcher.outbox.countP (fun emit => emit.event.isLinkOutcome) = 0 := by
  have urls : world.dispatcher.outbox.countP (fun emit => emit.event.isLinkOutcome) = 0 := by
    rw [List.countP_eq_zero]
    intro emit waits
    obtain ⟨url, event⟩ := shape.linking cancelled control emit waits
    simp [event, Event.isLinkOutcome]
  exact ⟨by simp [Dispatcher.outcomesDue, control, urls, DispatcherControl.runsLink], urls⟩

/-- A link that waits to send its last event has just that outcome to send. -/
theorem outcomesDue_ending {world : World ρ} (shape : world.dispatcher.LinkShape)
    {cancelled : Bool} {linked : Option AccountInfoData}
    (control : world.dispatcher.control = .linkEnding cancelled linked)
    (waiting : world.dispatcher.outbox ≠ [])
    : world.dispatcher.outcomesDue = 1
      ∧ world.dispatcher.outbox.countP (fun emit => emit.event.isLinkOutcome) = 1 := by
  rcases shape.ending cancelled linked control with none | ⟨emit, one, outcome⟩
  · exact absurd none waiting
  · simp [Dispatcher.outcomesDue, control, one, outcome, DispatcherControl.runsLink]

/-- A step of the dispatcher that neither takes a link up nor belongs to the startup: the
outcomes to come stay what they are.
-/
structure KeepsLink (world after : World ρ) : Prop where
  started : world.dispatcher.control.isStartup = false
  stays : after.dispatcher.control.isStartup = false
  inLink : after.dispatcher.control.inLink = true → world.dispatcher.control.inLink = true
  due : after.dispatcher.outcomesDue = world.dispatcher.outcomesDue

/-- What a step of the dispatcher means for the link attempts. -/
inductive LinkStep (world : World ρ) : DispatcherInput → World ρ → Prop where
  | takenUp (deviceName : String) (after : World ρ)
      (ready : world.dispatcher.control = .ready) (taken : world.dispatcher.outbox = [])
      (started : after.dispatcher.control.isStartup = false)
      (due : after.dispatcher.outcomesDue = 1)
      : LinkStep world (.cmd (.linkDevice deviceName)) after
  | startup {input : DispatcherInput} (after : World ρ)
      (loading : world.dispatcher.control.isStartup = true)
      (free : after.dispatcher.control.inLink = false)
      : LinkStep world input after
  | kept {input : DispatcherInput} (after : World ρ) (keeps : KeepsLink world after)
      (busy : world.dispatcher.control = .ready → ∀ name, input ≠ .cmd (.linkDevice name))
      : LinkStep world input after

theorem runsLink_free {control : DispatcherControl} (free : control.inLink = false)
    : control.runsLink = 0 := by
  cases control <;> first | rfl | cases free

theorem KeepsLink.goTo {world source : World ρ}
    (same : source.dispatcher.outbox = world.dispatcher.outbox)
    (started : world.dispatcher.control.isStartup = false)
    (free : world.dispatcher.control.inLink = false) {control : DispatcherControl}
    (stays : control.isStartup = false) (next : control.inLink = false)
    : KeepsLink world (source.goTo control) where
  started := started
  stays := stays
  inLink := fun inLink => absurd (next.symm.trans inLink) (by simp)
  due := by
    rw [outcomesDue_goTo, same, runsLink_free next, Dispatcher.outcomesDue, runsLink_free free]

theorem KeepsLink.reply {world source : World ρ}
    (same : source.dispatcher.outbox = world.dispatcher.outbox)
    (started : world.dispatcher.control.isStartup = false)
    (free : world.dispatcher.control.inLink = false) {emit : Emit}
    (notice : emit.event.isLinkOutcome = false) {control : DispatcherControl}
    (stays : control.isStartup = false) (next : control.inLink = false)
    : KeepsLink world (source.reply emit control) where
  started := started
  stays := stays
  inLink := fun inLink => absurd (next.symm.trans inLink) (by simp)
  due := by
    rw [outcomesDue_reply, same, runsLink_free next, Dispatcher.outcomesDue, runsLink_free free,
      notice]
    simp

/-- A command in the main loop: only `LinkDevice` takes a link up. -/
theorem Handled.linkStep {world after : World ρ} {cmd : Cmd} (handled : Handled world cmd after)
    (ready : world.dispatcher.control = .ready) (taken : world.dispatcher.outbox = [])
    : LinkStep world (.cmd cmd) after := by
  have started : world.dispatcher.control.isStartup = false := by rw [ready]; rfl
  have free : world.dispatcher.control.inLink = false := by rw [ready]; rfl
  have other {cmd : Cmd} {op : WorkerOp} (carried : cmd.op? = some op) (name : String)
      : DispatcherInput.cmd cmd ≠ .cmd (.linkDevice name) := by
    rintro ⟨⟩
    cases carried
  cases handled with
  | linkRefused deviceName =>
      refine .takenUp deviceName _ ready taken rfl ?_
      simp [outcomesDue_reply, taken, DispatcherControl.runsLink, Event.isLinkOutcome]
  | linkStarted deviceName =>
      refine .takenUp deviceName _ ready taken rfl ?_
      simp [outcomesDue_goTo, taken, DispatcherControl.runsLink]
  | nothingToCancel =>
      exact .kept _ ⟨started, started, fun inLink => inLink, rfl⟩ (by simp)
  | opRefused cmd op carried =>
      exact .kept _ (.reply rfl started free (op.refused_isLinkOutcome _) rfl rfl)
        (fun _ => other carried)
  | opForwarded cmd op carried =>
      exact .kept _ (.goTo rfl started free rfl rfl) (fun _ => other carried)
  | greeted | accountCached info | stopping =>
      exact .kept _ (.reply rfl started free rfl rfl rfl) (by simp)
  | asksWhoami | accountAsked => exact .kept _ (.goTo rfl started free rfl rfl) (by simp)
  | loggedOut => exact .kept _ (.reply (by rfl) started free rfl rfl rfl) (by simp)

/-- A command during a link leaves its outcome to come. -/
theorem keepsLink_linkingCmd {world : World ρ} {control : Bool → DispatcherControl}
    {cancelled : Bool} (current : world.dispatcher.control = control cancelled)
    (inLink : ∀ cancelled, (control cancelled).inLink = true)
    (same : ∀ cancelled cancelled', (control cancelled).runsLink = (control cancelled').runsLink)
    {cmd : Cmd} (other : cmd ≠ .shutdown)
    : KeepsLink world (world.linkingCmd control cancelled cmd) := by
  have started (cancelled : Bool) : (control cancelled).isStartup = false := by
    have inLink := inLink cancelled
    cases kind : control cancelled <;> rw [kind] at inLink <;> first | rfl | cases inLink
  have moved (cancelled' : Bool) : KeepsLink world (world.goTo (control cancelled')) := by
    refine ⟨current ▸ started cancelled, started cancelled',
      fun _ => current ▸ inLink cancelled, ?_⟩
    rw [outcomesDue_goTo, Dispatcher.outcomesDue, current, same cancelled' cancelled]
  cases cmd with
  | shutdown => exact absurd rfl other
  | linkCancel => exact moved true
  | _ => exact moved cancelled

/-- Every step of the dispatcher is one of the three kinds. -/
theorem Dispatched.linkStep {world after : World ρ} {input : DispatcherInput}
    (dispatched : Dispatched world input after) (shape : world.dispatcher.LinkShape)
    (keeps : (WorldInput.dispatcher input : WorldInput ρ).keepsServing = true)
    : LinkStep world input after := by
  have away {control : DispatcherControl} (current : world.dispatcher.control = control)
      (other : control ≠ .ready) (name : String)
      (ready : world.dispatcher.control = .ready)
      : input ≠ .cmd (.linkDevice name) :=
    absurd (current.symm.trans ready) other
  cases dispatched with
  | commandWhileLinking cancelled cmd control =>
      refine .kept _ (keepsLink_linkingCmd control (fun _ => rfl) (fun _ _ => rfl) ?_)
        (fun ready name => away control (by simp) name ready)
      rintro rfl
      cases keeps
  | commandWhileEnding cancelled linked cmd control =>
      refine .kept _ (keepsLink_linkingCmd control (fun _ => rfl) (fun _ _ => rfl) ?_)
        (fun ready name => away control (by simp) name ready)
      rintro rfl
      cases keeps
  | closed => cases keeps
  | cancelledWhileLinking control =>
      refine .kept _ ⟨by rw [control]; rfl, rfl, fun _ => by rw [control]; rfl, ?_⟩ (by simp)
      rw [(outcomesDue_linking shape control).1]
      rfl
  | cancelledWhileEnding linked control waiting =>
      refine .kept _ ⟨by rw [control]; rfl, rfl, fun _ => by rw [control]; rfl, ?_⟩ (by simp)
      rw [(outcomesDue_ending shape control waiting).1]
      rfl
  | registrationLoaded attempts result control =>
      exact .startup _ (by rw [control]; rfl) (inLink_registrationLoaded _ _ world)
  | adopted info control => exact .startup _ (by rw [control]; rfl) rfl
  | command cmd control taken => exact (handleCmd_cases cmd world).linkStep control taken
  | whoami answer control =>
      exact .kept _ (.reply rfl (by rw [control]; rfl) (by rw [control]; rfl) rfl rfl rfl)
        (by simp)
  | accountInfoLoaded result control =>
      refine .kept _ ?_ (by simp)
      cases result with
      | error message =>
          exact .reply rfl (by rw [control]; rfl) (by rw [control]; rfl) rfl rfl rfl
      | ok info =>
          simp only [World.accountInfoLoaded]
          split
          all_goals
            exact .reply (by rfl) (by rw [control]; rfl) (by rw [control]; rfl) rfl rfl rfl
  | forwarded op after control taken forwarded =>
      refine .kept _ ?_ (by simp)
      rcases forward_cases forwarded with rfl | ⟨index, rfl⟩
      · exact .reply (by rfl) (by rw [control]; rfl) (by rw [control]; rfl)
          (op.refused_isLinkOutcome _) rfl rfl
      · exact .goTo (by rfl) (by rw [control]; rfl) (by rw [control]; rfl) rfl rfl
  | linkUrl cancelled url control taken =>
      refine .kept _ ⟨by rw [control]; rfl, rfl, fun _ => by rw [control]; rfl, ?_⟩ (by simp)
      rw [(outcomesDue_linking shape control).1, outcomesDue_reply, taken]
      rfl
  | linkEnded cancelled result control taken =>
      have due : (world.linkEnded cancelled result).dispatcher.outcomesDue = 1 := by
        cases result <;> simp [World.linkEnded, outcomesDue_reply, taken,
          DispatcherControl.runsLink, Event.isLinkOutcome]
      refine .kept _ ⟨by rw [control]; rfl, ?_, fun _ => by rw [control]; rfl, ?_⟩ (by simp)
      · cases result <;> rfl
      · rw [due, (outcomesDue_linking shape control).1]
  | linkReturned cancelled linked control taken =>
      have none : world.dispatcher.outcomesDue = 0 := by
        simp [Dispatcher.outcomesDue, control, taken, DispatcherControl.runsLink]
      refine .kept _ ⟨by rw [control]; rfl, ?_, fun _ => by rw [control]; rfl, ?_⟩ (by simp)
      · cases linked <;> rfl
      · rw [none]
        cases linked <;> simp [World.linkReturned, Dispatcher.outcomesDue, adopt,
          spawnManagerTask, dropOps, World.goTo, taken, DispatcherControl.runsLink]
  | stopped control =>
      exact .kept _ (.goTo rfl (by rw [control]; rfl) (by rw [control]; rfl) rfl rfl) (by simp)

/-- A turn the worker takes by itself outside its startup: an outcome it sends is no longer
due, and it takes no link up.
-/
structure SendsOutcomes (world after : World ρ) (sent : List Event) : Prop where
  started : world.dispatcher.control.isStartup = false
  stays : after.dispatcher.control.isStartup = false
  inLink : after.dispatcher.control.inLink = true → world.dispatcher.control.inLink = true
  due
    : after.dispatcher.outcomesDue + sent.countP Event.isLinkOutcome
        = world.dispatcher.outcomesDue

/-- Every turn of the worker by itself is part of its startup or sends what is due. -/
theorem Stepped.outcomes {platform : Platform} {format : RecordFormat ρ}
    {world after : World ρ} {input : WorldInput ρ} {sent : List Event}
    (stepped : Stepped platform format world input after) (serving : Serving world)
    (own : ∀ cmd, input ≠ .dispatcher (.cmd cmd)) (keeps : input.keepsServing = true)
    (log : after.log = world.log ++ sent)
    : world.dispatcher.control.isStartup = true ∧ after.dispatcher.control.inLink = false
      ∨ SendsOutcomes world after sent := by
  have free (startup : world.dispatcher.control.isStartup = true)
      : world.dispatcher.control.inLink = false := by
    cases control : world.dispatcher.control <;> rw [control] at startup <;>
      first | rfl | cases startup
  have silent (unsent : after.log = world.log) : sent = [] := by
    rw [unsent] at log
    simpa using log
  have still (same : after.dispatcher.control = world.dispatcher.control)
      (due : after.dispatcher.outcomesDue + sent.countP Event.isLinkOutcome
        = world.dispatcher.outcomesDue)
      : world.dispatcher.control.isStartup = true ∧ after.dispatcher.control.inLink = false
        ∨ SendsOutcomes world after sent := by
    cases startup : world.dispatcher.control.isStartup with
    | true => exact .inl ⟨rfl, same ▸ free startup⟩
    | false => exact .inr ⟨startup, same ▸ startup, fun inLink => same ▸ inLink, due⟩
  cases stepped with
  | dispatched dispatched =>
      cases dispatched.linkStep serving.shape keeps with
      | takenUp deviceName => exact absurd rfl (own _)
      | startup _ startup free => exact .inl ⟨startup, free⟩
      | kept _ kept =>
          refine .inr ⟨kept.started, kept.stays, kept.inLink, ?_⟩
          rw [silent dispatched.channel.log, kept.due]
          rfl
  | delivered first rest queued =>
      obtain rfl : [first.event] = sent := List.append_cancel_left log
      refine still rfl ?_
      simp only [Dispatcher.outcomesDue, queued, List.countP_cons, List.countP_nil]
      omega
  | dropped first rest queued closed | hungUp first rest queued closed =>
      rw [serving.isOpen] at closed
      cases closed
  | managerDelivered index manager event task found taken =>
      obtain rfl : event.toList = sent := List.append_cancel_left log
      have spoken := (Task.deliver_speaks taken
        (serving.speaks manager (List.mem_of_getElem? found))).1
      refine still rfl ?_
      have none : event.toList.countP Event.isLinkOutcome = 0 := by
        rw [List.countP_eq_zero]
        intro sent listed
        simp [Event.not_linkOutcome_of_fromTask (spoken sent (Option.mem_toList.mp listed))]
      rw [none]
      rfl
  | advanced | library =>
      refine still rfl ?_
      rw [silent rfl]
      rfl
  | uiGone => cases keeps

end World

end XousAppSignal.Worker
