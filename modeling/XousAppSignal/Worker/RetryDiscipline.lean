import XousAppSignal.Worker.ReceiveLoop
import XousAppSignal.Worker.TaskExits

/-! How the receive loop retries: one banner for an outage, a limit on failures in a row, one
last event when it gives up, and a single announcement that it is listening.
-/

namespace XousAppSignal.Worker

/-- The text of the error after which the task gives up. -/
def isGiveUp (text : String) : Bool :=
  "receive failed ".toList.isPrefixOf text.toList
    && "; restart xas to retry".toList.isSuffixOf text.toList

/-- The banner of an outage: an error after which the task goes on. -/
def Note.isBanner : Note → Bool
  | .emitted (.receiveError text) => !isGiveUp text
  | _ => false

/-- The last words of a loop that gives up. -/
def Note.isTerminal : Note → Bool
  | .emitted (.receiveError text) => isGiveUp text
  | .emitted (.signalConflictingDevice _) => true
  | .emitted (.signalAuthExpired _) => true
  | _ => false

def Note.isItem : Note → Bool
  | .item => true
  | _ => false

/-- A failed open or an ended stream. -/
def Note.isFailure : Note → Bool
  | .openFailed _ _ => true
  | .ended _ => true
  | _ => false

def Note.isStarted : Note → Bool
  | .emitted .receiveStarted => true
  | _ => false

def failuresSinceItem (notes : List Note) : Nat :=
  (Histories.sinceLast Note.isItem notes).countP Note.isFailure

theorem isGiveUp_gaveUpText (failures : Nat) : isGiveUp (gaveUpText failures) = true := by
  have split : (gaveUpText failures).toList
      = "receive failed ".toList ++ (toString failures).toList
        ++ (" times".toList ++ "; restart xas to retry".toList) := by
    unfold gaveUpText
    rw [String.toList_append, String.toList_append]
    rfl
  rw [isGiveUp, Bool.and_eq_true, List.isPrefixOf_iff_prefix, List.isSuffixOf_iff_suffix]
  exact ⟨⟨_, (List.append_assoc ..).symm.trans split.symm⟩,
    ⟨_, (List.append_assoc ..).trans split.symm⟩⟩

/-- The two texts differ in their eighth character. -/
theorem isGiveUp_openFailed (err : String) : isGiveUp ("receive_messages: " ++ err) = false := by
  rw [isGiveUp, String.toList_append]
  rfl

/-- The two texts differ in their last character. -/
theorem isGiveUp_streamEnded (reason : String)
    : isGiveUp ("receive " ++ reason ++ " (auto-retrying)") = false := by
  rw [isGiveUp, Bool.and_eq_false_iff]
  right
  rw [← Bool.not_eq_true, List.isSuffixOf_iff_suffix]
  have nonempty : "; restart xas to retry".toList ≠ [] := List.cons_ne_nil ';' _
  have nonempty' : " (auto-retrying)".toList ≠ [] := List.cons_ne_nil ' ' _
  have restart : "; restart xas to retry".toList.getLast? = some 'y' := rfl
  have retrying : " (auto-retrying)".toList.getLast? = some ')' := rfl
  intro ⟨front, same⟩
  have last := congrArg List.getLast? same
  rw [String.toList_append, List.getLast?_append_of_ne_nil front nonempty,
    List.getLast?_append_of_ne_nil _ nonempty', restart, retrying] at last
  exact absurd last (by decide)

/-! Failures since the last item -/

theorem failuresSinceItem_append {notes noted : List Note}
    (noItem : ∀ note ∈ noted, note.isItem = false)
    : failuresSinceItem (notes ++ noted)
      = failuresSinceItem notes + noted.countP Note.isFailure := by
  rw [failuresSinceItem, Histories.sinceLast_append noItem, List.countP_append,
    failuresSinceItem]

/-- The counter is the number of failures since the last item, and `receive_messages` is
called only while it is below the limit. A stream end is counted a little later.
-/
structure Limited (loop : LoopState) (notes : List Note) : Prop where
  counted
    : failuresSinceItem notes
      = loop.consecutiveFailures + if loop.stage = .ending then 1 else 0
  called
    : Histories.Preceded (· = .called)
        (fun before => failuresSinceItem before < maxConsecutiveFailures) notes

theorem limited_start : Limited ({} : Watch).loop [] :=
  ⟨rfl, Histories.preceded_nil _ _⟩

theorem Limited.append {loop next : LoopState} {notes noted : List Note}
    (limited : Limited loop notes) (failures : Nat)
    (plain : ∀ note ∈ noted, note.isItem = false ∧ note ≠ .called)
    (noted_failures : noted.countP Note.isFailure = failures)
    (counted
      : (loop.consecutiveFailures + if loop.stage = .ending then 1 else 0) + failures
        = next.consecutiveFailures + if next.stage = .ending then 1 else 0)
    : Limited next (notes ++ noted) := by
  refine ⟨?_, limited.called.append fun note listed => (plain note listed).2⟩
  rw [failuresSinceItem_append fun note listed => (plain note listed).1, limited.counted,
    noted_failures, counted]

/-- An event is no item, call or failure. -/
theorem emitted_plain (event : Event)
    : (Note.emitted event).isItem = false ∧ Note.emitted event ≠ .called :=
  ⟨rfl, Note.noConfusion⟩

theorem openFailed_plain {err : String} {closeCode : Option Nat} {rest : List Note}
    (plain : ∀ note ∈ rest, note.isItem = false ∧ note ≠ .called)
    : ∀ note ∈ .openFailed err closeCode :: rest, note.isItem = false ∧ note ≠ .called :=
  List.forall_mem_cons.mpr ⟨⟨rfl, Note.noConfusion⟩, plain⟩

theorem countP_banner {mark : Note → Bool}
    (unmarked : ∀ reason, mark (.emitted (.receiveError reason)) = false) {failures : Nat}
    {reason : String}
    : (banner failures reason).countP mark = 0 :=
  List.countP_eq_zero.mpr (banner_all fun reason => by simp [unmarked reason])

theorem Limited.step {loop next : LoopState} {notes noted : List Note}
    (limited : Limited loop notes) (moved : LoopStep loop noted next)
    : Limited next (notes ++ noted) := by
  have banners {failures : Nat} {reason : String}
      : ∀ note ∈ banner failures reason, note.isItem = false ∧ note ≠ .called :=
    banner_all fun reason => emitted_plain (.receiveError reason)
  have silent {failures : Nat} {reason : String}
      : (banner failures reason).countP Note.isFailure = 0 :=
    countP_banner fun _ => rfl
  have single (event : Event)
      : ∀ note ∈ [Note.emitted event], note.isItem = false ∧ note ≠ .called :=
    List.forall_mem_singleton.mpr (emitted_plain event)
  cases moved with
  | quiet => simpa using limited
  | called running room =>
      have below : failuresSinceItem notes < maxConsecutiveFailures := by
        simpa [limited.counted, running] using room
      refine ⟨?_, Histories.preceded_concat.mpr ⟨limited.called, fun _ => below⟩⟩
      rw [failuresSinceItem_append (by simp [Note.isItem]), limited.counted]
      simp [running, Note.isFailure]
  | opened calling =>
      refine limited.append 0 ?_ ?_ (by simp [calling])
      · exact List.forall_mem_cons.mpr
          ⟨⟨rfl, Note.noConfusion⟩, greeting_all (emitted_plain _)⟩
      · exact List.countP_eq_zero.mpr
          (List.forall_mem_cons.mpr ⟨Bool.false_ne_true, greeting_all Bool.false_ne_true⟩)
  | displaced err reason calling =>
      exact limited.append 1 (openFailed_plain (single _)) rfl
        (by simp [calling])
  | expired err reason closeCode calling reauth spent =>
      exact limited.append 1 (openFailed_plain (single _)) rfl
        (by simp [calling])
  | refused err closeCode calling reauth unspent =>
      refine limited.append 1 (openFailed_plain banners) ?_ (by simp [calling])
      rw [List.countP_cons, silent]
      rfl
  | failed err closeCode calling undisplaced other =>
      refine limited.append 1 (openFailed_plain banners) ?_ (by simp [calling])
      rw [List.countP_cons, silent]
      rfl
  | item running =>
      refine ⟨?_, limited.called.append (by simp)⟩
      simp [failuresSinceItem, Note.isItem]
  | ended closeCode running =>
      exact limited.append 1 (by simp [Note.isItem]) rfl (by simp [running])
  | counted reason ending =>
      exact limited.append 0 banners silent (by simp [ending])
  | gaveUp running spent =>
      exact limited.append 0 (single _) rfl (by simp [running])
  | parkedClosed running | pumpedClosed running =>
      exact limited.append 0 (by simp [Note.isItem]) rfl (by simp [running])
  | closed closing => exact limited.append 0 (by simp) rfl (by simp [closing])

/-! Banners since the last item -/

def bannersSinceItem (notes : List Note) : Nat :=
  (Histories.sinceLast Note.isItem notes).countP Note.isBanner

theorem bannersSinceItem_append {notes noted : List Note}
    (plain : ∀ note ∈ noted, note.isItem = false ∧ note.isBanner = false)
    : bannersSinceItem (notes ++ noted) = bannersSinceItem notes := by
  have none : noted.countP Note.isBanner = 0 :=
    List.countP_eq_zero.mpr fun note listed => by simp [(plain note listed).2]
  rw [bannersSinceItem, Histories.sinceLast_append fun note listed => (plain note listed).1,
    List.countP_append, none, bannersSinceItem, Nat.add_zero]

/-- While no failure is counted there was no banner since the last item, and a banner finds
none since then.
-/
structure Spaced (loop : LoopState) (notes : List Note) : Prop where
  fresh : loop.consecutiveFailures = 0 → bannersSinceItem notes = 0
  spaced
    : Histories.Preceded (Note.isBanner · = true) (bannersSinceItem · = 0) notes

theorem spaced_start {loop : LoopState} : Spaced loop [] :=
  ⟨fun _ => rfl, Histories.preceded_nil _ _⟩

theorem Spaced.append {loop next : LoopState} {notes noted : List Note}
    (spaced : Spaced loop notes)
    (plain : ∀ note ∈ noted, note.isItem = false ∧ note.isBanner = false)
    (counts : next.consecutiveFailures = 0 → loop.consecutiveFailures = 0)
    : Spaced next (notes ++ noted) := by
  refine ⟨fun zero => ?_, spaced.spaced.append fun note listed => by simp [(plain note listed).2]⟩
  rw [bannersSinceItem_append plain]
  exact spaced.fresh (counts zero)

/-- A banner is shown when the counter has just become one. -/
theorem Spaced.banner {loop next : LoopState} {notes : List Note} {reason : String}
    (spaced : Spaced loop notes)
    (counts : next.consecutiveFailures = loop.consecutiveFailures + 1)
    : Spaced next (notes ++ Worker.banner (loop.consecutiveFailures + 1) reason) := by
  refine ⟨fun zero => ?_, ?_⟩
  · omega
  · unfold Worker.banner
    split
    · next first =>
        have none : bannersSinceItem notes = 0 := spaced.fresh (by omega)
        exact Histories.preceded_concat.mpr ⟨spaced.spaced, fun _ => none⟩
    · simpa using spaced.spaced

theorem Spaced.step {loop next : LoopState} {notes noted : List Note}
    (spaced : Spaced loop notes) (moved : LoopStep loop noted next)
    : Spaced next (notes ++ noted) := by
  have failedOpen {err reason : String} {closeCode : Option Nat}
      (counts : next.consecutiveFailures = loop.consecutiveFailures + 1)
      : Spaced next (notes ++ .openFailed err closeCode
          :: Worker.banner (loop.consecutiveFailures + 1) reason) := by
    have failed : Spaced loop (notes ++ [.openFailed err closeCode]) :=
      spaced.append (List.forall_mem_singleton.mpr ⟨rfl, rfl⟩) id
    rw [List.append_cons]
    exact failed.banner counts
  cases moved with
  | quiet => simpa using spaced
  | opened calling =>
      exact spaced.append (List.forall_mem_cons.mpr ⟨⟨rfl, rfl⟩, greeting_all ⟨rfl, rfl⟩⟩) id
  | displaced err reason calling =>
      exact spaced.append (by simp [Note.isItem, Note.isBanner]) (by simp)
  | expired err reason closeCode calling reauth spent =>
      exact spaced.append (by simp [Note.isItem, Note.isBanner]) (by simp)
  | refused err closeCode calling reauth unspent => exact failedOpen rfl
  | failed err closeCode calling undisplaced other => exact failedOpen rfl
  | item running =>
      refine ⟨fun _ => ?_, spaced.spaced.append (by simp [Note.isBanner])⟩
      simp [bannersSinceItem, Note.isItem]
  | counted reason ending => exact spaced.banner rfl
  | gaveUp running spent =>
      have final : (Note.emitted (.receiveError (gaveUpText loop.consecutiveFailures))).isBanner
          = false := by
        simp [Note.isBanner, isGiveUp_gaveUpText]
      exact spaced.append (List.forall_mem_singleton.mpr ⟨rfl, final⟩) id
  | _ => exact spaced.append (by simp [Note.isItem, Note.isBanner]) id

/-! The announcement -/

theorem LoopStep.announces {loop next : LoopState} {noted : List Note}
    (moved : LoopStep loop noted next)
    : noted.countP Note.isStarted + (if loop.announced then 1 else 0)
      = if next.announced then 1 else 0 := by
  have silent {failures : Nat} {reason : String}
      : (banner failures reason).countP Note.isStarted = 0 :=
    countP_banner fun _ => rfl
  cases moved with
  | opened calling =>
      cases announced : loop.announced <;> simp [greeting, Note.isStarted]
  | refused => simp [silent, Note.isStarted]
  | failed => simp [silent, Note.isStarted]
  | counted => simp [silent]
  | _ => simp [Note.isStarted]

/-! Leaving -/

/-- A loop that goes on has said no last words; one that is over was shut down by its op
channel, or has said them once and nothing since.
-/
inductive Ending (stage : Stage) (notes : List Note) : Prop where
  | going (stays : stage ≠ .over) (silent : ∀ note ∈ notes, note.isTerminal = false)
      (channel : .opsClosed ∈ notes ↔ stage = .closing)
  | shutDown (ended : stage = .over) (silent : ∀ note ∈ notes, note.isTerminal = false)
      (channel : .opsClosed ∈ notes)
  | gaveUp (ended : stage = .over) (earlier : List Note) (last : Note)
      (split : notes = earlier ++ [last]) (terminal : last.isTerminal = true)
      (silent : ∀ note ∈ earlier, note.isTerminal = false) (channel : .opsClosed ∉ notes)

theorem ending_start : Ending ({} : Watch).loop.stage [] :=
  .going (fun ended => by cases ended) (by simp)
    ⟨fun listed => (List.not_mem_nil listed).elim, fun closing => by cases closing⟩

/-- Notes that say no last words and do not shut the loop down. -/
def Note.goesOn (note : Note) : Prop := note.isTerminal = false ∧ note ≠ .opsClosed

/-- The loop goes on. -/
theorem Ending.goOn {stage next : Stage} {notes noted : List Note}
    (ending : Ending stage notes) (stays : stage ≠ .over) (running : next ≠ .over)
    (same : next = .closing ↔ stage = .closing) (plain : ∀ note ∈ noted, note.goesOn)
    : Ending next (notes ++ noted) := by
  cases ending with
  | shutDown ended => exact absurd ended stays
  | gaveUp ended => exact absurd ended stays
  | going _ silent channel =>
      refine .going running ?_ ?_
      · exact List.forall_mem_append.mpr ⟨silent, fun note listed => (plain note listed).1⟩
      · have none : .opsClosed ∉ noted := fun listed => (plain _ listed).2 rfl
        rw [List.mem_append, or_iff_left none, channel, same]

/-- The loop says its last words. -/
theorem Ending.say {stage : Stage} {notes : List Note} {last : Note}
    (ending : Ending stage notes) (before : List Note) (stays : stage ≠ .over)
    (running : stage ≠ .closing) (plain : ∀ note ∈ before, note.goesOn)
    (terminal : last.isTerminal = true)
    : Ending .over (notes ++ (before ++ [last])) := by
  cases ending with
  | shutDown ended => exact absurd ended stays
  | gaveUp ended => exact absurd ended stays
  | going _ silent channel =>
      refine .gaveUp rfl (notes ++ before) last (List.append_assoc ..).symm terminal ?_ ?_
      · exact List.forall_mem_append.mpr ⟨silent, fun note listed => (plain note listed).1⟩
      · intro listed
        rcases List.mem_append.mp listed with old | new
        · exact running (channel.mp old)
        · rcases List.mem_append.mp new with here | final
          · exact (plain _ here).2 rfl
          · obtain rfl := List.mem_singleton.mp final
            cases terminal

theorem Ending.step {loop next : LoopState} {notes noted : List Note}
    (ending : Ending loop.stage notes) (moved : LoopStep loop noted next)
    : Ending next.stage (notes ++ noted) := by
  have banners {failures : Nat} {reason : String} (other : isGiveUp reason = false)
      : ∀ note ∈ banner failures reason, note.goesOn := by
    intro note listed
    unfold banner at listed
    split at listed
    · obtain rfl := List.mem_singleton.mp listed
      exact ⟨other, Note.noConfusion⟩
    · cases listed
  have failed (err : String) (closeCode : Option Nat)
      : (Note.openFailed err closeCode).goesOn :=
    ⟨rfl, Note.noConfusion⟩
  cases moved with
  | quiet => simpa using ending
  | called running room =>
      exact ending.goOn (by simp [running]) (by simp) (by simp [running])
        (List.forall_mem_singleton.mpr ⟨rfl, Note.noConfusion⟩)
  | opened calling =>
      exact ending.goOn (by simp [calling]) (by simp) (by simp [calling])
        (List.forall_mem_cons.mpr
          ⟨⟨rfl, Note.noConfusion⟩, greeting_all ⟨rfl, Note.noConfusion⟩⟩)
  | displaced err reason calling =>
      exact ending.say [.openFailed err (some 4409)] (by simp [calling])
        (by simp [calling]) (List.forall_mem_singleton.mpr (failed err _)) rfl
  | expired err reason closeCode calling reauth spent =>
      exact ending.say [.openFailed err closeCode] (by simp [calling])
        (by simp [calling]) (List.forall_mem_singleton.mpr (failed err _)) rfl
  | refused err closeCode calling reauth unspent =>
      exact ending.goOn (by simp [calling]) (by simp) (by simp [calling])
        (List.forall_mem_cons.mpr ⟨failed err _, banners (isGiveUp_openFailed err)⟩)
  | failed err closeCode calling undisplaced other =>
      exact ending.goOn (by simp [calling]) (by simp) (by simp [calling])
        (List.forall_mem_cons.mpr ⟨failed err _, banners (isGiveUp_openFailed err)⟩)
  | item running =>
      exact ending.goOn (by simp [running]) (by simp) (by simp [running])
        (List.forall_mem_singleton.mpr ⟨rfl, Note.noConfusion⟩)
  | ended closeCode running =>
      exact ending.goOn (by simp [running]) (by simp) (by simp [running])
        (List.forall_mem_singleton.mpr ⟨rfl, Note.noConfusion⟩)
  | counted reason counting =>
      exact ending.goOn (by simp [counting]) (by simp) (by simp [counting])
        (banners (isGiveUp_streamEnded reason))
  | gaveUp running spent =>
      exact ending.say [] (by simp [running]) (by simp [running]) (by simp)
        (isGiveUp_gaveUpText loop.consecutiveFailures)
  | parkedClosed running =>
      cases ending with
      | shutDown ended | gaveUp ended => simp [running] at ended
      | going _ silent channel =>
          exact .shutDown rfl
            (List.forall_mem_append.mpr ⟨silent, List.forall_mem_singleton.mpr rfl⟩) (by simp)
  | pumpedClosed running =>
      cases ending with
      | shutDown ended | gaveUp ended => simp [running] at ended
      | going _ silent channel =>
          exact .going (by simp)
            (List.forall_mem_append.mpr ⟨silent, List.forall_mem_singleton.mpr rfl⟩) (by simp)
  | closed closing =>
      cases ending with
      | shutDown ended | gaveUp ended => simp [closing] at ended
      | going _ silent channel =>
          exact .shutDown rfl (by simpa using silent) (by simpa using channel.mpr closing)

/-! Runs -/

/-- The receive loop's discipline, for a task with its notes. -/
structure Disciplined (watch : Watch) : Prop where
  limited : Limited watch.loop watch.notes
  spaced : Spaced watch.loop watch.notes
  started : watch.notes.countP Note.isStarted = if watch.loop.announced then 1 else 0
  ending : Ending watch.loop.stage watch.notes
  delivers : watch.Delivers
  sent : watch.manager.task.hasExited = true → watch.manager.task.outbox = []

theorem disciplined_start : Disciplined {} :=
  ⟨limited_start, spaced_start, rfl, ending_start, rfl, fun _ => rfl⟩

/-- The task returns only after its last event was taken. -/
theorem outbox_of_hasExited {platform : Platform} {manager after : Manager}
    {input : ManagerInput} (channel : input ≠ .deliver false)
    (stepped : manager.step platform input = some after)
    (sent : manager.task.hasExited = true → manager.task.outbox = [])
    (exited : after.task.hasExited = true)
    : after.task.outbox = [] := by
  cases input with
  | accept op =>
      simp only [Manager.step] at stepped
      split at stepped
      · cases stepped
        exact sent exited
      · cases stepped
  | dropSender =>
      cases stepped
      exact sent exited
  | advance input =>
      obtain ⟨task, advanced, rfl⟩ := Option.map_eq_some_iff.mp stepped
      simp only [Task.step, List.isEmpty_iff] at advanced
      split at advanced
      · next taken =>
          obtain ⟨-, -, rfl⟩ := Task.advance_exits advanced exited
          exact taken
      · cases advanced
  | deliver isOpen =>
      cases isOpen with
      | false => exact absurd rfl channel
      | true =>
          obtain ⟨⟨event, next⟩, delivered, rfl⟩ := Option.map_eq_some_iff.mp stepped
          obtain ⟨⟨event', task⟩, taken, same⟩ := Option.map_eq_some_iff.mp delivered
          cases same
          unfold Task.deliver at taken
          split at taken
          · cases taken
          · next first rest queued =>
              cases taken
              exact absurd (sent exited) (by simp [queued])

theorem Disciplined.step {platform : Platform} {watch after : Watch}
    {input : ManagerInput × Option Nat} (disciplined : Disciplined watch)
    (channel : input.1 ≠ .deliver false) (stepped : watch.step platform input = some after)
    : Disciplined after := by
  obtain ⟨notes, moved | ⟨closed, -, -⟩⟩ := Watch.step_cases stepped
  · have delivers := disciplined.delivers.step channel stepped
    have announces := moved.announces
    obtain ⟨manager, advanced, same⟩ := Option.map_eq_some_iff.mp stepped
    have sent : after.manager.task.hasExited = true → after.manager.task.outbox = [] := by
      rw [← same]
      exact outbox_of_hasExited channel advanced disciplined.sent
    refine ⟨?_, ?_, ?_, ?_, delivers, sent⟩
    · exact notes ▸ disciplined.limited.step moved
    · exact notes ▸ disciplined.spaced.step moved
    · rw [notes, List.countP_append, disciplined.started]
      omega
    · exact notes ▸ disciplined.ending.step moved
  · exact absurd closed channel

/-- Every run with the event channel open. -/
theorem Disciplined.run {platform : Platform} {start watch : Watch}
    {inputs : List (ManagerInput × Option Nat)} (disciplined : Disciplined start)
    (reached : Runs.run? (Watch.step platform) start inputs = some watch)
    (channelOpen : ∀ input ∈ inputs, input.1 ≠ .deliver false)
    : Disciplined watch := by
  refine Runs.run?_keeps (fun input listed state next stepped kept => ?_) reached disciplined
  exact kept.step (channelOpen input listed) stepped

/-- A task that has returned is over. -/
theorem stage_of_hasExited {task : Task} (exited : task.hasExited = true)
    : task.loop.stage = .over := by
  unfold Task.hasExited at exited
  split at exited
  · next ended => rw [Task.loop, ended]; rfl
  · cases exited

/-- In every run of the task with the event channel open, of the loop's own events, which are
sent as they are noted: two banners have an item between them; `receive_messages` is called
only while fewer than twenty failures have followed the last item; a task that returns
without its op channel having closed has said its last words once and nothing since; and it
announces at most once that it is listening.
-/
theorem retry_discipline (platform : Platform) (inputs : List (ManagerInput × Option Nat))
    (watch : Watch) (reached : Runs.run? (Watch.step platform) {} inputs = some watch)
    (channelOpen : ∀ input ∈ inputs, input.1 ≠ .deliver false)
    : watch.Delivers
      ∧ (∀ before first between second later,
          watch.notes = before ++ first :: between ++ second :: later
            → first.isBanner = true → second.isBanner = true → .item ∈ between)
      ∧ (∀ before later, watch.notes = before ++ .called :: later
          → failuresSinceItem before < 20)
      ∧ (watch.manager.task.hasExited = true → .opsClosed ∉ watch.notes
          → watch.manager.task.outbox = []
            ∧ ∃ earlier last, watch.notes = earlier ++ [last] ∧ last.isTerminal = true
              ∧ ∀ note ∈ earlier, note.isTerminal = false)
      ∧ watch.notes.countP Note.isStarted ≤ 1 := by
  have disciplined := disciplined_start.run reached channelOpen
  refine ⟨disciplined.delivers, ?_, ?_, ?_, ?_⟩
  · intro before first between second later split firstBanner secondBanner
    have stays : first.isItem = false := by
      cases first with
      | emitted event => rfl
      | _ => cases firstBanner
    obtain ⟨note, listed, item⟩ :=
      disciplined.spaced.spaced.reset_between split firstBanner stays secondBanner
    cases note with
    | item => exact listed
    | _ => cases item
  · intro before later split
    exact disciplined.limited.called before .called later split rfl
  · intro exited channel
    cases disciplined.ending with
    | going stays => exact absurd (stage_of_hasExited exited) stays
    | shutDown ended silent closed => exact absurd closed channel
    | gaveUp ended earlier last split terminal silent =>
        exact ⟨disciplined.sent exited, earlier, last, split, terminal, silent⟩
  · rw [disciplined.started]
    split <;> omega

/-- A stream that opens and ends, and an open that fails under 4409: one banner, and the
task returns with the conflict as its last word.
-/
theorem retry_discipline_displaced
    : let inputs : List (ManagerInput × Option Nat) :=
        [(.accept .startReceive, none), (.advance (.wake 0 .insertion), none),
          (.advance .recv, none), (.advance (.wake 0 .insertion), none),
          (.advance (.opened (.ok ()) none), none), (.deliver true, none),
          (.advance (.wake 0 .insertion), none), (.advance .streamEnded, none),
          (.advance .fetchNext, none), (.deliver true, none),
          (.advance (.wake 0 .insertion), none), (.advance .slept, none),
          (.advance (.opened (.error "HTTP 409") (some 4409)), some 4409),
          (.deliver true, none), (.advance .proceed, none)]
      ∃ watch,
        Runs.run? (Watch.step (.knowing ⟨1⟩)) {} inputs = some watch
        ∧ watch.manager.task.hasExited = true
        ∧ ∃ earlier last, watch.notes = earlier ++ [last] ∧ last.isTerminal = true
          ∧ ∀ note ∈ earlier, note.isTerminal = false := by
  intro inputs
  obtain ⟨-, -, -, ended, -⟩ :=
    retry_discipline (.knowing ⟨1⟩) inputs ⟨_, [.called, .opened, .emitted .receiveStarted,
      .ended none, .emitted (.receiveError "receive stream ended (auto-retrying)"), .called,
      .openFailed "HTTP 409" (some 4409), .emitted (.signalConflictingDevice _)]⟩ rfl
      (by simp [inputs])
  exact ⟨_, rfl, rfl, (ended rfl (by simp)).2⟩

end XousAppSignal.Worker
