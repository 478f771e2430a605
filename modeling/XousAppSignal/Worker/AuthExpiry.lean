import XousAppSignal.Worker.ReceiveLoop

/-! Giving up on an account whose handshakes are refused. The counter behind it is cleared by a
stream item only, so it counts refusals with other results of `receive_messages` in between.
-/

namespace XousAppSignal.Worker

/-- A result of `receive_messages`, or what its stream yields. -/
def Note.isOutcome : Note → Bool
  | .opened => true
  | .openFailed _ _ => true
  | .item => true
  | .ended _ => true
  | _ => false

def Note.isReauth : Note → Bool
  | .openFailed err closeCode => isReauth403 err closeCode
  | _ => false

def Note.isExpiry : Note → Bool
  | .emitted (.signalAuthExpired _) => true
  | _ => false

/-- The refusals since the last outcome of another kind. -/
def streak (notes : List Note) : List Note :=
  (notes.filter Note.isOutcome).rtakeWhile Note.isReauth

theorem streak_append_silent {notes noted : List Note}
    (silent : ∀ note ∈ noted, note.isOutcome = false)
    : streak (notes ++ noted) = streak notes := by
  have none : noted.filter Note.isOutcome = [] := by
    rw [List.filter_eq_nil_iff]
    intro note listed
    simp [silent note listed]
  rw [streak, List.filter_append, none, List.append_nil, streak]

theorem streak_append_outcome {notes : List Note} {note : Note} {rest : List Note}
    (outcome : note.isOutcome = true) (silent : ∀ note ∈ rest, note.isOutcome = false)
    : streak (notes ++ note :: rest) = if note.isReauth then streak notes ++ [note] else [] := by
  have none : rest.filter Note.isOutcome = [] := by
    rw [List.filter_eq_nil_iff]
    intro note listed
    simp [silent note listed]
  rw [streak, List.filter_append, List.filter_cons_of_pos outcome, none,
    List.rtakeWhile_concat, streak]

/-- Where the last outcome was a refusal the counter does not exceed the streak; the account
is given up only after a streak of three.
-/
structure Expiry (loop : LoopState) (notes : List Note) : Prop where
  counted : streak notes = [] ∨ loop.consecutiveReauth403s ≤ (streak notes).length
  expired
    : Histories.Preceded (Note.isExpiry · = true)
        (fun before => maxReauth403s ≤ (streak before).length) notes

theorem expiry_start {loop : LoopState} : Expiry loop [] :=
  ⟨.inl rfl, Histories.preceded_nil _ _⟩

/-- Notes that are neither an outcome nor an expiry. -/
def Note.isIdle (note : Note) : Bool := !note.isOutcome && !note.isExpiry

theorem Expiry.idle {loop next : LoopState} {notes noted : List Note}
    (expiry : Expiry loop notes) (idle : ∀ note ∈ noted, note.isIdle = true)
    (same : next.consecutiveReauth403s = loop.consecutiveReauth403s)
    : Expiry next (notes ++ noted) := by
  have silent : ∀ note ∈ noted, note.isOutcome = false := fun note listed => by
    have neither := idle note listed
    simp_all [Note.isIdle]
  refine ⟨?_, expiry.expired.append fun note listed => ?_⟩
  · rw [streak_append_silent silent, same]
    exact expiry.counted
  · have neither := idle note listed
    simp_all [Note.isIdle]

/-- An outcome of another kind starts the streak over, whatever the counter is. -/
theorem Expiry.interrupted {loop next : LoopState} {notes : List Note} {note : Note}
    {rest : List Note} (expiry : Expiry loop notes) (outcome : note.isOutcome = true)
    (other : note.isReauth = false) (idle : ∀ note ∈ rest, note.isIdle = true)
    : Expiry next (notes ++ note :: rest) := by
  have silent : ∀ note ∈ rest, note.isOutcome = false := fun note listed => by
    have neither := idle note listed
    simp_all [Note.isIdle]
  refine ⟨.inl ?_, ?_⟩
  · rw [streak_append_outcome outcome silent, other]
    rfl
  · refine expiry.expired.append (List.forall_mem_cons.mpr ⟨?_, fun note listed => ?_⟩)
    · cases note <;> simp_all [Note.isOutcome, Note.isExpiry]
    · have neither := idle note listed
      simp_all [Note.isIdle]

/-- A refusal counted in a row makes the streak as long as the counter. -/
theorem Expiry.refused_streak {loop : LoopState} {notes : List Note} {err : String}
    {closeCode : Option Nat} (expiry : Expiry loop notes)
    (reauth : isReauth403 err closeCode = true)
    (inARow : 0 < loop.consecutiveReauth403s → streak notes ≠ [])
    : loop.consecutiveReauth403s + 1
      ≤ (streak (notes ++ [.openFailed err closeCode])).length := by
  have refused : (Note.openFailed err closeCode).isReauth = true := reauth
  rw [streak_append_outcome rfl (by simp), if_pos refused, List.length_append]
  rcases expiry.counted with none | counted
  · have zero : loop.consecutiveReauth403s = 0 := by
      by_contra counts
      exact inARow (Nat.pos_of_ne_zero counts) none
    simp [zero]
  · simpa using counted

/-- One step, as long as refusals are counted in a row. -/
theorem Expiry.step {loop next : LoopState} {notes noted : List Note}
    (expiry : Expiry loop notes) (moved : LoopStep loop noted next)
    (inARow
      : ∀ note ∈ noted, note.isReauth = true → 0 < loop.consecutiveReauth403s
          → streak notes ≠ [])
    : Expiry next (notes ++ noted) := by
  cases moved with
  | opened calling =>
      exact expiry.interrupted rfl rfl (greeting_all (P := (Note.isIdle · = true)) rfl)
  | displaced err reason calling =>
      exact expiry.interrupted rfl (by simp [Note.isReauth, isReauth403])
        (by simp [Note.isIdle, Note.isOutcome, Note.isExpiry])
  | expired err reason closeCode calling reauth spent =>
      have long := expiry.refused_streak reauth (inARow _ List.mem_cons_self reauth)
      have counted : streak (notes ++ [.openFailed err closeCode,
            .emitted (.signalAuthExpired reason)])
          = streak (notes ++ [.openFailed err closeCode]) := by
        rw [List.append_cons]
        exact streak_append_silent (by simp [Note.isOutcome])
      refine ⟨.inr (counted ▸ long), ?_⟩
      rw [List.append_cons, Histories.preceded_concat, Histories.preceded_concat]
      exact ⟨⟨expiry.expired, fun marked => by cases marked⟩, fun _ => spent.trans long⟩
  | refused err closeCode calling reauth unspent =>
      have long := expiry.refused_streak reauth (inARow _ List.mem_cons_self reauth)
      have refused : Expiry
          { loop with
            stage := .running
            consecutiveFailures := loop.consecutiveFailures + 1
            consecutiveReauth403s := loop.consecutiveReauth403s + 1 }
          (notes ++ [.openFailed err closeCode]) := by
        refine ⟨.inr long, ?_⟩
        exact Histories.preceded_concat.mpr ⟨expiry.expired, fun marked => by cases marked⟩
      rw [List.append_cons]
      exact refused.idle (banner_all (P := (Note.isIdle · = true)) fun _ => rfl) rfl
  | failed err closeCode calling undisplaced other =>
      exact expiry.interrupted rfl other (banner_all (P := (Note.isIdle · = true)) fun _ => rfl)
  | item running => exact expiry.interrupted rfl rfl (by simp)
  | ended closeCode running => exact expiry.interrupted rfl rfl (by simp)
  | counted reason ending =>
      exact expiry.idle (banner_all (P := (Note.isIdle · = true)) fun _ => rfl) rfl
  | _ => exact expiry.idle (by simp [Note.isIdle, Note.isOutcome, Note.isExpiry]) rfl

/-- A streak of three is the last three outcomes. -/
theorem last_three_of_streak {notes : List Note} (long : maxReauth403s ≤ (streak notes).length)
    : ∃ earlier first second third,
        notes.filter Note.isOutcome = earlier ++ [first, second, third]
        ∧ first.isReauth = true ∧ second.isReauth = true ∧ third.isReauth = true := by
  obtain ⟨others, whole⟩ := List.rtakeWhile_suffix Note.isReauth (notes.filter Note.isOutcome)
  have refusals : ∀ note ∈ streak notes, note.isReauth = true := fun note listed =>
    List.mem_rtakeWhile_imp listed
  change others ++ streak notes = _ at whole
  generalize streak notes = refused at long refusals whole
  have last : ((refused.drop (refused.length - 3))).length = 3 := by
    rw [List.length_drop]
    simp only [maxReauth403s] at long
    omega
  obtain ⟨first, second, third, three⟩ := List.length_eq_three.mp last
  refine ⟨others ++ refused.take (refused.length - 3), first, second, third, ?_, ?_⟩
  · rw [List.append_assoc, ← three, List.take_append_drop, whole]
  · have among : ∀ note ∈ [first, second, third], note.isReauth = true := fun note listed =>
      refusals note (List.mem_of_mem_drop (three ▸ listed))
    simpa using among

namespace Watch

/-- A refusal is counted on top of earlier ones only when the last outcome was one too. -/
def CountsInARow (watch : Watch) (input : ManagerInput × Option Nat) : Prop :=
  match input.1 with
  | .advance (.opened (.error err) closeCode) =>
      isReauth403 err closeCode = true → 0 < watch.loop.consecutiveReauth403s
        → streak watch.notes ≠ []
  | _ => True

theorem expiry_step {platform : Platform} {watch after : Watch}
    {input : ManagerInput × Option Nat} (inARow : watch.CountsInARow input)
    (stepped : watch.step platform input = some after)
    (expiry : Expiry watch.loop watch.notes)
    : Expiry after.loop after.notes := by
  obtain ⟨notes, moved | ⟨-, none, ended⟩⟩ := step_cases stepped
  · rw [notes]
    refine expiry.step moved fun note listed reauth => ?_
    cases note with
    | openFailed err closeCode =>
        rw [CountsInARow, (mem_noted listed).2 err closeCode rfl] at inARow
        exact inARow reauth
    | _ => cases reauth
  · rw [notes, none, List.append_nil, ended]
    exact ⟨expiry.counted, expiry.expired⟩

end Watch

/-- In every run of the task in which a refusal is counted on top of earlier ones only right
after another: the account is given up only after three refusals, with no successful open,
stream item or other failure in between.
-/
theorem auth_expired_in_a_row (platform : Platform)
    (inputs : List (ManagerInput × Option Nat)) (watch : Watch)
    (reached : Runs.run? (Watch.step platform) {} inputs = some watch)
    (inARow : Runs.Guarded? (Watch.step platform) Watch.CountsInARow {} inputs)
    (before later : List Note) (reason : String)
    (split : watch.notes = before ++ .emitted (.signalAuthExpired reason) :: later)
    : ∃ earlier first second third,
        before.filter Note.isOutcome = earlier ++ [first, second, third]
        ∧ first.isReauth = true ∧ second.isReauth = true ∧ third.isReauth = true := by
  have expiry : Expiry watch.loop watch.notes := by
    apply inARow.invariant _ reached expiry_start
    exact fun _ _ _ => Watch.expiry_step
  exact last_three_of_streak (expiry.expired before _ later split rfl)

/-- The task is asked to receive and opens the stream for the first time. -/
def dialing : List (ManagerInput × Option Nat) :=
  [(.accept .startReceive, none), (.advance (.wake 0 .insertion), none), (.advance .recv, none),
    (.advance (.wake 0 .insertion), none)]

/-- The server refuses the handshake after it asked for reauthentication. -/
def refusal : ManagerInput × Option Nat :=
  (.advance (.opened (.error "HTTP error: 403 Forbidden") (some 4401)), some 4401)

def redialing : List (ManagerInput × Option Nat) :=
  [(.advance (.wake 0 .insertion), some 4401), (.advance .slept, some 4401)]

/-- A refusal, a stream that opens and ends, and two more refusals: the account is given up
although the last three results were not all refusals.
-/
theorem expired_after_successful_open
    : let inputs :=
        dialing ++ [refusal, (.deliver true, none)] ++ redialing
          ++ [(.advance (.opened (.ok ()) (some 4401)), none), (.deliver true, none),
            (.advance (.wake 0 .insertion), none), (.advance .streamEnded, some 4401),
            (.advance .fetchNext, none)]
          ++ redialing ++ [refusal] ++ redialing ++ [refusal]
      ∃ watch before reason,
        Runs.run? (Watch.step (.knowing ⟨1⟩)) {} inputs = some watch
        ∧ watch.notes = before ++ [.emitted (.signalAuthExpired reason)]
        ∧ ¬ ∃ earlier first second third,
          before.filter Note.isOutcome = earlier ++ [first, second, third]
          ∧ first.isReauth = true ∧ second.isReauth = true ∧ third.isReauth = true := by
  let refused : Note := .openFailed "HTTP error: 403 Forbidden" (some 4401)
  refine ⟨_, [.called, refused, .emitted (.receiveError
      "receive_messages: HTTP error: 403 Forbidden"), .called, .opened, .emitted .receiveStarted,
    .ended (some 4401), .called, refused, .called, refused], _, rfl, rfl, ?_⟩
  rintro ⟨earlier, first, second, third, outcomes, interrupted, -, -⟩
  have lastThree : [refused, .opened] ++ [.ended (some 4401), refused, refused]
      = earlier ++ [first, second, third] := outcomes
  obtain ⟨-, same⟩ := List.append_inj' lastThree rfl
  obtain ⟨rfl, -⟩ := List.cons.inj same
  cases interrupted

/-- Three refusals in a row: the account is given up. -/
theorem auth_expired_in_a_row_refused
    : let inputs :=
        dialing ++ [refusal, (.deliver true, none)] ++ redialing ++ [refusal] ++ redialing
          ++ [refusal]
      ∃ watch before reason,
        Runs.run? (Watch.step (.knowing ⟨1⟩)) {} inputs = some watch
        ∧ watch.notes = before ++ [.emitted (.signalAuthExpired reason)]
        ∧ ∃ earlier first second third,
          before.filter Note.isOutcome = earlier ++ [first, second, third]
          ∧ first.isReauth = true ∧ second.isReauth = true ∧ third.isReauth = true := by
  intro inputs
  let refused : Note := .openFailed "HTTP error: 403 Forbidden" (some 4401)
  let before : List Note :=
    [.called, refused, .emitted (.receiveError "receive_messages: HTTP error: 403 Forbidden"),
      .called, refused, .called, refused]
  have inARow : Runs.Guarded? (Watch.step (.knowing ⟨1⟩)) Watch.CountsInARow {} inputs := by
    iterate 4
      refine ⟨trivial, fun next stepped => ?_⟩
      cases stepped
    refine ⟨fun _ positive => absurd positive (Nat.lt_irrefl 0), fun next stepped => ?_⟩
    cases stepped
    iterate 3
      refine ⟨trivial, fun next stepped => ?_⟩
      cases stepped
    refine ⟨fun _ _ => List.cons_ne_nil refused [], fun next stepped => ?_⟩
    cases stepped
    iterate 2
      refine ⟨trivial, fun next stepped => ?_⟩
      cases stepped
    exact ⟨fun _ _ => List.cons_ne_nil refused [refused], fun _ _ => trivial⟩
  refine ⟨_, before, _, rfl, rfl, ?_⟩
  exact auth_expired_in_a_row (.knowing ⟨1⟩) inputs _ rfl inARow before [] _ rfl

end XousAppSignal.Worker
