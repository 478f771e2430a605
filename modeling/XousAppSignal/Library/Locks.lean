import Mathlib.Logic.Relation
import Mathlib.Order.Defs.PartialOrder
import XousAppSignal.Library.Runs

/-! Threads that take locks and give them back, interleaved in any order. A lock has one holder
at a time, and taking it again waits even for its own holder. Who waits for whom, and that locks
taken in a fixed order leave no circle of waiting threads.
-/

namespace Locks

/-- What an operation does to one lock. -/
inductive LockStep (ℓ : Type) where
  | acquire (lock : ℓ)
  | release (lock : ℓ)
  deriving DecidableEq

/-- An operation under way, with the number of its lock steps that are done. -/
structure Thread (ω : Type) where
  op : ω
  done : Nat
  deriving DecidableEq

/-- A new thread begins an operation, or a thread goes on. -/
inductive Move (ω : Type) where
  | start (op : ω)
  | advance (index : Nat)

variable {ω ℓ : Type} [DecidableEq ℓ] (script : ω → List (LockStep ℓ))

/-- The locks held after some steps. -/
def heldAfter (steps : List (LockStep ℓ)) : List ℓ :=
  steps.foldl
    (fun held step =>
      match step with
      | .acquire lock => lock :: held
      | .release lock => held.erase lock)
    []

namespace Thread

def held (thread : Thread ω) : List ℓ := heldAfter ((script thread.op).take thread.done)

def next (thread : Thread ω) : Option (LockStep ℓ) := (script thread.op)[thread.done]?

/-- The thread can only go on by taking this lock. -/
def WaitsFor (thread : Thread ω) (lock : ℓ) : Prop := thread.next script = some (.acquire lock)

instance (thread : Thread ω) (lock : ℓ) : Decidable (thread.WaitsFor script lock) :=
  inferInstanceAs (Decidable (_ = _))

def advance (thread : Thread ω) : Thread ω := { thread with done := thread.done + 1 }

end Thread

/-- One step of one thread. A lock is taken only if no thread holds it. -/
def step (threads : List (Thread ω)) : Move ω → Option (List (Thread ω))
  | .start op => some (threads ++ [⟨op, 0⟩])
  | .advance index =>
      threads[index]?.bind (fun thread =>
        match thread.next script with
        | none => none
        | some (.acquire lock) =>
            if ∃ other ∈ threads, lock ∈ other.held script then none
            else some (threads.set index thread.advance)
        | some (.release _) => some (threads.set index thread.advance))

variable {script} {threads next : List (Thread ω)}

/-- A thread that goes on leaves the others where they are. -/
theorem step_advance {index : Nat}
    (stepped : step script threads (.advance index) = some next)
    : ∃ thread, threads[index]? = some thread ∧ next = threads.set index thread.advance := by
  obtain ⟨thread, found, moved⟩ := Option.bind_eq_some_iff.mp stepped
  refine ⟨thread, found, ?_⟩
  split at moved
  · cases moved
  · split at moved
    · cases moved
    · exact (Option.some.inj moved).symm
  · exact (Option.some.inj moved).symm

-----------------------------------------------------------------------------------------
-- Waiting threads
-----------------------------------------------------------------------------------------

variable (script) (threads)

/-- The first thread waits for a lock that the second one holds. -/
def Blocked (waiting holding : Nat) : Prop :=
  ∃ (left right : Thread ω) (lock : ℓ),
    threads[waiting]? = some left ∧ threads[holding]? = some right
    ∧ left.WaitsFor script lock ∧ lock ∈ right.held script

/-- Each of two threads holds a lock that the other one waits for. -/
def Thread.Crosses (left right : Thread ω) : Prop :=
  ∃ a b : ℓ, a ≠ b ∧ a ∈ left.held script ∧ left.WaitsFor script b
    ∧ b ∈ right.held script ∧ right.WaitsFor script a

/-- Two threads each hold a lock and wait for that of the other. -/
def Crossed : Prop :=
  ∃ (i j : Nat) (left right : Thread ω), i ≠ j
    ∧ threads[i]? = some left ∧ threads[j]? = some right ∧ left.Crosses script right

/-- Every lock an operation takes is above those it holds. -/
def Ascending [LT ℓ] (script : ω → List (LockStep ℓ)) (op : ω) : Prop :=
  ∀ done lock, (⟨op, done⟩ : Thread ω).WaitsFor script lock
    → ∀ held ∈ (⟨op, done⟩ : Thread ω).held script, held < lock

variable {script} {threads}

theorem Thread.Crosses.symm {left right : Thread ω} (crosses : left.Crosses script right)
    : right.Crosses script left := by
  obtain ⟨a, b, other, holdsA, waitsB, holdsB, waitsA⟩ := crosses
  exact ⟨b, a, other.symm, holdsB, waitsA, holdsA, waitsB⟩

/-- Crossed threads wait for each other in a circle. -/
theorem Crossed.circle (crossed : Crossed script threads)
    : ∃ i, Relation.TransGen (Blocked script threads) i i := by
  obtain ⟨i, j, left, right, -, atI, atJ, a, b, -, holdsA, waitsB, holdsB, waitsA⟩ := crossed
  exact ⟨i, .tail (.single ⟨left, right, b, atI, atJ, waitsB, holdsB⟩)
    ⟨right, left, a, atJ, atI, waitsA, holdsA⟩⟩

/-- A thread that begins holds nothing. -/
theorem Crossed.of_start {op : ω} (crossed : Crossed script (threads ++ [⟨op, 0⟩]))
    : Crossed script threads := by
  have old {i : Nat} {thread : Thread ω} (found : (threads ++ [⟨op, 0⟩])[i]? = some thread)
      {lock : ℓ} (holds : lock ∈ thread.held script)
      : threads[i]? = some thread := by
    rcases Nat.lt_or_ge i threads.length with inside | behind
    · rwa [List.getElem?_append_left inside] at found
    · rw [List.getElem?_append_right behind] at found
      obtain rfl := List.mem_singleton.mp (List.mem_of_getElem? found)
      cases holds
  obtain ⟨i, j, left, right, apart, atI, atJ, crosses⟩ := crossed
  have crosses' := crosses
  obtain ⟨a, b, -, holdsA, -, holdsB, -⟩ := crosses
  exact ⟨i, j, left, right, apart, old atI holdsA, old atJ holdsB, crosses'⟩

/-- A thread that goes on crosses only a thread that stays where it is. -/
theorem Crossed.of_advance {index : Nat} {thread : Thread ω}
    (found : threads[index]? = some thread)
    (crossed : Crossed script (threads.set index thread.advance))
    : Crossed script threads
      ∨ ∃ j other, j ≠ index ∧ threads[j]? = some other
          ∧ thread.advance.Crosses script other := by
  have inside := (List.getElem?_eq_some_iff.mp found).1
  obtain ⟨i, j, left, right, apart, atI, atJ, crosses⟩ := crossed
  by_cases first : i = index
  · subst first
    rw [List.getElem?_set_self inside] at atI
    obtain rfl := Option.some.inj atI
    rw [List.getElem?_set_ne apart] at atJ
    exact .inr ⟨j, right, apart.symm, atJ, crosses⟩
  · rw [List.getElem?_set_ne (Ne.symm first)] at atI
    by_cases second : j = index
    · subst second
      rw [List.getElem?_set_self inside] at atJ
      obtain rfl := Option.some.inj atJ
      exact .inr ⟨i, left, apart, atI, crosses.symm⟩
    · rw [List.getElem?_set_ne (Ne.symm second)] at atJ
      exact .inl ⟨i, j, left, right, apart, atI, atJ, crosses⟩

/-- A thread that goes on to a crossing leaves the threads crossed. -/
theorem crossed_advance {index j : Nat} {thread other : Thread ω}
    (found : threads[index]? = some thread) (apart : j ≠ index)
    (there : threads[j]? = some other) (crosses : thread.advance.Crosses script other)
    : Crossed script (threads.set index thread.advance) := by
  have inside := (List.getElem?_eq_some_iff.mp found).1
  refine ⟨index, j, thread.advance, other, apart.symm, ?_, ?_, crosses⟩
  · exact List.getElem?_set_self inside
  · rw [List.getElem?_set_ne apart.symm]
    exact there

/-- Along a chain of waiting threads the locks that are waited for ascend, by induction. -/
theorem Ascending.chain [Preorder ℓ]
    (ascending : ∀ thread ∈ threads, Ascending script thread.op) {i j : Nat}
    (chain : Relation.TransGen (Blocked script threads) i j)
    : ∃ first, threads[i]? = some first ∧ ∃ lock, first.WaitsFor script lock
        ∧ ∀ last, threads[j]? = some last → ∀ later, last.WaitsFor script later
          → lock < later := by
  have above {holding : Nat} {right : Thread ω} {lock : ℓ}
      (there : threads[holding]? = some right) (held : lock ∈ right.held script)
      : ∀ last, threads[holding]? = some last → ∀ later, last.WaitsFor script later
        → lock < later := by
    intro last found later waits
    obtain rfl := Option.some.inj (there.symm.trans found)
    exact ascending right (List.mem_of_getElem? there) right.done later waits lock held
  induction chain with
  | single blocked =>
      obtain ⟨left, right, lock, here, there, waits, held⟩ := blocked
      exact ⟨left, here, lock, waits, above there held⟩
  | tail chain blocked ih =>
      obtain ⟨first, here, lock, waits, lower⟩ := ih
      obtain ⟨left, right, between, middle, there, waiting, held⟩ := blocked
      refine ⟨first, here, lock, waits, fun last found later wanted => ?_⟩
      exact lt_trans (lower left middle between waiting) (above there held last found later wanted)

/-- Operations that take their locks in ascending order never wait in a circle. -/
theorem not_circular [Preorder ℓ]
    (ascending : ∀ thread ∈ threads, Ascending script thread.op) (i : Nat)
    : ¬Relation.TransGen (Blocked script threads) i i := by
  intro circle
  obtain ⟨first, here, lock, waits, lower⟩ := Ascending.chain ascending circle
  exact lt_irrefl lock (lower first here lock waits)

/-- Every operation under way was begun by a move of the run, by induction on the run. -/
theorem begun_of_reached {moves : List (Move ω)} {start reached : List (Thread ω)}
    (ran : Runs.run? (step script) start moves = some reached) {P : ω → Prop}
    (before : ∀ thread ∈ start, P thread.op) (begun : ∀ op, .start op ∈ moves → P op)
    : ∀ thread ∈ reached, P thread.op := by
  refine @Runs.run?_keeps _ _ (step script) (fun threads => ∀ thread ∈ threads, P thread.op)
    moves ?_ start reached ran before
  intro move listed state next stepped kept thread member
  cases move with
  | start op =>
      obtain rfl := Option.some.inj stepped
      rcases List.mem_append.mp member with old | new
      · exact kept thread old
      · rw [List.mem_singleton.mp new]
        exact begun op listed
  | advance index =>
      obtain ⟨moved, found, rfl⟩ := step_advance stepped
      rcases List.mem_or_eq_of_mem_set member with old | rfl
      · exact kept thread old
      · exact kept moved (List.mem_of_getElem? found)

end Locks
