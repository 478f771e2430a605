import Mathlib.Data.Nat.Basic
import Mathlib.Order.Basic
import XousAppSignal.Library.Locks

/-! The two locks of the session layer, `session_cache` and `session_dirty`, and the operations
that take them on different threads through clones of one store. `flush_sessions` takes them in
the opposite order of `store_session` and `delete_all_sessions`.
-/

namespace XousAppSignal.Store

open Locks

/-- The mutexes of the store. They are not reentrant. -/
inductive SessionLock where
  | cache
  | dirty
  deriving DecidableEq

/-- An operation, with the way it goes where this decides which locks it takes: whether a load
misses the cache and finds a bundle to fill it from, whether a flush finds dirty sessions, and
whether `clear` got to the memory after the dictionaries.
-/
inductive SessionCall where
  | loadSession (fills : Bool)
  | storeSession
  | flushSessions (anyDirty : Bool)
  | deleteSession
  | deleteAllSessions
  | getSubDeviceSessions
  | clear (wiped : Bool)
  deriving DecidableEq

namespace SessionCall

/-- A guard that is dropped before the next lock is taken. -/
def brief (lock : SessionLock) : List (LockStep SessionLock) := [.acquire lock, .release lock]

/-- Two guards held together; the one taken last is dropped first. -/
def nested (first second : SessionLock) : List (LockStep SessionLock) :=
  [.acquire first, .acquire second, .release second, .release first]

/-- The locks an operation takes and gives back, in order. -/
def lockSteps : SessionCall → List (LockStep SessionLock)
  | .loadSession false => brief .cache
  | .loadSession true => brief .cache ++ brief .cache
  | .storeSession => nested .cache .dirty
  | .flushSessions false => brief .dirty
  | .flushSessions true => nested .dirty .cache
  | .deleteSession => brief .cache ++ brief .dirty
  | .deleteAllSessions => nested .cache .dirty
  | .getSubDeviceSessions => brief .cache
  | .clear false => []
  | .clear true => brief .cache ++ brief .dirty

/-- The operations that take the dirty lock while they hold the cache lock. -/
def cacheFirst : SessionCall → Bool
  | .storeSession => true
  | .deleteAllSessions => true
  | _ => false

end SessionCall

open SessionCall (lockSteps)

/-- The thread holds the cache lock and is about to take the dirty lock. -/
def CacheHeld (thread : Thread SessionCall) : Prop :=
  thread.op.cacheFirst = true ∧ thread.done = 1

/-- The thread holds the dirty lock and is about to take the cache lock. -/
def DirtyHeld (thread : Thread SessionCall) : Prop := thread = ⟨.flushSessions true, 1⟩

/-- A flush does not take the dirty lock between the two locks of a store or a deletion of all
sessions, and neither of these takes the cache lock between the two locks of a flush.
-/
def TakesApart (threads : List (Thread SessionCall)) : Move SessionCall → Prop
  | .start _ => True
  | .advance index =>
      ∀ thread ∈ threads[index]?,
        (thread = ⟨.flushSessions true, 0⟩ → ∀ other ∈ threads, ¬CacheHeld other)
        ∧ (thread.op.cacheFirst = true → thread.done = 0 → ∀ other ∈ threads, ¬DirtyHeld other)

instance (thread : Thread SessionCall) : Decidable (CacheHeld thread) :=
  inferInstanceAs (Decidable (_ ∧ _))

instance (thread : Thread SessionCall) : Decidable (DirtyHeld thread) :=
  inferInstanceAs (Decidable (_ = _))

instance (threads : List (Thread SessionCall)) : ∀ move, Decidable (TakesApart threads move)
  | .start _ => .isTrue trivial
  | .advance index =>
      inferInstanceAs (Decidable (∀ thread ∈ threads[index]?,
        (thread = ⟨.flushSessions true, 0⟩ → ∀ other ∈ threads, ¬CacheHeld other)
        ∧ (thread.op.cacheFirst = true → thread.done = 0
          → ∀ other ∈ threads, ¬DirtyHeld other)))

-----------------------------------------------------------------------------------------
-- Operations that hold one lock and wait for the other
-----------------------------------------------------------------------------------------

/-- Which operation holds one lock and waits for another, by cases on the operation and its
position.
-/
theorem midway {thread : Thread SessionCall} {a b : SessionLock}
    (holds : a ∈ thread.held lockSteps) (waits : thread.WaitsFor lockSteps b)
    : (CacheHeld thread ∧ a = .cache ∧ b = .dirty)
      ∨ (DirtyHeld thread ∧ a = .dirty ∧ b = .cache) := by
  obtain ⟨op, done⟩ := thread
  simp only [Thread.held, Thread.WaitsFor, Thread.next] at holds waits
  rcases done with _ | _ | _ | _ | done
  · cases holds
  all_goals
    rcases op with ⟨_ | _⟩ | _ | ⟨_ | _⟩ | _ | _ | _ | ⟨_ | _⟩ <;>
    simp_all [lockSteps, SessionCall.brief, SessionCall.nested, heldAfter, CacheHeld, DirtyHeld,
      SessionCall.cacheFirst]

/-- Two operations that hold each other's lock are one of each kind, between their locks. -/
theorem crosses_cases {left right : Thread SessionCall} (crosses : left.Crosses lockSteps right)
    : (CacheHeld left ∧ DirtyHeld right) ∨ (DirtyHeld left ∧ CacheHeld right) := by
  obtain ⟨a, b, apart, holdsA, waitsB, holdsB, waitsA⟩ := crosses
  rcases midway holdsA waitsB with ⟨first, rfl, rfl⟩ | ⟨first, rfl, rfl⟩
  · rcases midway holdsB waitsA with ⟨-, same, -⟩ | ⟨second, -, -⟩
    · cases same
    · exact .inl ⟨first, second⟩
  · rcases midway holdsB waitsA with ⟨second, -, -⟩ | ⟨-, same, -⟩
    · exact .inr ⟨first, second⟩
    · cases same

theorem crosses_of_held {left right : Thread SessionCall} (cache : CacheHeld left)
    (dirty : DirtyHeld right)
    : left.Crosses lockSteps right := by
  obtain ⟨op, done⟩ := left
  obtain ⟨first, rfl⟩ := cache
  obtain rfl := dirty
  refine ⟨.cache, .dirty, by decide, ?_, ?_, by decide, by decide⟩
  all_goals
    cases op with
    | storeSession => decide
    | deleteAllSessions => decide
    | _ => cases first

/-- A step that keeps the two kinds apart crosses no threads. -/
theorem TakesApart.step {threads next : List (Thread SessionCall)} {move : Move SessionCall}
    (apart : TakesApart threads move) (stepped : Locks.step lockSteps threads move = some next)
    (uncrossed : ¬Crossed lockSteps threads)
    : ¬Crossed lockSteps next := by
  cases move with
  | start op =>
      obtain rfl := Option.some.inj stepped
      exact fun crossed => uncrossed crossed.of_start
  | advance index =>
      obtain ⟨thread, found, rfl⟩ := step_advance stepped
      obtain ⟨keepsDirty, keepsCache⟩ := apart thread found
      intro crossed
      rcases crossed.of_advance found with before | ⟨j, other, -, there, crosses⟩
      · exact uncrossed before
      · have listed := List.mem_of_getElem? there
        rcases crosses_cases crosses with ⟨⟨first, position⟩, held⟩ | ⟨flush, held⟩
        · exact keepsCache first (Nat.succ.inj position) other listed held
        · obtain ⟨op, done⟩ := thread
          obtain ⟨rfl, rfl⟩ : op = .flushSessions true ∧ done = 0 := by
            simpa [DirtyHeld, Thread.advance] using flush
          exact keepsDirty rfl other listed held

/-- A step that does not keep them apart crosses two threads. -/
theorem crossed_of_step {threads next : List (Thread SessionCall)} {move : Move SessionCall}
    (meets : ¬TakesApart threads move) (stepped : Locks.step lockSteps threads move = some next)
    : Crossed lockSteps next := by
  cases move with
  | start op => exact absurd trivial meets
  | advance index =>
      obtain ⟨thread, found, rfl⟩ := step_advance stepped
      -- The other thread is at another place, since it has done one step more.
      have elsewhere {other : Thread SessionCall} (later : other.done ≠ thread.done) {j : Nat}
          (there : threads[j]? = some other)
          : j ≠ index := by
        rintro rfl
        obtain rfl := Option.some.inj (found.symm.trans there)
        exact later rfl
      have crossing {other : Thread SessionCall} (listed : other ∈ threads)
          (later : other.done ≠ thread.done)
          (crosses : thread.advance.Crosses lockSteps other)
          : Crossed lockSteps (threads.set index thread.advance) := by
        obtain ⟨j, there⟩ := List.mem_iff_getElem?.mp listed
        exact crossed_advance found (elsewhere later there) there crosses
      by_contra uncrossed
      refine meets fun other same => ?_
      obtain rfl := Option.some.inj (found.symm.trans same)
      refine ⟨?_, fun first position other listed held => ?_⟩
      · rintro rfl other listed held
        refine uncrossed (crossing listed ?_ (crosses_of_held held rfl).symm)
        rw [held.2]
        decide
      · refine uncrossed (crossing listed ?_ (crosses_of_held ⟨first, ?_⟩ held))
        · rw [position, held]
          decide
        · rw [Thread.advance, position]

-----------------------------------------------------------------------------------------
-- Runs
-----------------------------------------------------------------------------------------

/-- In any interleaving of any operations, no state has two of them each holding one lock and
waiting for the other exactly when no flush takes the dirty lock between the two locks of a
store or deletion, nor one of these the cache lock between those of a flush.
-/
theorem no_lock_deadlock_iff {moves : List (Move SessionCall)} {final : List (Thread SessionCall)}
    (ran : Runs.run? (Locks.step lockSteps) [] moves = some final)
    : Runs.Guarded? (Locks.step lockSteps) TakesApart [] moves
      ↔ ∀ done rest reached, done ++ rest = moves
          → Runs.run? (Locks.step lockSteps) [] done = some reached
          → ¬Crossed lockSteps reached := by
  constructor
  · rintro guarded done rest reached rfl reaches
    have start : ¬Crossed lockSteps ([] : List (Thread SessionCall)) := by
      rintro ⟨i, j, left, right, -, atI, -⟩
      cases atI
    exact guarded.left.invariant (fun _ _ _ apart stepped => apart.step stepped) reaches start
  · intro uncrossed
    refine Runs.guarded?_of_reached fun done move rest state split reaches => ?_
    by_contra meets
    rw [← split, Runs.run?_append, reaches, Option.bind_some] at ran
    obtain ⟨next, stepped, -⟩ := Option.bind_eq_some_iff.mp ran
    refine uncrossed (done ++ [move]) rest next (by simpa using split) ?_
      (crossed_of_step meets stepped)
    exact Runs.run?_concat reaches stepped

/-- A store of a session, then a flush of it beside a deletion, which ends before the flush
takes its first lock.
-/
def Move.flushAfterDeletion : List (Move SessionCall) :=
  [.start .storeSession, .advance 0, .advance 0, .advance 0, .advance 0,
    .start (.flushSessions true), .start .deleteAllSessions,
    .advance 2, .advance 2, .advance 2, .advance 2,
    .advance 1, .advance 1, .advance 1, .advance 1]

theorem no_lock_deadlock_after_deletion
    : ∃ final, Runs.run? (Locks.step lockSteps) [] Move.flushAfterDeletion = some final
        ∧ ∀ done rest reached, done ++ rest = Move.flushAfterDeletion
          → Runs.run? (Locks.step lockSteps) [] done = some reached
          → ¬Crossed lockSteps reached := by
  obtain ⟨final, ran⟩ : ∃ final,
      Runs.run? (Locks.step lockSteps) [] Move.flushAfterDeletion = some final :=
    Option.isSome_iff_exists.mp (by decide +kernel)
  exact ⟨final, ran, (no_lock_deadlock_iff ran).mp (by decide +kernel)⟩

/-- Counterexample: one session is stored; then a flush takes the dirty lock and another store
the cache lock, and each waits for the other.
-/
theorem flush_and_store_deadlock
    : ∃ final,
        Runs.run? (Locks.step lockSteps) []
            [.start .storeSession, .advance 0, .advance 0, .advance 0, .advance 0,
              .start (.flushSessions true), .start .storeSession, .advance 1, .advance 2]
          = some final
        ∧ Crossed lockSteps final
        ∧ Locks.step lockSteps final (.advance 1) = none
        ∧ Locks.step lockSteps final (.advance 2) = none := by
  refine ⟨[⟨.storeSession, 4⟩, ⟨.flushSessions true, 1⟩, ⟨.storeSession, 1⟩], by decide +kernel,
    ⟨2, 1, _, _, by decide, rfl, rfl, ?_⟩, by decide +kernel, by decide +kernel⟩
  exact crosses_of_held ⟨rfl, rfl⟩ rfl

-----------------------------------------------------------------------------------------
-- The other operations
-----------------------------------------------------------------------------------------

/-- The order in which all operations but a flush take the locks. -/
instance : Preorder SessionLock := .lift fun
  | .cache => 0
  | .dirty => 1

theorem ascending_of_not_flush {op : SessionCall} (other : op ≠ .flushSessions true)
    : Ascending lockSteps op := by
  intro done lock waits held holds
  rcases midway holds waits with ⟨-, rfl, rfl⟩ | ⟨flush, -, -⟩
  · exact Nat.zero_lt_one
  · exact absurd (congrArg Thread.op flush) other

/-- Without a flush of dirty sessions no operations wait for each other in a circle. -/
theorem no_circle_without_flush {moves : List (Move SessionCall)}
    {reached : List (Thread SessionCall)}
    (ran : Runs.run? (Locks.step lockSteps) [] moves = some reached)
    (noFlush : .start (.flushSessions true) ∉ moves) (i : Nat)
    : ¬Relation.TransGen (Blocked lockSteps reached) i i := by
  refine not_circular (fun thread listed => ascending_of_not_flush ?_) i
  refine begun_of_reached ran (P := (· ≠ .flushSessions true)) (by simp) ?_ thread listed
  rintro op begun rfl
  exact noFlush begun

end XousAppSignal.Store
