import Mathlib.Data.List.Basic

/-! Calls that pass a state along and may fail; the state a failed call leaves behind is kept.
Two rules carry over from the single calls to every composition of them: calls that answer
alike on related states, and calls that keep an invariant.
-/

/-- One call on a state: its result, and the state it leaves behind. -/
abbrev Attempt (σ ε α : Type) := σ → Except ε α × σ

namespace Attempt

variable {σ τ ε ε' α β ι : Type}

def lift (result : Except ε α) : Attempt σ ε α := fun state => (result, state)

/-- Go on with the value of a call; an error ends the sequence. -/
def andThen (call : Attempt σ ε α) (next : α → Attempt σ ε β) : Attempt σ ε β := fun state =>
  match call state with
  | (.error e, state) => (.error e, state)
  | (.ok value, state) => next value state

def mapError (rename : ε → ε') (call : Attempt σ ε α) : Attempt σ ε' α := fun state =>
  ((call state).1.mapError rename, (call state).2)

def map (f : α → β) (call : Attempt σ ε α) : Attempt σ ε β := fun state =>
  ((call state).1.map f, (call state).2)

/-- One call per item, up to the first error. -/
def collect (call : ι → Attempt σ ε α) : List ι → Attempt σ ε (List α)
  | [] => lift (.ok [])
  | item :: rest => andThen (call item) (fun value => map (value :: ·) (collect call rest))

/-- One call per item, each with its own result. -/
def each (call : ι → Attempt σ ε α) : List ι → σ → List (Except ε α) × σ
  | [], state => ([], state)
  | item :: rest, state =>
      let (result, state) := call item state
      let (results, state) := each call rest state
      (result :: results, state)

end Attempt

-----------------------------------------------------------------------------------------
-- Related states
-----------------------------------------------------------------------------------------

/-- On related states both calls give the same result, and leave related states. -/
def Alike {σ τ α : Type} (R : σ → τ → Prop) (left : σ → α × σ) (right : τ → α × τ) : Prop :=
  ∀ ⦃a b⦄, R a b → (left a).1 = (right b).1 ∧ R (left a).2 (right b).2

/-- Every state the call starts from with the invariant, it leaves with the invariant. -/
def Keeps {σ α : Type} (Inv : σ → Prop) (call : σ → α × σ) : Prop :=
  ∀ ⦃state⦄, Inv state → Inv (call state).2

namespace Alike

variable {σ τ ε ε' α β ι : Type} {R : σ → τ → Prop}

theorem lift (result : Except ε α)
    : Alike R (Attempt.lift result) (Attempt.lift result) :=
  fun _ _ related => ⟨rfl, related⟩

/-- The one result of both calls, with the states they leave behind. -/
theorem outcomes {left : σ → α × σ} {right : τ → α × τ} (call : Alike R left right) {a : σ}
    {b : τ} (related : R a b)
    : ∃ result a' b', left a = (result, a') ∧ right b = (result, b') ∧ R a' b' := by
  obtain ⟨same, left_behind⟩ := call related
  exact ⟨(left a).1, (left a).2, (right b).2, rfl, Prod.ext same.symm rfl, left_behind⟩

theorem andThen {left : Attempt σ ε α} {right : Attempt τ ε α}
    {next : α → Attempt σ ε β} {next' : α → Attempt τ ε β} (first : Alike R left right)
    (second : ∀ value, Alike R (next value) (next' value))
    : Alike R (left.andThen next) (right.andThen next') := by
  intro a b related
  obtain ⟨same, left_behind⟩ := first related
  simp only [Attempt.andThen]
  generalize left a = outcome at same left_behind ⊢
  generalize right b = outcome' at same left_behind ⊢
  obtain ⟨result, a'⟩ := outcome
  obtain ⟨result', b'⟩ := outcome'
  obtain rfl : result = result' := same
  cases result with
  | error e => exact ⟨rfl, left_behind⟩
  | ok value => exact second value left_behind

theorem mapError {left : Attempt σ ε α} {right : Attempt τ ε α} (rename : ε → ε')
    (call : Alike R left right)
    : Alike R (left.mapError rename) (right.mapError rename) := by
  intro a b related
  obtain ⟨same, left_behind⟩ := call related
  exact ⟨congrArg (Except.mapError rename) same, left_behind⟩

theorem map {left : Attempt σ ε α} {right : Attempt τ ε α} (f : α → β)
    (call : Alike R left right)
    : Alike R (left.map f) (right.map f) := by
  intro a b related
  obtain ⟨same, left_behind⟩ := call related
  exact ⟨congrArg (Except.map f) same, left_behind⟩

theorem collect {left : ι → Attempt σ ε α} {right : ι → Attempt τ ε α}
    (call : ∀ item, Alike R (left item) (right item)) (items : List ι)
    : Alike R (Attempt.collect left items) (Attempt.collect right items) := by
  induction items with
  | nil => exact lift (.ok [])
  | cons item rest ih => exact (call item).andThen (fun value => ih.map (value :: ·))

theorem each {left : ι → Attempt σ ε α} {right : ι → Attempt τ ε α}
    (call : ∀ item, Alike R (left item) (right item)) (items : List ι)
    : Alike R (Attempt.each left items) (Attempt.each right items) := by
  induction items with
  | nil => exact fun _ _ related => ⟨rfl, related⟩
  | cons item rest ih =>
      intro a b related
      obtain ⟨same, left_behind⟩ := call item related
      obtain ⟨same_rest, left_behind⟩ := ih left_behind
      exact ⟨congrArg₂ List.cons same same_rest, left_behind⟩

end Alike

namespace Keeps

variable {σ ε ε' α β : Type} {Inv : σ → Prop}

theorem lift (result : Except ε α) : Keeps Inv (Attempt.lift result) := fun _ holds => holds

theorem andThen {call : Attempt σ ε α} {next : α → Attempt σ ε β} (first : Keeps Inv call)
    (second : ∀ value, Keeps Inv (next value))
    : Keeps Inv (call.andThen next) := by
  intro state holds
  have after := first holds
  simp only [Attempt.andThen]
  generalize call state = outcome at after ⊢
  obtain ⟨result, state'⟩ := outcome
  cases result with
  | error e => exact after
  | ok value => exact second value after

theorem mapError {call : Attempt σ ε α} (rename : ε → ε') (keeps : Keeps Inv call)
    : Keeps Inv (call.mapError rename) :=
  fun _ holds => keeps holds

theorem map {call : Attempt σ ε α} (f : α → β) (keeps : Keeps Inv call)
    : Keeps Inv (call.map f) :=
  fun _ holds => keeps holds

end Keeps

-----------------------------------------------------------------------------------------
-- Calls that only ask
-----------------------------------------------------------------------------------------

/-- Both calls give the same result on related states, and each of them alone leaves a state
that is still related to the other side's.
-/
structure AskAlike {σ τ α : Type} (R : σ → τ → Prop) (left : σ → α × σ) (right : τ → α × τ)
    : Prop where
  same : ∀ {a b}, R a b → (left a).1 = (right b).1
  left : ∀ b, Keeps (R · b) left
  right : ∀ a, Keeps (R a) right

/-- Both succeeded, with related values, or both failed. -/
inductive UpTo {ε α : Type} (r : α → α → Prop) : Except ε α → Except ε α → Prop
  | ok {x y} (related : r x y) : UpTo r (.ok x) (.ok y)
  | error (e e') : UpTo r (.error e) (.error e')

namespace UpTo

variable {ε ε' α β : Type} {r : α → α → Prop}

theorem map {s : β → β → Prop} {f : α → β} (carries : ∀ {x y}, r x y → s (f x) (f y))
    {x y : Except ε α} (upTo : UpTo r x y)
    : UpTo s (x.map f) (y.map f) := by
  cases upTo with
  | ok related => exact .ok (carries related)
  | error e e' => exact .error e e'

/-- Results taken in any order, by induction on the reordering. -/
theorem mapM_perm {results results' : List (Except ε α)} (perm : results.Perm results')
    : UpTo List.Perm (results.mapM id) (results'.mapM id) := by
  induction perm with
  | nil => exact .ok .rfl
  | cons result perm ih =>
      rw [List.mapM_cons, List.mapM_cons]
      rcases result with e | value
      · exact .error e e
      · generalize @List.mapM (Except ε) _ _ _ id _ = first at ih ⊢
        generalize @List.mapM (Except ε) _ _ _ id _ = second at ih ⊢
        cases ih with
        | error e e' => exact .error e e'
        | ok perm => exact .ok (perm.cons value)
  | swap result other rest =>
      simp only [List.mapM_cons]
      rcases result with e | value <;> rcases other with e' | value'
      · exact .error e' e
      · exact .error e e
      · exact .error e' e'
      · rcases (rest.mapM id : Except ε (List α)) with e | values
        · exact .error e e
        · exact .ok (.swap value value' values)
  | trans first second ih ih' =>
      generalize @List.mapM (Except ε) _ _ _ id _ = x at ih ih' ⊢
      generalize @List.mapM (Except ε) _ _ _ id _ = y at ih ih' ⊢
      generalize @List.mapM (Except ε) _ _ _ id _ = z at ih' ⊢
      cases ih with
      | error e e' =>
          cases ih' with
          | error e' e'' => exact .error e e''
      | ok perm =>
          cases ih' with
          | ok perm' => exact .ok (perm.trans perm')

end UpTo

namespace AskAlike

variable {σ τ ε ε' α β ι : Type} {R : σ → τ → Prop}

theorem alike {left : σ → α × σ} {right : τ → α × τ} (ask : AskAlike R left right)
    : Alike R left right :=
  fun _ _ related => ⟨ask.same related, ask.right _ (ask.left _ related)⟩

theorem lift (result : Except ε α) : AskAlike R (Attempt.lift result) (Attempt.lift result) :=
  ⟨fun _ => rfl, fun _ => .lift result, fun _ => .lift result⟩

theorem andThen {left : Attempt σ ε α} {right : Attempt τ ε α}
    {next : α → Attempt σ ε β} {next' : α → Attempt τ ε β} (first : AskAlike R left right)
    (second : ∀ value, AskAlike R (next value) (next' value))
    : AskAlike R (left.andThen next) (right.andThen next') where
  same related := (first.alike.andThen (fun value => (second value).alike) related).1
  left b := (first.left b).andThen (fun value => (second value).left b)
  right a := (first.right a).andThen (fun value => (second value).right a)

theorem mapError {left : Attempt σ ε α} {right : Attempt τ ε α} (rename : ε → ε')
    (ask : AskAlike R left right)
    : AskAlike R (left.mapError rename) (right.mapError rename) where
  same related := congrArg (Except.mapError rename) (ask.same related)
  left b := (ask.left b).mapError rename
  right a := (ask.right a).mapError rename

theorem map {left : Attempt σ ε α} {right : Attempt τ ε α} (f : α → β)
    (ask : AskAlike R left right)
    : AskAlike R (left.map f) (right.map f) where
  same related := congrArg (Except.map f) (ask.same related)
  left b := (ask.left b).map f
  right a := (ask.right a).map f

theorem symm {left : σ → α × σ} {right : τ → α × τ} (ask : AskAlike R left right)
    : AskAlike (fun b a => R a b) right left :=
  ⟨fun related => (ask.same related).symm, ask.right, ask.left⟩

section Items

variable {left : ι → Attempt σ ε α} {right : ι → Attempt τ ε α} {a : σ} {b : τ}
  {items items' : List ι}

/-- What is asked later does not depend on what was asked before. -/
theorem each_answers (ask : ∀ item ∈ items, AskAlike R (left item) (right item))
    (related : R a b)
    : (Attempt.each right items b).1 = items.map (fun item => (left item a).1)
      ∧ R a (Attempt.each right items b).2 := by
  induction items generalizing b with
  | nil => exact ⟨rfl, related⟩
  | cons item rest ih =>
      have first := ask item List.mem_cons_self
      obtain ⟨answers, after⟩ := ih (fun other member => ask other (List.mem_cons_of_mem _ member))
        (first.right a related)
      exact ⟨congrArg₂ List.cons (first.same related).symm answers, after⟩

theorem collect_answers (ask : ∀ item ∈ items, AskAlike R (left item) (right item))
    (related : R a b)
    : (Attempt.collect right items b).1 = (items.map (fun item => (left item a).1)).mapM id
      ∧ R a (Attempt.collect right items b).2 := by
  induction items generalizing b with
  | nil => exact ⟨rfl, related⟩
  | cons item rest ih =>
      have first := ask item List.mem_cons_self
      obtain ⟨answers, after⟩ := ih (fun other member => ask other (List.mem_cons_of_mem _ member))
        (first.right a related)
      have asked := first.right a related
      rw [List.map_cons, List.mapM_cons, first.same related]
      simp only [Attempt.collect, Attempt.andThen, Attempt.map]
      generalize right item b = outcome at answers after asked ⊢
      obtain ⟨_ | value, b'⟩ := outcome
      · exact ⟨rfl, asked⟩
      · dsimp only at answers after ⊢
        rw [answers]
        refine ⟨?_, after⟩
        rcases List.mapM id _ with e | values <;> rfl

/-- The items are asked in any order. -/
theorem each_perm (ask : ∀ item ∈ items, AskAlike R (left item) (right item))
    (perm : items.Perm items') (related : R a b)
    : (Attempt.each left items a).1.Perm (Attempt.each right items' b).1
      ∧ R (Attempt.each left items a).2 (Attempt.each right items' b).2 := by
  obtain ⟨first, leftAfter⟩ := each_answers (fun item member => (ask item member).symm) related
  obtain ⟨second, bothAfter⟩ :=
    each_answers (fun item member => ask item (perm.mem_iff.mpr member)) leftAfter
  have same : items'.map (fun item => (left item (Attempt.each left items a).2).1)
      = items'.map (fun item => (right item b).1) :=
    List.map_congr_left fun item member => (ask item (perm.mem_iff.mpr member)).same leftAfter
  refine ⟨?_, bothAfter⟩
  rw [first, second, same]
  exact perm.map _

theorem collect_perm (ask : ∀ item ∈ items, AskAlike R (left item) (right item))
    (perm : items.Perm items') (related : R a b)
    : UpTo List.Perm (Attempt.collect left items a).1 (Attempt.collect right items' b).1
      ∧ R (Attempt.collect left items a).2 (Attempt.collect right items' b).2 := by
  obtain ⟨first, leftAfter⟩ := collect_answers (fun item member => (ask item member).symm) related
  obtain ⟨second, bothAfter⟩ :=
    collect_answers (fun item member => ask item (perm.mem_iff.mpr member)) leftAfter
  have same : items'.map (fun item => (left item (Attempt.collect left items a).2).1)
      = items'.map (fun item => (right item b).1) :=
    List.map_congr_left fun item member => (ask item (perm.mem_iff.mpr member)).same leftAfter
  refine ⟨?_, bothAfter⟩
  rw [first, second, same]
  exact .mapM_perm (perm.map _)

end Items

end AskAlike
