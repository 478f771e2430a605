import Mathlib.Data.List.Forall2

/-! Runs of a state machine: the state after a list of actions, the outputs on the way,
and the induction rules that turn a fact about one step into a fact about a whole run.
-/

universe u v w

namespace Runs

variable {σ : Type u} {α : Type v} {ο : Type w}

/-- The state reached by performing the actions in order. -/
def run (step : σ → α → σ) (state : σ) (actions : List α) : σ := actions.foldl step state

/-- Each action meets `guard` in the state it is performed in. -/
def Guarded (step : σ → α → σ) (guard : σ → α → Prop) : σ → List α → Prop
  | _, [] => True
  | state, action :: rest => guard state action ∧ Guarded step guard (step state action) rest

/-- A guard that can be evaluated makes the guarded runs checkable. -/
instance Guarded.decidable (step : σ → α → σ) (guard : σ → α → Prop)
    [∀ state action, Decidable (guard state action)]
    : ∀ state actions, Decidable (Guarded step guard state actions)
  | _, [] => .isTrue trivial
  | state, action :: rest =>
      have := Guarded.decidable step guard (step state action) rest
      inferInstanceAs
        (Decidable (guard state action ∧ Guarded step guard (step state action) rest))

@[simp]
theorem run_nil (step : σ → α → σ) (state : σ) : run step state [] = state := rfl

@[simp]
theorem run_cons (step : σ → α → σ) (state : σ) (action : α) (rest : List α)
    : run step state (action :: rest) = run step (step state action) rest :=
  rfl

theorem run_append (step : σ → α → σ) (state : σ) (first second : List α)
    : run step state (first ++ second) = run step (run step state first) second :=
  List.foldl_append

/-- An invariant kept by every guarded step holds after a guarded run, by induction. -/
theorem Guarded.invariant {step : σ → α → σ} {guard : σ → α → Prop} {Inv : σ → Prop}
    (stable : ∀ state action, guard state action → Inv state → Inv (step state action))
    {state : σ} {actions : List α} (guarded : Guarded step guard state actions)
    (initial : Inv state)
    : Inv (run step state actions) := by
  induction actions generalizing state with
  | nil => exact initial
  | cons action rest ih =>
      exact ih guarded.2 (stable state action guarded.1 initial)

/-- A run is guarded when every action meets the guard in the state reached before it. -/
theorem guarded_iff_reached {step : σ → α → σ} {guard : σ → α → Prop} {start : σ}
    {actions : List α}
    : Guarded step guard start actions
      ↔ ∀ done action rest, done ++ action :: rest = actions
          → guard (run step start done) action := by
  induction actions generalizing start with
  | nil => simp [Guarded]
  | cons first later ih =>
      constructor
      · rintro ⟨here, guarded⟩ done action rest split
        cases done with
        | nil =>
            obtain ⟨rfl, rfl⟩ := List.cons.inj split
            exact here
        | cons head tail =>
            obtain ⟨rfl, below⟩ := List.cons.inj split
            exact ih.mp guarded tail action rest below
      · intro meets
        refine ⟨meets [] first later rfl, ih.mpr fun done action rest split => ?_⟩
        exact meets (first :: done) action rest (by rw [← split, List.cons_append])

/-- Guards that an invariant makes equivalent allow the same runs, by induction. -/
theorem guarded_congr {step : σ → α → σ} {guard guard' : σ → α → Prop} {Inv : σ → Prop}
    (stable : ∀ state action, Inv state → Inv (step state action))
    (same : ∀ state action, Inv state → (guard state action ↔ guard' state action))
    {state : σ} {actions : List α} (initial : Inv state)
    : Guarded step guard state actions ↔ Guarded step guard' state actions := by
  induction actions generalizing state with
  | nil => exact Iff.rfl
  | cons action rest ih =>
      exact and_congr (same state action initial) (ih (stable state action initial))

/-- A prefix of a guarded run is guarded. -/
theorem Guarded.left {step : σ → α → σ} {guard : σ → α → Prop} {state : σ}
    {first second : List α} (guarded : Guarded step guard state (first ++ second))
    : Guarded step guard state first := by
  induction first generalizing state with
  | nil => trivial
  | cons action rest ih => exact ⟨guarded.1, ih guarded.2⟩

/-- An invariant that each of the actions keeps holds after the run, by induction. -/
theorem run_keeps {step : σ → α → σ} {Inv : σ → Prop} {actions : List α}
    (stable : ∀ action ∈ actions, ∀ state, Inv state → Inv (step state action))
    {state : σ} (initial : Inv state)
    : Inv (run step state actions) := by
  induction actions generalizing state with
  | nil => exact initial
  | cons action rest ih =>
      refine ih (fun other listed => stable other (List.mem_cons_of_mem _ listed)) ?_
      exact stable action List.mem_cons_self state initial

/-- An invariant kept by every step holds after every run. -/
theorem run_invariant {step : σ → α → σ} {Inv : σ → Prop}
    (stable : ∀ state action, Inv state → Inv (step state action))
    {state : σ} (actions : List α) (initial : Inv state)
    : Inv (run step state actions) :=
  run_keeps (fun action _ state => stable state action) initial

/-- A relation between two machines that each of the actions keeps holds after both runs. -/
theorem run_related {σ' : Type u} {step : σ → α → σ} {step' : σ' → α → σ'}
    {Related : σ → σ' → Prop} {actions : List α}
    (keeps
      : ∀ action ∈ actions, ∀ left right,
          Related left right → Related (step left action) (step' right action))
    {left : σ} {right : σ'} (related : Related left right)
    : Related (run step left actions) (run step' right actions) :=
  List.foldl_rel related keeps

/-- The answers of the calls in order, and the state after the last one. -/
def calls (perform : α → σ → ο × σ) : List α → σ → List ο × σ
  | [], state => ([], state)
  | action :: rest, state =>
      let (answer, next) := perform action state
      let (answers, last) := calls perform rest next
      (answer :: answers, last)

@[simp]
theorem calls_nil (perform : α → σ → ο × σ) (state : σ)
    : calls perform [] state = ([], state) :=
  rfl

@[simp]
theorem calls_cons (perform : α → σ → ο × σ) (action : α) (rest : List α) (state : σ)
    : calls perform (action :: rest) state
      = ((perform action state).1 :: (calls perform rest (perform action state).2).1,
          (calls perform rest (perform action state).2).2) :=
  rfl

/-- Two machines whose single calls agree under a relation, for the calls of a sequence, agree
on the sequence. Witness: induction on the calls, carrying the relation from one state pair to
the next.
-/
theorem calls_related {σ' : Type u} {perform : α → σ → ο × σ} {perform' : α → σ' → ο × σ'}
    {Related : σ → σ' → Prop} {Agrees : ο → ο → Prop} {actions : List α}
    (step
      : ∀ action ∈ actions, ∀ left right,
          Related left right
          → Agrees (perform action left).1 (perform' action right).1
            ∧ Related (perform action left).2 (perform' action right).2)
    {left : σ} {right : σ'} (related : Related left right)
    : List.Forall₂ Agrees (calls perform actions left).1 (calls perform' actions right).1
      ∧ Related (calls perform actions left).2 (calls perform' actions right).2 := by
  induction actions generalizing left right with
  | nil => exact ⟨.nil, related⟩
  | cons action rest ih =>
      obtain ⟨first, later⟩ := List.forall_mem_cons.mp step
      obtain ⟨agrees, next⟩ := first left right related
      obtain ⟨answers, last⟩ := ih later next
      exact ⟨.cons agrees answers, last⟩

/-- Two machines whose single calls agree under a relation agree on whole call sequences. -/
theorem calls_simulation {σ' : Type u} {perform : α → σ → ο × σ}
    {perform' : α → σ' → ο × σ'} {Related : σ → σ' → Prop} {Agrees : ο → ο → Prop}
    (step
      : ∀ action left right,
          Related left right
          → Agrees (perform action left).1 (perform' action right).1
            ∧ Related (perform action left).2 (perform' action right).2)
    (actions : List α) {left : σ} {right : σ'} (related : Related left right)
    : List.Forall₂ Agrees (calls perform actions left).1 (calls perform' actions right).1
      ∧ Related (calls perform actions left).2 (calls perform' actions right).2 :=
  calls_related (fun action _ => step action) related

/-- The state reached when every action in turn is enabled. -/
def run? (step : σ → α → Option σ) : σ → List α → Option σ
  | state, [] => some state
  | state, action :: rest => (step state action).bind (fun next => run? step next rest)

/-- Each enabled action meets `guard` in the state it is performed in. -/
def Guarded? (step : σ → α → Option σ) (guard : σ → α → Prop) : σ → List α → Prop
  | _, [] => True
  | state, action :: rest =>
      guard state action ∧ ∀ next, step state action = some next → Guarded? step guard next rest

instance Guarded?.decidable (step : σ → α → Option σ) (guard : σ → α → Prop)
    [∀ state action, Decidable (guard state action)]
    : ∀ state actions, Decidable (Guarded? step guard state actions)
  | _, [] => .isTrue trivial
  | state, action :: rest =>
      match stepped : step state action with
      | none => decidable_of_iff (guard state action) (by simp [Guarded?, stepped])
      | some next =>
          have := Guarded?.decidable step guard next rest
          decidable_of_iff (guard state action ∧ Guarded? step guard next rest)
            (by simp [Guarded?, stepped])

/-- Guards that an invariant makes equivalent allow the same runs of partial steps. -/
theorem guarded?_congr {step : σ → α → Option σ} {guard guard' : σ → α → Prop}
    {Inv : σ → Prop}
    (stable : ∀ state action next, step state action = some next → Inv state → Inv next)
    (same : ∀ state action, Inv state → (guard state action ↔ guard' state action))
    {state : σ} {actions : List α} (initial : Inv state)
    : Guarded? step guard state actions ↔ Guarded? step guard' state actions := by
  induction actions generalizing state with
  | nil => exact Iff.rfl
  | cons action rest ih =>
      refine and_congr (same state action initial) (forall_congr' fun next => ?_)
      exact imp_congr_right fun stepped => ih (stable state action next stepped initial)

/-- The guarded invariant rule for partial steps. -/
theorem Guarded?.invariant {step : σ → α → Option σ} {guard : σ → α → Prop}
    {Inv : σ → Prop}
    (stable
      : ∀ state action next,
          guard state action → step state action = some next → Inv state → Inv next)
    {state final : σ} {actions : List α} (guarded : Guarded? step guard state actions)
    (reached : run? step state actions = some final) (initial : Inv state)
    : Inv final := by
  induction actions generalizing state with
  | nil => exact Option.some.inj reached ▸ initial
  | cons action rest ih =>
      obtain ⟨next, stepped, reached⟩ := Option.bind_eq_some_iff.mp reached
      exact ih (guarded.2 next stepped) reached
        (stable state action next guarded.1 stepped initial)

/-- An invariant that each of the actions keeps holds after the run, by induction. -/
theorem run?_keeps {step : σ → α → Option σ} {Inv : σ → Prop} {actions : List α}
    (stable
      : ∀ action ∈ actions, ∀ state next,
          step state action = some next → Inv state → Inv next)
    {state final : σ} (reached : run? step state actions = some final) (initial : Inv state)
    : Inv final := by
  induction actions generalizing state with
  | nil => exact Option.some.inj reached ▸ initial
  | cons action rest ih =>
      obtain ⟨next, stepped, reached⟩ := Option.bind_eq_some_iff.mp reached
      refine ih (fun other listed => stable other (List.mem_cons_of_mem _ listed)) reached ?_
      exact stable action List.mem_cons_self state next stepped initial

/-- The invariant rule for partial steps without a guard. -/
theorem run?_invariant {step : σ → α → Option σ} {Inv : σ → Prop}
    (stable : ∀ state action next, step state action = some next → Inv state → Inv next)
    {state final : σ} {actions : List α} (reached : run? step state actions = some final)
    (initial : Inv state)
    : Inv final :=
  run?_keeps (fun action _ state next => stable state action next) reached initial

theorem run?_append (step : σ → α → Option σ) (state : σ) (first second : List α)
    : run? step state (first ++ second)
      = (run? step state first).bind (fun next => run? step next second) := by
  induction first generalizing state with
  | nil => rfl
  | cons action rest ih =>
      simp only [List.cons_append, run?, Option.bind_assoc]
      congr 1
      funext next
      exact ih next

/-- One more action after a run. -/
theorem run?_concat {step : σ → α → Option σ} {start state next : σ} {actions : List α}
    {action : α} (reached : run? step start actions = some state)
    (stepped : step state action = some next)
    : run? step start (actions ++ [action]) = some next := by
  rw [run?_append, reached]
  simp [run?, stepped]

/-- A machine whose steps are steps of another one, or nothing there, only gets where the other
one can get, by induction on its actions.
-/
theorem run?_refines {σ' : Type*} {α' : Type*} {step : σ → α → Option σ}
    {step' : σ' → α' → Option σ'} {view : σ → σ'}
    (refines
      : ∀ state action next, step state action = some next
          → view next = view state ∨ ∃ action', step' (view state) action' = some (view next))
    {state final : σ} {actions : List α} (reached : run? step state actions = some final)
    : ∃ actions', run? step' (view state) actions' = some (view final) := by
  induction actions generalizing state with
  | nil => exact ⟨[], congrArg some (congrArg view (Option.some.inj reached))⟩
  | cons action rest ih =>
      obtain ⟨next, stepped, reached⟩ := Option.bind_eq_some_iff.mp reached
      obtain ⟨later, reached⟩ := ih reached
      rcases refines state action next stepped with same | ⟨first, moved⟩
      · exact ⟨later, same ▸ reached⟩
      · exact ⟨first :: later, by rw [run?, moved, Option.bind_some, reached]⟩

/-- A prefix of a guarded run is guarded. -/
theorem Guarded?.left {step : σ → α → Option σ} {guard : σ → α → Prop} {state : σ}
    {first second : List α} (guarded : Guarded? step guard state (first ++ second))
    : Guarded? step guard state first := by
  induction first generalizing state with
  | nil => trivial
  | cons action rest ih =>
      exact ⟨guarded.1, fun next stepped => ih (guarded.2 next stepped)⟩

/-- A run is guarded when every action meets the guard in the state reached before it. -/
theorem guarded?_of_reached {step : σ → α → Option σ} {guard : σ → α → Prop} {start : σ}
    {actions : List α}
    (meets
      : ∀ done action rest state, done ++ action :: rest = actions
          → run? step start done = some state → guard state action)
    : Guarded? step guard start actions := by
  induction actions generalizing start with
  | nil => trivial
  | cons action rest ih =>
      refine ⟨meets [] action rest start rfl rfl, fun next stepped => ih ?_⟩
      intro done later after state split reached
      refine meets (action :: done) later after state (by simp [split]) ?_
      simp [run?, stepped, reached]

end Runs
