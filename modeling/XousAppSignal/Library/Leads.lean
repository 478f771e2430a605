import Mathlib.Data.List.Basic

/-! Reaching a goal in company. Of the waits that can end in a state, the order in which they
end is chosen; how each of them ends is not. Inputs that end no wait are never counted on.
-/

universe u v w

namespace Runs

variable {σ : Type u} {ι : Type v} {α : Type w} {step : σ → ι → Option σ}
variable {awaits : ι → Option α} {goal : σ → Prop}

/-- This wait can end in this state. -/
def CanEnd (step : σ → ι → Option σ) (awaits : ι → Option α) (state : σ) (await : α) : Prop :=
  ∃ input after, awaits input = some await ∧ step state input = some after

theorem canEnd_of_isSome {state : σ} {await : α} {input : ι} (answers : awaits input = some await)
    (ends : (step state input).isSome = true)
    : CanEnd step awaits state await := by
  obtain ⟨after, stepped⟩ := Option.isSome_iff_exists.mp ends
  exact ⟨input, after, answers, stepped⟩

/-- Some order of ending the waits reaches the goal, in finitely many steps and however each
of them ends.
-/
inductive Leads (step : σ → ι → Option σ) (awaits : ι → Option α) (goal : σ → Prop)
    : σ → Prop where
  | there {state : σ} (reached : goal state) : Leads step awaits goal state
  | turn {state : σ} (await : α) (ends : CanEnd step awaits state await)
      (next
        : ∀ input after, awaits input = some await → step state input = some after
            → Leads step awaits goal after)
      : Leads step awaits goal state

namespace Leads

/-- A wait that ends by this input only is ended by it. -/
theorem only {state after : σ} {await : α} {input : ι} (answers : awaits input = some await)
    (single : ∀ other, awaits other = some await → other = input)
    (stepped : step state input = some after) (leads : Leads step awaits goal after)
    : Leads step awaits goal state := by
  refine .turn await ⟨input, after, answers, stepped⟩ fun other next same moved => ?_
  rw [single other same, stepped] at moved
  exact Option.some.inj moved ▸ leads

/-- From one goal on to the next one, by induction on the way to the first. -/
theorem andThen {further : σ → Prop} {state : σ} (leads : Leads step awaits goal state)
    (on : ∀ state, goal state → Leads step awaits further state)
    : Leads step awaits further state := by
  induction leads with
  | there reached => exact on _ reached
  | turn await ends next ih => exact .turn await ends ih

/-- What every ended wait keeps holds at the goal too. -/
theorem within {Inv : σ → Prop} {state : σ} (leads : Leads step awaits goal state)
    (stable
      : ∀ state input next await, awaits input = some await → step state input = some next
          → Inv state → Inv next)
    (initial : Inv state)
    : Leads step awaits (fun state => goal state ∧ Inv state) state := by
  induction leads with
  | there reached => exact .there ⟨reached, initial⟩
  | turn await ends next ih =>
      refine .turn await ends fun input after answers stepped => ?_
      exact ih input after answers stepped (stable _ input after _ answers stepped initial)

/-- A part of a machine leads the machine where the part can go by itself: each wait of the
part is one of the whole, and ends there only as it can end in the part.
-/
theorem lift {σ' : Type*} {ι' : Type*} {α' : Type*} {step' : σ' → ι' → Option σ'}
    {awaits' : ι' → Option α'} {goal' : σ' → Prop} {Part : σ → σ' → Prop} (wait : α → α')
    (ends
      : ∀ part whole await, Part part whole → CanEnd step awaits part await
          → CanEnd step' awaits' whole (wait await))
    (follows
      : ∀ part whole await input' after', Part part whole → awaits' input' = some (wait await)
          → step' whole input' = some after'
          → ∃ input after, awaits input = some await ∧ step part input = some after
              ∧ Part after after')
    (reached : ∀ part whole, Part part whole → goal part → goal' whole)
    {part : σ} {whole : σ'} (leads : Leads step awaits goal part) (related : Part part whole)
    : Leads step' awaits' goal' whole := by
  induction leads generalizing whole with
  | there goal => exact .there (reached _ _ related goal)
  | turn await enabled next ih =>
      refine .turn (wait await) (ends _ _ _ related enabled) fun input' after' answers moved => ?_
      obtain ⟨input, after, same, stepped, related⟩ :=
        follows _ _ _ _ _ related answers moved
      exact ih input after same stepped related

/-- A part that needs something of the whole before each of its turns: the whole gets ready
first, without a turn of the part, or it is stuck.
-/
theorem liftReady {σ' : Type*} {ι' : Type*} {α' : Type*} {step' : σ' → ι' → Option σ'}
    {awaits' : ι' → Option α'} {Part : σ → σ' → Prop} {Stuck : σ' → Prop} (Ready : σ' → Prop)
    (wait : α → α')
    (prepare
      : ∀ part whole, Part part whole
          → Leads step' awaits' (fun next => Part part next ∧ Ready next ∨ Stuck next) whole)
    (ends
      : ∀ part whole await, Part part whole → Ready whole → CanEnd step awaits part await
          → CanEnd step' awaits' whole (wait await))
    (follows
      : ∀ part whole await input' after', Part part whole → awaits' input' = some (wait await)
          → step' whole input' = some after'
          → ∃ input after, awaits input = some await ∧ step part input = some after
              ∧ Part after after')
    {part : σ} {whole : σ'} (leads : Leads step awaits goal part) (related : Part part whole)
    : Leads step' awaits' (fun next => (∃ part, goal part ∧ Part part next) ∨ Stuck next)
        whole := by
  induction leads generalizing whole with
  | there reached => exact .there (.inl ⟨_, reached, related⟩)
  | turn await enabled next ih =>
      refine (prepare _ _ related).andThen fun middle prepared => ?_
      rcases prepared with ⟨related, ready⟩ | stuck
      · refine .turn (wait await) (ends _ _ _ related ready enabled) ?_
        intro input' after' answers moved
        obtain ⟨input, after, same, stepped, related⟩ :=
          follows _ _ _ _ _ related answers moved
        exact ih input after same stepped related
      · exact .there (.inr stuck)

end Leads

end Runs
