import Mathlib.Algebra.GroupWithZero.Nat
import Mathlib.Data.List.Basic
import Mathlib.Algebra.BigOperators.Group.List.Basic

/-! Counting and summing over a list of parts of which one changes. -/

namespace Counting

variable {α : Type}

/-- Replacing one item of a list changes the sum by that item, by induction on the list. -/
theorem sum_map_set (f : α → Nat) {items : List α} {index : Nat} {old : α}
    (found : items[index]? = some old) (new : α)
    : ((items.set index new).map f).sum + f old = (items.map f).sum + f new := by
  induction items generalizing index with
  | nil => simp at found
  | cons first rest ih =>
      cases index with
      | zero =>
          obtain rfl : first = old := by simpa using found
          simp only [List.set_cons_zero, List.map_cons, List.sum_cons]
          omega
      | succ index =>
          have later := ih (by simpa using found)
          simp only [List.set_cons_succ, List.map_cons, List.sum_cons]
          omega

/-- Changing an item in place, where it counts at most so much more afterwards. -/
theorem sum_map_modify_le (f : α → Nat) {change : α → α} {extra : Nat}
    (grows : ∀ item, f (change item) ≤ f item + extra) (items : List α) (index : Nat)
    : ((items.modify index change).map f).sum ≤ (items.map f).sum + extra := by
  induction items generalizing index with
  | nil => simp
  | cons first rest ih =>
      cases index with
      | zero =>
          have here := grows first
          simp only [List.modify_zero_cons, List.map_cons, List.sum_cons]
          omega
      | succ index =>
          have later := ih index
          simp only [List.modify_succ_cons, List.map_cons, List.sum_cons]
          omega

/-- Changing an item in place without changing whether it counts. -/
theorem countP_modify {p : α → Bool} {change : α → α} (same : ∀ item, p (change item) = p item)
    (items : List α) (index : Nat)
    : (items.modify index change).countP p = items.countP p := by
  induction items generalizing index with
  | nil => simp
  | cons first rest ih =>
      cases index with
      | zero => simp only [List.modify_zero_cons, List.countP_cons, same]
      | succ index => simp only [List.modify_succ_cons, List.countP_cons, ih]

/-- Replacing an item, with what counts of the old one and of the new one. -/
theorem countP_set_add {p : α → Bool} {items : List α} {index : Nat} {old : α}
    (found : items[index]? = some old) (new : α)
    : (items.set index new).countP p + (p old).toNat = items.countP p + (p new).toNat := by
  induction items generalizing index with
  | nil => simp at found
  | cons first rest ih =>
      cases index with
      | zero =>
          obtain rfl : first = old := by simpa using found
          rw [List.set_cons_zero, List.countP_cons, List.countP_cons]
          cases p first <;> cases p new <;> simp
      | succ index =>
          have later := ih (by simpa using found)
          rw [List.set_cons_succ, List.countP_cons, List.countP_cons]
          omega

/-- A list in which only one place can count. -/
theorem countP_le_one {p : α → Bool} {items : List α} {place : Option Nat}
    (only : ∀ index item, items[index]? = some item → p item = true → place = some index)
    : items.countP p ≤ 1 := by
  induction items generalizing place with
  | nil => simp
  | cons first rest ih =>
      cases counts : p first with
      | false =>
          rw [List.countP_cons, counts]
          refine @ih (place.map Nat.pred) fun index item found counted => ?_
          rw [only (index + 1) item found counted]
          rfl
      | true =>
          have here : place = some 0 := only 0 first rfl counts
          have none' : rest.countP p = 0 := by
            rw [List.countP_eq_zero]
            intro item member counted
            obtain ⟨index, found⟩ := List.mem_iff_getElem?.mp member
            have there := only (index + 1) item found counted
            rw [here] at there
            cases there
          rw [List.countP_cons, none', counts]
          simp

/-- Changing an item in place, where the change keeps a property that all items have. -/
theorem forall_mem_modify {property : α → Prop} {change : α → α}
    (keeps : ∀ item, property item → property (change item)) {items : List α}
    (all : ∀ item ∈ items, property item) (index : Nat)
    : ∀ item ∈ items.modify index change, property item := by
  induction items generalizing index with
  | nil => simp
  | cons first rest ih =>
      obtain ⟨here, later⟩ := List.forall_mem_cons.mp all
      cases index with
      | zero => exact List.forall_mem_cons.mpr ⟨keeps first here, later⟩
      | succ index => exact List.forall_mem_cons.mpr ⟨here, ih later index⟩

/-- Changing an item in place without changing what is read from it. -/
theorem map_modify {β : Type} {f : α → β} {change : α → α}
    (same : ∀ item, f (change item) = f item) (items : List α) (index : Nat)
    : (items.modify index change).map f = items.map f := by
  refine List.ext_getElem? fun place => ?_
  rw [List.getElem?_map, List.getElem?_map, List.getElem?_modify]
  split
  · cases items[place]? <;> simp [same]
  · simp

/-- Replacing an item by one that yields more: that much more is yielded in all. -/
theorem flatMap_set_perm {β : Type} (f : α → List β) {items : List α} {index : Nat}
    {old new : α} {extra : List β} (found : items[index]? = some old)
    (grows : (f new).Perm (f old ++ extra))
    : ((items.set index new).flatMap f).Perm (items.flatMap f ++ extra) := by
  induction items generalizing index with
  | nil => simp at found
  | cons first rest ih =>
      cases index with
      | zero =>
          obtain rfl : first = old := by simpa using found
          simp only [List.set_cons_zero, List.flatMap_cons, List.append_assoc]
          refine (grows.append_right _).trans ?_
          rw [List.append_assoc]
          exact List.perm_append_comm.append_left _
      | succ index =>
          have later := ih (by simpa using found)
          simp only [List.set_cons_succ, List.flatMap_cons, List.append_assoc]
          exact later.append_left _

end Counting
