import Mathlib.Data.List.DropRight

/-! Histories: lists that grow at the end. What holds before every marked entry, how many
entries were marked since the last reset, and how both change when one more entry is noted.
-/

universe u

namespace Histories

variable {α : Type u}

/-- Every marked entry finds `P` of the history before it. -/
def Preceded (marks : α → Prop) (P : List α → Prop) (history : List α) : Prop :=
  ∀ before entry later, history = before ++ entry :: later → marks entry → P before

variable {marks : α → Prop} {P Q : List α → Prop} {history : List α}

@[simp]
theorem preceded_nil (marks : α → Prop) (P : List α → Prop) : Preceded marks P [] := by
  intro before entry later split
  simp at split

/-- One more entry: it either is not marked or finds the property of all that came before. -/
theorem preceded_concat {entry : α}
    : Preceded marks P (history ++ [entry])
      ↔ Preceded marks P history ∧ (marks entry → P history) := by
  constructor
  · intro preceded
    refine ⟨?_, fun marked => preceded history entry [] rfl marked⟩
    intro before earlier later split marked
    exact preceded before earlier (later ++ [entry]) (by simp [split]) marked
  · rintro ⟨preceded, last⟩ before earlier later split marked
    rcases List.eq_nil_or_concat later with rfl | ⟨rest, final, rfl⟩
    · obtain ⟨rfl, same⟩ := List.append_inj' split rfl
      obtain rfl : entry = earlier := by simpa using same
      exact last marked
    · rw [List.concat_eq_append, ← List.cons_append, ← List.append_assoc] at split
      obtain ⟨earlierHistory, -⟩ := List.append_inj' split rfl
      exact preceded before earlier rest earlierHistory marked

/-- Entries that are not marked may be noted freely, by induction on them. -/
theorem Preceded.append (preceded : Preceded marks P history) {noted : List α}
    (unmarked : ∀ entry ∈ noted, ¬ marks entry)
    : Preceded marks P (history ++ noted) := by
  induction noted generalizing history with
  | nil => simpa using preceded
  | cons entry rest ih =>
      rw [List.append_cons]
      refine ih (preceded_concat.mpr ⟨preceded, fun marked => ?_⟩) ?_
      · exact absurd marked (unmarked entry List.mem_cons_self)
      · exact fun other listed => unmarked other (List.mem_cons_of_mem entry listed)

/-- The entries since the last reset. -/
def sinceLast (resets : α → Bool) (history : List α) : List α :=
  history.rtakeWhile (fun entry => !resets entry)

variable {resets : α → Bool} {entry : α}

@[simp]
theorem sinceLast_nil (resets : α → Bool) : sinceLast resets [] = [] :=
  List.rtakeWhile_nil _

@[simp]
theorem sinceLast_concat (resets : α → Bool) (history : List α) (entry : α)
    : sinceLast resets (history ++ [entry])
      = if resets entry then [] else sinceLast resets history ++ [entry] := by
  cases reset : resets entry <;> simp [sinceLast, reset]

/-- Entries without a reset extend what came since the last one. -/
theorem sinceLast_append {noted : List α} (keeps : ∀ entry ∈ noted, resets entry = false)
    : sinceLast resets (history ++ noted) = sinceLast resets history ++ noted := by
  induction noted generalizing history with
  | nil => simp
  | cons entry rest ih =>
      have later : ∀ other ∈ rest, resets other = false := fun other listed =>
        keeps other (List.mem_cons_of_mem entry listed)
      rw [List.append_cons, ih later, sinceLast_concat, keeps entry List.mem_cons_self]
      simp

/-- When a marked entry finds none of its kind since the last reset, two marked entries
have a reset between them.
-/
theorem Preceded.reset_between {marked : α → Bool}
    (preceded : Preceded (marked · = true) (fun before =>
      (sinceLast resets before).countP marked = 0) history)
    {before between later : List α} {first second : α}
    (split : history = before ++ first :: between ++ second :: later)
    (firstMarked : marked first = true) (stays : resets first = false)
    (secondMarked : marked second = true)
    : ∃ entry ∈ between, resets entry = true := by
  by_contra none
  have keeps : ∀ entry ∈ between, resets entry = false := fun entry listed => by
    rw [← Bool.not_eq_true]
    exact fun reset => none ⟨entry, listed, reset⟩
  have unmarked := preceded _ second later split secondMarked
  rw [List.append_cons, sinceLast_append keeps, sinceLast_concat, stays] at unmarked
  simp [firstMarked] at unmarked

end Histories
