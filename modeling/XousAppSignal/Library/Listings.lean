import Mathlib.Data.Set.Card

/-! Lists that name the members of a set, each once: what is counted and what is greatest in the
list is so in the set, whatever the order of the list.
-/

namespace Listings

/-- The list names exactly the members of the set, each once. -/
structure Enumerates {α : Type} (items : List α) (members : Set α) : Prop where
  once : items.Nodup
  listed : ∀ item, item ∈ items ↔ item ∈ members

/-- The greatest member of a set, if there are any. -/
inductive Greatest {α : Type} [LE α] (members : Set α) : Option α → Prop where
  | none (empty : members = ∅) : Greatest members none
  | some {item : α} (greatest : IsGreatest members item) : Greatest members (some item)

/-- The greatest item of a list of the members, however often it names each. -/
theorem Greatest.of_max? {α : Type} [Max α] [LE α] [Std.IsLinearOrder α] [Std.LawfulOrderMax α]
    {items : List α} {members : Set α} (listed : ∀ item, item ∈ items ↔ item ∈ members)
    : Greatest members items.max? := by
  cases top : items.max? with
  | none =>
      rw [List.max?_eq_none_iff] at top
      refine .none (Set.eq_empty_iff_forall_notMem.mpr fun item there => ?_)
      have member := (listed item).mpr there
      rw [top] at member
      cases member
  | some item =>
      obtain ⟨member, above⟩ := List.max?_eq_some_iff.mp top
      exact .some ⟨(listed item).mp member,
        fun other there => above other ((listed other).mpr there)⟩

/-- The greatest item does not depend on the order. -/
theorem max?_perm {α : Type} [Max α] [LE α] [Std.IsLinearOrder α] [Std.LawfulOrderMax α]
    {items items' : List α} (perm : items.Perm items')
    : items.max? = items'.max? := by
  refine Option.ext fun item => ?_
  rw [List.max?_eq_some_iff, List.max?_eq_some_iff, perm.mem_iff]
  simp only [perm.mem_iff]

namespace Enumerates

variable {α : Type} {items : List α} {members : Set α}

theorem filter (lists : Enumerates items members) (keep : α → Bool)
    : Enumerates (items.filter keep) {item ∈ members | keep item = true} where
  once := lists.once.filter keep
  listed item := by
    rw [List.mem_filter, lists.listed]
    rfl

theorem length_eq (lists : Enumerates items members) : items.length = members.ncard := by
  classical
  have same : (items.toFinset : Set α) = members := by
    ext item
    rw [Finset.mem_coe, List.mem_toFinset, lists.listed]
  rw [← same, Set.ncard_coe_finset, List.toFinset_card_of_nodup lists.once]

theorem max? [Max α] [LE α] [Std.IsLinearOrder α] [Std.LawfulOrderMax α]
    (lists : Enumerates items members)
    : Greatest members items.max? :=
  Greatest.of_max? lists.listed

end Enumerates

instance lawfulOrderMaxUInt32 : Std.LawfulOrderMax UInt32 :=
  .of_max_le_iff
    (fun a b c => by
      simp only [max, UInt32.le_iff_toNat_le]
      split <;> omega)
    (fun a b => by
      simp only [max]
      split
      · exact .inr rfl
      · exact .inl rfl)

end Listings
