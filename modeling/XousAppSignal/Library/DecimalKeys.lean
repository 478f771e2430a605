import Mathlib.Data.List.Basic
import Mathlib.Data.String.Basic

/-! Decimal numbers as map keys: the text of a number, two of them around a dot, and any
text with a number behind a last dot, determine their parts.
-/

namespace DecimalKeys

/-- The decimal text of a number determines it. -/
theorem repr_injective {left right : Nat} (same : left.repr = right.repr) : left = right := by
  have digits : Nat.toDigits 10 left = Nat.toDigits 10 right := by
    rw [← Nat.toList_repr, ← Nat.toList_repr, same]
  have value (n : Nat) : Nat.ofDigitChars 10 (Nat.toDigits 10 n) 0 = n :=
    Nat.ofDigitChars_toDigits (by decide) (by decide)
  rw [← value left, ← value right, digits]

theorem dot_notMem_repr (n : Nat) : '.' ∉ n.repr.toList := by
  intro member
  rw [Nat.toList_repr] at member
  exact absurd (Nat.isDigit_of_mem_toDigits (by decide) (by decide) member) (by decide)

/-- Two numbers around a dot determine both. -/
theorem dotted_injective {a b a' b' : Nat}
    (same : a.repr ++ "." ++ b.repr = a'.repr ++ "." ++ b'.repr)
    : a = a' ∧ b = b' := by
  have chars : a.repr.toList ++ '.' :: b.repr.toList
      = a'.repr.toList ++ '.' :: b'.repr.toList := by
    have lists := congrArg String.toList same
    simpa [String.toList_append] using lists
  obtain ⟨first, -, second⟩ := (List.append_cons_inj_of_notMem (dot_notMem_repr a)
    (dot_notMem_repr b)).mp chars
  exact ⟨repr_injective (String.toList_inj.mp first),
    repr_injective (String.toList_inj.mp second)⟩

/-- Keys that are the texts of values parse back to these, by induction on the keys. -/
theorem map_parsed {α : Type} {parse : String → Option α} {key : α → String}
    (parses : ∀ value, parse (key value) = some value) {keys : List String}
    (named : ∀ text ∈ keys, ∃ value, text = key value)
    : (keys.filterMap parse).map key = keys := by
  induction keys with
  | nil => rfl
  | cons text rest ih =>
      obtain ⟨value, rfl⟩ := named text List.mem_cons_self
      have later := ih fun other listed => named other (List.mem_cons_of_mem _ listed)
      simp only [List.filterMap_cons, parses, List.map_cons, later]

/-- Where the last separator stands is known, so both sides of it are. -/
theorem append_cons_inj_of_last {α : Type} {separator : α} {before before' after after' : List α}
    (last : separator ∉ after) (last' : separator ∉ after')
    (same : before ++ separator :: after = before' ++ separator :: after')
    : before = before' ∧ after = after' := by
  rcases List.append_eq_append_iff.mp same with ⟨between, rfl, tail⟩ | ⟨between, rfl, tail⟩
  · cases between with
    | nil => exact ⟨(List.append_nil _).symm, (List.cons.inj tail).2⟩
    | cons first between =>
        exact absurd ((List.cons.inj tail).2 ▸ List.mem_append_right _ List.mem_cons_self) last
  · cases between with
    | nil => exact ⟨List.append_nil _, (List.cons.inj tail).2.symm⟩
    | cons first between =>
        exact absurd ((List.cons.inj tail).2 ▸ List.mem_append_right _ List.mem_cons_self) last'

/-- Any text, and a text without a dot behind it. -/
theorem dotted_text_injective {name name' text text' : String} (plain : '.' ∉ text.toList)
    (plain' : '.' ∉ text'.toList) (same : name ++ "." ++ text = name' ++ "." ++ text')
    : name = name' ∧ text = text' := by
  have chars : name.toList ++ '.' :: text.toList = name'.toList ++ '.' :: text'.toList := by
    have lists := congrArg String.toList same
    simpa [String.toList_append] using lists
  obtain ⟨names, texts⟩ := append_cons_inj_of_last plain plain' chars
  exact ⟨String.toList_inj.mp names, String.toList_inj.mp texts⟩

end DecimalKeys
