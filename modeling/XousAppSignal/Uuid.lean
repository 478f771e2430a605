import Mathlib.Data.BitVec

/-! UUIDs as 128-bit values, with their hyphenated lower-case text form. -/

namespace XousAppSignal

structure Uuid where
  bits : BitVec 128
  deriving DecidableEq

namespace Uuid

/-- The `count` low hexadecimal digits of a number, most significant first. -/
def hexDigits (count n : Nat) : List Char :=
  (List.range count).reverse.map (fun place => Nat.digitChar (n / 16 ^ place % 16))

/-- The 8-4-4-4-12 hyphenated form. -/
def toString (uuid : Uuid) : String :=
  let digits := hexDigits 32 uuid.bits.toNat
  String.ofList (digits.take 8 ++ '-' :: (digits.drop 8).take 4
    ++ '-' :: (digits.drop 12).take 4 ++ '-' :: (digits.drop 16).take 4
    ++ '-' :: digits.drop 20)

theorem hexDigits_succ (count n : Nat)
    : hexDigits (count + 1) n = Nat.digitChar (n / 16 ^ count % 16) :: hexDigits count n := by
  simp [hexDigits, List.range_succ]

@[simp]
theorem length_hexDigits (count n : Nat) : (hexDigits count n).length = count := by
  simp [hexDigits]

theorem digitChar_injective : ∀ a < 16, ∀ b < 16, a.digitChar = b.digitChar → a = b := by
  decide

/-- The digits decide the number below `16 ^ count`, by induction on the digit count. -/
theorem hexDigits_injective {count n m : Nat} (same : hexDigits count n = hexDigits count m)
    : n % 16 ^ count = m % 16 ^ count := by
  induction count with
  | zero => simp [Nat.mod_one]
  | succ count ih =>
      rw [hexDigits_succ, hexDigits_succ, List.cons.injEq] at same
      have leading := digitChar_injective _ (Nat.mod_lt _ (by omega)) _
        (Nat.mod_lt _ (by omega)) same.1
      rw [Nat.mod_pow_succ, Nat.mod_pow_succ, ih same.2, leading]

/-- The five groups of a hyphenated text, put back together. -/
theorem rejoin_groups (digits : List Char)
    : digits
      = digits.take 8 ++ ((digits.drop 8).take 4 ++ ((digits.drop 12).take 4
          ++ ((digits.drop 16).take 4 ++ digits.drop 20))) := by
  have later (place : Nat) : digits.drop (place + 4) = (digits.drop place).drop 4 := by
    rw [List.drop_drop]
  rw [later 16, List.take_append_drop, later 12, List.take_append_drop, later 8,
    List.take_append_drop, List.take_append_drop]

/-- Different UUIDs have different text forms: equal texts agree group by group, so the
digits and then the values are equal.
-/
theorem toString_injective {a b : Uuid} (same : a.toString = b.toString) : a = b := by
  have texts := String.ofList_injective same
  simp only [List.append_assoc, List.cons_append] at texts
  obtain ⟨first, texts⟩ := List.append_inj texts (by simp)
  obtain ⟨second, texts⟩ := List.append_inj (List.cons.inj texts).2 (by simp)
  obtain ⟨third, texts⟩ := List.append_inj (List.cons.inj texts).2 (by simp)
  obtain ⟨fourth, texts⟩ := List.append_inj (List.cons.inj texts).2 (by simp)
  have digits : hexDigits 32 a.bits.toNat = hexDigits 32 b.bits.toNat := by
    rw [rejoin_groups (hexDigits 32 a.bits.toNat), first, second, third, fourth,
      (List.cons.inj texts).2, ← rejoin_groups]
  have bits := hexDigits_injective digits
  have small (uuid : Uuid) : uuid.bits.toNat < 16 ^ 32 := uuid.bits.isLt
  rw [Nat.mod_eq_of_lt (small a), Nat.mod_eq_of_lt (small b)] at bits
  cases a
  cases b
  exact congrArg Uuid.mk (BitVec.eq_of_toNat_eq bits)

end Uuid

end XousAppSignal
