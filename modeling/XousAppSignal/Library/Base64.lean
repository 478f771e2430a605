import Mathlib.Data.Bool.AllAny
import Mathlib.Data.List.Basic
import Mathlib.Data.Fin.Basic

/-! Base64 with the standard alphabet and padding: three bytes are four symbols of six bits, and
a last group of one or two bytes is filled up with the padding character.
-/

namespace Base64

def alphabet : List Char :=
  "ABCDEFGHIJKLMNOPQRSTUVWXYZabcdefghijklmnopqrstuvwxyz0123456789+/".toList

/-- The symbol of a number below 64. -/
def symbol (n : Nat) : Char := alphabet.getD n 'A'

def padding : Char := '='

/-- The number a symbol stands for. -/
def value (c : Char) : Option Nat := alphabet.idxOf? c

/-- Symbols for whole groups of bytes, then for the rest. -/
def encode : List UInt8 → List Char
  | [] => []
  | [a] => [symbol (a.toNat / 4), symbol (a.toNat % 4 * 16), padding, padding]
  | [a, b] =>
      [symbol (a.toNat / 4), symbol (a.toNat % 4 * 16 + b.toNat / 16),
        symbol (b.toNat % 16 * 4), padding]
  | a :: b :: c :: rest =>
      symbol (a.toNat / 4) :: symbol (a.toNat % 4 * 16 + b.toNat / 16)
        :: symbol (b.toNat % 16 * 4 + c.toNat / 64) :: symbol (c.toNat % 64) :: encode rest

/-- Read groups of four symbols; only the last one may be padded, and the bits that padding cuts
off are zero.
-/
def decode : List Char → Option (List UInt8)
  | [] => some []
  | w :: x :: y :: z :: rest =>
      (value w).bind (fun w => (value x).bind (fun x =>
        if y = padding then
          if z = padding ∧ rest = [] ∧ x % 16 = 0 then some [UInt8.ofNat (w * 4 + x / 16)]
          else none
        else
          (value y).bind (fun y =>
            if z = padding then
              if rest = [] ∧ y % 4 = 0 then
                some [UInt8.ofNat (w * 4 + x / 16), UInt8.ofNat (x % 16 * 16 + y / 4)]
              else none
            else
              (value z).bind (fun z => (decode rest).map (fun bytes =>
                UInt8.ofNat (w * 4 + x / 16) :: UInt8.ofNat (x % 16 * 16 + y / 4)
                  :: UInt8.ofNat (y % 4 * 64 + z) :: bytes)))))
  | _ => none

-----------------------------------------------------------------------------------------
-- Symbols
-----------------------------------------------------------------------------------------

theorem value_symbol {n : Nat} (small : n < 64) : value (symbol n) = some n := by
  have all : ∀ n : Fin 64, value (symbol n.val) = some n.val := by decide +kernel
  exact all ⟨n, small⟩

theorem value_padding : value padding = none := by decide

/-- The padding character is no symbol. -/
theorem symbol_ne_padding {n : Nat} (small : n < 64) : symbol n ≠ padding := by
  intro same
  have found := value_symbol small
  rw [same, value_padding] at found
  cases found

/-- Symbols and the padding character are letters, digits and three signs. -/
theorem visible_of_value {c : Char} (symbol : (value c).isSome ∨ c = padding)
    : 0x21 ≤ c.toNat ∧ c.toNat ≤ 0x7e := by
  have listed : c ∈ padding :: alphabet := by
    rcases symbol with found | rfl
    · refine List.mem_cons_of_mem _ ?_
      by_contra absent
      rw [value, List.idxOf?_eq_none_iff.mpr absent] at found
      cases found
    · exact List.mem_cons_self
  have all : ∀ c ∈ padding :: alphabet, 0x21 ≤ c.toNat ∧ c.toNat ≤ 0x7e :=
    List.all_iff_forall_prop.mp (by decide)
  exact all c listed

-----------------------------------------------------------------------------------------
-- Texts
-----------------------------------------------------------------------------------------

/-- What was encoded is read back, by induction on the groups of three bytes. -/
theorem decode_encode (bytes : List UInt8) : decode (encode bytes) = some bytes := by
  induction bytes using encode.induct with
  | case1 => rfl
  | case2 a =>
      have small := a.toNat_lt
      have first : a.toNat / 4 * 4 + a.toNat % 4 * 16 / 16 = a.toNat := by omega
      rw [encode, decode, value_symbol (by omega), value_symbol (by omega)]
      simp only [Option.bind_some, if_true, first, UInt8.ofNat_toNat]
      rw [if_pos ⟨trivial, trivial, by omega⟩]
  | case3 a b =>
      have smallA := a.toNat_lt
      have smallB := b.toNat_lt
      have first : a.toNat / 4 * 4 + (a.toNat % 4 * 16 + b.toNat / 16) / 16 = a.toNat := by omega
      have second : (a.toNat % 4 * 16 + b.toNat / 16) % 16 * 16 + b.toNat % 16 * 4 / 4
          = b.toNat := by omega
      have third : b.toNat % 16 * 4 < 64 := by omega
      rw [encode, decode, value_symbol (by omega), value_symbol (by omega), value_symbol third]
      simp only [Option.bind_some, if_neg (symbol_ne_padding third), if_true, first, second,
        UInt8.ofNat_toNat]
      rw [if_pos ⟨trivial, by omega⟩]
  | case4 a b c rest ih =>
      have smallA := a.toNat_lt
      have smallB := b.toNat_lt
      have smallC := c.toNat_lt
      have first : a.toNat / 4 * 4 + (a.toNat % 4 * 16 + b.toNat / 16) / 16 = a.toNat := by omega
      have second : (a.toNat % 4 * 16 + b.toNat / 16) % 16 * 16
          + (b.toNat % 16 * 4 + c.toNat / 64) / 4 = b.toNat := by omega
      have third : (b.toNat % 16 * 4 + c.toNat / 64) % 4 * 64 + c.toNat % 64 = c.toNat := by
        omega
      have middle : b.toNat % 16 * 4 + c.toNat / 64 < 64 := by omega
      have last : c.toNat % 64 < 64 := Nat.mod_lt _ (by decide)
      rw [encode, decode, value_symbol (by omega), value_symbol (by omega),
        value_symbol middle, value_symbol last]
      simp only [Option.bind_some, if_neg (symbol_ne_padding middle),
        if_neg (symbol_ne_padding last), ih, Option.map_some, first, second, third,
        UInt8.ofNat_toNat]

/-- A text that can be read holds symbols and padding only, by induction on its groups. -/
theorem visible_of_decode {chars : List Char} {bytes : List UInt8}
    (read : decode chars = some bytes)
    : ∀ c ∈ chars, 0x21 ≤ c.toNat ∧ c.toNat ≤ 0x7e := by
  induction chars using decode.induct generalizing bytes with
  | case1 => simp
  | case2 w x y z rest ih =>
      rw [decode] at read
      obtain ⟨first, foundW, read⟩ := Option.bind_eq_some_iff.mp read
      obtain ⟨second, foundX, read⟩ := Option.bind_eq_some_iff.mp read
      have group (symbolY : (value y).isSome ∨ y = padding)
          (symbolZ : (value z).isSome ∨ z = padding)
          (visible : ∀ c ∈ rest, 0x21 ≤ c.toNat ∧ c.toNat ≤ 0x7e)
          : ∀ c ∈ w :: x :: y :: z :: rest, 0x21 ≤ c.toNat ∧ c.toNat ≤ 0x7e := by
        simp only [List.forall_mem_cons]
        exact ⟨visible_of_value (.inl (by simp [foundW])),
          visible_of_value (.inl (by simp [foundX])), visible_of_value symbolY,
          visible_of_value symbolZ, visible⟩
      split at read
      · next padded =>
          split at read
          · next cut => exact group (.inr padded) (.inr cut.1) (by simp [cut.2.1])
          · cases read
      · obtain ⟨third, foundY, read⟩ := Option.bind_eq_some_iff.mp read
        split at read
        · next padded =>
            split at read
            · next cut => exact group (.inl (by simp [foundY])) (.inr padded) (by simp [cut.1])
            · cases read
        · obtain ⟨fourth, foundZ, read⟩ := Option.bind_eq_some_iff.mp read
          obtain ⟨later, readRest, -⟩ := Option.map_eq_some_iff.mp read
          exact group (.inl (by simp [foundY])) (.inl (by simp [foundZ])) (ih readRest)
  | case3 chars short long =>
      rw [decode] at read
      · cases read
      · exact short
      · exact long

end Base64
