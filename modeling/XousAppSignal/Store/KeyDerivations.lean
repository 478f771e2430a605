import Mathlib.Tactic.Ring
import XousAppSignal.Store.ContentsStore

/-! What the derived keys and dictionary names tell apart: hexadecimal and base64 texts, the
bytes under a hash, and the zero-padded timestamps, which also parse back.
-/

namespace XousAppSignal.Store

/-- The listed bytes of an array, from an index on, behind what is already listed. -/
theorem toList_loop (bytes : ByteArray) (index : Nat) (listed : List UInt8)
    : ByteArray.toList.loop bytes index listed
      = listed.reverse ++ bytes.data.toList.drop index := by
  rw [ByteArray.toList.loop]
  split
  · next inside =>
      have here : index < bytes.data.toList.length := by simpa using inside
      have byte : bytes.get! index = bytes.data.toList[index] := by
        rw [ByteArray.get!, getElem!_pos bytes.data index (by simpa using here)]
        simp
      rw [toList_loop bytes (index + 1), List.drop_eq_getElem_cons here, byte]
      simp
  · next outside =>
      have past : bytes.data.toList.length ≤ index := by simpa using outside
      rw [List.drop_eq_nil_of_le past, List.append_nil]
termination_by bytes.size - index

/-- Different texts have different bytes. -/
theorem utf8_injective {left right : String}
    (same : left.toUTF8.toList = right.toUTF8.toList)
    : left = right := by
  simp only [String.toUTF8_eq_toByteArray, ByteArray.toList, toList_loop, List.reverse_nil,
    List.nil_append, List.drop_zero] at same
  exact String.toByteArray_inj.mp (ByteArray.ext (Array.toList_inj.mp same))

/-- Digit by digit the same number, below a power of the base. By induction on the digits. -/
theorem mod_pow_eq_of_digits {base count n m : Nat}
    (same : ∀ place < count, n / base ^ place % base = m / base ^ place % base)
    : n % base ^ count = m % base ^ count := by
  induction count with
  | zero => simp [Nat.mod_one]
  | succ count ih =>
      rw [Nat.mod_pow_succ, Nat.mod_pow_succ, same count (Nat.lt_succ_self count),
        ih fun place below => same place (Nat.lt_succ_of_lt below)]

namespace Contents

/-- Different byte strings have different hexadecimal texts, by induction on both. -/
theorem hexEncode_injective {left right : Bytes} (same : hexEncode left = hexEncode right)
    : left = right := by
  replace same := String.ofList_injective same
  induction left generalizing right with
  | nil =>
      cases right with
      | nil => rfl
      | cons byte rest =>
          have lengths := congrArg List.length same
          simp at lengths
          omega
  | cons byte left ih =>
      cases right with
      | nil =>
          have lengths := congrArg List.length same
          simp at lengths
      | cons byte' right =>
          rw [List.flatMap_cons, List.flatMap_cons] at same
          obtain ⟨digits, rest⟩ := List.append_inj same (by simp)
          have bytes : byte.toNat = byte'.toNat := by
            have values := Uuid.hexDigits_injective digits
            have small := byte.toNat_lt
            have small' := byte'.toNat_lt
            simp only [Nat.reducePow] at values small small'
            omega
          rw [UInt8.toNat_inj.mp bytes, ih rest]

@[simp]
theorem length_uuidBytes (uuid : Uuid) : (uuidBytes uuid).length = 16 := by
  simp [uuidBytes]

theorem uuidBytes_injective {left right : Uuid} (same : uuidBytes left = uuidBytes right)
    : left = right := by
  have digits : ∀ place < 16, left.bits.toNat / 256 ^ place % 256
      = right.bits.toNat / 256 ^ place % 256 := by
    intro place below
    have here := List.map_inj_left.mp same place (by simpa using below)
    have value := congrArg UInt8.toNat here
    simpa using value
  have small (uuid : Uuid) : uuid.bits.toNat < 256 ^ 16 := uuid.bits.isLt
  have bits := mod_pow_eq_of_digits digits
  rw [Nat.mod_eq_of_lt (small left), Nat.mod_eq_of_lt (small right)] at bits
  cases left
  cases right
  exact congrArg Uuid.mk (BitVec.eq_of_toNat_eq bits)

/-! Base64 -/

theorem base64Char_injective
    : ∀ a < 64, ∀ b < 64, base64Char a = base64Char b → a = b := by
  decide +kernel

/-- Byte strings of one length are told apart by their base64 texts, three bytes at a time. -/
theorem base64_injective {left right : Bytes} (length : left.length = right.length)
    (same : base64 left = base64 right)
    : left = right := by
  have sextet {a b : Nat} (chars : base64Char a = base64Char b) (smallA : a < 64 := by omega)
      (smallB : b < 64 := by omega)
      : a = b :=
    base64Char_injective a smallA b smallB chars
  match left, right, length with
  | [], [], _ => rfl
  | [a], [a'], _ =>
      have smallA := a.toNat_lt
      have smallA' := a'.toNat_lt
      simp only [base64, List.cons.injEq] at same
      obtain ⟨first, second, -⟩ := same
      have high := sextet first
      have low := sextet second
      rw [show a = a' from UInt8.toNat_inj.mp (by omega)]
  | [a, b], [a', b'], _ =>
      have smallA := a.toNat_lt
      have smallA' := a'.toNat_lt
      have smallB := b.toNat_lt
      have smallB' := b'.toNat_lt
      simp only [base64, List.cons.injEq] at same
      obtain ⟨first, second, third, -⟩ := same
      have high := sextet first
      have middle := sextet second
      have low := sextet third
      rw [show a = a' from UInt8.toNat_inj.mp (by omega),
        show b = b' from UInt8.toNat_inj.mp (by omega)]
  | a :: b :: c :: rest, a' :: b' :: c' :: rest', length =>
      have smallA := a.toNat_lt
      have smallA' := a'.toNat_lt
      have smallB := b.toNat_lt
      have smallB' := b'.toNat_lt
      have smallC := c.toNat_lt
      have smallC' := c'.toNat_lt
      simp only [base64, List.cons.injEq] at same
      obtain ⟨first, second, third, fourth, later⟩ := same
      have one := sextet first
      have two := sextet second
      have three := sextet third
      have four := sextet fourth
      rw [show a = a' from UInt8.toNat_inj.mp (by omega),
        show b = b' from UInt8.toNat_inj.mp (by omega),
        show c = c' from UInt8.toNat_inj.mp (by omega),
        base64_injective (by simpa using length) later]

/-! Threads -/

theorem length_uuid_toString (uuid : Uuid) : uuid.toString.toList.length = 36 := by
  simp [Uuid.toString]

/-- A PNI's text is four characters longer than an ACI's. -/
theorem serviceIdString_injective {left right : ServiceId}
    (same : left.serviceIdString = right.serviceIdString)
    : left = right := by
  have lengths := congrArg (fun text => text.toList.length) same
  cases left with
  | aci uuid =>
      cases right with
      | aci uuid' => rw [Uuid.toString_injective same]
      | pni uuid' =>
          simp [ServiceId.serviceIdString, String.toList_append, length_uuid_toString] at lengths
  | pni uuid =>
      cases right with
      | aci uuid' =>
          simp [ServiceId.serviceIdString, String.toList_append, length_uuid_toString] at lengths
      | pni uuid' =>
          have texts := congrArg String.toList same
          simp only [ServiceId.serviceIdString, String.toList_append,
            List.append_cancel_left_eq] at texts
          rw [Uuid.toString_injective (String.toList_inj.mp texts)]

/-- The two kinds of threads differ in their first letter. -/
theorem threadKey_injective {left right : Thread} (same : threadKey left = threadKey right)
    : left = right := by
  have texts := congrArg String.toList same
  cases left with
  | contact serviceId =>
      cases right with
      | contact serviceId' =>
          simp only [threadKey, String.toList_append, List.append_cancel_left_eq] at texts
          rw [serviceIdString_injective (String.toList_inj.mp texts)]
      | group masterKey =>
          simp only [threadKey, String.toList_append] at texts
          cases texts
  | group masterKey =>
      cases right with
      | contact serviceId =>
          simp only [threadKey, String.toList_append] at texts
          cases texts
      | group masterKey' =>
          simp only [threadKey, String.toList_append, List.append_cancel_left_eq] at texts
          have chars := String.ofList_injective (String.toList_inj.mp texts)
          have bytes := base64_injective (by simp) chars
          rw [Vector.toList_inj.mp bytes]

/-! Timestamps -/

/-- A hexadecimal digit is read back as its value, and is no sign. -/
theorem toDigit_digitChar
    : ∀ digit < 16, toDigit 16 (Nat.digitChar digit) = some digit
      ∧ Nat.digitChar digit ≠ '+' := by
  decide

theorem mapM_toDigit_hexDigits (count n : Nat)
    : (Uuid.hexDigits count n).mapM (toDigit 16)
      = some ((List.range count).reverse.map (fun place => n / 16 ^ place % 16)) := by
  induction count with
  | zero => rfl
  | succ count ih =>
      have digit := (toDigit_digitChar (n / 16 ^ count % 16) (Nat.mod_lt _ (by decide))).1
      rw [Uuid.hexDigits_succ, List.mapM_cons, digit, ih, List.range_succ]
      simp

/-- The digits of a number give the number back, behind what was read before them. -/
theorem foldl_digits (count n read : Nat)
    : ((List.range count).reverse.map (fun place => n / 16 ^ place % 16)).foldl
        (fun acc digit => acc * 16 + digit) read
      = read * 16 ^ count + n % 16 ^ count := by
  induction count generalizing read with
  | zero => simp [Nat.mod_one]
  | succ count ih =>
      rw [List.range_succ, List.reverse_append, List.reverse_singleton, List.singleton_append,
        List.map_cons, List.foldl_cons, ih, Nat.mod_pow_succ]
      ring

/-- A timestamp's key parses as the timestamp. -/
theorem fromStrRadix_messageKey (timestamp : UInt64)
    : fromStrRadix 64 16 (messageKey timestamp) = some timestamp.toNat := by
  have leading := Uuid.hexDigits_succ 15 timestamp.toNat
  have digit := toDigit_digitChar (timestamp.toNat / 16 ^ 15 % 16) (Nat.mod_lt _ (by decide))
  have parsed := mapM_toDigit_hexDigits 16 timestamp.toNat
  have value := foldl_digits 16 timestamp.toNat 0
  have small : timestamp.toNat < 2 ^ 64 := timestamp.toNat_lt
  have whole : timestamp.toNat % 16 ^ 16 = timestamp.toNat := Nat.mod_eq_of_lt small
  rw [Nat.zero_mul, Nat.zero_add, whole] at value
  have chars : (messageKey timestamp).toList = Uuid.hexDigits 16 timestamp.toNat :=
    String.toList_ofList
  rw [leading] at chars parsed
  rw [fromStrRadix_unsigned chars digit.2 parsed (by rwa [value]), value]

theorem messageKey_injective {left right : UInt64} (same : messageKey left = messageKey right)
    : left = right := by
  have values := congrArg (fromStrRadix 64 16) same
  rw [fromStrRadix_messageKey, fromStrRadix_messageKey] at values
  exact UInt64.toNat_inj.mp (Option.some.inj values)

end Contents

/-- The hash tells the dictionaries of these two threads apart, if they are different. -/
def Presage.Apart (presage : Presage) (left right : Thread) : Prop :=
  presage.sha256 (Contents.threadKey left).toUTF8.toList
      = presage.sha256 (Contents.threadKey right).toUTF8.toList
    → (Contents.threadKey left).toUTF8.toList = (Contents.threadKey right).toUTF8.toList

theorem threadDictName_inj {presage : Presage} {left right : Thread}
    (apart : presage.Apart left right)
    : Contents.threadDictName presage left = Contents.threadDictName presage right
      ↔ left = right := by
  refine ⟨fun same => ?_, fun same => same ▸ rfl⟩
  have texts := congrArg String.toList same
  simp only [Contents.threadDictName, String.toList_append, List.append_cancel_left_eq] at texts
  have hashes := Contents.hexEncode_injective (String.toList_inj.mp texts)
  exact Contents.threadKey_injective (utf8_injective (apart (Vector.toList_inj.mp hashes)))

end XousAppSignal.Store
