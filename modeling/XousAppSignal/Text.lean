import Mathlib.Algebra.GroupWithZero.Nat
import Mathlib.Data.List.Infix

/-! String operations of the standard library that both the UI and the worker use. -/

namespace XousAppSignal

/-- Unicode `White_Space`, as `str::trim` uses it. -/
def isWhitespace (c : Char) : Bool :=
  let n := c.toNat
  (9 ≤ n && n ≤ 13) || n == 0x20 || n == 0x85 || n == 0xa0 || n == 0x1680
    || (0x2000 ≤ n && n ≤ 0x200a) || n == 0x2028 || n == 0x2029 || n == 0x202f
    || n == 0x205f || n == 0x3000

/-- `str::trim`. -/
def trim (s : String) : String :=
  String.ofList ((s.toList.dropWhile isWhitespace).reverse.dropWhile isWhitespace).reverse

/-- `str::contains` with a string pattern. -/
def containsText (needle text : String) : Bool := needle.toList <:+: text.toList

/-- `str::starts_with` with a character pattern. -/
def startsWith (c : Char) (text : String) : Bool := text.toList.head? = some c

/-- `char::to_digit`, for a radix up to 16. -/
def toDigit (radix : Nat) (c : Char) : Option Nat :=
  let value :=
    if c.isDigit then c.toNat - '0'.toNat
    else if 'a' ≤ c ∧ c ≤ 'f' then c.toNat - 'a'.toNat + 10
    else if 'A' ≤ c ∧ c ≤ 'F' then c.toNat - 'A'.toNat + 10
    else radix
  if value < radix then some value else none

/-- `from_str_radix` of the unsigned type with this many bits; a leading plus is accepted. -/
def fromStrRadix (bits radix : Nat) (text : String) : Option Nat :=
  let digits :=
    match text.toList with
    | '+' :: rest => rest
    | chars => chars
  if digits.isEmpty then none
  else
    (digits.mapM (toDigit radix)).bind (fun values =>
      let n := values.foldl (fun acc digit => acc * radix + digit) 0
      if n < 2 ^ bits then some n else none)

-----------------------------------------------------------------------------------------
-- Bytes
-----------------------------------------------------------------------------------------

/-- `str::as_bytes`. -/
def asBytes (text : String) : List UInt8 := text.toUTF8.data.toList

/-- `str::from_utf8`. -/
def fromUtf8 (bytes : List UInt8) : Option String := String.fromUTF8? ⟨bytes.toArray⟩

@[simp]
theorem length_asBytes (text : String) : (asBytes text).length = text.utf8ByteSize := by
  rw [asBytes, Array.length_toList, String.toUTF8_eq_toByteArray]
  rfl

/-- The bytes of a text are valid UTF-8, for that text. -/
@[simp]
theorem fromUtf8_asBytes (text : String) : fromUtf8 (asBytes text) = some text := by
  have valid : text.toUTF8.IsValidUTF8 := text.isValidUTF8
  rw [asBytes, fromUtf8, Array.toArray_toList, String.fromUTF8?, dif_pos valid]
  rfl

/-- The bytes of a text are those of its characters. -/
theorem asBytes_eq_flatMap (text : String)
    : asBytes text = text.toList.flatMap String.utf8EncodeChar := by
  rw [asBytes, String.toUTF8_eq_toByteArray, ← String.utf8Encode_toList, List.utf8Encode]
  simp

@[simp]
theorem asBytes_append (left right : String)
    : asBytes (left ++ right) = asBytes left ++ asBytes right := by
  simp [asBytes]

/-- A byte below 128 stands for an ASCII character. -/
theorem toNat_of_mem_utf8EncodeChar {c : Char} {byte : UInt8}
    (member : byte ∈ String.utf8EncodeChar c) (ascii : byte.toNat < 128)
    : byte.toNat = c.toNat := by
  have code : c.val.toNat = c.toNat := rfl
  have high (n base : Nat) (up : 128 ≤ base) (fits : n + base < 256)
      (same : byte = UInt8.ofNat (n + base)) : False := by
    have value : byte.toNat = n + base := by
      rw [same, UInt8.toNat_ofNat', Nat.mod_eq_of_lt fits]
    omega
  simp only [String.utf8EncodeChar, code] at member
  split at member
  · next single =>
      rw [List.mem_singleton] at member
      rw [member, UInt8.toNat_ofNat', Nat.mod_eq_of_lt (by omega)]
  · exfalso
    -- every byte of a longer encoding has its highest bit set
    split_ifs at member <;> simp only [List.mem_cons, List.not_mem_nil, or_false] at member
    · rcases member with same | same
      · exact high _ 192 (by omega) (by omega) same
      · exact high _ 128 (by omega) (by omega) same
    · rcases member with same | same | same
      · exact high _ 224 (by omega) (by omega) same
      · exact high _ 128 (by omega) (by omega) same
      · exact high _ 128 (by omega) (by omega) same
    · rcases member with same | same | same | same
      · exact high _ 240 (by omega) (by omega) same
      · exact high _ 128 (by omega) (by omega) same
      · exact high _ 128 (by omega) (by omega) same
      · exact high _ 128 (by omega) (by omega) same

/-- The byte of an ASCII character stands only where the character does. -/
theorem notMem_asBytes {c : Char} {text : String} (ascii : c.toNat < 128)
    (absent : c ∉ text.toList)
    : UInt8.ofNat c.toNat ∉ asBytes text := by
  intro member
  rw [asBytes_eq_flatMap, List.mem_flatMap] at member
  obtain ⟨other, listed, member⟩ := member
  have value : (UInt8.ofNat c.toNat).toNat = c.toNat := by
    rw [UInt8.toNat_ofNat', Nat.mod_eq_of_lt (by omega)]
  have same := toNat_of_mem_utf8EncodeChar member (by omega)
  rw [value] at same
  exact absent (Char.toNat_inj.mp same ▸ listed)

-----------------------------------------------------------------------------------------
-- Numbers
-----------------------------------------------------------------------------------------

/-- Digits without a sign parse as the number they denote, if it fits. -/
theorem fromStrRadix_unsigned {bits radix : Nat} {text : String} {first : Char}
    {rest : List Char} {values : List Nat} (chars : text.toList = first :: rest)
    (unsigned : first ≠ '+') (digits : (first :: rest).mapM (toDigit radix) = some values)
    (fits : values.foldl (fun acc digit => acc * radix + digit) 0 < 2 ^ bits)
    : fromStrRadix bits radix text
      = some (values.foldl (fun acc digit => acc * radix + digit) 0) := by
  unfold fromStrRadix
  split
  · next signed =>
      rw [chars] at signed
      exact absurd (List.cons.inj signed).1 unsigned
  · simp only [chars, List.isEmpty_cons, Bool.false_eq_true, if_false, digits,
      Option.bind_some, if_pos fits]

theorem toDigit_ten {c : Char} (digit : c.isDigit = true)
    : toDigit 10 c = some (c.toNat - '0'.toNat) := by
  have bound : c.toNat - '0'.toNat < 10 := by
    simp only [Char.isDigit, Bool.and_eq_true, decide_eq_true_eq] at digit
    have up : c.toNat ≤ 57 := digit.2
    change c.toNat - 48 < 10
    omega
  simp only [toDigit, digit, if_true, if_pos bound]

theorem mapM_toDigit_ten {chars : List Char} (digits : ∀ c ∈ chars, c.isDigit = true)
    : chars.mapM (toDigit 10) = some (chars.map (fun c => c.toNat - '0'.toNat)) := by
  induction chars with
  | nil => rfl
  | cons c rest ih =>
      rw [List.mapM_cons, toDigit_ten (digits c List.mem_cons_self),
        ih fun other member => digits other (List.mem_cons_of_mem _ member)]
      rfl

/-- The decimal text of a number that fits parses as the number. -/
theorem fromStrRadix_repr {bits n : Nat} (fits : n < 2 ^ bits)
    : fromStrRadix bits 10 n.repr = some n := by
  have digits : ∀ c ∈ Nat.toDigits 10 n, c.isDigit = true :=
    fun c member => Nat.isDigit_of_mem_toDigits (by decide) (by decide) member
  have value : (Nat.toDigits 10 n).foldl (fun acc c => acc * 10 + (c.toNat - '0'.toNat)) 0
      = n := by
    have back : Nat.ofDigitChars 10 (Nat.toDigits 10 n) 0 = n := Nat.ofDigitChars_ten_toDigits
    simpa only [Nat.ofDigitChars, Nat.mul_comm] using back
  rcases chars : Nat.toDigits 10 n with _ | ⟨first, rest⟩
  · exact absurd chars Nat.toDigits_ne_nil
  · rw [chars] at digits value
    have unsigned : first ≠ '+' := by
      rintro rfl
      exact absurd (digits '+' List.mem_cons_self) (by decide)
    have text : n.repr.toList = first :: rest := by rw [Nat.toList_repr, chars]
    have same : ((first :: rest).map (fun c => c.toNat - '0'.toNat)).foldl
        (fun acc digit => acc * 10 + digit) 0 = n := by
      rw [List.foldl_map]
      exact value
    rw [fromStrRadix_unsigned text unsigned (mapM_toDigit_ten digits) (by rwa [same]),
      same]

end XousAppSignal
