import XousAppSignal.Store.KeyDerivations

/-! The hexadecimal texts of group master keys, read back two bytes at a time. The integer
parser below also takes a plus in front of a digit, and a slice that ends inside a character
is a panic.
-/

namespace XousAppSignal

/-- The length in bytes is that of the characters. -/
theorem utf8ByteSize_eq_sum (text : String)
    : text.utf8ByteSize = (text.toList.map Char.utf8Size).sum := by
  rw [← length_asBytes, asBytes_eq_flatMap, List.length_flatMap]
  simp

theorem toDigit_lt {c : Char} {value : Nat} (digit : toDigit 16 c = some value)
    : value < 16 := by
  simp only [toDigit, Option.ite_none_right_eq_some, Option.some.injEq] at digit
  omega

/-- A hexadecimal digit is one byte. -/
theorem utf8Size_of_toDigit {c : Char} {value : Nat} (digit : toDigit 16 c = some value)
    : c.utf8Size = 1 := by
  rw [Char.utf8Size_eq_one_iff]
  have ascii : c.toNat ≤ 127 := by
    simp only [toDigit, Option.ite_none_right_eq_some, Option.some.injEq] at digit
    split at digit
    · next decimal =>
      simp only [Char.isDigit, Bool.and_eq_true, decide_eq_true_eq] at decimal
      have up : c.toNat ≤ 57 := decimal.2
      omega
    · split at digit
      · next lower =>
        have up : c.toNat ≤ 'f'.toNat := lower.2
        exact up.trans (by decide)
      · split at digit
        · next upper =>
          have up : c.toNat ≤ 'F'.toNat := upper.2
          exact up.trans (by decide)
        · omega
  exact ascii

namespace Store.Contents

/-- Two digits a byte, the high one first. -/
def decodeHex : List Char → Option Bytes
  | [] => some []
  | [_] => none
  | high :: low :: rest =>
      (toDigit 16 high).bind (fun h => (toDigit 16 low).bind (fun l =>
        (decodeHex rest).map (UInt8.ofNat (h * 16 + l) :: ·)))

/-- The text is made of the 64 digits of the key. -/
structure HexKey (hex : String) (key : Bytes) : Prop where
  length : hex.toList.length = 64
  decoded : decodeHex hex.toList = some key

/-- What the integer parser takes for a pair of digits. -/
def IsPair (first second : Char) : Prop :=
  (first = '+' ∨ (toDigit 16 first).isSome = true) ∧ (toDigit 16 second).isSome = true

theorem fromStrRadix_pair (first second : Char)
    : fromStrRadix 8 16 (String.ofList [first, second])
      = if first = '+' then toDigit 16 second
        else (toDigit 16 first).bind (fun h => (toDigit 16 second).map (fun l => h * 16 + l)) := by
  unfold fromStrRadix
  rw [String.toList_ofList]
  split
  · next signed =>
      obtain ⟨rfl, rfl⟩ := List.cons.inj signed
      rw [if_pos rfl]
      cases digit : toDigit 16 second with
      | none => simp [digit]
      | some value =>
          have small := toDigit_lt digit
          simp [digit]
          omega
  · next unsigned =>
      have plain : first ≠ '+' := fun same => unsigned [second] (by rw [same])
      rw [if_neg plain]
      cases high : toDigit 16 first with
      | none => simp [high]
      | some h =>
          cases low : toDigit 16 second with
          | none => simp [high, low]
          | some l =>
              have small := toDigit_lt high
              have small' := toDigit_lt low
              simp [high, low]
              omega

theorem fromStrRadix_pair_isSome (first second : Char)
    : (fromStrRadix 8 16 (String.ofList [first, second])).isSome = true
      ↔ IsPair first second := by
  rw [fromStrRadix_pair, IsPair]
  split
  · next signed => simp [signed]
  · next unsigned =>
      cases toDigit 16 first <;> simp [unsigned]

/-- Reading two bytes at a time, the first piece that is no pair lies between the boundaries
of characters: it is one character of two bytes or two characters of one byte.
-/
inductive Refuses : List Char → Prop where
  | wide {c : Char} {rest : List Char} (size : c.utf8Size = 2) : Refuses (c :: rest)
  | narrow {first second : Char} {rest : List Char} (size : first.utf8Size = 1)
      (size' : second.utf8Size = 1) (bad : ¬IsPair first second)
      : Refuses (first :: second :: rest)
  | later {first second : Char} {rest : List Char} (pair : IsPair first second)
      (refuses : Refuses rest)
      : Refuses (first :: second :: rest)

-----------------------------------------------------------------------------------------
-- The parser
-----------------------------------------------------------------------------------------

/-- A plus and a digit are one byte each. -/
theorem IsPair.narrow {first second : Char} (pair : IsPair first second)
    : first.utf8Size = 1 ∧ second.utf8Size = 1 := by
  obtain ⟨signed | digit, digit'⟩ := pair
  all_goals obtain ⟨low, digit'⟩ := Option.isSome_iff_exists.mp digit'
  · exact ⟨by rw [signed]; decide, utf8Size_of_toDigit digit'⟩
  · obtain ⟨high, digit⟩ := Option.isSome_iff_exists.mp digit
    exact ⟨utf8Size_of_toDigit digit, utf8Size_of_toDigit digit'⟩

/-- The parser goes on behind a pair. -/
theorem parseHexPairs_pair {first second : Char} {byte : Nat} (rest : List Char)
    (pair : fromStrRadix 8 16 (String.ofList [first, second]) = some byte)
    : parseHexPairs (first :: second :: rest)
      = (parseHexPairs rest).map (Except.map (UInt8.ofNat byte :: ·)) := by
  have isPair := (fromStrRadix_pair_isSome first second).mp (by rw [pair]; rfl)
  obtain ⟨size, size'⟩ := isPair.narrow
  rw [parseHexPairs, if_neg (by omega), if_pos ⟨size, size'⟩, pair]

/-- Digits are read as the bytes they stand for. -/
theorem parseHexPairs_decoded {chars : List Char} {bytes : Bytes}
    (decoded : decodeHex chars = some bytes)
    : parseHexPairs chars = some (.ok bytes) := by
  induction chars using decodeHex.induct generalizing bytes with
  | case1 =>
      cases decoded
      rfl
  | case2 c => cases decoded
  | case3 high low rest ih =>
      simp only [decodeHex, Option.bind_eq_some_iff, Option.map_eq_some_iff] at decoded
      obtain ⟨h, digit, l, digit', tail, decoded, rfl⟩ := decoded
      have unsigned : high ≠ '+' := by
        rintro rfl
        cases digit
      have pair : fromStrRadix 8 16 (String.ofList [high, low]) = some (h * 16 + l) := by
        rw [fromStrRadix_pair, if_neg unsigned, digit, digit']
        rfl
      rw [parseHexPairs_pair rest pair, ih decoded]
      rfl

theorem parseHexPairs_refused {chars : List Char} (refuses : Refuses chars)
    : parseHexPairs chars = some (.error parseHexPairs.hexParse) := by
  induction refuses with
  | wide size =>
      rw [parseHexPairs.eq_def]
      exact if_pos size
  | @narrow first second rest size size' bad =>
      have none : fromStrRadix 8 16 (String.ofList [first, second]) = none := by
        rw [← Option.not_isSome_iff_eq_none, fromStrRadix_pair_isSome]
        exact bad
      rw [parseHexPairs, if_neg (by omega), if_pos ⟨size, size'⟩, none]
  | @later first second rest pair _ ih =>
      obtain ⟨byte, taken⟩ :=
        Option.isSome_iff_exists.mp ((fromStrRadix_pair_isSome first second).mpr pair)
      rw [parseHexPairs_pair rest taken, ih]
      rfl

/-- Only a piece between boundaries is refused. -/
theorem refuses_of_error {chars : List Char} {e : Error}
    (refused : parseHexPairs chars = some (.error e))
    : Refuses chars := by
  fun_induction parseHexPairs chars generalizing e with
  | case1 => cases refused
  | case2 first rest size => exact .wide size
  | case3 first wide second rest sizes none =>
      refine .narrow sizes.1 sizes.2 (fun pair => ?_)
      rw [← fromStrRadix_pair_isSome, none] at pair
      cases pair
  | case4 first wide second rest sizes byte taken ih =>
      refine .later ((fromStrRadix_pair_isSome first second).mp (by rw [taken]; rfl)) ?_
      obtain ⟨outcome, tail, same⟩ := Option.map_eq_some_iff.mp refused
      cases outcome with
      | error e => exact ih tail
      | ok bytes => cases same
  | case5 first wide second rest sizes => cases refused
  | case6 first wide => cases refused

-----------------------------------------------------------------------------------------
-- Keys
-----------------------------------------------------------------------------------------

theorem decodeHex_length {chars : List Char} {bytes : Bytes}
    (decoded : decodeHex chars = some bytes)
    : (chars.map Char.utf8Size).sum = chars.length := by
  induction chars using decodeHex.induct generalizing bytes with
  | case1 => rfl
  | case2 c => cases decoded
  | case3 high low rest ih =>
      simp only [decodeHex, Option.bind_eq_some_iff, Option.map_eq_some_iff] at decoded
      obtain ⟨h, digit, l, digit', tail, decoded, -⟩ := decoded
      simp only [List.map_cons, List.sum_cons, List.length_cons, utf8Size_of_toDigit digit,
        utf8Size_of_toDigit digit', ih decoded]
      omega

/-- What was encoded is decoded, by induction on the bytes. -/
theorem decodeHex_hexDigits (bytes : Bytes)
    : decodeHex (bytes.flatMap (fun byte => Uuid.hexDigits 2 byte.toNat)) = some bytes := by
  induction bytes with
  | nil => rfl
  | cons byte rest ih =>
      have small := byte.toNat_lt
      have high := (toDigit_digitChar (byte.toNat / 16 % 16) (Nat.mod_lt _ (by decide))).1
      have low := (toDigit_digitChar (byte.toNat % 16) (Nat.mod_lt _ (by decide))).1
      have digits : Uuid.hexDigits 2 byte.toNat
          = [Nat.digitChar (byte.toNat / 16 % 16), Nat.digitChar (byte.toNat % 16)] := by
        simp [Uuid.hexDigits, List.range_succ]
      have value : byte.toNat / 16 % 16 * 16 + byte.toNat % 16 = byte.toNat := by omega
      rw [List.flatMap_cons, digits, List.cons_append, List.cons_append, List.nil_append]
      simp only [decodeHex, high, low, ih, Option.bind_some, Option.map_some, value,
        UInt8.ofNat_toNat]

/-- A text of 64 digits has 64 bytes, and is parsed. -/
theorem HexKey.parsed {hex : String} {key : Bytes} (digits : HexKey hex key)
    : hex.utf8ByteSize = 64 ∧ parseHexMasterKey hex = some (.ok key) := by
  have size : hex.utf8ByteSize = 64 := by
    rw [utf8ByteSize_eq_sum, decodeHex_length digits.decoded, digits.length]
  refine ⟨size, ?_⟩
  rw [parseHexMasterKey, if_neg (not_not_intro size)]
  exact parseHexPairs_decoded digits.decoded

/-- Exactly the keys are parsed, to their decoding, and every other text is an error. -/
structure ParsedAsKey (hex : String) : Prop where
  key : ∀ bytes, parseHexMasterKey hex = some (.ok bytes) ↔ HexKey hex bytes
  other
    : (∀ bytes, ¬HexKey hex bytes)
      → ∃ message, parseHexMasterKey hex = some (.error (.decode message))

/-- A text that is an error is not one of 64 digits. -/
theorem ParsedAsKey.of_error {hex message : String}
    (refused : parseHexMasterKey hex = some (.error (.decode message)))
    : ParsedAsKey hex := by
  refine ⟨fun bytes => iff_of_false (fun same => ?_) (fun digits => ?_), fun _ => ⟨_, refused⟩⟩
  · rw [refused] at same
    cases same
  · rw [digits.parsed.2] at refused
    cases refused

theorem HexKey.parsedAsKey {hex : String} {key : Bytes} (digits : HexKey hex key)
    : ParsedAsKey hex := by
  refine ⟨fun other => ⟨fun same => ?_, fun digits' => digits'.parsed.2⟩,
    fun none => absurd digits (none key)⟩
  rw [digits.parsed.2] at same
  cases same
  exact digits

/-- A text is parsed if it is one of 64 digits, to the bytes they stand for, and is an error if
not, exactly in three cases: it is one of 64 digits, or it has not 64 bytes, or the first piece
of it that is no pair lies between the boundaries of characters. The text of a key is parsed as
the key.
-/
theorem parse_hex_master_key_iff (hex : String) (key : GroupMasterKeyBytes)
    : (ParsedAsKey hex
        ↔ (∃ bytes, HexKey hex bytes) ∨ hex.utf8ByteSize ≠ 64 ∨ Refuses hex.toList)
      ∧ parseHexMasterKey (hexEncode key.toList) = some (.ok key.toList) := by
  refine ⟨⟨fun parsed => ?_, ?_⟩, ?_⟩
  · by_cases digits : ∃ bytes, HexKey hex bytes
    · exact .inl digits
    · obtain ⟨message, refused⟩ := parsed.other (not_exists.mp digits)
      by_cases size : hex.utf8ByteSize = 64
      · rw [parseHexMasterKey, if_neg (not_not_intro size)] at refused
        exact .inr (.inr (refuses_of_error refused))
      · exact .inr (.inl size)
  · rintro (⟨bytes, digits⟩ | size | refuses)
    · exact digits.parsedAsKey
    · exact .of_error (if_pos size)
    · by_cases size : hex.utf8ByteSize = 64
      · have refused : parseHexMasterKey hex = some (.error parseHexPairs.hexParse) := by
          rw [parseHexMasterKey, if_neg (not_not_intro size), parseHexPairs_refused refuses]
        exact .of_error refused
      · exact .of_error (if_pos size)
  · have digits : HexKey (hexEncode key.toList) key.toList := by
      refine ⟨?_, ?_⟩
      · rw [hexEncode, String.toList_ofList, List.length_flatMap]
        simp
      · rw [hexEncode, String.toList_ofList]
        exact decodeHex_hexDigits key.toList
    exact digits.parsed.2

/-- A plus is taken for a digit, and a character of three bytes behind one digit is cut. -/
theorem parse_hex_master_key_astray
    : let signed := String.ofList ('+' :: 'f' :: List.replicate 62 '0')
      let cut := String.ofList ('0' :: '€' :: List.replicate 60 '0')
      parseHexMasterKey signed = some (.ok (15 :: List.replicate 31 0))
      ∧ parseHexMasterKey cut = none
      ∧ ¬ParsedAsKey signed ∧ ¬ParsedAsKey cut := by
  intro signed cut
  have taken : parseHexMasterKey signed = some (.ok (15 :: List.replicate 31 0)) := by
    decide +kernel
  have panics : parseHexMasterKey cut = none := by decide +kernel
  have noDigits {chars : List Char} (plain : decodeHex chars = none) (bytes : Bytes)
      : ¬HexKey (String.ofList chars) bytes := by
    intro digits
    have decoded := digits.decoded
    rw [String.toList_ofList, plain] at decoded
    cases decoded
  refine ⟨taken, panics, fun parsed => ?_, fun parsed => ?_⟩
  · exact noDigits rfl _ ((parsed.key _).mp taken)
  · obtain ⟨message, refused⟩ := parsed.other (noDigits rfl)
    rw [panics] at refused
    cases refused

end Store.Contents

end XousAppSignal
