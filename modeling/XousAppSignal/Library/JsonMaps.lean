import Mathlib.Data.List.Basic
import Mathlib.Data.String.Basic
import XousAppSignal.Library.FiniteMap

/-! The compact JSON text of a map of byte strings: an object with decimal keys, each with an
array of numbers. The reader accepts texts of this shape without white space, and takes the
last of repeated keys.
-/

namespace JsonMaps

/-- A reader returns a value and the unread rest. -/
abbrev Reader (α : Type) := List Char → Option (α × List Char)

/-- Read this character. -/
def expect (c : Char) : Reader Unit
  | [] => none
  | first :: rest => if first = c then some ((), rest) else none

/-- Read a decimal number without leading zeros. -/
def readNumber : Reader Nat := fun input =>
  let digits := input.takeWhile Char.isDigit
  let value := Nat.ofDigitChars 10 digits 0
  if digits = Nat.toDigits 10 value then some (value, input.dropWhile Char.isDigit) else none

/-- Read one or more items with commas between them. -/
def readItems {α : Type} (item : Reader α) : Nat → Reader (List α)
  | 0, _ => none
  | fuel + 1, input =>
      (item input).bind (fun (first, rest) =>
        match rest with
        | ',' :: rest =>
            (readItems item fuel rest).map (fun (items, rest) => (first :: items, rest))
        | _ => some ([first], rest))

/-- Read items between brackets. -/
def readList {α : Type} (opening closing : Char) (item : Reader α) : Reader (List α) :=
    fun input =>
  (expect opening input).bind (fun (_, rest) =>
    match expect closing rest with
    | some (_, rest) => some ([], rest)
    | none =>
        (readItems item rest.length rest).bind (fun (items, rest) =>
          (expect closing rest).map (fun (_, rest) => (items, rest))))

/-- Read a byte. -/
def readByte : Reader UInt8 := fun input =>
  (readNumber input).bind (fun (n, rest) =>
    if n < 2 ^ 8 then some (UInt8.ofNat n, rest) else none)

/-- Read a quoted key with its array of bytes. -/
def readEntry : Reader (UInt32 × List UInt8) := fun input =>
  (expect '"' input).bind (fun (_, rest) =>
    (readNumber rest).bind (fun (key, rest) =>
      (expect '"' rest).bind (fun (_, rest) =>
        (expect ':' rest).bind (fun (_, rest) =>
          (readList '[' ']' readByte rest).bind (fun (bytes, rest) =>
            if key < 2 ^ 32 then some ((UInt32.ofNat key, bytes), rest) else none)))))

/-- Read a whole text. -/
def decodeMap (text : String) : Option (FiniteMap UInt32 (List UInt8)) :=
  match readList '\x7b' '\x7d' readEntry text.toList with
  | some (entries, []) => some (FiniteMap.insertAll ∅ entries)
  | _ => none

-----------------------------------------------------------------------------------------
-- Writing
-----------------------------------------------------------------------------------------

def encodeList {α : Type} (opening closing : Char) (write : α → List Char) (items : List α)
    : List Char :=
  opening :: (List.intercalate [','] (items.map write) ++ [closing])

def encodeByte (byte : UInt8) : List Char := Nat.toDigits 10 byte.toNat

def encodeEntry (entry : UInt32 × List UInt8) : List Char :=
  '"' :: (Nat.toDigits 10 entry.1.toNat ++ '"' :: ':' :: encodeList '[' ']' encodeByte entry.2)

/-- A map, its entries written in the order in which the hash map yields them. -/
def encodeMap (order : HashOrder) (map : FiniteMap UInt32 (List UInt8)) : String :=
  String.ofList (encodeList '\x7b' '\x7d' encodeEntry (order.arrange map.pairs))

example : encodeMap .insertion ((∅ : FiniteMap UInt32 (List UInt8)).insert 1 [16, 32, 48, 64])
    = "\x7b\"1\":[16,32,48,64]\x7d" := by
  decide

-----------------------------------------------------------------------------------------
-- Reading back
-----------------------------------------------------------------------------------------

@[simp]
theorem expect_cons (c : Char) (rest : List Char) : expect c (c :: rest) = some ((), rest) := by
  simp [expect]

/-- The unread rest does not continue a number. -/
def Stops (rest : List Char) : Prop := ∀ c ∈ rest.head?, c.isDigit = false

theorem stops_cons {c : Char} (other : c.isDigit = false) (rest : List Char)
    : Stops (c :: rest) := by
  rintro _ ⟨⟩
  exact other

theorem readNumber_toDigits (n : Nat) {rest : List Char} (stops : Stops rest)
    : readNumber (Nat.toDigits 10 n ++ rest) = some (n, rest) := by
  have digits : ∀ c ∈ Nat.toDigits 10 n, c.isDigit = true :=
    fun c member => Nat.isDigit_of_mem_toDigits (by decide) (by decide) member
  have behind : rest.takeWhile Char.isDigit = [] ∧ rest.dropWhile Char.isDigit = rest := by
    cases rest with
    | nil => exact ⟨rfl, rfl⟩
    | cons c rest =>
        have other := stops c rfl
        simp [other]
  have value : Nat.ofDigitChars 10 (Nat.toDigits 10 n) 0 = n := Nat.ofDigitChars_ten_toDigits
  simp only [readNumber, List.takeWhile_append_of_pos digits, List.dropWhile_append_of_pos digits,
    behind.1, behind.2, List.append_nil, value, if_true]

/-- Items with commas between them are read back, by induction on the items behind the first. -/
theorem readItems_intercalate {α : Type} {item : Reader α} {write : α → List Char}
    {closing : Char} (closes : closing ≠ ',')
    (back
      : ∀ x c rest, c = ',' ∨ c = closing → item (write x ++ c :: rest) = some (x, c :: rest))
    (first : α) (items : List α) {fuel : Nat} (enough : items.length < fuel) (rest : List Char)
    : readItems item fuel
        (List.intercalate [','] ((first :: items).map write) ++ closing :: rest)
      = some (first :: items, closing :: rest) := by
  induction items generalizing first fuel with
  | nil =>
      match fuel, enough with
      | fuel + 1, _ =>
          simp only [List.map_cons, List.map_nil, List.intercalate_singleton, readItems,
            back first closing rest (.inr rfl), Option.bind_some]
          split
          · next same => exact absurd (List.cons.inj same).1 closes
          · rfl
  | cons next items ih =>
      match fuel, enough with
      | fuel + 1, enough =>
          have later := ih next (Nat.lt_of_succ_lt_succ enough)
          rw [List.map_cons, List.map_cons, List.intercalate_cons_cons, List.append_assoc,
            List.append_assoc, List.singleton_append, ← List.map_cons, readItems,
            back first ',' _ (.inl rfl), Option.bind_some]
          simp only [later, Option.map_some]

/-- There are at least as many characters as items, if every item has one. -/
theorem length_le_intercalate {α : Type} {write : α → List Char} (filled : ∀ x, write x ≠ [])
    (items : List α)
    : items.length ≤ (List.intercalate [','] (items.map write)).length := by
  induction items with
  | nil => exact Nat.zero_le _
  | cons first items ih =>
      have one : 1 ≤ (write first).length := List.length_pos_iff.mpr (filled first)
      cases items with
      | nil =>
          rw [List.map_cons, List.map_nil, List.intercalate_singleton]
          exact one
      | cons next items =>
          rw [List.map_cons, List.map_cons, List.intercalate_cons_cons, ← List.map_cons]
          simp only [List.length_append, List.length_cons] at ih ⊢
          omega

/-- Items between brackets are read back. -/
theorem readList_encodeList {α : Type} (item : Reader α) (write : α → List Char)
    (opening closing : Char) (closes : closing ≠ ',')
    (begins : ∀ x, ∃ c rest, write x = c :: rest ∧ c ≠ closing)
    (back
      : ∀ x c rest, c = ',' ∨ c = closing → item (write x ++ c :: rest) = some (x, c :: rest))
    (items : List α) (rest : List Char)
    : readList opening closing item (encodeList opening closing write items ++ rest)
      = some (items, rest) := by
  rw [encodeList, List.cons_append, readList, expect_cons, Option.bind_some]
  cases items with
  | nil => simp
  | cons first items =>
      obtain ⟨c, more, start, other⟩ := begins first
      have filled : ∀ x, write x ≠ [] := by
        intro x
        obtain ⟨c, more, start, -⟩ := begins x
        rw [start]
        exact List.cons_ne_nil c more
      have open_list : expect closing
          (List.intercalate [','] ((first :: items).map write) ++ [closing] ++ rest) = none := by
        have head : ∃ tail, List.intercalate [','] ((first :: items).map write) ++ [closing] ++ rest
            = c :: tail := by
          cases items with
          | nil => exact ⟨more ++ [closing] ++ rest, by simp [start]⟩
          | cons next items => exact ⟨_, by simp [start]; rfl⟩
        obtain ⟨tail, same⟩ := head
        rw [same, expect, if_neg other]
      have long := length_le_intercalate filled (first :: items)
      have enough : items.length
          < (List.intercalate [','] ((first :: items).map write) ++ [closing] ++ rest).length := by
        simp only [List.length_append, List.length_cons] at long ⊢
        omega
      have read := readItems_intercalate closes back first items enough rest
      simp only [List.append_assoc, List.singleton_append] at open_list read ⊢
      simp only [open_list, read, Option.bind_some, expect_cons, Option.map_some]

/-- A decimal number starts with a digit. -/
theorem toDigits_begins (n : Nat) {c : Char} (other : c.isDigit = false)
    : ∃ first rest, Nat.toDigits 10 n = first :: rest ∧ first ≠ c := by
  obtain ⟨first, rest, chars⟩ := List.exists_cons_of_ne_nil (Nat.toDigits_ne_nil (b := 10) (n := n))
  refine ⟨first, rest, chars, ?_⟩
  rintro rfl
  have digit : first.isDigit = true :=
    Nat.isDigit_of_mem_toDigits (by decide) (by decide) (chars ▸ List.mem_cons_self)
  rw [digit] at other
  cases other

theorem readByte_encodeByte (byte : UInt8) {rest : List Char} (stops : Stops rest)
    : readByte (encodeByte byte ++ rest) = some (byte, rest) := by
  have back : UInt8.ofNat byte.toNat = byte := UInt8.ofNat_toNat
  simp only [readByte, encodeByte, readNumber_toDigits _ stops, Option.bind_some,
    if_pos byte.toNat_lt, back]

theorem readEntry_encodeEntry (entry : UInt32 × List UInt8) (rest : List Char)
    : readEntry (encodeEntry entry ++ rest) = some (entry, rest) := by
  obtain ⟨key, bytes⟩ := entry
  have back : UInt32.ofNat key.toNat = key := UInt32.ofNat_toNat
  have list := readList_encodeList readByte encodeByte '[' ']' (by decide)
    (fun byte => toDigits_begins byte.toNat (by decide))
    (fun byte c rest between => readByte_encodeByte byte (stops_cons
      (by rcases between with rfl | rfl <;> decide) rest)) bytes rest
  have quote : Stops ('"' :: ':' :: (encodeList '[' ']' encodeByte bytes ++ rest)) :=
    stops_cons (by decide) _
  simp only [readEntry, encodeEntry, List.cons_append, List.append_assoc, expect_cons,
    Option.bind_some, readNumber_toDigits _ quote, list, if_pos key.toNat_lt, back]

/-- Decoding an encoded map succeeds and gives back every lookup, whatever the order in
which the entries were written.
-/
theorem decodeMap_encodeMap (order : HashOrder) (map : FiniteMap UInt32 (List UInt8))
    : ∃ decoded, decodeMap (encodeMap order map) = some decoded
        ∧ ∀ key, decoded.lookup key = map.lookup key := by
  have unique := order.nodup_map_arrange Prod.fst map.pairs_keys_nodup
  have read := readList_encodeList readEntry encodeEntry '\x7b' '\x7d' (by decide)
    (fun entry => ⟨'"', _, rfl, by decide⟩)
    (fun entry c rest _ => readEntry_encodeEntry entry (c :: rest)) (order.arrange map.pairs) []
  rw [List.append_nil] at read
  refine ⟨FiniteMap.insertAll ∅ (order.arrange map.pairs), ?_, fun key => ?_⟩
  · rw [decodeMap, encodeMap, String.toList_ofList, read]
  · apply Option.ext
    intro bytes
    rw [FiniteMap.lookup_insertAll_empty unique, order.mem_arrange, FiniteMap.mem_pairs]

end JsonMaps
