import Mathlib.Data.Fintype.Card
import XousAppSignal.Library.FiniteMap

/-! Fixed-width little-endian encoding of byte maps: a map is its 64-bit entry count
followed by its entries in any order, each a 32-bit key and a length-prefixed byte string.
Readers return the value together with the unread rest, and accept trailing bytes.
-/

namespace Bincode

/-- The `width` low bytes of a number, least significant first. -/
def encodeNat : Nat → Nat → List UInt8
  | 0, _ => []
  | width + 1, n => UInt8.ofNat (n % 256) :: encodeNat width (n / 256)

/-- The number denoted by bytes, least significant first. -/
def natOfBytes : List UInt8 → Nat
  | [] => 0
  | byte :: rest => byte.toNat + 256 * natOfBytes rest

/-- Split off exactly `count` bytes. -/
def readBytes (count : Nat) (input : List UInt8) : Option (List UInt8 × List UInt8) :=
  if count ≤ input.length then some (input.take count, input.drop count) else none

def readNat (width : Nat) (input : List UInt8) : Option (Nat × List UInt8) :=
  (readBytes width input).map (fun split => (natOfBytes split.1, split.2))

@[simp]
theorem length_encodeNat (width n : Nat) : (encodeNat width n).length = width := by
  induction width generalizing n with
  | zero => rfl
  | succ width ih => simp [encodeNat, ih]

/-- Reading back the low bytes of a number that fits gives the number, by induction on
the width.
-/
theorem natOfBytes_encodeNat {width n : Nat} (fits : n < 256 ^ width)
    : natOfBytes (encodeNat width n) = n := by
  induction width generalizing n with
  | zero =>
      have only : n = 0 := by simpa using fits
      rw [only, encodeNat, natOfBytes]
  | succ width ih =>
      have high : n / 256 < 256 ^ width := by
        rw [Nat.div_lt_iff_lt_mul (by decide), ← Nat.pow_succ]
        exact fits
      have low : (UInt8.ofNat (n % 256)).toNat = n % 256 := by
        rw [UInt8.toNat_ofNat']
        exact Nat.mod_eq_of_lt (Nat.mod_lt _ (by decide))
      rw [encodeNat, natOfBytes, ih high, low]
      exact Nat.mod_add_div n 256

@[simp]
theorem readBytes_append {count : Nat} {bytes : List UInt8} (size : bytes.length = count)
    (rest : List UInt8)
    : readBytes count (bytes ++ rest) = some (bytes, rest) := by
  simp [readBytes, ← size]

/-- What is read and what is left is the input. -/
theorem append_of_readBytes {count : Nat} {input bytes rest : List UInt8}
    (split : readBytes count input = some (bytes, rest))
    : bytes.length = count ∧ bytes ++ rest = input := by
  unfold readBytes at split
  split at split
  · next enough =>
      cases split
      exact ⟨List.length_take_of_le enough, List.take_append_drop count input⟩
  · cases split

theorem readBytes_shrinks {count : Nat} {input bytes rest : List UInt8}
    (read : readBytes count input = some (bytes, rest))
    : rest.length ≤ input.length := by
  rw [← (append_of_readBytes read).2, List.length_append]
  exact Nat.le_add_left _ _

theorem readNat_shrinks {width n : Nat} {input rest : List UInt8}
    (read : readNat width input = some (n, rest))
    : rest.length + width = input.length := by
  obtain ⟨⟨bytes, left⟩, split, same⟩ := Option.map_eq_some_iff.mp read
  cases same
  obtain ⟨count, whole⟩ := append_of_readBytes split
  rw [← whole, List.length_append, count, Nat.add_comm]

theorem readNat_encodeNat {width n : Nat} (fits : n < 256 ^ width) (rest : List UInt8)
    : readNat width (encodeNat width n ++ rest) = some (n, rest) := by
  simp [readNat, readBytes_append (length_encodeNat width n), natOfBytes_encodeNat fits]

/-- The byte string can be written with a 64-bit length. -/
abbrev Fits (bytes : List UInt8) : Prop := bytes.length < 256 ^ 8

def encodeBytes (bytes : List UInt8) : List UInt8 := encodeNat 8 bytes.length ++ bytes

def encodeEntry (entry : UInt32 × List UInt8) : List UInt8 :=
  encodeNat 4 entry.1.toNat ++ encodeBytes entry.2

def readEntry (input : List UInt8) : Option ((UInt32 × List UInt8) × List UInt8) :=
  (readNat 4 input).bind (fun (key, input) =>
    (readNat 8 input).bind (fun (size, input) =>
      (readBytes size input).map (fun (bytes, input) => ((UInt32.ofNat key, bytes), input))))

theorem readEntry_encodeEntry {entry : UInt32 × List UInt8} (fits : Fits entry.2)
    (rest : List UInt8)
    : readEntry (encodeEntry entry ++ rest) = some (entry, rest) := by
  obtain ⟨key, bytes⟩ := entry
  have keyFits : key.toNat < 256 ^ 4 := key.toNat_lt
  have back : UInt32.ofNat key.toNat = key := UInt32.ofNat_toNat
  simp only [encodeEntry, encodeBytes, readEntry, List.append_assoc]
  rw [readNat_encodeNat keyFits, Option.bind_some, readNat_encodeNat fits, Option.bind_some,
    readBytes_append rfl, Option.map_some, back]

/-- A map, its entries written in the order in which the hash map yields them. -/
def encodeMap (order : HashOrder) (map : FiniteMap UInt32 (List UInt8)) : List UInt8 :=
  encodeNat 8 map.entries.length ++ (order.arrange map.pairs).flatMap encodeEntry

/-- Read `count` entries; a repeated key keeps its last value. -/
def readEntries
    : Nat → FiniteMap UInt32 (List UInt8) → List UInt8
      → Option (FiniteMap UInt32 (List UInt8))
  | 0, map, _ => some map
  | count + 1, map, input =>
      (readEntry input).bind (fun (entry, input) =>
        readEntries count (map.insert entry.1 entry.2) input)

def decodeMap (input : List UInt8) : Option (FiniteMap UInt32 (List UInt8)) :=
  (readNat 8 input).bind (fun (count, input) => readEntries count ∅ input)

/-- Reading written entries inserts them from left to right, by induction on the entries. -/
theorem readEntries_flatMap {entries : List (UInt32 × List UInt8)}
    (fits : ∀ entry ∈ entries, Fits entry.2) (map : FiniteMap UInt32 (List UInt8))
    : readEntries entries.length map (entries.flatMap encodeEntry)
      = some (map.insertAll entries) := by
  induction entries generalizing map with
  | nil => rfl
  | cons entry rest ih =>
      rw [List.flatMap_cons, List.length_cons, readEntries,
        readEntry_encodeEntry (fits entry (by simp)), Option.bind_some]
      exact ih (fun other member => fits other (by simp [member])) _

/-- A map with 32-bit keys has a 64-bit entry count. -/
theorem length_entries_lt (map : FiniteMap UInt32 (List UInt8))
    : map.entries.length < 256 ^ 8 := by
  have unique : (map.keys.map UInt32.toFin).Nodup :=
    map.keys_nodup.map (fun _ _ same => UInt32.toFin_inj.mp same)
  have bound := unique.length_le_card
  rw [List.length_map, AList.keys, List.keys, List.length_map, Fintype.card_fin] at bound
  exact Nat.lt_of_le_of_lt bound (by decide)

/-- Decoding an encoded map succeeds and gives back every lookup, whatever the order in
which the entries were written.
-/
theorem decodeMap_encodeMap (order : HashOrder) {map : FiniteMap UInt32 (List UInt8)}
    (fits : ∀ key bytes, map.lookup key = some bytes → Fits bytes)
    : ∃ decoded, decodeMap (encodeMap order map) = some decoded
        ∧ ∀ key, decoded.lookup key = map.lookup key := by
  let entries := order.arrange map.pairs
  have size : map.entries.length = entries.length := by
    simp [entries, FiniteMap.pairs]
  have stored (key : UInt32) (bytes : List UInt8)
      : (key, bytes) ∈ entries ↔ map.lookup key = some bytes := by
    rw [order.mem_arrange, FiniteMap.mem_pairs]
  have unique : (entries.map Prod.fst).Nodup :=
    order.nodup_map_arrange _ map.pairs_keys_nodup
  have entriesFit : ∀ entry ∈ entries, Fits entry.2 :=
    fun entry member => fits entry.1 entry.2 ((stored _ _).mp member)
  refine ⟨FiniteMap.insertAll ∅ entries, ?_, ?_⟩
  · rw [decodeMap, encodeMap, readNat_encodeNat (length_entries_lt map), Option.bind_some,
      size]
    exact readEntries_flatMap entriesFit ∅
  · intro key
    cases found : map.lookup key with
    | some bytes =>
        exact FiniteMap.lookup_insertAll_of_mem unique ((stored key bytes).mpr found)
    | none =>
        rw [FiniteMap.lookup_insertAll_of_notMem, AList.lookup_empty]
        intro member
        obtain ⟨entry, listed, rfl⟩ := List.mem_map.mp member
        rw [(stored entry.1 entry.2).mp listed] at found
        cases found

/-- What a number of bytes can denote, by induction on them. -/
theorem natOfBytes_lt (bytes : List UInt8) : natOfBytes bytes < 256 ^ bytes.length := by
  induction bytes with
  | nil => exact Nat.one_pos
  | cons byte rest ih =>
      have low : byte.toNat < 256 := byte.toNat_lt
      rw [natOfBytes, List.length_cons, Nat.pow_succ]
      omega

/-- A byte string that was read has a 64-bit length. -/
theorem readEntry_fits {input rest : List UInt8} {entry : UInt32 × List UInt8}
    (read : readEntry input = some (entry, rest))
    : Fits entry.2 := by
  obtain ⟨⟨key, input'⟩, -, read⟩ := Option.bind_eq_some_iff.mp read
  obtain ⟨⟨size, input''⟩, sized, read⟩ := Option.bind_eq_some_iff.mp read
  obtain ⟨⟨bytes, left⟩, split, same⟩ := Option.map_eq_some_iff.mp read
  obtain ⟨⟨prefixed, left'⟩, width, value⟩ := Option.map_eq_some_iff.mp sized
  cases same
  obtain ⟨rfl, rfl⟩ := Prod.mk.inj value
  have bound := natOfBytes_lt prefixed
  rw [(append_of_readBytes width).1] at bound
  rw [Fits, (append_of_readBytes split).1]
  exact bound

theorem readEntries_fits {count : Nat} {map decoded : FiniteMap UInt32 (List UInt8)}
    {input : List UInt8} (read : readEntries count map input = some decoded)
    (fits : ∀ key bytes, map.lookup key = some bytes → Fits bytes)
    : ∀ key bytes, decoded.lookup key = some bytes → Fits bytes := by
  induction count generalizing map input with
  | zero =>
      cases read
      exact fits
  | succ count ih =>
      obtain ⟨⟨entry, rest⟩, first, read⟩ := Option.bind_eq_some_iff.mp read
      refine ih read fun key bytes found => ?_
      rw [FiniteMap.lookup_insert'] at found
      split at found
      · cases found
        exact readEntry_fits first
      · exact fits key bytes found

/-- Every byte string of a decoded map has a 64-bit length. -/
theorem decodeMap_fits {input : List UInt8} {decoded : FiniteMap UInt32 (List UInt8)}
    (read : decodeMap input = some decoded)
    : ∀ key bytes, decoded.lookup key = some bytes → Fits bytes := by
  obtain ⟨⟨count, rest⟩, -, read⟩ := Option.bind_eq_some_iff.mp read
  exact readEntries_fits read fun key bytes found => by simp at found

end Bincode
