import XousAppSignal.Library.Bincode
import XousAppSignal.Library.PackedRecords
import XousAppSignal.Store.PddbClient
import XousAppSignal.Text

/-! The client's bulk write. The entries are packed one behind the other into one page and
closed by an empty dictionary name, under limits that are checked while the page is filled.
-/

namespace XousAppSignal.Store.Pddb

open PackedRecords

def maxPddbWriteBatchLen : Nat := 3800

/-- The payload of a bulk write. -/
structure PddbWriteBatch where
  basisSpecified : Bool
  basis : String
  data : Vector UInt8 maxPddbWriteBatchLen
  retcode : PddbRetcode

abbrev BatchEntry := String × String × Bytes

/-- `u16::to_le_bytes`. -/
def toLeBytes (n : UInt16) : Vector UInt8 2 := #v[n.toUInt8, (n >>> 8).toUInt8]

/-- One round of the packing loop: the index behind the entry and the page with it, or why it
is refused. `none` where a write does not lie inside the page, which is a panic.
-/
def packEntry (entry : BatchEntry) (index : Nat) (data : Vector UInt8 maxPddbWriteBatchLen)
    : Option (Except IpcError (Nat × Vector UInt8 maxPddbWriteBatchLen)) :=
  let (dict, key, value) := entry
  if dict.isEmpty then
    some (.error ⟨.invalidInput, "empty dict name (collides with terminator)"⟩)
  else if dictNameLen - 1 < dict.utf8ByteSize then
    some (.error ⟨.invalidInput, "dict name too long"⟩)
  else if keyNameLen - 1 < key.utf8ByteSize then
    some (.error ⟨.invalidInput, "key name too long"⟩)
  else if 65535 < value.length then
    some (.error ⟨.invalidInput, "value too large for one entry"⟩)
  else
    let needed := 1 + dict.utf8ByteSize + 1 + key.utf8ByteSize + 2 + value.length
    if maxPddbWriteBatchLen < index + needed + 1 then
      some (.error ⟨.invalidInput, "batch exceeds MAX_PDDB_WRITE_BATCH_LEN; split"⟩)
    else do
      let data ← writeAt data index [UInt8.ofNat dict.utf8ByteSize]
      let index := index + 1
      let data ← writeAt data index (asBytes dict)
      let index := index + dict.utf8ByteSize
      let data ← writeAt data index [UInt8.ofNat key.utf8ByteSize]
      let index := index + 1
      let data ← writeAt data index (asBytes key)
      let index := index + key.utf8ByteSize
      let vlen := toLeBytes (UInt16.ofNat value.length)
      let data ← writeAt data index [vlen[0]]
      let data ← writeAt data (index + 1) [vlen[1]]
      let index := index + 2
      let data ← writeAt data index value
      let index := index + value.length
      some (.ok (index, data))

/-- The packing loop. -/
def packEntries
    : List BatchEntry → Nat → Vector UInt8 maxPddbWriteBatchLen
      → Option (Except IpcError (Nat × Vector UInt8 maxPddbWriteBatchLen))
  | [], index, data => some (.ok (index, data))
  | entry :: entries, index, data =>
      match packEntry entry index data with
      | none => none
      | some (.error e) => some (.error e)
      | some (.ok (index, data)) => packEntries entries index data

def batchResult : PddbRetcode → Except IpcError Unit
  | .ok => .ok ()
  | .basisLost => .error ⟨.notFound, "basis lost"⟩
  | .accessDenied => .error ⟨.accessDenied, "access denied"⟩
  | .diskFull => .error ⟨.noFreeSpace, "disk full"⟩
  | .unexpectedEof => .error ⟨.internal, "unexpected EOF"⟩
  | .internalError => .error ⟨.internal, "internal error"⟩
  | .uninit => .error ⟨.internal, "server returned without setting retcode"⟩

/-- `PddbClient::write_batch`; `none` where it panics. The server's handler answers with a
return code, and with none where lending the page fails.
-/
def writeBatch {σ : Type} (writeKeyBatch : PddbWriteBatch → σ → Option PddbRetcode × σ)
    (entries : List BatchEntry) (state : σ) : Option (Except IpcError Unit × σ) :=
  if entries.isEmpty then some (.ok (), state)
  else
    match packEntries entries 0 (Vector.replicate maxPddbWriteBatchLen 0) with
    | none => none
    | some (.error e) => some (.error e, state)
    | some (.ok (index, data)) =>
        match if index < maxPddbWriteBatchLen then writeAt data index [0] else some data with
        | none => none
        | some data =>
            match writeKeyBatch ⟨false, "", data, .uninit⟩ state with
            | (none, state) => some (.error ⟨.ipc, "lend_mut WriteKeyBatch"⟩, state)
            | (some retcode, state) => some (batchResult retcode, state)

-----------------------------------------------------------------------------------------
-- The wire format, as it is documented
-----------------------------------------------------------------------------------------

/-- A length-prefixed name. -/
def readName (input : Bytes) : Option (Bytes × Bytes) :=
  (Bincode.readNat 1 input).bind (fun (size, rest) => Bincode.readBytes size rest)

/-- An entry, or the empty dictionary name that ends the sequence. -/
def readEntry (input : Bytes) : Option (Option BatchEntry × Bytes) :=
  (readName input).bind (fun (dict, rest) =>
    if dict.isEmpty then some (none, rest)
    else
      (readName rest).bind (fun (key, rest) =>
        (Bincode.readNat 2 rest).bind (fun (size, rest) =>
          (Bincode.readBytes size rest).bind (fun (value, rest) =>
            (fromUtf8 dict).bind (fun dict =>
              (fromUtf8 key).map (fun key => (some (dict, key, value), rest)))))))

theorem readName_shrinks {input name rest : Bytes} (read : readName input = some (name, rest))
    : rest.length < input.length := by
  obtain ⟨⟨size, left⟩, first, second⟩ := Option.bind_eq_some_iff.mp read
  have used := Bincode.readNat_shrinks first
  have kept := Bincode.readBytes_shrinks second
  omega

/-- The grammar of the packed page. -/
def batchGrammar : Grammar BatchEntry UInt8 where
  read := readEntry
  shrinks := by
    intro input record rest read
    obtain ⟨⟨dict, afterDict⟩, first, read⟩ := Option.bind_eq_some_iff.mp read
    simp only at read
    have one : afterDict.length < input.length := readName_shrinks first
    split at read
    · cases read
      exact one
    · obtain ⟨⟨key, afterKey⟩, second, read⟩ := Option.bind_eq_some_iff.mp read
      obtain ⟨⟨size, afterSize⟩, third, read⟩ := Option.bind_eq_some_iff.mp read
      obtain ⟨⟨value, afterValue⟩, fourth, read⟩ := Option.bind_eq_some_iff.mp read
      obtain ⟨dictText, -, read⟩ := Option.bind_eq_some_iff.mp read
      obtain ⟨keyText, -, same⟩ := Option.map_eq_some_iff.mp read
      cases same
      have two := readName_shrinks second
      have three : afterSize.length + 2 = afterKey.length := Bincode.readNat_shrinks third
      have four : afterValue.length ≤ afterSize.length := Bincode.readBytes_shrinks fourth
      change afterValue.length < input.length
      omega

-----------------------------------------------------------------------------------------
-- What the loop packs
-----------------------------------------------------------------------------------------

/-- An entry as the grammar has it. -/
def encodeEntry (entry : BatchEntry) : Bytes :=
  Bincode.encodeNat 1 entry.1.utf8ByteSize ++ asBytes entry.1
    ++ Bincode.encodeNat 1 entry.2.1.utf8ByteSize ++ asBytes entry.2.1
    ++ Bincode.encodeNat 2 entry.2.2.length ++ entry.2.2

/-- The bytes an entry takes in the page. -/
def entrySize (entry : BatchEntry) : Nat :=
  4 + entry.1.utf8ByteSize + entry.2.1.utf8ByteSize + entry.2.2.length

/-- The limits on one entry. -/
structure EntryFits (entry : BatchEntry) : Prop where
  dictNamed : 1 ≤ entry.1.utf8ByteSize
  dict : entry.1.utf8ByteSize ≤ dictNameLen - 1
  key : entry.2.1.utf8ByteSize ≤ keyNameLen - 1
  value : entry.2.2.length ≤ 65535

/-- The limits on a batch; one byte is kept for the terminator. -/
structure BatchFits (entries : List BatchEntry) : Prop where
  each : ∀ entry ∈ entries, EntryFits entry
  total : (entries.map entrySize).sum + 1 ≤ maxPddbWriteBatchLen

/-- The two bytes of a length are its little-endian encoding. -/
theorem toLeBytes_ofNat {n : Nat} (fits : n ≤ 65535)
    : [(toLeBytes (UInt16.ofNat n))[0]] ++ [(toLeBytes (UInt16.ofNat n))[1]]
      = Bincode.encodeNat 2 n := by
  have low : (UInt16.ofNat n).toUInt8 = UInt8.ofNat (n % 256) := by
    apply UInt8.toNat_inj.mp
    simp
  have high : (UInt16.ofNat n >>> 8).toUInt8 = UInt8.ofNat (n / 256 % 256) := by
    apply UInt8.toNat_inj.mp
    simp [Nat.shiftRight_eq_div_pow]
    omega
  simp [toLeBytes, Bincode.encodeNat, low, high]

theorem encodeNat_one (n : Nat) : Bincode.encodeNat 1 n = [UInt8.ofNat n] := by
  have narrowed : UInt8.ofNat (n % 256) = UInt8.ofNat n := by
    apply UInt8.toNat_inj.mp
    simp
  rw [Bincode.encodeNat, Bincode.encodeNat, narrowed]

/-- An entry within the limits is packed as the grammar has it. -/
theorem packEntry_fits {entry : BatchEntry} {index : Nat} {front : Bytes}
    {data : Vector UInt8 maxPddbWriteBatchLen} (fits : EntryFits entry)
    (room : index + entrySize entry + 1 ≤ maxPddbWriteBatchLen)
    (filled : Filled data index front)
    : ∃ next,
        packEntry entry index data = some (.ok (index + entrySize entry, next))
        ∧ Filled next (index + entrySize entry) (front ++ encodeEntry entry) := by
  obtain ⟨dict, key, value⟩ := entry
  obtain ⟨named, dictFits, keyFits, valueFits⟩ := fits
  simp only [entrySize] at named dictFits keyFits valueFits room
  have nonempty : dict.isEmpty = false := by
    rw [String.isEmpty, beq_eq_false_iff_ne]
    omega
  have within : ¬ maxPddbWriteBatchLen
      < index + (1 + dict.utf8ByteSize + 1 + key.utf8ByteSize + 2 + value.length) + 1 := by
    omega
  let vlen := toLeBytes (UInt16.ofNat value.length)
  obtain ⟨data₁, wrote₁, filled⟩ :=
    filled.write (@List.length_singleton _ (UInt8.ofNat dict.utf8ByteSize)) (by omega)
  obtain ⟨data₂, wrote₂, filled⟩ := filled.write (length_asBytes dict) (by omega)
  obtain ⟨data₃, wrote₃, filled⟩ :=
    filled.write (@List.length_singleton _ (UInt8.ofNat key.utf8ByteSize)) (by omega)
  obtain ⟨data₄, wrote₄, filled⟩ := filled.write (length_asBytes key) (by omega)
  obtain ⟨data₅, wrote₅, filled⟩ := filled.write (@List.length_singleton _ (vlen[0])) (by omega)
  obtain ⟨data₆, wrote₆, filled⟩ := filled.write (@List.length_singleton _ (vlen[1])) (by omega)
  obtain ⟨data₇, wrote₇, filled⟩ := filled.write (@rfl _ value.length) (by omega)
  have reached : index + 1 + dict.utf8ByteSize + 1 + key.utf8ByteSize + 1 + 1 + value.length
      = index + entrySize (dict, key, value) := by
    simp only [entrySize]
    omega
  refine ⟨data₇, ?_, ?_⟩
  · simp only [packEntry, nonempty, Bool.false_eq_true, if_false, if_neg (Nat.not_lt.mpr dictFits),
      if_neg (Nat.not_lt.mpr keyFits), if_neg (Nat.not_lt.mpr valueFits), if_neg within,
      Option.bind_eq_bind, wrote₁, wrote₂, wrote₃, wrote₄, Option.bind_some]
    simp only [vlen] at wrote₅ wrote₆
    simp only [wrote₅, wrote₆, Option.bind_some, wrote₇]
    rw [← reached]
  · rw [← reached]
    simpa only [encodeEntry, encodeNat_one, ← toLeBytes_ofNat valueFits, List.append_assoc]
      using filled

/-- An entry beyond a limit, or one that leaves no room for the terminator, is refused. -/
theorem packEntry_refuses {entry : BatchEntry} {index : Nat}
    {data : Vector UInt8 maxPddbWriteBatchLen}
    (beyond : ¬ (EntryFits entry ∧ index + entrySize entry + 1 ≤ maxPddbWriteBatchLen))
    : ∃ msg, packEntry entry index data = some (.error ⟨.invalidInput, msg⟩) := by
  obtain ⟨dict, key, value⟩ := entry
  simp only [packEntry]
  split
  · exact ⟨_, rfl⟩
  · next named =>
      rw [String.isEmpty, beq_iff_eq] at named
      split
      · exact ⟨_, rfl⟩
      · next dictFits =>
          split
          · exact ⟨_, rfl⟩
          · next keyFits =>
              split
              · exact ⟨_, rfl⟩
              · next valueFits =>
                  have fits : EntryFits (dict, key, value) :=
                    ⟨Nat.one_le_iff_ne_zero.mpr named, Nat.not_lt.mp dictFits,
                      Nat.not_lt.mp keyFits, Nat.not_lt.mp valueFits⟩
                  have full : ¬ index + entrySize (dict, key, value) + 1
                      ≤ maxPddbWriteBatchLen := fun room => beyond ⟨fits, room⟩
                  simp only [entrySize] at full
                  exact ⟨_, if_pos (by omega)⟩

/-- The loop packs entries within the limits one behind the other, by induction on them. -/
theorem packEntries_fits {entries : List BatchEntry} {index : Nat} {front : Bytes}
    {data : Vector UInt8 maxPddbWriteBatchLen} (fits : ∀ entry ∈ entries, EntryFits entry)
    (room : index + (entries.map entrySize).sum + 1 ≤ maxPddbWriteBatchLen)
    (filled : Filled data index front)
    : ∃ next,
        packEntries entries index data
          = some (.ok (index + (entries.map entrySize).sum, next))
        ∧ Filled next (index + (entries.map entrySize).sum)
            (front ++ entries.flatMap encodeEntry) := by
  induction entries generalizing index front data with
  | nil => exact ⟨data, rfl, by simpa using filled⟩
  | cons entry entries ih =>
      rw [List.map_cons, List.sum_cons] at room ⊢
      obtain ⟨next, packed, longer⟩ :=
        packEntry_fits (fits entry (List.mem_cons_self ..)) (by omega) filled
      obtain ⟨last, rest, whole⟩ := ih
        (fun other member => fits other (List.mem_cons_of_mem _ member)) (by omega) longer
      rw [Nat.add_assoc] at rest whole
      refine ⟨last, ?_, ?_⟩
      · rw [packEntries, packed]
        exact rest
      · rwa [List.flatMap_cons, ← List.append_assoc]

/-- The loop refuses a batch beyond the limits at the first entry that breaks one, by
induction on the entries.
-/
theorem packEntries_refuses {entries : List BatchEntry} {index : Nat} {front : Bytes}
    {data : Vector UInt8 maxPddbWriteBatchLen} (filled : Filled data index front)
    (room : index + 1 ≤ maxPddbWriteBatchLen)
    (beyond : ¬ ((∀ entry ∈ entries, EntryFits entry)
      ∧ index + (entries.map entrySize).sum + 1 ≤ maxPddbWriteBatchLen))
    : ∃ msg, packEntries entries index data = some (.error ⟨.invalidInput, msg⟩) := by
  induction entries generalizing index front data with
  | nil => exact absurd ⟨by simp, room⟩ beyond
  | cons entry entries ih =>
      rw [packEntries]
      by_cases first : EntryFits entry ∧ index + entrySize entry + 1 ≤ maxPddbWriteBatchLen
      · obtain ⟨next, packed, longer⟩ := packEntry_fits first.1 first.2 filled
        obtain ⟨msg, refused⟩ := ih longer first.2 (by
          rintro ⟨later, total⟩
          refine beyond ⟨?_, ?_⟩
          · intro other member
            rcases List.mem_cons.mp member with rfl | member
            · exact first.1
            · exact later other member
          · rw [List.map_cons, List.sum_cons]
            omega)
        exact ⟨msg, by rw [packed]; exact refused⟩
      · obtain ⟨msg, refused⟩ :
            ∃ msg, packEntry entry index data = some (.error ⟨.invalidInput, msg⟩) :=
          packEntry_refuses first
        exact ⟨msg, by rw [refused]⟩

theorem readName_asBytes {text : String} (fits : text.utf8ByteSize < 256) (rest : Bytes)
    : readName (Bincode.encodeNat 1 text.utf8ByteSize ++ (asBytes text ++ rest))
      = some (asBytes text, rest) := by
  rw [readName, Bincode.readNat_encodeNat (by simpa using fits), Option.bind_some]
  exact Bincode.readBytes_append (length_asBytes text) rest

/-- What is packed for an entry is read back as that entry, whatever stands behind it. -/
theorem readEntry_encodeEntry {entry : BatchEntry} (fits : EntryFits entry) (rest : Bytes)
    : readEntry (encodeEntry entry ++ rest) = some (some entry, rest) := by
  obtain ⟨dict, key, value⟩ := entry
  obtain ⟨named, dictFits, keyFits, valueFits⟩ := fits
  simp only [dictNameLen, keyNameLen] at named dictFits keyFits valueFits
  have nonempty : (asBytes dict).isEmpty = false := by
    rw [← Bool.not_eq_true, List.isEmpty_iff_length_eq_zero, length_asBytes]
    omega
  simp only [encodeEntry, List.append_assoc]
  rw [readEntry, readName_asBytes (by omega), Option.bind_some]
  simp only [nonempty, Bool.false_eq_true, if_false]
  rw [readName_asBytes (by omega), Option.bind_some,
    Bincode.readNat_encodeNat (by simp only [Nat.reducePow]; omega), Option.bind_some,
    Bincode.readBytes_append rfl]
  simp

/-- The terminator is read as the end, whatever stands behind it. -/
theorem readEntry_terminator (rest : Bytes) : readEntry ([0] ++ rest) = some (none, rest) := by
  have empty := @readName_asBytes "" (by decide) rest
  have zero : Bincode.encodeNat 1 "".utf8ByteSize = [0] := rfl
  have nothing : asBytes "" = [] := rfl
  rw [zero, nothing, List.nil_append] at empty
  rw [readEntry, empty]
  rfl

-----------------------------------------------------------------------------------------
-- The whole call
-----------------------------------------------------------------------------------------

section Calls

variable {σ : Type} (server : PddbWriteBatch → σ → Option PddbRetcode × σ)

/-- A batch within the limits is lent to the server once, in a page that the grammar decodes
to its entries, and the call returns what the server answers.
-/
theorem writeBatch_answers {entries : List BatchEntry} (nonempty : entries ≠ [])
    (fits : BatchFits entries) (state : σ)
    : ∃ page rest,
        batchGrammar.decode page.data.toList = some (entries, rest)
        ∧ rest.length + ((entries.map entrySize).sum + 1) = maxPddbWriteBatchLen
        ∧ writeBatch server entries state
          = some (((server page state).1.map batchResult).getD
              (.error ⟨.ipc, "lend_mut WriteKeyBatch"⟩), (server page state).2) := by
  obtain ⟨data, packed, front⟩ :=
    packEntries_fits fits.each (by simpa using fits.total)
      (.empty (Vector.replicate maxPddbWriteBatchLen 0))
  rw [Nat.zero_add] at packed front
  obtain ⟨closed, terminated, ended⟩ :=
    front.write (@List.length_singleton _ (0 : UInt8)) fits.total
  obtain ⟨rest, whole⟩ := ended.stands
  have decoded : batchGrammar.decode closed.toList = some (entries, rest) := by
    rw [← whole, List.nil_append, List.append_assoc]
    exact batchGrammar.decode_flatMap
      (fun entry member input => readEntry_encodeEntry (fits.each entry member) input)
      (readEntry_terminator rest)
  have size : rest.length + ((entries.map entrySize).sum + 1) = maxPddbWriteBatchLen := by
    have lengths := congrArg List.length whole
    rw [List.length_append, ended.reaches, Vector.length_toList] at lengths
    omega
  have some : entries.isEmpty = false := by simpa using nonempty
  have inside : (entries.map entrySize).sum < maxPddbWriteBatchLen := fits.total
  refine ⟨⟨false, "", closed, .uninit⟩, rest, decoded, size, ?_⟩
  rcases lent : server ⟨false, "", closed, .uninit⟩ state with ⟨reply, next⟩
  cases reply <;>
    simp only [writeBatch, some, Bool.false_eq_true, if_false, packed, if_pos inside, terminated,
      lent] <;>
    rfl

/-- A batch within the limits is lent to the server once, in a page that the grammar decodes
to its entries.
-/
theorem writeBatch_lends {entries : List BatchEntry} (nonempty : entries ≠ [])
    (fits : BatchFits entries) (state : σ)
    : ∃ page rest result,
        batchGrammar.decode page.data.toList = some (entries, rest)
        ∧ rest.length + ((entries.map entrySize).sum + 1) = maxPddbWriteBatchLen
        ∧ writeBatch server entries state = some (result, (server page state).2) := by
  obtain ⟨page, rest, decoded, size, answered⟩ := writeBatch_answers server nonempty fits state
  exact ⟨page, rest, _, decoded, size, answered⟩

/-- A batch beyond the limits is refused before the server is asked. -/
theorem writeBatch_refuses {entries : List BatchEntry} (nonempty : entries ≠ [])
    (beyond : ¬ BatchFits entries) (state : σ)
    : ∃ msg, writeBatch server entries state = some (.error ⟨.invalidInput, msg⟩, state) := by
  obtain ⟨msg, refused⟩ :=
    packEntries_refuses (.empty (Vector.replicate maxPddbWriteBatchLen 0)) (by decide) (by
      rintro ⟨each, total⟩
      rw [Nat.zero_add] at total
      exact beyond ⟨each, total⟩)
  have some : entries.isEmpty = false := by simpa using nonempty
  exact ⟨msg, by simp only [writeBatch, some, Bool.false_eq_true, if_false, refused]⟩

end Calls

/-- A server that keeps the pages it is lent, and answers in any way. -/
def keeping (answer : List PddbWriteBatch → PddbWriteBatch → Option PddbRetcode)
    (page : PddbWriteBatch) (lent : List PddbWriteBatch)
    : Option PddbRetcode × List PddbWriteBatch :=
  (answer lent page, lent ++ [page])

/-- A bulk write of any entries, at least one, and whatever the server answers: it never writes
outside the page; it lends a page exactly where the batch is within the limits, then one that
decodes to the entries in their order, with the terminator inside it; and else it returns
`InvalidInput` and lends none.
-/
theorem writeBatch_encoding
    (answer : List PddbWriteBatch → PddbWriteBatch → Option PddbRetcode)
    (entries : List BatchEntry) (nonempty : entries ≠ []) (lent : List PddbWriteBatch)
    : ∃ result after, writeBatch (keeping answer) entries lent = some (result, after)
        ∧ (after ≠ lent ↔ BatchFits entries)
        ∧ (BatchFits entries
          → ∃ page rest, after = lent ++ [page]
            ∧ batchGrammar.decode page.data.toList = some (entries, rest)
            ∧ rest.length + ((entries.map entrySize).sum + 1) = maxPddbWriteBatchLen)
        ∧ (¬ BatchFits entries
          → after = lent ∧ ∃ msg, result = .error ⟨.invalidInput, msg⟩) := by
  by_cases fits : BatchFits entries
  · obtain ⟨page, rest, result, decoded, size, wrote⟩ :=
      writeBatch_lends (keeping answer) nonempty fits lent
    refine ⟨result, lent ++ [page], wrote, ?_, fun _ => ⟨page, rest, rfl, decoded, size⟩,
      fun beyond => absurd fits beyond⟩
    simp [fits]
  · obtain ⟨msg, refused⟩ := writeBatch_refuses (keeping answer) nonempty fits lent
    refine ⟨_, lent, refused, ?_, fun within => absurd within fits, fun _ => ⟨rfl, msg, rfl⟩⟩
    simp [fits]

/-- A value of zero bytes, and an empty key, are lent. -/
theorem writeBatch_encoding_zeros
    : ∃ result after,
        writeBatch (keeping (fun _ _ => some .ok)) [("dict", "", [0, 0])] [] = some (result, after)
        ∧ after ≠ [] := by
  obtain ⟨result, after, wrote, reached, -⟩ :=
    writeBatch_encoding (fun _ _ => some .ok) [("dict", "", [0, 0])] (by simp) []
  refine ⟨result, after, wrote, reached.mpr ⟨?_, by decide⟩⟩
  intro entry member
  rw [List.mem_singleton.mp member]
  exact ⟨by decide, by decide, by decide, by decide⟩

end XousAppSignal.Store.Pddb
