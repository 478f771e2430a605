import XousAppSignal.Store.HexKeys
import XousAppSignal.Store.LogicalRecords
import XousAppSignal.Store.PddbContract
import XousAppSignal.Store.ServedStores

/-! Which records a PDDB has room for in its names. Dictionaries always fit. A key fits if the
free text in it, an address's name or a sticker pack's id, is neither empty nor too long.
-/

namespace XousAppSignal.Store

-----------------------------------------------------------------------------------------
-- Sizes
-----------------------------------------------------------------------------------------

/-- A text of ASCII characters has as many bytes. -/
theorem utf8ByteSize_ofList {chars : List Char} (ascii : ∀ c ∈ chars, c.utf8Size = 1)
    : (String.ofList chars).utf8ByteSize = chars.length := by
  rw [utf8ByteSize_eq_sum, String.toList_ofList, List.map_congr_left ascii]
  simp

theorem utf8Size_digit {c : Char} (digit : c.isDigit = true) : c.utf8Size = 1 := by
  simp only [Char.isDigit, Bool.and_eq_true, decide_eq_true_eq] at digit
  have small : c.val ≤ 127 := UInt32.le_trans digit.2 (by decide)
  simp [Char.utf8Size, small]

theorem utf8Size_hexDigit {count n : Nat} : ∀ c ∈ Uuid.hexDigits count n, c.utf8Size = 1 := by
  have ascii : ∀ value < 16, (Nat.digitChar value).utf8Size = 1 := by decide
  intro c member
  obtain ⟨place, -, rfl⟩ := List.mem_map.mp member
  exact ascii _ (Nat.mod_lt _ (by decide))

/-- The decimal text of a number has one byte a digit. -/
theorem utf8ByteSize_repr (n : Nat) : n.repr.utf8ByteSize = (Nat.toDigits 10 n).length := by
  have ascii : ∀ c ∈ n.repr.toList, c.utf8Size = 1 := by
    rw [Nat.toList_repr]
    exact fun c member => utf8Size_digit (Nat.isDigit_of_mem_toDigits (by decide) (by decide) member)
  rw [utf8ByteSize_eq_sum, List.map_congr_left ascii]
  simp

/-- A number below `10 ^ digits` has so many digits at most, and one at least. -/
theorem utf8ByteSize_repr_le {n digits : Nat} (some : 0 < digits) (small : n < 10 ^ digits)
    : 1 ≤ n.repr.utf8ByteSize ∧ n.repr.utf8ByteSize ≤ digits := by
  rw [utf8ByteSize_repr]
  exact ⟨Nat.length_toDigits_pos, (Nat.length_toDigits_le_iff (by decide) some).mpr small⟩

theorem utf8ByteSize_repr_u32 (id : UInt32)
    : 1 ≤ id.toNat.repr.utf8ByteSize ∧ id.toNat.repr.utf8ByteSize ≤ 10 :=
  utf8ByteSize_repr_le (by decide) (id.toNat_lt.trans (by decide))

theorem utf8ByteSize_device (device : DeviceId)
    : 1 ≤ device.id.toNat.repr.utf8ByteSize ∧ device.id.toNat.repr.utf8ByteSize ≤ 3 :=
  utf8ByteSize_repr_le (by decide) (device.valid.2.trans_lt (by decide))

theorem utf8ByteSize_hexEncode (bytes : Bytes)
    : (Contents.hexEncode bytes).utf8ByteSize = 2 * bytes.length := by
  have ascii : ∀ c ∈ bytes.flatMap (fun byte => Uuid.hexDigits 2 byte.toNat), c.utf8Size = 1 := by
    intro c member
    obtain ⟨byte, -, digit⟩ := List.mem_flatMap.mp member
    exact utf8Size_hexDigit c digit
  rw [Contents.hexEncode, utf8ByteSize_ofList ascii]
  simp [List.length_flatMap, Nat.mul_comm]

/-- Thirty-two digits and four hyphens. -/
theorem utf8ByteSize_uuid (uuid : Uuid) : uuid.toString.utf8ByteSize = 36 := by
  have ascii : ∀ c ∈ uuid.toString.toList, c.utf8Size = 1 := by
    intro c member
    simp only [Uuid.toString, String.toList_ofList, List.mem_append, List.mem_cons] at member
    have digit {part : List Char} (sub : part.Sublist (Uuid.hexDigits 32 uuid.bits.toNat))
        (member : c ∈ part) : c.utf8Size = 1 :=
      utf8Size_hexDigit c (sub.subset member)
    have part (from' count : Nat)
        : (((Uuid.hexDigits 32 uuid.bits.toNat).drop from').take count).Sublist
            (Uuid.hexDigits 32 uuid.bits.toNat) :=
      (List.take_sublist _ _).trans (List.drop_sublist _ _)
    rcases member with (((member | rfl | member) | rfl | member) | rfl | member) | rfl | member
    · exact digit (List.take_sublist _ _) member
    · rfl
    · exact digit (part 8 4) member
    · rfl
    · exact digit (part 12 4) member
    · rfl
    · exact digit (part 16 4) member
    · rfl
    · exact digit (List.drop_sublist _ _) member
  rw [← String.ofList_toList (s := uuid.toString), utf8ByteSize_ofList ascii]
  simp [Uuid.toString]

theorem utf8ByteSize_simpleUuid (uuid : Uuid) : (Records.simpleUuid uuid).utf8ByteSize = 32 := by
  rw [Records.simpleUuid, utf8ByteSize_ofList utf8Size_hexDigit, Uuid.length_hexDigits]

theorem utf8ByteSize_messageKey (timestamp : UInt64)
    : (Contents.messageKey timestamp).utf8ByteSize = 16 := by
  rw [Contents.messageKey, utf8ByteSize_ofList utf8Size_hexDigit, Uuid.length_hexDigits]

theorem utf8ByteSize_identityKey (address : ProtocolAddress)
    : (Records.identityKey address).utf8ByteSize
      = address.name.utf8ByteSize + 1 + address.deviceId.id.toNat.repr.utf8ByteSize := by
  rw [Records.identityKey, String.utf8ByteSize_append, String.utf8ByteSize_append]
  rfl

theorem utf8ByteSize_senderKeyKey (address : ProtocolAddress) (distributionId : Uuid)
    : (Records.senderKeyKey address distributionId).utf8ByteSize
      = address.name.utf8ByteSize + 1 + address.deviceId.id.toNat.repr.utf8ByteSize + 33 := by
  rw [Records.senderKeyKey, String.utf8ByteSize_append, String.utf8ByteSize_append,
    String.utf8ByteSize_append, String.utf8ByteSize_append, utf8ByteSize_simpleUuid]
  rfl

-----------------------------------------------------------------------------------------
-- Records
-----------------------------------------------------------------------------------------

namespace Pddb

/-- The dictionaries of the store are named within the limits. -/
theorem dict_served {presage : Presage} (dict : FixedDict ⊕ Thread)
    : nameLimits.dict (dict.elim FixedDict.name (Contents.threadDictName presage)) := by
  cases dict with
  | inl fixed =>
      have all : ∀ dict ∈ FixedDict.all,
          1 ≤ dict.name.utf8ByteSize ∧ dict.name.utf8ByteSize ≤ dictNameLen - 1 := by decide +kernel
      exact all fixed fixed.mem_all
  | inr thread =>
      have hash : (presage.sha256 (Contents.threadKey thread).toUTF8.toList).toList.length = 32 :=
        Vector.length_toList
      change 1 ≤ (Contents.threadDictName presage thread).utf8ByteSize
        ∧ (Contents.threadDictName presage thread).utf8ByteSize ≤ dictNameLen - 1
      have front : Contents.threadDictPrefix.utf8ByteSize = 15 := by decide
      rw [Contents.threadDictName, String.utf8ByteSize_append, utf8ByteSize_hexEncode, hash, front]
      decide

/-- The records with a key that a PDDB holds: what is free text in it is neither empty nor too
long.
-/
def Fits : LogicalRecord → Prop
  | .stickerPack id => 1 ≤ id.length ∧ id.length ≤ 47
  | .protocol _ (.session name) => 1 ≤ name.utf8ByteSize ∧ name.utf8ByteSize ≤ 94
  | .protocol _ (.peerIdentity address) =>
      address.name.utf8ByteSize + address.deviceId.id.toNat.repr.utf8ByteSize ≤ 93
  | .protocol _ (.senderKey address _) =>
      address.name.utf8ByteSize + address.deviceId.id.toNat.repr.utf8ByteSize ≤ 60
  | _ => True

/-- Exactly the records that fit have names within the limits, by cases on the record. -/
theorem slot_served_iff (presage : Presage) (record : LogicalRecord)
    : nameLimits.Allows (record.slot presage) ↔ Fits record := by
  have dict : nameLimits.dict (record.dictName presage) := dict_served record.dict
  have key : nameLimits.Allows (record.slot presage)
      ↔ 1 ≤ (record.key presage).utf8ByteSize ∧ (record.key presage).utf8ByteSize ≤ 94 :=
    ⟨fun allows => allows.key, fun size => ⟨dict, size⟩⟩
  have yes {size : Nat} (known : (record.key presage).utf8ByteSize = size)
      (within : 1 ≤ size ∧ size ≤ 94) (fits : Fits record)
      : nameLimits.Allows (record.slot presage) ↔ Fits record := by
    rw [key, known]
    exact iff_of_true within fits
  cases record with
  | state field =>
      have size : 1 ≤ field.key.utf8ByteSize ∧ field.key.utf8ByteSize ≤ 94 := by
        cases field <;> decide
      exact yes rfl size trivial
  | contact uuid => exact yes (utf8ByteSize_uuid uuid) (by decide) trivial
  | group masterKey | groupAvatar masterKey =>
      exact yes ((utf8ByteSize_hexEncode _).trans (by rw [Vector.length_toList]))
        (by decide) trivial
  | profile uuid profileKey | profileAvatar uuid profileKey =>
      exact yes ((utf8ByteSize_hexEncode _).trans (by rw [Vector.length_toList]))
        (by decide) trivial
  | profileKey uuid => exact yes (utf8ByteSize_uuid uuid) (by decide) trivial
  | stickerPack id =>
      rw [key, LogicalRecord.key, Contents.stickerPackKey, utf8ByteSize_hexEncode, Fits]
      omega
  | message thread timestamp =>
      exact yes (utf8ByteSize_messageKey timestamp) (by decide) trivial
  | protocol identity record =>
      rw [key, LogicalRecord.key]
      cases record with
      | session name => exact Iff.rfl
      | peerIdentity address =>
          have digits := utf8ByteSize_device address.deviceId
          rw [ProtocolRecord.key, utf8ByteSize_identityKey, Fits]
          omega
      | preKeyBundle => exact iff_of_true (by decide) trivial
      | signedPreKey id | kyberPreKey id =>
          have digits := utf8ByteSize_repr_u32 id
          refine iff_of_true ⟨digits.1, ?_⟩ trivial
          exact digits.2.trans (by decide)
      | kyberMeta kyberPrekeyId ecPrekeyId =>
          have digits := utf8ByteSize_repr_u32 kyberPrekeyId
          have digits' := utf8ByteSize_repr_u32 ecPrekeyId
          rw [ProtocolRecord.key, Kyber.metaKey, String.utf8ByteSize_append,
            String.utf8ByteSize_append]
          have dot : ".".utf8ByteSize = 1 := rfl
          refine iff_of_true ?_ trivial
          omega
      | senderKey address distributionId =>
          have digits := utf8ByteSize_device address.deviceId
          rw [ProtocolRecord.key, utf8ByteSize_senderKeyKey, Fits]
          omega

/-- A record under the text of an account's UUID fits, also with "PNI:" before it. -/
theorem fits_serviceId {identity : IdentityType} {serviceId : ServiceId} (deviceId : DeviceId)
    (distributionId : Uuid)
    : Fits (.protocol identity (.session serviceId.serviceIdString))
      ∧ Fits (.protocol identity (.peerIdentity ⟨serviceId.serviceIdString, deviceId⟩))
      ∧ Fits (.protocol identity (.senderKey ⟨serviceId.serviceIdString, deviceId⟩
          distributionId)) := by
  have size : 36 ≤ serviceId.serviceIdString.utf8ByteSize
      ∧ serviceId.serviceIdString.utf8ByteSize ≤ 40 := by
    cases serviceId with
    | aci uuid =>
        rw [ServiceId.serviceIdString, utf8ByteSize_uuid]
        decide
    | pni uuid =>
        have front : "PNI:".utf8ByteSize = 4 := rfl
        rw [ServiceId.serviceIdString, String.utf8ByteSize_append, utf8ByteSize_uuid, front]
        decide
  have digits := utf8ByteSize_device deviceId
  refine ⟨⟨by omega, by omega⟩, ?_, ?_⟩
  · change serviceId.serviceIdString.utf8ByteSize + deviceId.id.toNat.repr.utf8ByteSize ≤ 93
    omega
  · change serviceId.serviceIdString.utf8ByteSize + deviceId.id.toNat.repr.utf8ByteSize ≤ 60
    omega

/-- The names that the store makes up fit. -/
theorem covers (presage : Presage) : nameLimits.Covers presage where
  dict := by
    rintro dict (cleared | rfl | ⟨thread, rfl⟩)
    · have all : ∀ dict ∈ clearedDicts,
          1 ≤ dict.utf8ByteSize ∧ dict.utf8ByteSize ≤ dictNameLen - 1 := by decide +kernel
      exact all dict cleared
    · exact @dict_served presage (.inl .stickerPacks)
    · exact dict_served (.inr thread)
  message timestamp := by
    change 1 ≤ (Contents.messageKey timestamp).utf8ByteSize
      ∧ (Contents.messageKey timestamp).utf8ByteSize ≤ keyNameLen - 1
    rw [utf8ByteSize_messageKey]
    decide
  envelope id := by
    have digits := utf8ByteSize_repr_u32 id
    exact ⟨digits.1, digits.2.trans (by decide)⟩

end Pddb

end XousAppSignal.Store
