import XousAppSignal.Store.Clear
import XousAppSignal.Store.Presage

/-! Contacts, groups, profiles, sticker packs and messages. Every kind has its dictionary;
messages have one dictionary per thread, named by the hash of the thread, with the
timestamps in fixed-width hexadecimal as keys.
-/

namespace XousAppSignal.Store.Contents

def dictContacts : String := "signal.contacts"
def dictGroups : String := "signal.groups"
def dictGroupAvatars : String := "signal.group_avatars"
def dictProfiles : String := "signal.profiles"
def dictProfileKeys : String := "signal.profile_keys"
def dictProfileAvatars : String := "signal.profile_avatars"
def dictStickerPacks : String := "signal.sticker_packs"
def threadDictPrefix : String := "signal.threads."

def hexEncode (bytes : Bytes) : String :=
  String.ofList (bytes.flatMap (fun byte => Uuid.hexDigits 2 byte.toNat))

/-- The bytes of a UUID, most significant first. -/
def uuidBytes (uuid : Uuid) : Bytes :=
  (List.range 16).reverse.map (fun place => UInt8.ofNat (uuid.bits.toNat / 256 ^ place))

def base64Char (sextet : Nat) : Char :=
  if sextet < 26 then Char.ofNat ('A'.toNat + sextet)
  else if sextet < 52 then Char.ofNat ('a'.toNat + (sextet - 26))
  else if sextet < 62 then Char.ofNat ('0'.toNat + (sextet - 52))
  else if sextet = 62 then '+'
  else '/'

/-- Standard base64 with padding. -/
def base64 : Bytes → List Char
  | [] => []
  | [a] => [base64Char (a.toNat / 4), base64Char (a.toNat % 4 * 16), '=', '=']
  | [a, b] =>
      [base64Char (a.toNat / 4), base64Char (a.toNat % 4 * 16 + b.toNat / 16),
        base64Char (b.toNat % 16 * 4), '=']
  | a :: b :: c :: rest =>
      base64Char (a.toNat / 4) :: base64Char (a.toNat % 4 * 16 + b.toNat / 16)
        :: base64Char (b.toNat % 16 * 4 + c.toNat / 64) :: base64Char (c.toNat % 64)
        :: base64 rest

variable (presage : Presage)

def profileDictKey (uuid : Uuid) (key : ProfileKey) : String :=
  hexEncode (presage.sha256 (uuidBytes uuid ++ key.toList)).toList

def groupKey (masterKey : GroupMasterKeyBytes) : String := hexEncode masterKey.toList

def stickerPackKey (id : Bytes) : String := hexEncode id

def threadKey : Thread → String
  | .contact serviceId => "contact:" ++ serviceId.serviceIdString
  | .group masterKey => "group:" ++ String.ofList (base64 masterKey.toList)

def threadDictName (thread : Thread) : String :=
  threadDictPrefix ++ hexEncode (presage.sha256 (threadKey thread).toUTF8.toList).toList

def messageKey (timestamp : UInt64) : String :=
  String.ofList (Uuid.hexDigits 16 timestamp.toNat)

/-- Parse two-byte slices as `u8` from left to right. A slice is two ASCII characters or one
two-byte character; any other boundary makes the slicing panic, which `none` stands for.
-/
def parseHexPairs : List Char → Option (Except Error Bytes)
  | [] => some (.ok [])
  | first :: rest =>
      if first.utf8Size = 2 then some (.error hexParse)
      else
        match rest with
        | second :: rest =>
            if first.utf8Size = 1 ∧ second.utf8Size = 1 then
              match fromStrRadix 8 16 (String.ofList [first, second]) with
              | none => some (.error hexParse)
              | some byte =>
                  (parseHexPairs rest).map (Except.map (UInt8.ofNat byte :: ·))
            else none
        | [] => none
where
  hexParse : Error := .decode "hex parse: invalid digit found in string"

/-- The length is in bytes. -/
def parseHexMasterKey (hex : String) : Option (Except Error Bytes) :=
  if hex.utf8ByteSize ≠ 64 then
    some (.error (.decode
      ("group key not 64 hex chars: " ++ hex.utf8ByteSize.repr ++ " chars")))
  else parseHexPairs hex.toList

inductive Bound where
  | included (limit : UInt64)
  | excluded (limit : UInt64)
  | unbounded
  deriving DecidableEq

/-- A range of timestamps. -/
structure TimestampRange where
  start : Bound := .unbounded
  end_ : Bound := .unbounded

def rangeContainsU64 (range : TimestampRange) (value : UInt64) : Bool :=
  let afterStart :=
    match range.start with
    | .included s => value ≥ s
    | .excluded s => value > s
    | .unbounded => true
  let beforeEnd :=
    match range.end_ with
    | .included e => value ≤ e
    | .excluded e => value < e
    | .unbounded => true
  afterStart && beforeEnd

/-- `StoredMessage::from_content`. -/
def fromContent (content : MessageContent presage.ContentBody) : StoredMessage where
  sender := content.metadata.sender.serviceIdString
  destination := content.metadata.destination.serviceIdString
  senderDevice := content.metadata.senderDevice.id
  serverGuid := content.metadata.serverGuid.map Uuid.toString
  timestamp := content.metadata.timestamp
  needsReceipt := content.metadata.needsReceipt
  unidentifiedSender := content.metadata.unidentifiedSender
  wasPlaintext := content.metadata.wasPlaintext
  bodyProto := presage.encodeBody content.body

/-- `StoredMessage::into_content`; a server guid that does not parse is dropped. -/
def intoContent (stored : StoredMessage)
    : Except Error (MessageContent presage.ContentBody) := do
  let proto ← (presage.decodeProto stored.bodyProto).mapError
    (fun e => .decode ("body_proto decode: " ++ e))
  let sender ← serviceId "invalid sender service id: " stored.sender
  let destination ← serviceId "invalid destination service id: " stored.destination
  let senderDevice ←
    match DeviceId.tryFrom stored.senderDevice with
    | some device => .ok device
    | none =>
        .error (.decode ("sender_device: " ++ presage.deviceIdError stored.senderDevice))
  let metadata : Metadata :=
    { sender, destination, senderDevice
      serverGuid := stored.serverGuid.bind presage.parseUuid
      timestamp := stored.timestamp
      needsReceipt := stored.needsReceipt
      unidentifiedSender := stored.unidentifiedSender
      wasPlaintext := stored.wasPlaintext }
  (presage.fromProto proto metadata).mapError
    (fun e => .decode ("Content::from_proto: " ++ e))
where
  serviceId (context text : String) : Except Error ServiceId :=
    match presage.parseServiceId text with
    | some id => .ok id
    | none => .error (.decode (context ++ text))

-----------------------------------------------------------------------------------------
-- The operations
-----------------------------------------------------------------------------------------

variable {β : Type} [KvBackend β]

/-- Every record of a dictionary, each with its own result. -/
def readAll {τ : Type} (dict : String) (read : String → Call β τ)
    : Call β (List (Except Error τ)) :=
  Attempt.andThen (KvBackend.listKeys dict) (fun keys backend =>
    (.ok (Attempt.each read keys backend).1, (Attempt.each read keys backend).2))

/-- Whether a key holds a value before it is deleted. -/
def deleteExisting (dict key : String) : Call β Bool :=
  Attempt.andThen (KvBackend.get dict key) (fun prior =>
    Attempt.map (fun _ => prior.isSome) (KvBackend.delete dict key))

def saveProfile (uuid : Uuid) (key : ProfileKey) (profile : presage.Profile) : Call β Unit :=
  backendPutJson presage.profile dictProfiles (profileDictKey presage uuid key) profile

def profile (uuid : Uuid) (key : ProfileKey) : Call β (Option presage.Profile) :=
  backendGetJson presage.profile dictProfiles (profileDictKey presage uuid key)

def saveProfileAvatar (uuid : Uuid) (key : ProfileKey) (avatar : Bytes) : Call β Unit :=
  KvBackend.put dictProfileAvatars (profileDictKey presage uuid key) avatar

def profileAvatar (uuid : Uuid) (key : ProfileKey) : Call β (Option Bytes) :=
  KvBackend.get dictProfileAvatars (profileDictKey presage uuid key)

/-- Returns whether the account had no key before. -/
def upsertProfileKey (uuid : Uuid) (key : ProfileKey) : Call β Bool :=
  Attempt.andThen (KvBackend.get dictProfileKeys uuid.toString) (fun prior =>
    Attempt.map (fun _ => prior.isNone)
      (backendPutJson presage.profileKey dictProfileKeys uuid.toString key))

def profileKey (serviceId : ServiceId) : Call β (Option ProfileKey) :=
  backendGetJson presage.profileKey dictProfileKeys serviceId.rawUuid.toString

def clearProfiles : Call β Unit :=
  deleteDicts [dictProfiles, dictProfileKeys, dictProfileAvatars]

def saveContact (contact : presage.Contact) : Call β Unit :=
  backendPutJson presage.contact dictContacts (presage.contactUuid contact).toString contact

def contacts : Call β (List (Except Error presage.Contact)) :=
  readAll dictContacts (fun key =>
    backendGetJsonRequired presage.contact dictContacts key ("contact disappeared: " ++ key))

def contactById (id : ServiceId) : Call β (Option presage.Contact) :=
  backendGetJson presage.contact dictContacts id.rawUuid.toString

def clearContacts : Call β Unit := KvBackend.deleteDict dictContacts

def saveGroup (masterKey : GroupMasterKeyBytes) (group : presage.Group) : Call β Unit :=
  backendPutJson presage.group dictGroups (groupKey masterKey) group

/-- An item whose key makes the parser panic is `none`. -/
def groups : Call β (List (Except Error (Option (Bytes × presage.Group)))) :=
  readAll dictGroups (fun key =>
    Attempt.andThen
      (backendGetJsonRequired presage.group dictGroups key ("group disappeared: " ++ key))
      (fun group =>
        match parseHexMasterKey key with
        | none => Attempt.lift (.ok none)
        | some masterKey => Attempt.lift (masterKey.map (fun bytes => some (bytes, group)))))

def group (masterKey : GroupMasterKeyBytes) : Call β (Option presage.Group) :=
  backendGetJson presage.group dictGroups (groupKey masterKey)

def saveGroupAvatar (masterKey : GroupMasterKeyBytes) (avatar : Bytes) : Call β Unit :=
  KvBackend.put dictGroupAvatars (groupKey masterKey) avatar

def groupAvatar (masterKey : GroupMasterKeyBytes) : Call β (Option Bytes) :=
  KvBackend.get dictGroupAvatars (groupKey masterKey)

def clearGroups : Call β Unit := deleteDicts [dictGroups, dictGroupAvatars]

def addStickerPack (pack : presage.StickerPack) : Call β Unit :=
  backendPutJson presage.stickerPack dictStickerPacks
    (stickerPackKey (presage.stickerPackId pack)) pack

def stickerPack (id : Bytes) : Call β (Option presage.StickerPack) :=
  backendGetJson presage.stickerPack dictStickerPacks (stickerPackKey id)

def removeStickerPack (id : Bytes) : Call β Bool :=
  deleteExisting dictStickerPacks (stickerPackKey id)

def stickerPacks : Call β (List (Except Error presage.StickerPack)) :=
  readAll dictStickerPacks (fun key =>
    backendGetJsonRequired presage.stickerPack dictStickerPacks key
      ("sticker pack disappeared: " ++ key))

def saveMessage (thread : Thread) (message : MessageContent presage.ContentBody)
    : Call β Unit :=
  backendPutJson presage.storedMessage (threadDictName presage thread)
    (messageKey message.metadata.timestamp) (fromContent presage message)

def deleteMessage (thread : Thread) (timestamp : UInt64) : Call β Bool :=
  deleteExisting (threadDictName presage thread) (messageKey timestamp)

def message (thread : Thread) (timestamp : UInt64)
    : Call β (Option (MessageContent presage.ContentBody)) :=
  Attempt.andThen
    (backendGetJson presage.storedMessage (threadDictName presage thread)
      (messageKey timestamp))
    (fun
      | some stored => Attempt.lift ((intoContent presage stored).map some)
      | none => Attempt.lift (.ok none))

/-- The timestamps a thread's dictionary lists within a range, in order. Keys that do not
parse are dropped.
-/
def listedTimestamps (range : TimestampRange) (keys : List String) : List UInt64 :=
  ((keys.filterMap (fun key => (fromStrRadix 64 16 key).map UInt64.ofNat)).filter
    (rangeContainsU64 range)).mergeSort (· ≤ ·)

def messages (thread : Thread) (range : TimestampRange)
    : Call β (List (Except Error (MessageContent presage.ContentBody))) :=
  let dict := threadDictName presage thread
  Attempt.andThen (KvBackend.listKeys dict) (fun keys backend =>
    let load (timestamp : UInt64) : Call β (MessageContent presage.ContentBody) :=
      Attempt.andThen
        (backendGetJsonRequired presage.storedMessage dict (messageKey timestamp)
          ("message disappeared: " ++ messageKey timestamp))
        (fun stored => Attempt.lift (intoContent presage stored))
    let timestamps := listedTimestamps range keys
    (.ok (Attempt.each load timestamps backend).1, (Attempt.each load timestamps backend).2))

def clearThread (thread : Thread) : Call β Unit :=
  KvBackend.deleteDict (threadDictName presage thread)

/-- There is no index of the threads, so nothing is dropped. -/
def clearMessages : Call β Unit := Attempt.lift (.ok ())

def clearContents : Call β Unit :=
  Attempt.andThen (deleteDicts [dictContacts, dictGroups, dictGroupAvatars])
    (fun _ => clearProfiles)

end XousAppSignal.Store.Contents
