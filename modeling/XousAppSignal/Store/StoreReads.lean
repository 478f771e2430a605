import XousAppSignal.Store.StoreOps

/-! Every read operation asks the backend through `get` and `listKeys` only, in dictionaries
known by name. So whatever relation between backends those two calls respect, all reads
respect it too.
-/

namespace XousAppSignal.Store

variable {β ρ τ α : Type} [KvBackend β] {mine : String → Prop} {R : β → β → Prop}

/-- Single reads of the named dictionaries cannot tell related backends apart. -/
structure ReadsAlike (mine : String → Prop) (R : β → β → Prop) : Prop where
  get
    : ∀ {dict}, mine dict → ∀ key,
        Alike R (KvBackend.get dict key) (KvBackend.get dict key)
  listKeys
    : ∀ {dict}, mine dict → Alike R (KvBackend.listKeys dict) (KvBackend.listKeys dict)

/-- The dictionaries of the store. -/
def ReadDict (presage : Presage) (dict : String) : Prop :=
  dict ∈ clearedDicts
  ∨ dict = Contents.dictStickerPacks
  ∨ ∃ thread, dict = Contents.threadDictName presage thread

theorem state_cleared : dictState ∈ clearedDicts := by simp [clearedDicts]

theorem contents_cleared {dict : String} (listed : dict ∈ contentsDicts)
    : dict ∈ clearedDicts := by
  simp [clearedDicts, listed]

theorem protocol_cleared {identity : IdentityType} {dict : String}
    (listed : dict ∈ protocolDicts identity)
    : dict ∈ clearedDicts := by
  cases identity <;> simp [clearedDicts, listed]

namespace ReadDict

variable (presage : Presage) (identity : IdentityType)

theorem state : ReadDict presage dictState := .inl state_cleared

theorem contents {dict : String} (listed : dict ∈ contentsDicts) : ReadDict presage dict :=
  .inl (contents_cleared listed)

theorem protocol {dict : String} (listed : dict ∈ protocolDicts identity)
    : ReadDict presage dict :=
  .inl (protocol_cleared listed)

theorem session : ReadDict presage (dictSession identity) :=
  protocol presage identity (by simp [protocolDicts])

theorem peerIdentity : ReadDict presage (dictIdentity identity) :=
  protocol presage identity (by simp [protocolDicts])

theorem prekeyBundle : ReadDict presage (dictPrekeyBundle identity) :=
  protocol presage identity (by simp [protocolDicts])

theorem signedPrekey : ReadDict presage (dictSignedPrekey identity) :=
  protocol presage identity (by simp [protocolDicts])

theorem kyberPrekey : ReadDict presage (dictKyberPrekey identity) :=
  protocol presage identity (by simp [protocolDicts])

theorem senderKey : ReadDict presage (dictSenderKey identity) :=
  protocol presage identity (by simp [protocolDicts])

theorem stickerPacks : ReadDict presage Contents.dictStickerPacks := .inr (.inl rfl)

theorem thread (thread : Thread) : ReadDict presage (Contents.threadDictName presage thread) :=
  .inr (.inr ⟨thread, rfl⟩)

end ReadDict

namespace ReadsAlike

/-- A single value, and what is made of it. -/
theorem found {ε : Type} (alike : ReadsAlike mine R) {dict : String} (here : mine dict)
    (key : String) (rename : Error → ε) {next : Option Bytes → Attempt β ε α}
    (present : ∀ bytes, Alike R (next (some bytes)) (next (some bytes)))
    (absent : Alike R (next none) (next none))
    : Alike R (Attempt.andThen (Attempt.mapError rename (KvBackend.get dict key)) next)
        (Attempt.andThen (Attempt.mapError rename (KvBackend.get dict key)) next) := by
  refine ((alike.get here key).mapError rename).andThen (fun found => ?_)
  cases found with
  | none => exact absent
  | some bytes => exact present bytes

theorem json (alike : ReadsAlike mine R) (codec : JsonCodec τ) {dict : String}
    (here : mine dict) (key : String)
    : Alike R (backendGetJson codec dict key) (backendGetJson codec dict key) := by
  refine (alike.get here key).andThen (fun found => ?_)
  cases found <;> exact .lift _

theorem jsonRequired (alike : ReadsAlike mine R) (codec : JsonCodec τ) {dict : String}
    (here : mine dict) (key missingMsg : String)
    : Alike R (backendGetJsonRequired codec dict key missingMsg)
        (backendGetJsonRequired codec dict key missingMsg) := by
  refine (alike.get here key).andThen (fun found => ?_)
  cases found <;> exact .lift _

theorem jsonProtocol (alike : ReadsAlike mine R) (codec : JsonCodec τ) {dict : String}
    (here : mine dict) (key decodeContext : String)
    : Alike R (backendGetJsonProtocol codec dict key decodeContext)
        (backendGetJsonProtocol codec dict key decodeContext) := by
  intro a b related
  obtain ⟨same, left_behind⟩ := alike.get here key related
  simp only [backendGetJsonProtocol]
  generalize KvBackend.get dict key a = outcome at same left_behind ⊢
  generalize KvBackend.get dict key b = outcome' at same left_behind ⊢
  obtain ⟨result, a'⟩ := outcome
  obtain ⟨result', b'⟩ := outcome'
  obtain rfl : result = result' := same
  obtain _ | _ | bytes := result <;> exact ⟨rfl, left_behind⟩

theorem readAll (alike : ReadsAlike mine R) {dict : String} (here : mine dict)
    {read : String → Call β τ} (reads : ∀ key, Alike R (read key) (read key))
    : Alike R (Contents.readAll dict read) (Contents.readAll dict read) := by
  refine (alike.listKeys here).andThen (fun keys => ?_)
  intro a b related
  obtain ⟨same, left_behind⟩ := Alike.each reads keys related
  exact ⟨congrArg Except.ok same, left_behind⟩

theorem keysAsU32s (alike : ReadsAlike mine R) {dict : String} (here : mine dict)
    : Alike R (listKeysAsU32s dict) (listKeysAsU32s dict) :=
  (alike.listKeys here).map _

theorem envelope (alike : ReadsAlike mine R) {κ : Type} (format : KyberFormat κ)
    {identity : IdentityType} (here : mine (dictKyberPrekey identity)) (id : UInt32)
    : Alike R (Kyber.loadEnvelope format identity id)
        (Kyber.loadEnvelope format identity id) :=
  alike.jsonProtocol format.envelope here (Kyber.envelopeKey id) "decode kyber envelope"

theorem kyberPreKey (alike : ReadsAlike mine R) {κ : Type} (format : KyberFormat κ)
    {identity : IdentityType} (here : mine (dictKyberPrekey identity)) (id : UInt32)
    : Alike R (Kyber.getKyberPreKey format identity id)
        (Kyber.getKyberPreKey format identity id) := by
  intro a b related
  obtain ⟨same, left_behind⟩ := alike.envelope format here id related
  simp only [Kyber.getKyberPreKey]
  generalize Kyber.loadEnvelope format identity id a = outcome at same left_behind ⊢
  generalize Kyber.loadEnvelope format identity id b = outcome' at same left_behind ⊢
  obtain ⟨result, a'⟩ := outcome
  obtain ⟨result', b'⟩ := outcome'
  obtain rfl : result = result' := same
  obtain _ | _ | envelope := result <;> exact ⟨rfl, left_behind⟩

/-- One load per listed Kyber pre-key, keeping what it yields. -/
theorem envelopes (alike : ReadsAlike mine R)
    {identity : IdentityType} (here : mine (dictKyberPrekey identity))
    {load : UInt32 → ProtocolCall β (Option τ)} (loads : ∀ id, Alike R (load id) (load id))
    : let read : ProtocolCall β (List τ) :=
        Attempt.andThen (Records.onProtocol (listKeysAsU32s (dictKyberPrekey identity)))
          (fun ids => Attempt.map (List.filterMap id) (Attempt.collect load ids))
      Alike R read read :=
  ((alike.keysAsU32s here).mapError _).andThen
    (fun ids => (Alike.collect loads ids).map (List.filterMap id))

theorem listsAnyKey (alike : ReadsAlike mine R) {dicts : List String}
    (here : ∀ dict ∈ dicts, mine dict)
    : Alike R (Store.listsAnyKey dicts) (Store.listsAnyKey dicts) := by
  induction dicts with
  | nil => exact fun _ _ related => ⟨rfl, related⟩
  | cons dict rest ih =>
      intro a b related
      have later := ih (fun other member => here other (by simp [member]))
      obtain ⟨same, left_behind⟩ := alike.listKeys (here dict (by simp)) related
      unfold Store.listsAnyKey
      generalize KvBackend.listKeys dict a = outcome at same left_behind ⊢
      generalize KvBackend.listKeys dict b = outcome' at same left_behind ⊢
      obtain ⟨result, a'⟩ := outcome
      obtain ⟨result', b'⟩ := outcome'
      obtain rfl : result = result' := same
      cases result with
      | error e => exact later left_behind
      | ok keys =>
          dsimp only
          split
          · exact later left_behind
          · exact ⟨rfl, left_behind⟩

theorem bundle (alike : ReadsAlike mine R) (format : RecordFormat ρ) {dict : String}
    (here : mine dict) (key : String)
    : Alike R (backendGetSessionBundleProtocol format dict key)
        (backendGetSessionBundleProtocol format dict key) := by
  intro a b related
  obtain ⟨same, left_behind⟩ := alike.get here key related
  simp only [backendGetSessionBundleProtocol]
  generalize KvBackend.get dict key a = outcome at same left_behind ⊢
  generalize KvBackend.get dict key b = outcome' at same left_behind ⊢
  obtain ⟨result, a'⟩ := outcome
  obtain ⟨result', b'⟩ := outcome'
  obtain rfl : result = result' := same
  obtain _ | _ | bytes := result
  · exact ⟨rfl, left_behind⟩
  · exact ⟨rfl, left_behind⟩
  · dsimp only
    split <;> exact ⟨rfl, left_behind⟩

end ReadsAlike

/-- Stores with related backends and the same sessions in memory. -/
structure SameMemory (R : β → β → Prop) (left right : PddbStore β ρ) : Prop where
  backend : R left.backend right.backend
  sessionCache : left.sessionCache = right.sessionCache
  sessionDirty : left.sessionDirty = right.sessionDirty

namespace StoreRead

variable {presage : Presage}

omit [KvBackend β] in
theorem onBackend_alike {call : β → α × β} (alike : Alike R call call)
    : Alike (@SameMemory β ρ R) (onBackend call) (onBackend call) := by
  intro a b related
  obtain ⟨same, left_behind⟩ := alike related.backend
  exact ⟨same, left_behind, related.sessionCache, related.sessionDirty⟩

theorem loadSession_alike (alike : ReadsAlike (ReadDict presage) R) (format : RecordFormat ρ)
    (order : HashOrder) (identity : IdentityType) (address : ProtocolAddress)
    : Alike (SameMemory R) (PddbStore.loadSession format order identity address)
        (PddbStore.loadSession format order identity address) := by
  rintro ⟨a, cache, dirty⟩ ⟨b, cache', dirty'⟩ ⟨related, caches, dirties⟩
  dsimp only at related caches dirties
  subst caches dirties
  obtain ⟨same, left_behind⟩ := alike.bundle format (.session presage identity) address.name
    related
  simp only [PddbStore.loadSession, PddbStore.onBackend]
  split
  · exact ⟨rfl, related, rfl, rfl⟩
  · generalize backendGetSessionBundleProtocol format (dictSession identity) address.name
      a = outcome at same left_behind ⊢
    generalize backendGetSessionBundleProtocol format (dictSession identity) address.name
      b = outcome' at same left_behind ⊢
    obtain ⟨result, a'⟩ := outcome
    obtain ⟨result', b'⟩ := outcome'
    obtain rfl : result = result' := same
    obtain _ | _ | bundle := result
    · exact ⟨rfl, left_behind, rfl, rfl⟩
    · exact ⟨rfl, left_behind, rfl, rfl⟩
    · dsimp only
      split
      · exact ⟨rfl, left_behind, rfl, rfl⟩
      · split <;> exact ⟨rfl, left_behind, rfl, rfl⟩

theorem getSubDeviceSessions_alike (alike : ReadsAlike (ReadDict presage) R)
    (format : RecordFormat ρ) (identity : IdentityType) (name : ServiceId)
    : Alike (SameMemory R) (PddbStore.getSubDeviceSessions format identity name)
        (PddbStore.getSubDeviceSessions format identity name) := by
  rintro ⟨a, cache, dirty⟩ ⟨b, cache', dirty'⟩ ⟨related, caches, dirties⟩
  dsimp only at related caches dirties
  subst caches dirties
  obtain ⟨same, left_behind⟩ := alike.bundle format (.session presage identity)
    name.rawUuid.toString related
  simp only [PddbStore.getSubDeviceSessions, PddbStore.onBackend]
  generalize backendGetSessionBundleProtocol format (dictSession identity)
    name.rawUuid.toString a = outcome at same left_behind ⊢
  generalize backendGetSessionBundleProtocol format (dictSession identity)
    name.rawUuid.toString b = outcome' at same left_behind ⊢
  obtain ⟨result, a'⟩ := outcome
  obtain ⟨result', b'⟩ := outcome'
  obtain rfl : result = result' := same
  cases result <;> exact ⟨rfl, left_behind, rfl, rfl⟩

/-- No read can tell apart stores whose backends single reads cannot tell apart. -/
theorem perform_alike (alike : ReadsAlike (ReadDict presage) R) (format : RecordFormat ρ)
    (read : StoreRead presage)
    : Alike (SameMemory R) (read.perform format) (read.perform format) := by
  have state := ReadDict.state presage
  have inContents {dict : String} := @ReadDict.contents presage dict
  have bundle (identity : IdentityType)
      : Alike R (Records.loadBundle presage identity) (Records.loadBundle presage identity) :=
    (alike.jsonProtocol presage.preKeyBundle (.prekeyBundle presage identity)
      Records.prekeyBundleKey "decode prekey bundle").map _
  have signedIds (identity : IdentityType) :=
    (alike.keysAsU32s (.signedPrekey presage identity)).mapError protocolBackendErr
  have kyberIds (identity : IdentityType) :=
    (alike.keysAsU32s (.kyberPrekey presage identity)).mapError protocolBackendErr
  have lastResort (identity : IdentityType)
      : Alike R (Records.lastResortIds presage identity)
          (Records.lastResortIds presage identity) :=
    alike.envelopes (.kyberPrekey presage identity) (fun id =>
      (alike.envelope presage.kyber (.kyberPrekey presage identity) id).map _)
  cases read with
  | loadRegistrationData => exact onBackend_alike (alike.json _ state _)
  | senderCertificate =>
      refine onBackend_alike ((alike.get state _).andThen (fun found => ?_))
      cases found <;> exact .lift _
  | isRegistered =>
      refine onBackend_alike (fun a b related => ?_)
      obtain ⟨same, left_behind⟩ := alike.json presage.registrationData state
        State.keyRegistration related
      simp only [State.isRegistered, State.loadRegistrationData, same]
      exact ⟨rfl, left_behind⟩
  | fetchMasterKey =>
      refine onBackend_alike ((alike.get state _).andThen (fun found => ?_))
      cases found <;> exact .lift _
  | hasAccountState =>
      exact onBackend_alike (alike.listsAnyKey (fun dict probed => .inl (probed_cleared probed)))
  | profile uuid key => exact onBackend_alike (alike.json _ (inContents (by decide)) _)
  | profileAvatar uuid key => exact onBackend_alike (alike.get (inContents (by decide)) _)
  | profileKey serviceId => exact onBackend_alike (alike.json _ (inContents (by decide)) _)
  | contacts =>
      exact onBackend_alike (alike.readAll (inContents (by decide))
        (fun key => alike.jsonRequired _ (inContents (by decide)) key _))
  | contactById id => exact onBackend_alike (alike.json _ (inContents (by decide)) _)
  | groups =>
      refine onBackend_alike (alike.readAll (inContents (by decide)) (fun key =>
        (alike.jsonRequired _ (inContents (by decide)) key _).andThen (fun group => ?_)))
      split <;> exact .lift _
  | group masterKey => exact onBackend_alike (alike.json _ (inContents (by decide)) _)
  | groupAvatar masterKey => exact onBackend_alike (alike.get (inContents (by decide)) _)
  | stickerPack id => exact onBackend_alike (alike.json _ (.stickerPacks presage) _)
  | stickerPacks =>
      exact onBackend_alike (alike.readAll (.stickerPacks presage)
        (fun key => alike.jsonRequired _ (.stickerPacks presage) key _))
  | message thread timestamp =>
      refine onBackend_alike ((alike.json _ (.thread presage thread) _).andThen
        (fun found => ?_))
      cases found <;> exact .lift _
  | messages thread range =>
      refine onBackend_alike ((alike.listKeys (.thread presage thread)).andThen
        (fun keys a b related => ?_))
      obtain ⟨same, left_behind⟩ := Alike.each
        (fun timestamp =>
          (alike.jsonRequired presage.storedMessage (.thread presage thread)
            (Contents.messageKey timestamp) _).andThen
            (fun stored => .lift (Contents.intoContent presage stored)))
        (Contents.listedTimestamps range keys) related
      exact ⟨congrArg Except.ok same, left_behind⟩
  | getIdentityKeyPair identity =>
      exact onBackend_alike (alike.found state _ _ (fun bytes => .lift _) (.lift _))
  | getLocalRegistrationId =>
      refine onBackend_alike (((alike.json _ state _).mapError _).andThen (fun found => ?_))
      cases found <;> exact .lift _
  | getIdentity identity address =>
      exact onBackend_alike (alike.found (.peerIdentity presage identity) _ _
        (fun bytes => .lift _) (.lift _))
  | isTrustedIdentity identity trustNewIdentities address key =>
      exact onBackend_alike ((alike.found (.peerIdentity presage identity) _ _
        (fun bytes => .lift _) (.lift _)).map _)
  | getPreKey identity id =>
      refine onBackend_alike ((bundle identity).andThen (fun entries => ?_))
      split <;> exact .lift _
  | getSignedPreKey identity id =>
      exact onBackend_alike (alike.found (.signedPrekey presage identity) _ _
        (fun bytes => .lift _) (.lift _))
  | getKyberPreKey identity id =>
      exact onBackend_alike (alike.kyberPreKey presage.kyber (.kyberPrekey presage identity) id)
  | loadLastResortKyberPreKeys identity =>
      refine onBackend_alike (alike.envelopes (.kyberPrekey presage identity) (fun id =>
        (alike.envelope presage.kyber (.kyberPrekey presage identity) id).andThen
          (fun found => ?_)))
      split <;> exact .lift _
  | nextPreKeyId identity => exact onBackend_alike (((bundle identity).map _).map _)
  | nextSignedPreKeyId identity => exact onBackend_alike (((signedIds identity).map _).map _)
  | nextPqPreKeyId identity => exact onBackend_alike (((kyberIds identity).map _).map _)
  | signedPreKeysCount identity =>
      exact onBackend_alike (((alike.listKeys (.signedPrekey presage identity)).map _).mapError _)
  | kyberPreKeysCount identity lastResortOnly =>
      cases lastResortOnly with
      | true => exact onBackend_alike ((lastResort identity).map _)
      | false => exact onBackend_alike ((kyberIds identity).map _)
  | signedPrekeyId identity => exact onBackend_alike ((signedIds identity).map _)
  | lastResortKyberPrekeyId identity => exact onBackend_alike ((lastResort identity).map _)
  | loadSenderKey identity sender distributionId =>
      exact onBackend_alike (alike.found (.senderKey presage identity) _ _
        (fun bytes => .lift _) (.lift _))
  | loadSession order identity address =>
      exact loadSession_alike alike format order identity address
  | getSubDeviceSessions identity name =>
      exact getSubDeviceSessions_alike alike format identity name

end StoreRead

end XousAppSignal.Store
