import XousAppSignal.Store.LimitedContract
import XousAppSignal.Store.RecordFrames

/-! Every write and every load reaches the backend with the names of its own records. So two
backends that cannot be told apart by calls with served names carry stores that cannot be told
apart by operations on records with served names.
-/

namespace XousAppSignal.Store

variable {α β ρ τ : Type} [KvBackend α] [KvBackend β] {limits : NameLimits}
  {R : α → β → Prop} {presage : Presage}

/-- Single calls with served names answer alike on related backends, and keep them related; a
call that reads also keeps a backend related to the other one on its own. A dictionary lists
the same keys, in any order.
-/
structure CallsAlike (limits : NameLimits) (R : α → β → Prop) : Prop where
  get
    : ∀ {dict key}, limits.Allows (dict, key)
      → AskAlike R (KvBackend.get dict key) (KvBackend.get dict key)
  put
    : ∀ {dict key}, limits.Allows (dict, key) → ∀ value,
        Alike R (KvBackend.put dict key value) (KvBackend.put dict key value)
  delete
    : ∀ {dict key}, limits.Allows (dict, key)
      → Alike R (KvBackend.delete dict key) (KvBackend.delete dict key)
  deleteDict
    : ∀ {dict}, limits.dict dict
      → Alike R (KvBackend.deleteDict dict) (KvBackend.deleteDict dict)
  listKeys
    : ∀ {dict}, limits.dict dict → ∀ {a b}, R a b
      → ∃ keys keys' a' b',
          KvBackend.listKeys dict a = (.ok keys, a') ∧ KvBackend.listKeys dict b = (.ok keys', b')
          ∧ keys.Perm keys' ∧ (∀ key ∈ keys, limits.key key) ∧ R a' b'

namespace CallsAlike

variable {dict key : String}

-----------------------------------------------------------------------------------------
-- Values
-----------------------------------------------------------------------------------------

/-- A value, and what is made of it. -/
theorem found {ε γ : Type} (alike : CallsAlike limits R) (allows : limits.Allows (dict, key))
    (rename : Error → ε) {next : Option Bytes → Attempt α ε γ}
    {next' : Option Bytes → Attempt β ε γ}
    (made : ∀ found, ∃ result, next found = Attempt.lift result ∧ next' found = Attempt.lift result)
    : AskAlike R (Attempt.andThen (Attempt.mapError rename (KvBackend.get dict key)) next)
        (Attempt.andThen (Attempt.mapError rename (KvBackend.get dict key)) next') := by
  refine ((alike.get allows).mapError rename).andThen (fun found => ?_)
  obtain ⟨result, left, right⟩ := made found
  rw [left, right]
  exact .lift result

theorem json (alike : CallsAlike limits R) (codec : JsonCodec τ)
    (allows : limits.Allows (dict, key))
    : AskAlike R (backendGetJson codec dict key) (backendGetJson codec dict key) := by
  refine (alike.get allows).andThen (fun found => ?_)
  cases found <;> exact .lift _

theorem jsonRequired (alike : CallsAlike limits R) (codec : JsonCodec τ)
    (allows : limits.Allows (dict, key)) (missingMsg : String)
    : AskAlike R (backendGetJsonRequired codec dict key missingMsg)
        (backendGetJsonRequired codec dict key missingMsg) := by
  refine (alike.get allows).andThen (fun found => ?_)
  cases found <;> exact .lift _

theorem putJson (alike : CallsAlike limits R) (codec : JsonCodec τ)
    (allows : limits.Allows (dict, key)) (value : τ)
    : Alike R (backendPutJson codec dict key value) (backendPutJson codec dict key value) :=
  (Alike.lift _).andThen (fun bytes => alike.put allows bytes)

/-- A JSON read for libsignal is a `get` with its error renamed. -/
theorem getJsonProtocol_eq {γ : Type} [KvBackend γ] (codec : JsonCodec τ)
    (dict key decodeContext : String)
    : (backendGetJsonProtocol codec dict key decodeContext : ProtocolCall γ (Option τ))
      = Attempt.andThen (Attempt.mapError protocolBackendErr (KvBackend.get dict key)) (fun
          | none => Attempt.lift (.ok none)
          | some bytes => Attempt.lift
              ((codec.fromSlice bytes).map some |>.mapError (.invalidState decodeContext))) := by
  funext backend
  simp only [backendGetJsonProtocol, Attempt.andThen, Attempt.mapError]
  generalize KvBackend.get dict key backend = outcome
  obtain ⟨_ | _ | bytes, next⟩ := outcome <;> rfl

theorem jsonProtocol (alike : CallsAlike limits R) (codec : JsonCodec τ)
    (allows : limits.Allows (dict, key)) (decodeContext : String)
    : AskAlike R (backendGetJsonProtocol codec dict key decodeContext)
        (backendGetJsonProtocol codec dict key decodeContext) := by
  rw [getJsonProtocol_eq, getJsonProtocol_eq]
  refine alike.found allows _ (fun found => ?_)
  cases found <;> exact ⟨_, rfl, rfl⟩

theorem putJsonProtocol (alike : CallsAlike limits R) (codec : JsonCodec τ)
    (allows : limits.Allows (dict, key)) (encodeContext : String) (value : τ)
    : Alike R (backendPutJsonProtocol codec dict key encodeContext value)
        (backendPutJsonProtocol codec dict key encodeContext value) := by
  intro a b related
  simp only [backendPutJsonProtocol]
  split
  · exact ⟨rfl, related⟩
  · next bytes encoded =>
      obtain ⟨result, a', b', wrote, wrote', left_behind⟩ :=
        (alike.put allows bytes).outcomes related
      simp only [wrote, wrote']
      cases result <;> exact ⟨rfl, left_behind⟩

theorem deleteProtocol (alike : CallsAlike limits R) (allows : limits.Allows (dict, key))
    : Alike R (backendDeleteProtocol dict key) (backendDeleteProtocol dict key) := by
  intro a b related
  obtain ⟨result, a', b', gone, gone', left_behind⟩ := (alike.delete allows).outcomes related
  simp only [backendDeleteProtocol, gone, gone']
  cases result <;> exact ⟨rfl, left_behind⟩

theorem deleteExisting (alike : CallsAlike limits R) (allows : limits.Allows (dict, key))
    : Alike R (Contents.deleteExisting dict key) (Contents.deleteExisting dict key) :=
  (alike.get allows).alike.andThen (fun _ => (alike.delete allows).map _)

/-- Dictionaries are dropped alike, by induction on them. -/
theorem deleteDicts (alike : CallsAlike limits R) {dicts : List String}
    (allows : ∀ dict ∈ dicts, limits.dict dict)
    : Alike R (Store.deleteDicts dicts) (Store.deleteDicts dicts) := by
  induction dicts with
  | nil => exact fun _ _ related => ⟨rfl, related⟩
  | cons dict rest ih =>
      obtain ⟨first, later⟩ := List.forall_mem_cons.mp allows
      intro a b related
      obtain ⟨result, a', b', dropped, dropped', left_behind⟩ :=
        (alike.deleteDict first).outcomes related
      simp only [Store.deleteDicts, dropped, dropped']
      cases result with
      | error e => exact ⟨rfl, left_behind⟩
      | ok done => exact ih later left_behind

-----------------------------------------------------------------------------------------
-- Kyber pre-keys
-----------------------------------------------------------------------------------------

section Kyber

variable {κ : Type} (format : KyberFormat κ) {identity : IdentityType} {id : UInt32}

theorem envelope (alike : CallsAlike limits R)
    (allows : limits.Allows (dictKyberPrekey identity, Kyber.envelopeKey id))
    : AskAlike R (Kyber.loadEnvelope format identity id)
        (Kyber.loadEnvelope format identity id) :=
  alike.jsonProtocol format.envelope allows "decode kyber envelope"

theorem kyberPreKey (alike : CallsAlike limits R)
    (allows : limits.Allows (dictKyberPrekey identity, Kyber.envelopeKey id))
    : Alike R (Kyber.getKyberPreKey format identity id)
        (Kyber.getKyberPreKey format identity id) := by
  intro a b related
  obtain ⟨result, a', b', loaded, loaded', left_behind⟩ :=
    (alike.envelope format allows).alike.outcomes related
  simp only [Kyber.getKyberPreKey, loaded, loaded']
  obtain _ | _ | envelope := result <;> exact ⟨rfl, left_behind⟩

theorem storeEnvelope (alike : CallsAlike limits R)
    (allows : limits.Allows (dictKyberPrekey identity, Kyber.envelopeKey id)) (record : κ)
    (isLastResort : Bool)
    : Alike R (Kyber.storeEnvelope format identity id record isLastResort)
        (Kyber.storeEnvelope format identity id record isLastResort) := by
  intro a b related
  simp only [Kyber.storeEnvelope]
  cases format.serialize record with
  | error e => exact ⟨rfl, related⟩
  | ok bytes => exact alike.putJsonProtocol _ allows _ _ related

theorem markKyberPreKeyUsed (alike : CallsAlike limits R) {ecPrekeyId : UInt32}
    (allows : limits.Allows (dictKyberPrekey identity, Kyber.envelopeKey id))
    (pair : limits.Allows (dictKyberMeta identity, Kyber.metaKey id ecPrekeyId))
    (baseKey : PublicKey)
    : Alike R (Kyber.markKyberPreKeyUsed format identity id ecPrekeyId baseKey)
        (Kyber.markKyberPreKeyUsed format identity id ecPrekeyId baseKey) := by
  intro a b related
  obtain ⟨result, a', b', loaded, loaded', left_behind⟩ :=
    (alike.envelope format allows).alike.outcomes related
  simp only [Kyber.markKyberPreKeyUsed, loaded, loaded']
  obtain _ | _ | envelope := result
  · exact ⟨rfl, left_behind⟩
  · exact ⟨rfl, left_behind⟩
  · dsimp only
    split
    · obtain ⟨result, a', b', looked, looked', left_behind⟩ :=
        (alike.get pair).alike.outcomes left_behind
      simp only [looked, looked']
      cases result with
      | error e => exact ⟨rfl, left_behind⟩
      | ok prior =>
          dsimp only
          split
          · exact ⟨rfl, left_behind⟩
          · obtain ⟨result, a', b', wrote, wrote', left_behind⟩ :=
              (alike.put pair baseKey.serialize).outcomes left_behind
            simp only [wrote, wrote']
            cases result <;> exact ⟨rfl, left_behind⟩
    · exact alike.deleteProtocol allows left_behind

end Kyber

-----------------------------------------------------------------------------------------
-- Session bundles
-----------------------------------------------------------------------------------------

section Bundles

variable (format : RecordFormat ρ)

theorem bundle (alike : CallsAlike limits R) (allows : limits.Allows (dict, key))
    : Alike R (backendGetSessionBundle format dict key)
        (backendGetSessionBundle format dict key) := by
  intro a b related
  obtain ⟨result, a', b', asked, asked', left_behind⟩ := (alike.get allows).alike.outcomes related
  simp only [backendGetSessionBundle, asked, asked']
  obtain _ | _ | bytes := result <;> exact ⟨rfl, left_behind⟩

theorem bundleProtocol (alike : CallsAlike limits R) (allows : limits.Allows (dict, key))
    : Alike R (backendGetSessionBundleProtocol format dict key)
        (backendGetSessionBundleProtocol format dict key) := by
  intro a b related
  obtain ⟨result, a', b', asked, asked', left_behind⟩ := (alike.get allows).alike.outcomes related
  simp only [backendGetSessionBundleProtocol, asked, asked']
  obtain _ | _ | bytes := result
  · exact ⟨rfl, left_behind⟩
  · exact ⟨rfl, left_behind⟩
  · dsimp only
    split <;> exact ⟨rfl, left_behind⟩

theorem putBundleProtocol (alike : CallsAlike limits R) (allows : limits.Allows (dict, key))
    (order : HashOrder) (bundle : SessionBundle)
    : Alike R (backendPutSessionBundleProtocol order dict key bundle)
        (backendPutSessionBundleProtocol order dict key bundle) := by
  intro a b related
  obtain ⟨result, a', b', wrote, wrote', left_behind⟩ :=
    (alike.put allows (serializeSessionBundle order bundle)).outcomes related
  simp only [backendPutSessionBundleProtocol, wrote, wrote']
  cases result <;> exact ⟨rfl, left_behind⟩

theorem dropDevice (alike : CallsAlike limits R) (order : HashOrder) {key : SessionKey}
    (allows : limits.Allows (dictSession key.1, key.2.1))
    : Alike R (PddbStore.dropDevice format order key)
        (PddbStore.dropDevice format order key) := by
  intro a b related
  obtain ⟨result, a', b', loaded, loaded', left_behind⟩ :=
    (alike.bundleProtocol format allows).outcomes related
  simp only [PddbStore.dropDevice, loaded, loaded']
  obtain _ | _ | bundle := result
  · exact ⟨rfl, left_behind⟩
  · exact ⟨rfl, left_behind⟩
  · dsimp only
    split
    · exact ⟨rfl, left_behind⟩
    · split
      · exact alike.deleteProtocol allows left_behind
      · exact alike.putBundleProtocol allows order _ left_behind

theorem dropAddress (alike : CallsAlike limits R) {address : IdentityType × String}
    (allows : limits.Allows (dictSession address.1, address.2))
    : Alike R (PddbStore.dropAddress format address)
        (PddbStore.dropAddress format address) := by
  intro a b related
  obtain ⟨result, a', b', loaded, loaded', left_behind⟩ :=
    (alike.bundleProtocol format allows).outcomes related
  simp only [PddbStore.dropAddress, loaded, loaded']
  obtain _ | _ | bundle := result
  · exact ⟨rfl, left_behind⟩
  · exact ⟨rfl, left_behind⟩
  · obtain ⟨result, a', b', gone, gone', left_behind⟩ :=
      (alike.deleteProtocol allows).outcomes left_behind
    simp only [gone, gone']
    cases result <;> exact ⟨rfl, left_behind⟩

/-- The groups of a flush are written alike, by induction on them. -/
theorem writeGroups (alike : CallsAlike limits R) (order : IdentityType × String → HashOrder)
    {groups : List ((IdentityType × String) × List (UInt32 × Bytes))}
    (allows : ∀ group ∈ groups, limits.Allows (dictSession group.1.1, group.1.2))
    (written : Nat)
    : Alike R (PddbStore.writeGroups format order groups written)
        (PddbStore.writeGroups format order groups written) := by
  induction groups generalizing written with
  | nil => exact fun _ _ related => ⟨rfl, related⟩
  | cons group rest ih =>
      obtain ⟨first, later⟩ := List.forall_mem_cons.mp allows
      intro a b related
      obtain ⟨result, a', b', loaded, loaded', left_behind⟩ :=
        (alike.bundle format first).outcomes related
      simp only [PddbStore.writeGroups, loaded, loaded']
      cases result with
      | error e => exact ⟨rfl, left_behind⟩
      | ok found =>
          obtain ⟨result, a', b', wrote, wrote', left_behind⟩ :=
            (alike.put first (serializeSessionBundle (order group.1)
              (FiniteMap.insertAll (found.getD ∅) group.2))).outcomes left_behind
          simp only [backendPutSessionBundle, wrote, wrote']
          cases result with
          | error e => exact ⟨rfl, left_behind⟩
          | ok done => exact ih later _ left_behind

end Bundles

end CallsAlike

end XousAppSignal.Store
