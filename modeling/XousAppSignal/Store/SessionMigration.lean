import XousAppSignal.Library.JsonMaps
import XousAppSignal.Store.FlushRetry
import XousAppSignal.Text

/-! The two stored forms of a session bundle: both are read back, each by its own branch of the
decoder, and a flush turns a legacy bundle into a versioned one on the way.
-/

namespace XousAppSignal.Store

variable {β ρ : Type} {format : RecordFormat ρ}

/-- A bundle as builds before the version byte wrote it. -/
def legacySessionBundle (order : HashOrder) (bundle : SessionBundle) : Bytes :=
  asBytes (JsonMaps.encodeMap order bundle)

/-- The byte strings of a bundle have a 64-bit length. -/
def SessionBundle.Fits (bundle : SessionBundle) : Prop :=
  ∀ device ser, bundle.lookup device = some ser → Bincode.Fits ser

/-- The JSON reader of the format reads objects with decimal keys and number arrays. -/
def RecordFormat.ReadsJson (format : RecordFormat ρ) : Prop :=
  ∀ text map, JsonMaps.decodeMap text = some map → SessionBundle.Fits map
    → ∃ read, format.fromJson (asBytes text) = .ok read
        ∧ ∀ device, read.lookup device = map.lookup device

/-- A legacy bundle starts with a brace. -/
theorem legacySessionBundle_head (order : HashOrder) (bundle : SessionBundle)
    : ∃ rest, legacySessionBundle order bundle = 0x7b :: rest := by
  rw [legacySessionBundle, asBytes_eq_flatMap, JsonMaps.encodeMap, String.toList_ofList]
  exact ⟨_, rfl⟩

/-- A legacy bundle is left to the JSON reader. -/
theorem deserialize_legacySessionBundle (format : RecordFormat ρ) (order : HashOrder)
    (bundle : SessionBundle)
    : deserializeSessionBundle format (legacySessionBundle order bundle)
      = (format.fromJson (legacySessionBundle order bundle)).mapError .decode := by
  obtain ⟨rest, start⟩ := legacySessionBundle_head order bundle
  rw [start, deserializeSessionBundle, if_neg (by decide)]

/-- Reading a legacy bundle gives every record's bytes back. -/
theorem read_legacySessionBundle (reads : format.ReadsJson) (order : HashOrder)
    {bundle : SessionBundle} (fits : bundle.Fits)
    : ∃ decoded, deserializeSessionBundle format (legacySessionBundle order bundle) = .ok decoded
        ∧ ∀ device, decoded.lookup device = bundle.lookup device := by
  obtain ⟨map, decodes, same⟩ := JsonMaps.decodeMap_encodeMap order bundle
  obtain ⟨read, parsed, lookups⟩ := reads _ map decodes fun device ser found =>
    fits device ser ((same device).symm.trans found)
  refine ⟨read, ?_, fun device => (lookups device).trans (same device)⟩
  rw [deserialize_legacySessionBundle, legacySessionBundle, parsed]
  rfl

/-- A versioned bundle never reaches the JSON reader. -/
theorem deserialize_versioned (format other : RecordFormat ρ) (order : HashOrder)
    (bundle : SessionBundle)
    : deserializeSessionBundle other (serializeSessionBundle order bundle)
      = deserializeSessionBundle format (serializeSessionBundle order bundle) := by
  simp only [deserializeSessionBundle, serializeSessionBundle, if_true]

namespace PddbStore

variable [KvBackend β]

/-- The two stored forms of a bundle: what each is read back as, by which branch of the decoder,
and what a flush makes of a legacy bundle that has a dirty device.
-/
structure BundleMigration (format : RecordFormat ρ) (kv : KvAtomic β) : Prop where
  versioned (order : HashOrder) {bundle : SessionBundle} (fits : bundle.Fits)
    : ∃ decoded, deserializeSessionBundle format (serializeSessionBundle order bundle)
        = .ok decoded
      ∧ ∀ device, decoded.lookup device = bundle.lookup device
  legacy (order : HashOrder) {bundle : SessionBundle} (fits : bundle.Fits)
    : ∃ decoded, deserializeSessionBundle format (legacySessionBundle order bundle) = .ok decoded
      ∧ ∀ device, decoded.lookup device = bundle.lookup device
  versionedBranch (other : RecordFormat ρ) (order : HashOrder) (bundle : SessionBundle)
    : deserializeSessionBundle other (serializeSessionBundle order bundle)
      = deserializeSessionBundle format (serializeSessionBundle order bundle)
  legacyBranch (order : HashOrder) (bundle : SessionBundle)
    : deserializeSessionBundle format (legacySessionBundle order bundle)
      = (format.fromJson (legacySessionBundle order bundle)).mapError .decode
  flush {store : PddbStore β ρ} (ready : kv.Ready store.backend) (order : FlushOrder)
    {slot : IdentityType × String} {legacyOrder : HashOrder} {legacy : SessionBundle}
    (fits : legacy.Fits)
    (stored
      : kv.view store.backend (sessionSlot slot) = some (legacySessionBundle legacyOrder legacy))
    (dirty : ∃ device, store.DirtyCached (slot.1, slot.2, device))
    : ((∃ e, (flushSessions format order store).1 = .error e)
        ∧ FlushFails format kv.MayFail store (kv.view store.backend))
      ∨ (∀ key, store.DirtyCached key → (pendingBytes format store key).isSome)
        ∧ ∃ bundleOrder bundle decoded,
          kv.view (flushSessions format order store).2.backend (sessionSlot slot)
            = some (serializeSessionBundle bundleOrder bundle)
          ∧ deserializeSessionBundle format (serializeSessionBundle bundleOrder bundle)
            = .ok decoded
          ∧ ∀ device, decoded.lookup device
            = (pendingBytes format store (slot.1, slot.2, device)).or (legacy.lookup device)

/-- Both forms are read back, each by its own branch, and a flush that succeeds leaves a legacy
bundle with dirty devices as a versioned one, changed at exactly these devices.
-/
theorem bundle_migration (reads : format.ReadsJson) (addressable : format.Addressable)
    (kv : KvAtomic β)
    : BundleMigration format kv where
  versioned order _ fits := deserialize_serializeSessionBundle format order fits
  legacy order _ fits := read_legacySessionBundle reads order fits
  versionedBranch := deserialize_versioned format
  legacyBranch := deserialize_legacySessionBundle format
  flush := by
    intro store ready order slot legacyOrder legacy fits stored dirty
    obtain ⟨-, out⟩ := flushSessions_outcome kv format ready order
    rcases out.outcome with ⟨e, failed, cause, -⟩ | ⟨-, -, -, written, rewritten⟩
    · exact .inl ⟨⟨e, failed⟩, cause⟩
    · obtain ⟨old, new, bytes, decoded, found, read, lookups⟩ :=
        (rewritten slot dirty).read addressable
      obtain ⟨-, -, bundle, bundleOrder, -, found', -⟩ := rewritten slot dirty
      obtain ⟨decoded', readLegacy, same⟩ := read_legacySessionBundle reads legacyOrder fits
      rw [stored] at decoded
      obtain rfl := Except.ok.inj (readLegacy.symm.trans decoded)
      obtain rfl := Option.some.inj (found'.symm.trans found)
      refine .inr ⟨written, bundleOrder, bundle, new, found', read, fun device => ?_⟩
      rw [lookups, same]

/-- One-byte records, with a JSON reader for legacy bundles. -/
def jsonFormat : RecordFormat UInt8 where
  serialize := RecordFormat.oneByte.serialize
  deserialize := RecordFormat.oneByte.deserialize
  fromJson bytes :=
    match (fromUtf8 bytes).bind JsonMaps.decodeMap with
    | none => .error "expected value at line 1 column 1"
    | some map =>
        if ∀ pair ∈ FiniteMap.pairs map, Bincode.Fits pair.2 then .ok map
        else .error "out of memory"

theorem jsonFormat_readsJson : jsonFormat.ReadsJson := by
  intro text map decoded fits
  have every : ∀ pair ∈ FiniteMap.pairs map, Bincode.Fits pair.2 :=
    fun pair listed => fits pair.1 pair.2 (FiniteMap.mem_pairs.mp listed)
  refine ⟨map, ?_, fun _ => rfl⟩
  simp only [jsonFormat, fromUtf8_asBytes, Option.bind_some, decoded, if_pos every]

theorem jsonFormat_addressable : jsonFormat.Addressable where
  serialized := RecordFormat.oneByte_roundTrip.fits
  parsed {bytes bundle} read {device ser} found := by
    simp only [jsonFormat] at read
    split at read
    · cases read
    · split at read
      · next every =>
          cases read
          exact every (device, ser) (FiniteMap.mem_pairs.mpr found)
      · cases read

/-- Witness: the migration holds of that format, on a finite map that may fail at any call. -/
theorem bundle_migration_json : BundleMigration jsonFormat InnerBackend.atomic :=
  bundle_migration jsonFormat_readsJson jsonFormat_addressable InnerBackend.atomic

end PddbStore

end XousAppSignal.Store
