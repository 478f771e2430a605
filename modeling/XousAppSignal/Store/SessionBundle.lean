import XousAppSignal.Library.Bincode
import XousAppSignal.Store.Protocol

/-! The stored form of the sessions of one address: a map from device id to serialized
record, written as a version byte and a bincode map, with a legacy JSON form still read.
-/

namespace XousAppSignal.Store

/-- The values stored in one session slot: device id to serialized record. -/
abbrev SessionBundle := FiniteMap UInt32 Bytes

/-- libsignal's binary form of a session record, and the JSON reader of bundles written
before the version byte was introduced.
-/
structure RecordFormat (ρ : Type) where
  serialize : ρ → Except String Bytes
  deserialize : Bytes → Except SignalProtocolError ρ
  fromJson : Bytes → Except String SessionBundle

/-- `deserialize` undoes `serialize`, whose output is an addressable byte vector. -/
structure RecordFormat.RoundTrip {ρ : Type} (format : RecordFormat ρ) : Prop where
  fits : ∀ {record bytes}, format.serialize record = .ok bytes → Bincode.Fits bytes
  undo
    : ∀ {record bytes},
        format.serialize record = .ok bytes → format.deserialize bytes = .ok record

/-- A format for records of a single byte, to run the store on. -/
def RecordFormat.oneByte : RecordFormat UInt8 where
  serialize record := .ok [record]
  deserialize
    | [record] => .ok record
    | _ => .error (.libsignal "failed to decode protobuf")
  fromJson _ := .error "expected value at line 1 column 1"

theorem RecordFormat.oneByte_roundTrip : RecordFormat.oneByte.RoundTrip where
  fits written := by
    cases written
    exact Nat.one_lt_pow (by decide) (by decide)
  undo written := by
    cases written
    rfl

def sessionBundleVersionBincodeV1 : UInt8 := 0x01

def serializeSessionBundle (order : HashOrder) (bundle : SessionBundle) : Bytes :=
  sessionBundleVersionBincodeV1 :: Bincode.encodeMap order bundle

variable {ρ : Type}

/-- Route on the version byte; a blob without it is legacy JSON. -/
def deserializeSessionBundle (format : RecordFormat ρ) (bytes : Bytes)
    : Except Error SessionBundle :=
  match bytes with
  | version :: body =>
      if version = sessionBundleVersionBincodeV1 then
        match Bincode.decodeMap body with
        | some bundle => .ok bundle
        | none => .error (.decode "io error: unexpected end of file")
      else (format.fromJson bytes).mapError .decode
  | [] => (format.fromJson bytes).mapError .decode

/-- Reading back a written bundle gives every record's bytes back. -/
theorem deserialize_serializeSessionBundle (format : RecordFormat ρ) (order : HashOrder)
    {bundle : SessionBundle}
    (fits : ∀ device bytes, bundle.lookup device = some bytes → Bincode.Fits bytes)
    : ∃ decoded,
        deserializeSessionBundle format (serializeSessionBundle order bundle) = .ok decoded
        ∧ ∀ device, decoded.lookup device = bundle.lookup device := by
  obtain ⟨decoded, read, same⟩ := Bincode.decodeMap_encodeMap order fits
  refine ⟨decoded, ?_, same⟩
  simp [deserializeSessionBundle, serializeSessionBundle, read]

variable {β : Type} [KvBackend β]

def backendGetSessionBundle (format : RecordFormat ρ) (dict key : String)
    : Call β (Option SessionBundle) := fun backend =>
  match KvBackend.get dict key backend with
  | (.error e, backend) => (.error e, backend)
  | (.ok none, backend) => (.ok none, backend)
  | (.ok (some bytes), backend) => ((deserializeSessionBundle format bytes).map some, backend)

def backendPutSessionBundle (order : HashOrder) (dict key : String) (bundle : SessionBundle)
    : Call β Unit :=
  KvBackend.put dict key (serializeSessionBundle order bundle)

def backendGetSessionBundleProtocol (format : RecordFormat ρ) (dict key : String)
    : ProtocolCall β (Option SessionBundle) := fun backend =>
  match KvBackend.get dict key backend with
  | (.error e, backend) => (.error (protocolBackendErr e), backend)
  | (.ok none, backend) => (.ok none, backend)
  | (.ok (some bytes), backend) =>
      match deserializeSessionBundle format bytes with
      | .error e => (.error (.invalidState "decode session bundle" e.display), backend)
      | .ok bundle => (.ok (some bundle), backend)

def backendPutSessionBundleProtocol (order : HashOrder) (dict key : String)
    (bundle : SessionBundle)
    : ProtocolCall β Unit := fun backend =>
  match KvBackend.put dict key (serializeSessionBundle order bundle) backend with
  | (.error e, backend) => (.error (protocolBackendErr e), backend)
  | (.ok (), backend) => (.ok (), backend)

end XousAppSignal.Store
