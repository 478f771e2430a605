import XousAppSignal.Store.Clear
import XousAppSignal.Store.Presage

/-! The account state: one dictionary with a key per field. -/

namespace XousAppSignal.Store.State

variable {β : Type} [KvBackend β] (presage : Presage)

def keyRegistration : String := "registration"
def keyAciIdentityKeyPair : String := "aci_identity_key_pair"
def keyPniIdentityKeyPair : String := "pni_identity_key_pair"
def keySenderCertificate : String := "sender_certificate"
def keyMasterKey : String := "master_key"

def loadRegistrationData : Call β (Option presage.RegistrationData) :=
  backendGetJson presage.registrationData dictState keyRegistration

def setAciIdentityKeyPair (keyPair : presage.IdentityKeyPair) : Call β Unit :=
  KvBackend.put dictState keyAciIdentityKeyPair (presage.identityKeyPair.serialize keyPair)

def setPniIdentityKeyPair (keyPair : presage.IdentityKeyPair) : Call β Unit :=
  KvBackend.put dictState keyPniIdentityKeyPair (presage.identityKeyPair.serialize keyPair)

def saveRegistrationData (state : presage.RegistrationData) : Call β Unit :=
  backendPutJson presage.registrationData dictState keyRegistration state

def senderCertificate : Call β (Option presage.SenderCertificate) :=
  Attempt.andThen (KvBackend.get dictState keySenderCertificate) (fun
    | some bytes =>
        Attempt.lift ((presage.certificateDeserialize bytes).map some |>.mapError .protocol)
    | none => Attempt.lift (.ok none))

def saveSenderCertificate (certificate : presage.SenderCertificate) : Call β Unit :=
  Attempt.andThen
    (Attempt.lift ((presage.certificateSerialized certificate).mapError .protocol))
    (KvBackend.put dictState keySenderCertificate)

/-- Errors collapse to "not registered". -/
def isRegistered (backend : β) : Bool × β :=
  (match (loadRegistrationData presage backend).1 with
    | .ok (some _) => true
    | _ => false,
    (loadRegistrationData presage backend).2)

def clearRegistration : Call β Unit := KvBackend.deleteDict dictState

def fetchMasterKey : Call β (Option presage.MasterKey) :=
  Attempt.andThen (KvBackend.get dictState keyMasterKey) (fun
    | some bytes =>
        Attempt.lift ((presage.masterKeyFromSlice bytes).map some
          |>.mapError (fun e => .decode ("master key length: " ++ e)))
    | none => Attempt.lift (.ok none))

def storeMasterKey : Option presage.MasterKey → Call β Unit
  | some key => KvBackend.put dictState keyMasterKey (presage.masterKeyInner key)
  | none => KvBackend.delete dictState keyMasterKey

end XousAppSignal.Store.State
