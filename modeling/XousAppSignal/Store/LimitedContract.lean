import XousAppSignal.Store.Batch

/-! Backends that serve some names only: within the limits they keep the contract, and a write
buffer over one mirrors a write buffer over a backend that serves every name.
-/

namespace XousAppSignal.Store

/-- The names a backend serves. -/
structure NameLimits where
  dict : String → Prop
  key : String → Prop

/-- A slot whose names are served. -/
structure NameLimits.Allows (limits : NameLimits) (slot : String × String) : Prop where
  dict : limits.dict slot.1
  key : limits.key slot.2

/-- The backend contract for the names within the limits; nothing else is stored. -/
structure KvContractOn (limits : NameLimits) (β : Type) [KvBackend β] where
  Ready : β → Prop
  view : β → View
  confined
    : ∀ {backend}, Ready backend → ∀ {slot}, view backend slot ≠ none → limits.Allows slot
  get
    : ∀ {backend}, Ready backend → ∀ {dict key}, limits.Allows (dict, key)
      → Returns Ready view (KvBackend.get dict key backend) (view backend (dict, key))
          (view backend)
  put
    : ∀ {backend}, Ready backend → ∀ {dict key}, limits.Allows (dict, key) → ∀ value,
        Returns Ready view (KvBackend.put dict key value backend) ()
          (Function.update (view backend) (dict, key) (some value))
  putBatch
    : ∀ {backend}, Ready backend → ∀ {entries : List (String × String × Bytes)},
        (∀ entry ∈ entries, limits.Allows (entry.1, entry.2.1))
        → Ready (KvBackend.putBatch entries backend).2
          ∧ ∃ landed : List (String × String × Bytes),
              landed.Sublist entries
              ∧ ((KvBackend.putBatch entries backend).1 = .ok () → landed = entries)
              ∧ view (KvBackend.putBatch entries backend).2 = (view backend).putAll landed
  delete
    : ∀ {backend}, Ready backend → ∀ {dict key}, limits.Allows (dict, key)
      → Returns Ready view (KvBackend.delete dict key backend) ()
          (Function.update (view backend) (dict, key) none)
  deleteDict
    : ∀ {backend}, Ready backend → ∀ {dict}, limits.dict dict
      → Returns Ready view (KvBackend.deleteDict dict backend) ()
          ((view backend).clearDict dict)
  listKeys
    : ∀ {backend}, Ready backend → ∀ {dict}, limits.dict dict
      → ∃ keys : List String,
          Returns Ready view (KvBackend.listKeys dict backend) keys (view backend)
          ∧ keys.Nodup
          ∧ ∀ key, key ∈ keys ↔ (view backend (dict, key)).isSome

/-- A call that asks for names within the limits. -/
def KvOp.Within (limits : NameLimits) : KvOp → Prop
  | .get dict key => limits.Allows (dict, key)
  | .put dict key _ => limits.Allows (dict, key)
  | .delete dict key => limits.Allows (dict, key)
  | .deleteDict dict => limits.dict dict
  | .listKeys dict => limits.dict dict

/-- A working backend serves every name. -/
def KvContract.limited {β : Type} [KvBackend β] (contract : KvContract β)
    : KvContractOn ⟨fun _ => True, fun _ => True⟩ β where
  Ready := contract.Ready
  view := contract.view
  confined _ _ _ := ⟨trivial, trivial⟩
  get ready _ _ _ := contract.get ready _ _
  put ready _ _ _ := contract.put ready _ _
  putBatch ready entries _ := contract.putBatch ready entries
  delete ready _ _ _ := contract.delete ready _ _
  deleteDict ready _ _ := contract.deleteDict ready _
  listKeys ready _ _ := contract.listKeys ready _

-----------------------------------------------------------------------------------------
-- Calls as steps of a map
-----------------------------------------------------------------------------------------

/-- The map after a call. -/
def KvOp.after : KvOp → View → View
  | .put dict key value, view => Function.update view (dict, key) (some value)
  | .delete dict key, view => Function.update view (dict, key) none
  | .deleteDict dict, view => view.clearDict dict
  | .get _ _, view | .listKeys _, view => view

/-- What a call may reply on a map; keys are listed in any order. -/
inductive KvOp.Replies (view : View) : KvOp → KvReply → Prop
  | get {dict key : String} : Replies view (.get dict key) (.value (view (dict, key)))
  | put {dict key : String} {value : Bytes} : Replies view (.put dict key value) .done
  | delete {dict key : String} : Replies view (.delete dict key) .done
  | deleteDict {dict : String} : Replies view (.deleteDict dict) .done
  | listKeys {dict : String} {keys : List String} (once : keys.Nodup)
      (listed : ∀ key, key ∈ keys ↔ (view (dict, key)).isSome)
      : Replies view (.listKeys dict) (.keys keys)

theorem KvOp.Replies.agrees {view : View} {op : KvOp} {left right : KvReply}
    (first : op.Replies view left) (second : op.Replies view right)
    : left.Agrees right := by
  cases first with
  | listKeys once listed =>
      cases second with
      | listKeys once' listed' => exact fun key => (listed key).trans (listed' key).symm
  | _ =>
      cases second
      rfl

/-- Both calls succeeded, with agreeing replies. -/
def BothReply (left right : Except Error KvReply) : Prop :=
  ∃ reply reply', left = .ok reply ∧ right = .ok reply' ∧ reply.Agrees reply'

namespace KvContractOn

variable {α β : Type} [KvBackend α] [KvBackend β] {limits limits' : NameLimits}
  (left : KvContractOn limits α) (right : KvContractOn limits' β)

/-- Within the limits a call replies as on the map, and leaves the map it leaves. -/
theorem performs {op : KvOp} (within : op.Within limits) {backend : α}
    (ready : left.Ready backend)
    : ∃ reply, op.Replies (left.view backend) reply
        ∧ Returns left.Ready left.view (op.perform backend) reply (op.after (left.view backend))
    := by
  cases op with
  | get dict key =>
      have call := left.get ready within
      exact ⟨_, .get, by rw [KvOp.perform, call.result]; rfl, call.ready, call.view⟩
  | put dict key value =>
      have call := left.put ready within value
      exact ⟨_, .put, by rw [KvOp.perform, call.result]; rfl, call.ready, call.view⟩
  | delete dict key =>
      have call := left.delete ready within
      exact ⟨_, .delete, by rw [KvOp.perform, call.result]; rfl, call.ready, call.view⟩
  | deleteDict dict =>
      have call := left.deleteDict ready within
      exact ⟨_, .deleteDict, by rw [KvOp.perform, call.result]; rfl, call.ready, call.view⟩
  | listKeys dict =>
      obtain ⟨keys, call, once, listed⟩ := left.listKeys ready within
      exact ⟨_, .listKeys once listed, by rw [KvOp.perform, call.result]; rfl, call.ready,
        call.view⟩

/-- Two backends that show the same map reply alike where both serve the names. -/
theorem perform_agrees {op : KvOp} (within : op.Within limits) (within' : op.Within limits')
    {a : α} {b : β} (related : left.Ready a ∧ right.Ready b ∧ left.view a = right.view b)
    : BothReply (op.perform a).1 (op.perform b).1
      ∧ left.Ready (op.perform a).2
      ∧ right.Ready (op.perform b).2
      ∧ left.view (op.perform a).2 = right.view (op.perform b).2 := by
  obtain ⟨readyA, readyB, same⟩ := related
  obtain ⟨reply, replies, returns⟩ := left.performs within readyA
  obtain ⟨reply', replies', returns'⟩ := right.performs within' readyB
  rw [← same] at replies' returns'
  exact ⟨⟨reply, reply', returns.result, returns'.result, replies.agrees replies'⟩,
    returns.ready, returns'.ready, returns.view.trans returns'.view.symm⟩

end KvContractOn

end XousAppSignal.Store
