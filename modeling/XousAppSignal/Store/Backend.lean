import XousAppSignal.Library.Attempts
import XousAppSignal.Library.FiniteMap
import XousAppSignal.Library.Runs

/-! The key-value abstraction under every store trait, and the inner backend it reaches.
An inner backend is a finite map together with the failures its environment will inject;
an exhausted failure plan leaves the in-memory map of the hosted test backend.
-/

namespace XousAppSignal.Store

abbrev Bytes := List UInt8

/-- Errors raised by the store; the text is the rendering of the underlying error. -/
inductive Error where
  | backend (message : String)
  | encode (message : String)
  | decode (message : String)
  | protocol (message : String)
  deriving DecidableEq, Repr

def Error.display : Error → String
  | .backend message => "kv backend: " ++ message
  | .encode message => "encode: " ++ message
  | .decode message => "decode: " ++ message
  | .protocol message => "protocol: " ++ message

/-- One call on a shared backend: its result, and the backend it leaves behind. A failed
call has a successor state too, since it may have taken effect in part.
-/
abbrev Call (β α : Type) := β → Except Error α × β

/-- The bulk-write loop of backends without a native bulk path: stop at the first error. -/
def putLoop {β : Type} (put : String → String → Bytes → Call β Unit)
    : List (String × String × Bytes) → Call β Unit
  | [], backend => (.ok (), backend)
  | (dict, key, value) :: rest, backend =>
      match put dict key value backend with
      | (.error e, backend) => (.error e, backend)
      | (.ok (), backend) => putLoop put rest backend

/-- The key-value trait. `putBatch` is not atomic: on an error any subset of the entries
may have been applied.
-/
class KvBackend (β : Type) where
  get : String → String → Call β (Option Bytes)
  put : String → String → Bytes → Call β Unit
  putBatch : List (String × String × Bytes) → Call β Unit := putLoop put
  delete : String → String → Call β Unit
  deleteDict : String → Call β Unit
  listKeys : String → Call β (List String)

/-- A single call of the trait, as a caller issues it. -/
inductive KvOp where
  | get (dict key : String)
  | put (dict key : String) (value : Bytes)
  | delete (dict key : String)
  | deleteDict (dict : String)
  | listKeys (dict : String)
  deriving DecidableEq, Repr

inductive KvReply where
  | value (value : Option Bytes)
  | done
  | keys (keys : List String)
  deriving DecidableEq, Repr

def KvOp.perform {β : Type} [KvBackend β] : KvOp → Call β KvReply
  | .get dict key, backend =>
      ((KvBackend.get dict key backend).1.map .value, (KvBackend.get dict key backend).2)
  | .put dict key value, backend =>
      ((KvBackend.put dict key value backend).1.map (fun _ => .done),
        (KvBackend.put dict key value backend).2)
  | .delete dict key, backend =>
      ((KvBackend.delete dict key backend).1.map (fun _ => .done),
        (KvBackend.delete dict key backend).2)
  | .deleteDict dict, backend =>
      ((KvBackend.deleteDict dict backend).1.map (fun _ => .done),
        (KvBackend.deleteDict dict backend).2)
  | .listKeys dict, backend =>
      ((KvBackend.listKeys dict backend).1.map .keys, (KvBackend.listKeys dict backend).2)

/-- A put that fails. `PddbBackend::put` deletes the key, opens it anew and writes the value: a
failure after the pre-delete leaves no key, or the bytes written so far.
-/
inductive PutFault where
  | preDelete (e : Error)
  | openForWrite (e : Error)
  | write (e : Error) (count : Nat)
  deriving DecidableEq

def PutFault.error : PutFault → Error
  | .preDelete e => e
  | .openForWrite e => e
  | .write e _ => e

/-- What is at the key afterwards. -/
def PutFault.leaves (value : Bytes) (before : Option Bytes) : PutFault → Option Bytes
  | .preDelete _ => before
  | .openForWrite _ => none
  | .write _ count => some (value.take count)

/-- The key is as it was. -/
def PutFault.keeps : PutFault → Bool
  | .preDelete _ => true
  | .openForWrite _ => false
  | .write _ _ => false

/-- The key is gone. -/
def PutFault.removes : PutFault → Bool
  | .preDelete _ => false
  | .openForWrite _ => true
  | .write _ _ => false

/-- What happens to the coming calls of each trait method, in call order; a call beyond
the end of its list succeeds. A failing put says how far it got, and a failing bulk write
names the keys it had applied.
-/
structure FaultPlan where
  get : List (Option Error) := []
  put : List (Option PutFault) := []
  putBatch : List (Option (Error × List (String × String))) := []
  delete : List (Option Error) := []
  deleteDict : List (Option Error) := []
  listKeys : List (Option Error) := []
  deriving DecidableEq

/-- Slots compare lawfully, so that membership in a list of them is decidable. -/
instance lawfulBEqSlot : LawfulBEq (String × String) := inferInstance

/-- A finite map from (dictionary, key) to bytes, behind calls that may fail. -/
structure InnerBackend where
  map : FiniteMap (String × String) Bytes
  plan : FaultPlan := {}

namespace InnerBackend

/-- The entries of a bulk write as map entries. -/
def asPairs (entries : List (String × String × Bytes)) : List ((String × String) × Bytes) :=
  entries.map (fun entry => ((entry.1, entry.2.1), entry.2.2))

def get (dict key : String) : Call InnerBackend (Option Bytes) := fun self =>
  let next := { self with plan := { self.plan with get := self.plan.get.tail } }
  match self.plan.get.head?.join with
  | some e => (.error e, next)
  | none => (.ok (self.map.lookup (dict, key)), next)

def put (dict key : String) (value : Bytes) : Call InnerBackend Unit := fun self =>
  let next := { self with plan := { self.plan with put := self.plan.put.tail } }
  match self.plan.put.head?.join with
  | some (.preDelete e) => (.error e, next)
  | some (.openForWrite e) => (.error e, { next with map := self.map.erase (dict, key) })
  | some (.write e count) =>
      (.error e, { next with map := self.map.insert (dict, key) (value.take count) })
  | none => (.ok (), { next with map := self.map.insert (dict, key) value })

def putBatch (entries : List (String × String × Bytes)) : Call InnerBackend Unit :=
  fun self =>
    let next := { self with plan := { self.plan with putBatch := self.plan.putBatch.tail } }
    match self.plan.putBatch.head?.join with
    | some (e, applied) =>
        let landed := (asPairs entries).filter (fun entry => entry.1 ∈ applied)
        (.error e, { next with map := FiniteMap.insertAll self.map landed })
    | none => (.ok (), { next with map := FiniteMap.insertAll self.map (asPairs entries) })

def delete (dict key : String) : Call InnerBackend Unit := fun self =>
  let next := { self with plan := { self.plan with delete := self.plan.delete.tail } }
  match self.plan.delete.head?.join with
  | some e => (.error e, next)
  | none => (.ok (), { next with map := self.map.erase (dict, key) })

def deleteDict (dict : String) : Call InnerBackend Unit := fun self =>
  let next :=
    { self with plan := { self.plan with deleteDict := self.plan.deleteDict.tail } }
  match self.plan.deleteDict.head?.join with
  | some e => (.error e, next)
  | none => (.ok (), { next with map := FiniteMap.retain (fun slot => slot.1 ≠ dict) self.map })

def listKeys (dict : String) : Call InnerBackend (List String) := fun self =>
  let next := { self with plan := { self.plan with listKeys := self.plan.listKeys.tail } }
  match self.plan.listKeys.head?.join with
  | some e => (.error e, next)
  | none => (.ok ((self.map.keys.filter (fun slot => slot.1 = dict)).map Prod.snd), next)

instance : KvBackend InnerBackend where
  get := get
  put := put
  putBatch := putBatch
  delete := delete
  deleteDict := deleteDict
  listKeys := listKeys

end InnerBackend

-----------------------------------------------------------------------------------------
-- The contract of a working backend: a finite map seen through its calls
-----------------------------------------------------------------------------------------

/-- What a backend stores, as a function of (dictionary, key). -/
abbrev View := String × String → Option Bytes

/-- The view after dropping a whole dictionary. -/
def View.clearDict (view : View) (dict : String) : View :=
  fun slot => if slot.1 = dict then none else view slot

/-- The view after writing some entries from left to right. -/
def View.putAll (view : View) (entries : List (String × String × Bytes)) : View :=
  entries.foldl (fun v entry => Function.update v (entry.1, entry.2.1) (some entry.2.2)) view

/-- A call that succeeds with `value` and leaves a usable backend showing `after`. -/
structure Returns {β ε α : Type} (Ready : β → Prop) (view : β → View)
    (outcome : Except ε α × β) (value : α) (after : View)
    : Prop where
  result : outcome.1 = .ok value
  ready : Ready outcome.2
  view : view outcome.2 = after

/-- A backend behaves as the finite map `view` in every state satisfying `Ready`: no call
fails, except that a bulk write may report an error after applying a part of its entries.
-/
structure KvContract (β : Type) [KvBackend β] where
  Ready : β → Prop
  view : β → View
  get
    : ∀ {backend}, Ready backend → ∀ dict key,
        Returns Ready view (KvBackend.get dict key backend) (view backend (dict, key))
          (view backend)
  put
    : ∀ {backend}, Ready backend → ∀ dict key value,
        Returns Ready view (KvBackend.put dict key value backend) ()
          (Function.update (view backend) (dict, key) (some value))
  putBatch
    : ∀ {backend}, Ready backend → ∀ entries,
        Ready (KvBackend.putBatch entries backend).2
        ∧ ∃ landed : List (String × String × Bytes),
            landed.Sublist entries
            ∧ ((KvBackend.putBatch entries backend).1 = .ok () → landed = entries)
            ∧ view (KvBackend.putBatch entries backend).2 = (view backend).putAll landed
  delete
    : ∀ {backend}, Ready backend → ∀ dict key,
        Returns Ready view (KvBackend.delete dict key backend) ()
          (Function.update (view backend) (dict, key) none)
  deleteDict
    : ∀ {backend}, Ready backend → ∀ dict,
        Returns Ready view (KvBackend.deleteDict dict backend) ()
          ((view backend).clearDict dict)
  listKeys
    : ∀ {backend}, Ready backend → ∀ dict,
        ∃ keys : List String,
          Returns Ready view (KvBackend.listKeys dict backend) keys (view backend)
          ∧ keys.Nodup
          ∧ ∀ key, key ∈ keys ↔ (view backend (dict, key)).isSome

/-- A call that takes effect in full, or reports an error and changes nothing; the error
is possible only where `MayFail` allows it.
-/
inductive AllOrNothing {β ε α : Type} (Ready : β → Prop) (view : β → View)
    (MayFail : Prop) (before : View) (outcome : Except ε α × β) (value : α) (after : View)
    : Prop
  | done (returns : Returns Ready view outcome value after)
  | failed (e : ε) (may : MayFail) (result : outcome.1 = .error e)
      (ready : Ready outcome.2) (same : view outcome.2 = before)

/-- Where failure is impossible the call takes effect. -/
theorem AllOrNothing.returns {β ε α : Type} {Ready : β → Prop} {view : β → View}
    {MayFail : Prop} {before after : View} {outcome : Except ε α × β} {value : α}
    (call : AllOrNothing Ready view MayFail before outcome value after) (never : ¬MayFail)
    : Returns Ready view outcome value after := by
  cases call with
  | done returns => exact returns
  | failed e may => exact absurd may never

/-- A wrapper that only renames the error of a call settles as the call does. -/
theorem AllOrNothing.rename {β ε ε' α : Type} {Ready : β → Prop} {view : β → View}
    {MayFail : Prop} {before after : View} {outcome : Except ε α × β}
    {outcome' : Except ε' α × β} {value : α}
    (call : AllOrNothing Ready view MayFail before outcome value after)
    (state : outcome'.2 = outcome.2)
    (oks : ∀ value, outcome.1 = .ok value → outcome'.1 = .ok value)
    (errors : ∀ e, outcome.1 = .error e → ∃ e', outcome'.1 = .error e')
    : AllOrNothing Ready view MayFail before outcome' value after := by
  cases call with
  | done returns =>
      exact .done ⟨oks _ returns.result, state ▸ returns.ready, state ▸ returns.view⟩
  | failed e may result ready same =>
      obtain ⟨e', failure⟩ := errors e result
      exact .failed e' may failure (state ▸ ready) (state ▸ same)

/-- A further property of the state left behind may be added to `Ready`. -/
theorem AllOrNothing.strengthen {β ε α : Type} {Ready Keep : β → Prop} {view : β → View}
    {MayFail : Prop} {before after : View} {outcome : Except ε α × β} {value : α}
    (call : AllOrNothing Ready view MayFail before outcome value after)
    (keep : Keep outcome.2)
    : AllOrNothing (fun backend => Ready backend ∧ Keep backend) view MayFail before outcome
        value after := by
  cases call with
  | done returns => exact .done ⟨returns.result, ⟨returns.ready, keep⟩, returns.view⟩
  | failed e may result ready same => exact .failed e may result ⟨ready, keep⟩ same

/-- A backend whose single-key calls are all-or-nothing, in every state satisfying
`Ready`. A working backend is one where no call may fail.
-/
structure KvAtomic (β : Type) [KvBackend β] where
  Ready : β → Prop
  MayFail : Prop
  view : β → View
  get
    : ∀ {backend}, Ready backend → ∀ dict key,
        AllOrNothing Ready view MayFail (view backend) (KvBackend.get dict key backend)
          (view backend (dict, key)) (view backend)
  put
    : ∀ {backend}, Ready backend → ∀ dict key value,
        AllOrNothing Ready view MayFail (view backend) (KvBackend.put dict key value backend)
          () (Function.update (view backend) (dict, key) (some value))
  delete
    : ∀ {backend}, Ready backend → ∀ dict key,
        AllOrNothing Ready view MayFail (view backend) (KvBackend.delete dict key backend)
          () (Function.update (view backend) (dict, key) none)

/-- The single-key calls of a working backend. -/
def KvContract.atomic {β : Type} [KvBackend β] (contract : KvContract β) : KvAtomic β where
  Ready := contract.Ready
  MayFail := False
  view := contract.view
  get ready dict key := .done (contract.get ready dict key)
  put ready dict key value := .done (contract.put ready dict key value)
  delete ready dict key := .done (contract.delete ready dict key)

/-- Two replies are the same, key lists being compared as sets. -/
def KvReply.Agrees : KvReply → KvReply → Prop
  | .keys left, .keys right => ∀ key, key ∈ left ↔ key ∈ right
  | left, right => left = right

/-- Both calls succeeded with agreeing replies, or both failed with the same error. -/
inductive Agrees : Except Error KvReply → Except Error KvReply → Prop
  | ok {left right : KvReply} (same : left.Agrees right) : Agrees (.ok left) (.ok right)
  | error (e : Error) : Agrees (.error e) (.error e)

/-- Two working backends showing the same map answer a call alike and show the same map
afterwards, whatever they are made of.
-/
theorem KvContract.perform_agrees {α β : Type} [KvBackend α] [KvBackend β]
    (left : KvContract α) (right : KvContract β) (op : KvOp) {a : α} {b : β}
    (related : left.Ready a ∧ right.Ready b ∧ left.view a = right.view b)
    : Agrees (op.perform a).1 (op.perform b).1
      ∧ left.Ready (op.perform a).2
      ∧ right.Ready (op.perform b).2
      ∧ left.view (op.perform a).2 = right.view (op.perform b).2 := by
  obtain ⟨readyA, readyB, same⟩ := related
  cases op with
  | get dict key =>
      have l := left.get readyA dict key
      have r := right.get readyB dict key
      refine ⟨?_, l.ready, r.ready, (l.view.trans same).trans r.view.symm⟩
      simp only [KvOp.perform, l.result, r.result, same, Except.map]
      exact .ok rfl
  | put dict key value =>
      have l := left.put readyA dict key value
      have r := right.put readyB dict key value
      refine ⟨?_, l.ready, r.ready, l.view.trans ?_⟩
      · simp only [KvOp.perform, l.result, r.result, Except.map]
        exact .ok rfl
      · rw [same]
        exact r.view.symm
  | delete dict key =>
      have l := left.delete readyA dict key
      have r := right.delete readyB dict key
      refine ⟨?_, l.ready, r.ready, l.view.trans ?_⟩
      · simp only [KvOp.perform, l.result, r.result, Except.map]
        exact .ok rfl
      · rw [same]
        exact r.view.symm
  | deleteDict dict =>
      have l := left.deleteDict readyA dict
      have r := right.deleteDict readyB dict
      refine ⟨?_, l.ready, r.ready, l.view.trans ?_⟩
      · simp only [KvOp.perform, l.result, r.result, Except.map]
        exact .ok rfl
      · rw [same]
        exact r.view.symm
  | listKeys dict =>
      obtain ⟨leftKeys, l, -, leftMem⟩ := left.listKeys readyA dict
      obtain ⟨rightKeys, r, -, rightMem⟩ := right.listKeys readyB dict
      refine ⟨?_, l.ready, r.ready, (l.view.trans same).trans r.view.symm⟩
      simp only [KvOp.perform, l.result, r.result, Except.map]
      refine .ok (fun key => ?_)
      rw [leftMem, rightMem, same]

/-- No call in this part of a plan fails. -/
def NoFault {ε : Type} (faults : List (Option ε)) : Prop := ∀ fault ∈ faults, fault = none

theorem NoFault.head {ε : Type} {faults : List (Option ε)} (none' : NoFault faults)
    : faults.head?.join = none := by
  cases faults with
  | nil => rfl
  | cons fault rest => simpa using none' fault (by simp)

theorem NoFault.tail {ε : Type} {faults : List (Option ε)} (none' : NoFault faults)
    : NoFault faults.tail :=
  fun fault member => none' fault (List.mem_of_mem_tail member)

/-- Every planned failure is one of a bulk write. -/
structure FaultPlan.OnlyBulk (plan : FaultPlan) : Prop where
  get : NoFault plan.get
  put : NoFault plan.put
  delete : NoFault plan.delete
  deleteDict : NoFault plan.deleteDict
  listKeys : NoFault plan.listKeys

/-- Nothing is planned to fail. -/
theorem FaultPlan.onlyBulk_default : ({} : FaultPlan).OnlyBulk := by
  constructor <;> exact fun _ member => absurd member List.not_mem_nil

/-- Every failing put leaves its key as it was. -/
def FaultPlan.PutsKeep (plan : FaultPlan) : Prop :=
  ∀ fault ∈ plan.put, fault.all PutFault.keeps = true

instance (plan : FaultPlan) : Decidable plan.PutsKeep :=
  inferInstanceAs (Decidable (∀ fault ∈ plan.put, fault.all PutFault.keeps = true))

theorem FaultPlan.putsKeep_default : ({} : FaultPlan).PutsKeep :=
  fun _ member => absurd member List.not_mem_nil

theorem FaultPlan.PutsKeep.of_mem {plan : FaultPlan} (keeps : plan.PutsKeep) {fault : PutFault}
    (member : some fault ∈ plan.put)
    : ∃ e, fault = .preDelete e := by
  have kept : fault.keeps = true := keeps (some fault) member
  cases fault with
  | preDelete e => exact ⟨e, rfl⟩
  | openForWrite e => cases kept
  | write e count => cases kept

/-- The next put that fails keeps its key. -/
theorem FaultPlan.PutsKeep.head {plan : FaultPlan} (keeps : plan.PutsKeep) {fault : PutFault}
    (next : plan.put.head?.join = some fault)
    : ∃ e, fault = .preDelete e := by
  apply keeps.of_mem
  cases listed : plan.put with
  | nil => simp [listed] at next
  | cons first rest =>
      obtain rfl : first = some fault := by simpa [listed] using next
      exact List.mem_cons_self

namespace InnerBackend

theorem lookup_insertAll (map : FiniteMap (String × String) Bytes)
    (entries : List (String × String × Bytes)) (slot : String × String)
    : (FiniteMap.insertAll map (asPairs entries)).lookup slot
      = View.putAll (fun slot => map.lookup slot) entries slot := by
  induction entries generalizing map with
  | nil => rfl
  | cons entry rest ih =>
      have first : (fun slot => (map.insert (entry.1, entry.2.1) entry.2.2).lookup slot)
          = Function.update (fun slot => map.lookup slot) (entry.1, entry.2.1)
              (some entry.2.2) := by
        funext other
        rw [FiniteMap.lookup_insert', Function.update_apply]
      exact (ih _).trans (congrArg (fun view => View.putAll view rest slot) first)

theorem asPairs_filter (entries : List (String × String × Bytes))
    (applied : List (String × String))
    : (asPairs entries).filter (fun entry => entry.1 ∈ applied)
      = asPairs (entries.filter (fun entry => (entry.1, entry.2.1) ∈ applied)) := by
  simp only [asPairs, List.filter_map, Function.comp_def]

theorem mem_listKeys {map : FiniteMap (String × String) Bytes} {dict key : String}
    : key ∈ (map.keys.filter (fun slot => slot.1 = dict)).map Prod.snd
      ↔ (map.lookup (dict, key)).isSome := by
  rw [AList.lookup_isSome, AList.mem_keys]
  simp

theorem nodup_listKeys (map : FiniteMap (String × String) Bytes) (dict : String)
    : ((map.keys.filter (fun slot => slot.1 = dict)).map Prod.snd).Nodup := by
  refine List.Nodup.map_on ?_ (map.keys_nodup.filter _)
  intro left leftMember right rightMember same
  simp only [List.mem_filter, decide_eq_true_eq] at leftMember rightMember
  exact Prod.ext (leftMember.2.trans rightMember.2.symm) same

/-- A finite map whose planned failures are all bulk writes meets the backend contract.
Witness: read each call at its first planned outcome, which succeeds.
-/
def contract : KvContract InnerBackend where
  Ready self := self.plan.OnlyBulk
  view self slot := self.map.lookup slot
  get := by
    intro self ready dict key
    refine ⟨?_, ?_, ?_⟩ <;> simp only [KvBackend.get, get, ready.get.head]
    exact { ready with get := ready.get.tail }
  put := by
    intro self ready dict key value
    refine ⟨?_, ?_, ?_⟩ <;> simp only [KvBackend.put, put, ready.put.head]
    · exact { ready with put := ready.put.tail }
    · funext slot
      rw [FiniteMap.lookup_insert', Function.update_apply]
  putBatch := by
    intro self ready entries
    refine ⟨?_, ?_⟩
    · simp only [KvBackend.putBatch, putBatch]
      split <;> exact { ready with }
    · cases fault : self.plan.putBatch.head?.join with
      | none =>
          refine ⟨entries, .refl _, fun _ => rfl, ?_⟩
          funext slot
          simp only [KvBackend.putBatch, putBatch, fault]
          exact lookup_insertAll self.map entries slot
      | some failure =>
          obtain ⟨e, applied⟩ := failure
          refine ⟨entries.filter (fun entry => (entry.1, entry.2.1) ∈ applied),
            List.filter_sublist, ?_, ?_⟩
          · simp [KvBackend.putBatch, putBatch, fault]
          · funext slot
            simp only [KvBackend.putBatch, putBatch, fault, asPairs_filter]
            exact lookup_insertAll self.map _ slot
  delete := by
    intro self ready dict key
    refine ⟨?_, ?_, ?_⟩ <;> simp only [KvBackend.delete, delete, ready.delete.head]
    · exact { ready with delete := ready.delete.tail }
    · funext slot
      rw [FiniteMap.lookup_erase', Function.update_apply]
  deleteDict := by
    intro self ready dict
    refine ⟨?_, ?_, ?_⟩ <;> simp only [KvBackend.deleteDict, deleteDict, ready.deleteDict.head]
    · exact { ready with deleteDict := ready.deleteDict.tail }
    · funext slot
      rw [FiniteMap.lookup_retain, View.clearDict]
      by_cases same : slot.1 = dict <;> simp [same]
  listKeys := by
    intro self ready dict
    refine ⟨(self.map.keys.filter (fun slot => slot.1 = dict)).map Prod.snd,
      ⟨?_, ?_, ?_⟩, nodup_listKeys _ _, fun key => mem_listKeys⟩ <;>
      simp only [KvBackend.listKeys, listKeys, ready.listKeys.head]
    exact { ready with listKeys := ready.listKeys.tail }

/-- Where no failing put touches its key, the single-key calls of a finite map are
all-or-nothing.
-/
def atomic : KvAtomic InnerBackend where
  Ready self := self.plan.PutsKeep
  MayFail := True
  view self slot := self.map.lookup slot
  get := by
    intro self ready dict key
    cases fault : self.plan.get.head?.join with
    | some e =>
        refine .failed e trivial ?_ ?_ ?_ <;> simp only [KvBackend.get, get, fault]
        exact ready
    | none =>
        refine .done ⟨?_, ?_, ?_⟩ <;> simp only [KvBackend.get, get, fault]
        exact ready
  put := by
    intro self ready dict key value
    have later : ({ self.plan with put := self.plan.put.tail } : FaultPlan).PutsKeep :=
      fun fault member => ready fault (List.mem_of_mem_tail member)
    cases next : self.plan.put.head?.join with
    | some fault =>
        obtain ⟨e, rfl⟩ := ready.head next
        refine .failed e trivial ?_ ?_ ?_ <;> simp only [KvBackend.put, put, next]
        exact later
    | none =>
        refine .done ⟨?_, ?_, ?_⟩ <;> simp only [KvBackend.put, put, next]
        · exact later
        · funext slot
          rw [FiniteMap.lookup_insert', Function.update_apply]
  delete := by
    intro self ready dict key
    cases fault : self.plan.delete.head?.join with
    | some e =>
        refine .failed e trivial ?_ ?_ ?_ <;> simp only [KvBackend.delete, delete, fault]
        exact ready
    | none =>
        refine .done ⟨?_, ?_, ?_⟩ <;> simp only [KvBackend.delete, delete, fault]
        · exact ready
        · funext slot
          rw [FiniteMap.lookup_erase', Function.update_apply]

end InnerBackend

end XousAppSignal.Store
