import XousAppSignal.Store.BatchedFlush
import XousAppSignal.Store.KyberLifeCycle
import XousAppSignal.Store.PreKeyBundle
import XousAppSignal.Store.StoreRuns

/-! The id counters of the pre-keys. Each answers one above the greatest id of its kind and
identity, whatever keys were stored and removed before. Above `u32::MAX` there is none: while
that id is in use, the addition overflows.
-/

namespace XousAppSignal.Store

open Listings

variable {ρ : Type} {presage : Presage}

def u32Max : UInt32 := 4294967295

/-- The kinds of pre-keys with a counter. -/
inductive PreKeyKind where
  | oneTime
  | signed
  | kyber
  deriving DecidableEq

namespace PreKeyKind

def next {β : Type} [KvBackend β] (presage : Presage) (identity : IdentityType)
    : PreKeyKind → ProtocolCall β (Option UInt32)
  | .oneTime => Records.nextPreKeyId presage identity
  | .signed => Records.nextSignedPreKeyId identity
  | .kyber => Records.nextPqPreKeyId identity

/-- The ids under which keys of the kind are stored. -/
def inUse (presage : Presage) (identity : IdentityType) (view : View) : PreKeyKind → Set UInt32
  | .oneTime =>
      {id | ∃ bytes bundle, view (Records.bundleSlot identity) = some bytes
        ∧ presage.preKeyBundle.fromSlice bytes = .ok bundle ∧ id ∈ bundle.map Prod.fst}
  | .signed => {id | (view (dictSignedPrekey identity, Records.signedPreKeyKey id)).isSome = true}
  | .kyber => {id | (view (Kyber.envelopeSlot identity id)).isSome = true}

end PreKeyKind

/-- The answer is an error, or an id that is not in use; that id is above all others, unless
one of them is the greatest there is.
-/
inductive FreshId (used : Set UInt32) : Except SignalProtocolError (Option UInt32) → Prop where
  | error (e : SignalProtocolError) : FreshId used (.error e)
  | fresh {id : UInt32} (free : id ∉ used)
      (above : (∀ other ∈ used, other < u32Max) → ∀ other ∈ used, other < id)
      : FreshId used (.ok (some id))

/-- One above the greatest id is fresh, where it can be added. -/
theorem nextId_fresh_iff {used : Set UInt32} {top : Option UInt32} (greatest : Greatest used top)
    : FreshId used (.ok (Records.nextId top)) ↔ u32Max ∉ used := by
  cases greatest with
  | none empty =>
      subst empty
      exact iff_of_true (.fresh (Set.notMem_empty _) (fun _ _ never => never.elim))
        (Set.notMem_empty _)
  | @some top greatest =>
      obtain ⟨member, bound⟩ := greatest
      by_cases fits : top.toNat + 1 < 2 ^ 32
      · have next : Records.nextId (some top) = some (top + 1) := if_pos fits
        have value : (top + 1).toNat = top.toNat + 1 := by
          rw [UInt32.toNat_add]
          exact Nat.mod_eq_of_lt fits
        have above (other : UInt32) (there : other ∈ used) : other < top + 1 := by
          have below := UInt32.le_iff_toNat_le.mp (bound there)
          rw [UInt32.lt_iff_toNat_lt, value]
          omega
        rw [next]
        refine iff_of_true (.fresh (fun there => ?_) (fun _ => above)) (fun there => ?_)
        · exact absurd (above _ there) (UInt32.lt_irrefl _)
        · have last : u32Max.toNat < (top + 1).toNat :=
            UInt32.lt_iff_toNat_lt.mp (above _ there)
          rw [value] at last
          exact absurd last (by simp only [u32Max, UInt32.toNat_ofNat]; omega)
      · have next : Records.nextId (some top) = none := if_neg fits
        have last : top = u32Max := by
          apply UInt32.toNat_inj.mp
          have small := top.toNat_lt
          simp only [u32Max, UInt32.toNat_ofNat]
          omega
        rw [next]
        refine iff_of_false (fun fresh => ?_) (fun absent => absent (last ▸ member))
        cases fresh

-----------------------------------------------------------------------------------------
-- Reads below a batch
-----------------------------------------------------------------------------------------

namespace BufferingBackend

variable {self : BufferingBackend InnerBackend} {dict key : String}

/-- The next read of a slot goes below the open batch, if there is one, and fails there. -/
def GetFails (dict key : String) (self : BufferingBackend InnerBackend) : Prop :=
  ¬(self.batching = true ∧ (self.buffer.lookup (dict, key)).isSome = true)
  ∧ self.inner.plan.get.head?.join.isSome = true

def ListKeysFails (self : BufferingBackend InnerBackend) : Prop :=
  self.inner.plan.listKeys.head?.join.isSome = true

theorem get_failed (fails : self.GetFails dict key)
    : ∃ e, (KvBackend.get dict key self).1 = .error e := by
  obtain ⟨below, fault⟩ := fails
  obtain ⟨e, planned⟩ := Option.isSome_iff_exists.mp fault
  refine ⟨e, ?_⟩
  simp only [KvBackend.get, get, isBatching]
  split
  · next opened found => exact absurd ⟨opened, found ▸ rfl⟩ below
  · simp only [forward, InnerBackend.get, planned]

theorem get_shown (works : ¬self.GetFails dict key)
    : (KvBackend.get dict key self).1 = .ok (self.shown (dict, key)) := by
  have planned
      (below : ¬(self.batching = true ∧ (self.buffer.lookup (dict, key)).isSome = true))
      : self.inner.plan.get.head?.join = none := by
    by_contra fails
    exact works ⟨below, Option.isSome_iff_ne_none.mpr fails⟩
  cases opened : self.batching with
  | false =>
      have works := planned (by simp [opened])
      simp [KvBackend.get, get, isBatching, opened, forward, InnerBackend.get, works, shown,
        atomic, view, InnerBackend.atomic]
  | true =>
      rw [shown_eq opened, overlay]
      cases found : self.buffer.lookup (dict, key) with
      | some entry => simp [KvBackend.get, get, isBatching, opened, found]
      | none =>
          have works := planned (by simp [found])
          simp [KvBackend.get, get, isBatching, opened, found, forward, InnerBackend.get, works]

theorem listKeys_failed (fails : self.ListKeysFails) (dict : String)
    : ∃ e, (KvBackend.listKeys dict self).1 = .error e := by
  obtain ⟨e, planned⟩ := Option.isSome_iff_exists.mp fails
  refine ⟨e, ?_⟩
  simp only [KvBackend.listKeys, listKeys, forward, InnerBackend.listKeys, planned]

/-- A listing that succeeds names each key that is shown once: it answers as a backend with
the same map and no failures planned does.
-/
theorem listKeys_shown (works : ¬self.ListKeysFails) (dict : String)
    : ∃ keys, (KvBackend.listKeys dict self).1 = .ok keys
        ∧ Enumerates keys {key | (self.shown (dict, key)).isSome = true} := by
  let calm : BufferingBackend InnerBackend :=
    { self with inner := { self.inner with plan := {} } }
  have ready : (contract InnerBackend.contract).Ready calm := FaultPlan.onlyBulk_default
  obtain ⟨keys, listed, once, members⟩ :=
    (contract InnerBackend.contract).listKeys ready dict
  refine ⟨keys, ?_, once, members⟩
  have planned : self.inner.plan.listKeys.head?.join = none :=
    Option.isSome_eq_false_iff.mp (Bool.eq_false_iff.mpr works) |> Option.isNone_iff_eq_none.mp
  rw [← listed.result]
  simp only [KvBackend.listKeys, listKeys, forward, InnerBackend.listKeys, planned, isBatching,
    calm]
  cases self.batching <;> rfl

end BufferingBackend

-----------------------------------------------------------------------------------------
-- What the counters answer
-----------------------------------------------------------------------------------------

/-- Only allowed slots are seen to hold a value. -/
theorem Orderly.shown {allowed : String × String → Prop}
    {backend : BufferingBackend InnerBackend} (orderly : Orderly allowed backend)
    {slot : String × String} (present : (backend.shown slot).isSome = true)
    : allowed slot := by
  by_contra other
  have below := orderly.absent.inner slot other
  cases opened : backend.batching with
  | false =>
      simp [BufferingBackend.shown, BufferingBackend.atomic, BufferingBackend.view,
        InnerBackend.atomic, opened, below] at present
  | true =>
      rw [BufferingBackend.shown_eq opened, BufferingBackend.overlay] at present
      cases found : backend.buffer.lookup slot with
      | none => simp [found, below] at present
      | some entry =>
          cases entry with
          | put bytes => exact orderly.absent.buffer slot bytes other found
          | delete => simp [found, BufferEntry.value] at present

namespace PreKeyKind

/-- The next read of the ids fails: that of the packed vector, or that of the keys. -/
def ReadFails (identity : IdentityType) (backend : BufferingBackend InnerBackend)
    : PreKeyKind → Prop
  | .oneTime => backend.GetFails (dictPrekeyBundle identity) Records.prekeyBundleKey
  | .signed | .kyber => backend.ListKeysFails

/-- A counter fails with the read below it, or on a vector that does not decode, and else adds
to the greatest id in use.
-/
inductive Counts (fails : Prop) (used : Set UInt32)
    : Except SignalProtocolError (Option UInt32) → Prop where
  | unread (failed : fails) (e : SignalProtocolError) : Counts fails used (.error e)
  | undecoded (empty : used = ∅) (e : SignalProtocolError) : Counts fails used (.error e)
  | above {top : Option UInt32} (works : ¬fails) (greatest : Greatest used top)
      : Counts fails used (.ok (Records.nextId top))

theorem Counts.fresh_iff {fails : Prop} {used : Set UInt32}
    {answer : Except SignalProtocolError (Option UInt32)} (counts : Counts fails used answer)
    : FreshId used answer ↔ u32Max ∉ used ∨ fails := by
  cases counts with
  | unread failed e => exact iff_of_true (.error e) (.inr failed)
  | undecoded empty e =>
      exact iff_of_true (.error e) (.inl (empty ▸ Set.notMem_empty _))
  | above works greatest => rw [nextId_fresh_iff greatest, or_iff_left works]

variable {backend : BufferingBackend InnerBackend}

/-- The counter of the packed vector. -/
theorem counts_oneTime (identity : IdentityType)
    : Counts (ReadFails identity backend .oneTime) (inUse presage identity backend.shown .oneTime)
        (next presage identity .oneTime backend).1 := by
  simp only [next, Records.nextPreKeyId, Records.maxPreKeyId, Records.loadBundle, Attempt.map,
    backendGetJsonProtocol]
  by_cases fails : ReadFails identity backend .oneTime
  · obtain ⟨e, failed⟩ := BufferingBackend.get_failed fails
    split
    · exact .unread fails _
    · next here => simp [here] at failed
    · next here => simp [here] at failed
  · have read := BufferingBackend.get_shown fails
    split
    · next here => simp [here] at read
    · next here =>
      simp only [here, Except.ok.injEq] at read
      refine .above fails (.none (Set.eq_empty_iff_forall_notMem.mpr ?_))
      rintro id ⟨bytes, bundle, stored, -, -⟩
      cases read.trans stored
    · next bytes _ here =>
      simp only [here, Except.ok.injEq] at read
      cases decoded : presage.preKeyBundle.fromSlice bytes with
      | error message =>
          refine .undecoded (Set.eq_empty_iff_forall_notMem.mpr ?_) _
          rintro id ⟨bytes', bundle, stored, decodes, -⟩
          cases read.trans stored
          cases decoded.symm.trans decodes
      | ok bundle =>
          refine .above fails (.of_max? (fun id => ⟨fun listed => ?_, ?_⟩))
          · exact ⟨bytes, bundle, read.symm, decoded, listed⟩
          · rintro ⟨bytes', bundle', stored, decodes, listed⟩
            cases read.trans stored
            cases decoded.symm.trans decodes
            exact listed

/-- The counters of the keys of a dictionary, all derived from ids. -/
theorem counts_keys {dict : String}
    (named
      : ∀ key, (backend.shown (dict, key)).isSome = true → ∃ id, key = Kyber.envelopeKey id)
    : Counts backend.ListKeysFails
        {id | (backend.shown (dict, Kyber.envelopeKey id)).isSome = true}
        (Attempt.map Records.nextId
          (Attempt.map List.max? (Records.onProtocol (listKeysAsU32s dict))) backend).1 := by
  simp only [Records.onProtocol, listKeysAsU32s, Attempt.map, Attempt.mapError]
  by_cases fails : backend.ListKeysFails
  · obtain ⟨e, failed⟩ := BufferingBackend.listKeys_failed fails dict
    rw [failed]
    exact .unread fails _
  · obtain ⟨keys, listed, lists⟩ := BufferingBackend.listKeys_shown fails dict
    rw [listed]
    exact .above fails (Kyber.enumerates_ids lists named).max?

/-- Every counter, where the keys of its dictionary are derived from ids. -/
theorem counts (recorded : Orderly (Recorded presage) backend) (identity : IdentityType)
    (kind : PreKeyKind)
    : Counts (kind.ReadFails identity backend) (kind.inUse presage identity backend.shown)
        (kind.next presage identity backend).1 := by
  have filed {dict : ProtocolDict} {key : String}
      (present : (backend.shown (dict.name identity, key)).isSome = true)
      : ∃ record : ProtocolRecord, record.dict = dict ∧ record.key = key := by
    have kept : Recorded presage ((FixedDict.protocol identity dict).name, key) :=
      recorded.shown present
    obtain ⟨record, here, rfl⟩ := kept.of_fixed
    cases record with
    | protocol other record =>
        obtain ⟨-, same⟩ := FixedDict.protocol.inj (Sum.inl.inj here)
        exact ⟨record, same, rfl⟩
    | _ => cases here
  cases kind with
  | oneTime => exact counts_oneTime identity
  | signed =>
      refine counts_keys (fun key present => ?_)
      obtain ⟨record, here, rfl⟩ := @filed .signedPrekey key present
      cases record with
      | signedPreKey id => exact ⟨id, rfl⟩
      | _ => cases here
  | kyber =>
      refine counts_keys (fun key present => ?_)
      obtain ⟨record, here, rfl⟩ := @filed .kyberPrekey key present
      cases record with
      | kyberPreKey id => exact ⟨id, rfl⟩
      | _ => cases here

end PreKeyKind

/-- After any run on an empty store, whatever ids it stored and removed and whichever calls of
its backend failed, a counter answers with an error or a fresh id exactly if `u32::MAX` is not
in use for its kind and identity or its read fails.
-/
theorem next_id_fresh_iff (format : RecordFormat ρ) (plan : FaultPlan)
    (history : List (StoreAction presage ρ)) (kind : PreKeyKind) (identity : IdentityType)
    : let backend :=
        (Runs.run (StoreAction.perform format) (.newBuffering { map := ∅, plan }) history).backend
      FreshId (kind.inUse presage identity backend.shown) (kind.next presage identity backend).1
      ↔ u32Max ∉ kind.inUse presage identity backend.shown ∨ kind.ReadFails identity backend :=
  (PreKeyKind.counts (StoreAction.run_recorded format plan history) identity kind).fresh_iff

/-- Nothing is above a signed pre-key stored under `u32::MAX`. -/
theorem next_signed_id_overflows
    : let history : List (StoreAction .plain UInt8) :=
        [.write (.saveSignedPreKey .aci 4294967295 [1])]
      let backend :=
        (Runs.run (StoreAction.perform .oneByte) (.newBuffering { map := ∅, plan := {} })
          history).backend
      (Records.nextSignedPreKeyId .aci backend).1 = .ok none
      ∧ ¬FreshId (PreKeyKind.inUse .plain .aci backend.shown .signed)
          (PreKeyKind.next .plain .aci .signed backend).1 := by
  intro history backend
  have overflows : (Records.nextSignedPreKeyId .aci backend).1 = .ok none := by decide +kernel
  refine ⟨overflows, fun fresh => ?_⟩
  change FreshId _ (Records.nextSignedPreKeyId .aci backend).1 at fresh
  rw [overflows] at fresh
  cases fresh

end XousAppSignal.Store
