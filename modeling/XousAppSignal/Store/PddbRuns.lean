import Mathlib.Algebra.Order.BigOperators.Group.List
import XousAppSignal.Store.MirroredBuffers
import XousAppSignal.Store.PddbContract

/-! Runs on a working PDDB server, directly and through the write buffer: they answer as runs on
the map in memory, and leave the same contents. A concrete server shows that one can work.
-/

namespace XousAppSignal.Store

-----------------------------------------------------------------------------------------
-- A working server
-----------------------------------------------------------------------------------------

namespace Pddb

/-- A server's files with the slots they were ever created in, and what is left of a listing. -/
structure Basis where
  files : Files := { contents := fun _ => none }
  slots : List (String × String) := []
  listing : List String := []

namespace Basis

/-- Remember a slot. -/
def remember (slots : List (String × String)) (slot : String × String)
    : List (String × String) :=
  if slot ∈ slots then slots else slot :: slots

def contents (basis : Basis) : View := basis.files.contents

def boundTo (basis : Basis) : ApiToken → Option (String × String) := basis.files.boundTo

/-- The keys of a dictionary that hold a value. -/
def keysOf (basis : Basis) (dict : String) : List String :=
  (basis.slots.filter (fun slot =>
    slot.1 = dict && (basis.contents slot).isSome)).map Prod.snd

/-- A bulk write of decoded entries. -/
def apply (basis : Basis) (entries : List BatchEntry) : Basis where
  files := { basis.files with contents := basis.contents.putAll entries }
  slots := (View.slots entries).foldl remember basis.slots
  listing := basis.listing

/-- A server that lists one name a page, and otherwise does what `Files.server` does. -/
def server : PddbServer Basis where
  keyRequest dict key opts basis :=
    let (reply, files) := Files.server.keyRequest dict key opts basis.files
    (reply, { basis with
      files
      slots := if opts.createKey then remember basis.slots (dict, key) else basis.slots })
  deleteKey dict key basis :=
    let (code, files) := Files.server.deleteKey dict key basis.files
    (code, { basis with files })
  readKey token position len basis :=
    let (reply, files) := Files.server.readKey token position len basis.files
    (reply, { basis with files })
  writeKey token position data basis :=
    let (reply, files) := Files.server.writeKey token position data basis.files
    (reply, { basis with files })
  keyDrop token basis := { basis with files := Files.server.keyDrop token basis.files }
  keyCountInDict request basis :=
    let keys := basis.keysOf request.dict
    (some { request with code := if keys.isEmpty then .notFound else .noErr },
      { basis with listing := keys })
  listKeyV2 _ basis :=
    (some (pageOf basis.listing.head?.toList (basis.listing.length ≤ 1)),
      { basis with listing := basis.listing.tail })
  deleteDict dict basis :=
    (some .noErr, { basis with
      files := { basis.files with contents := basis.contents.clearDict dict } })
  writeKeyBatch page basis :=
    match batchGrammar.decode page.data.toList with
    | some (entries, _) => (some .ok, basis.apply entries)
    | none => (some .internalError, basis)
  randomToken4 _ := (1, 2, 3, 4)

/-- Enough rounds for every value and every listing. -/
def rounds (basis : Basis) : Nat :=
  (basis.slots.map (fun slot => ((basis.contents slot).getD []).length)).sum
    + basis.slots.length + 1

/-- Every value is in a remembered slot, every open key too, and remembered names fit. -/
structure Tidy (basis : Basis) : Prop where
  once : basis.slots.Nodup
  listed : ∀ {slot}, basis.contents slot ≠ none → slot ∈ basis.slots
  opened : ∀ {slot}, basis.files.bound = some slot → slot ∈ basis.slots
  fits : ∀ slot ∈ basis.slots, nameLimits.Allows slot

theorem mem_remember {slots : List (String × String)} {slot other : String × String}
    : other ∈ remember slots slot ↔ other = slot ∨ other ∈ slots := by
  rw [remember]
  split
  · next known =>
    constructor
    · exact .inr
    · rintro (rfl | member)
      · exact known
      · exact member
  · rw [List.mem_cons]

theorem nodup_remember {slots : List (String × String)} (slot : String × String)
    (once : slots.Nodup)
    : (remember slots slot).Nodup := by
  rw [remember]
  split
  · exact once
  · next fresh => exact List.nodup_cons.mpr ⟨fresh, once⟩

theorem mem_foldl_remember {slots more : List (String × String)} {slot : String × String}
    : slot ∈ more.foldl remember slots ↔ slot ∈ slots ∨ slot ∈ more := by
  induction more generalizing slots with
  | nil => simp
  | cons first rest ih =>
      rw [List.foldl_cons, ih, mem_remember, List.mem_cons]
      tauto

theorem nodup_foldl_remember {slots : List (String × String)} (more : List (String × String))
    (once : slots.Nodup)
    : (more.foldl remember slots).Nodup := by
  induction more generalizing slots with
  | nil => exact once
  | cons first rest ih => exact ih (nodup_remember first once)

/-- Files that hold values in remembered slots only. -/
theorem Tidy.of_files {basis : Basis} (tidy : basis.Tidy) {files : Files}
    (stored : ∀ {slot}, files.contents slot ≠ none → slot ∈ basis.slots)
    (opened : ∀ {slot}, files.bound = some slot → slot ∈ basis.slots)
    : ({ basis with files } : Basis).Tidy :=
  ⟨tidy.once, stored, opened, tidy.fits⟩

theorem Tidy.apply {basis : Basis} (tidy : basis.Tidy) {entries : List BatchEntry}
    (allows : ∀ entry ∈ entries, nameLimits.Allows (entry.1, entry.2.1))
    : (basis.apply entries).Tidy where
  once := nodup_foldl_remember _ tidy.once
  listed := by
    intro slot stored
    refine mem_foldl_remember.mpr (or_iff_not_imp_right.mpr fun absent => tidy.listed ?_)
    have shown : basis.contents.putAll entries slot ≠ none := stored
    rwa [View.putAll_of_notMem absent] at shown
  opened bound := mem_foldl_remember.mpr (.inl (tidy.opened bound))
  fits slot member := by
    rcases mem_foldl_remember.mp member with known | written
    · exact tidy.fits slot known
    · obtain ⟨entry, listed, rfl⟩ := List.mem_map.mp written
      exact allows entry listed

theorem mem_keysOf {basis : Basis} (tidy : basis.Tidy) {dict key : String}
    : key ∈ basis.keysOf dict ↔ (basis.contents (dict, key)).isSome := by
  simp only [keysOf, List.mem_map, List.mem_filter, Bool.and_eq_true, decide_eq_true_eq]
  constructor
  · rintro ⟨slot, ⟨-, rfl, stored⟩, rfl⟩
    exact stored
  · intro stored
    refine ⟨(dict, key), ⟨tidy.listed (fun none => ?_), rfl, stored⟩, rfl⟩
    rw [none] at stored
    cases stored

theorem nodup_keysOf {basis : Basis} (tidy : basis.Tidy) (dict : String)
    : (basis.keysOf dict).Nodup := by
  refine List.Nodup.map_on ?_ (tidy.once.filter _)
  intro left leftMember right rightMember same
  simp only [List.mem_filter, Bool.and_eq_true, decide_eq_true_eq] at leftMember rightMember
  exact Prod.ext (leftMember.2.1.trans rightMember.2.1.symm) same

/-- Names that fit are served one a page, the last page marked, by induction on the names. -/
theorem serves_names (token : ListToken) {keys : List String} (some : keys ≠ [])
    (fit : ∀ key ∈ keys, key.utf8ByteSize ≤ 255) (files : Files)
    (slots : List (String × String))
    : ∃ init last, Serves server.toListServer token (init ++ [last]) ⟨files, slots, keys⟩
        ∧ (∀ page ∈ init, page.end = false) ∧ last.end = true
        ∧ List.Forall₂ (fun page names => page.retcode = .ok ∧ Packs page.data names)
            (init ++ [last]) (keys.map ([·]))
        ∧ init.length + 1 = keys.length := by
  induction keys with
  | nil => exact absurd rfl some
  | cons key rest ih =>
      obtain ⟨first, later⟩ := List.forall_mem_cons.mp fit
      have packs (last : Bool) : Packs (pageOf [key] last).data [key] := by
        apply pageOf_packs
        simp only [List.flatMap_cons, List.flatMap_nil, List.append_nil, encodeName,
          List.length_cons, length_asBytes, maxPddbKListLen]
        omega
      by_cases more : rest = []
      · subst more
        refine ⟨[], pageOf [key] true, ⟨rfl, trivial⟩, by simp, rfl, ?_, rfl⟩
        exact .cons ⟨rfl, packs true⟩ .nil
      · obtain ⟨init, last, served, going, ends, holds, count⟩ := ih more later
        refine ⟨pageOf [key] false :: init, last, ⟨?_, served⟩, ?_, ends,
          .cons ⟨rfl, packs false⟩ holds, by rw [List.length_cons, List.length_cons, count]⟩
        · simp [server, more]
        · intro page member
          rcases List.mem_cons.mp member with rfl | member
          · rfl
          · exact going page member

theorem length_keysOf (basis : Basis) (dict : String)
    : (basis.keysOf dict).length ≤ basis.slots.length := by
  rw [keysOf, List.length_map]
  exact List.length_filter_le _ _

/-- The files of a working server behave, and so does the server that keeps them. -/
theorem server_behaves : server.Behaves contents boundTo where
  deletes dict key basis := Files.server_behaves.deletes dict key basis.files
  creates dict key basis := Files.server_behaves.creates dict key basis.files
  opens dict key basis := Files.server_behaves.opens dict key basis.files
  writes basis := Files.server_behaves.writes basis.files
  reads basis := Files.server_behaves.reads basis.files
  drops token basis := Files.server_behaves.drops token basis.files

theorem tidy_empty : ({} : Basis).Tidy where
  once := .nil
  listed stored := absurd rfl stored
  opened bound := by cases bound
  fits _ member := absurd member List.not_mem_nil

section Requests

variable {basis : Basis} (tidy : basis.Tidy)

include tidy

theorem Tidy.roomy {slot : String × String} {value : Bytes}
    (stored : basis.contents slot = some value)
    : value.length < rounds basis := by
  have share : ((basis.contents slot).getD []).length
      ∈ basis.slots.map (fun slot => ((basis.contents slot).getD []).length) :=
    List.mem_map.mpr ⟨slot, tidy.listed (by simp [stored]), rfl⟩
  have within := List.single_le_sum (fun _ _ => Nat.zero_le _) _ share
  rw [stored, Option.getD_some] at within
  simp only [rounds]
  omega

theorem Tidy.deletes (dict key : String)
    : (server.deleteKey dict key basis).2.Tidy
      ∧ ((server.deleteKey dict key basis).1 = some .noErr
        ∨ (server.deleteKey dict key basis).1 = some .notFound) := by
  simp only [server, Files.server]
  split
  · refine ⟨tidy.of_files (fun {slot} stored => tidy.listed (fun none => stored ?_))
      tidy.opened, .inl rfl⟩
    simp only [Function.update_apply]
    split
    · rfl
    · exact none
  · exact ⟨tidy, .inr rfl⟩

theorem Tidy.opens (dict key : String)
    : (server.keyRequest dict key {} basis).2.Tidy
      ∧ (basis.contents (dict, key) = none
        → (server.keyRequest dict key {} basis).2.contents = basis.contents
          ∧ ∃ reply, (server.keyRequest dict key {} basis).1 = some reply
            ∧ reply.result = .notFound) := by
  rcases stored : basis.contents (dict, key) with _ | value
  · have absent : (basis.files.contents (dict, key)).isSome = false := by
      rw [← contents, stored]
      rfl
    simp only [server, Files.server, absent]
    exact ⟨tidy, fun _ => ⟨rfl, _, rfl, rfl⟩⟩
  · have present : basis.files.contents (dict, key) = some value := stored
    have same : Function.update basis.files.contents (dict, key) (some value)
        = basis.files.contents := by rw [← present, Function.update_eq_self]
    have listed : (dict, key) ∈ basis.slots := tidy.listed (by simp [stored])
    simp only [server, Files.server, present, Option.isSome_some, Bool.or_true, if_true,
      Option.getD_some, same]
    refine ⟨tidy.of_files tidy.listed (fun {slot} opened => ?_), fun none => by cases none⟩
    cases opened
    exact listed

theorem Tidy.creates {dict key : String} (allows : nameLimits.Allows (dict, key))
    : (server.keyRequest dict key .createAll basis).2.Tidy
      ∧ ∃ token, (server.keyRequest dict key .createAll basis).1 = some ⟨.noErr, some token⟩ := by
  refine ⟨⟨nodup_remember _ tidy.once, fun {slot} stored => mem_remember.mpr ?_,
    fun {slot} opened => ?_, fun slot member => ?_⟩, _, rfl⟩
  · refine or_iff_not_imp_left.mpr fun other => tidy.listed ?_
    have kept : Function.update basis.files.contents (dict, key) _ slot ≠ none := stored
    rwa [Function.update_of_ne other] at kept
  · cases opened
    exact mem_remember.mpr (.inl rfl)
  · rcases mem_remember.mp member with rfl | known
    · exact allows
    · exact tidy.fits slot known

theorem Tidy.writes {token : ApiToken} {slot : String × String}
    (bound : basis.boundTo token = some slot) (position : Nat) (data : Bytes)
    : (server.writeKey token position data basis).2.Tidy
      ∧ ∃ reply, (server.writeKey token position data basis).1 = some reply
        ∧ reply.retcode = .ok := by
  have open' : basis.files.boundTo token = some slot := bound
  have isOpen : basis.files.bound = some slot := by
    rw [Files.boundTo] at open'
    split at open'
    · exact open'
    · cases open'
  simp only [server, Files.server, open']
  refine ⟨tidy.of_files (fun {other} stored => ?_) tidy.opened, _, rfl, rfl⟩
  by_cases here : other = slot
  · exact here ▸ tidy.opened isOpen
  · simp only [Function.update_of_ne here] at stored
    exact tidy.listed stored

theorem Tidy.drops (token : ApiToken) : (server.keyDrop token basis).Tidy := by
  simp only [server, Files.server]
  split
  · exact tidy.of_files tidy.listed (fun opened => by cases opened)
  · exact tidy

theorem Tidy.deletesDict (dict : String)
    : (server.deleteDict dict basis).2.Tidy
      ∧ (server.deleteDict dict basis).2.contents = basis.contents.clearDict dict
      ∧ ((server.deleteDict dict basis).1 = some .noErr
        ∨ (server.deleteDict dict basis).1 = some .notFound) := by
  refine ⟨tidy.of_files (fun {slot} stored => tidy.listed fun none => stored ?_) tidy.opened,
    rfl, .inl rfl⟩
  simp only [View.clearDict]
  split
  · rfl
  · exact none

theorem Tidy.writesBatch {page : PddbWriteBatch} {entries : List BatchEntry} {rest : List UInt8}
    (decoded : batchGrammar.decode page.data.toList = some (entries, rest))
    (allows : ∀ entry ∈ entries, nameLimits.Allows (entry.1, entry.2.1))
    : (server.writeKeyBatch page basis).2.Tidy
      ∧ ∃ landed : List BatchEntry, landed.Sublist entries
        ∧ ((server.writeKeyBatch page basis).1 = some .ok → landed = entries)
        ∧ (server.writeKeyBatch page basis).2.contents = basis.contents.putAll landed := by
  simp only [server, decoded]
  exact ⟨tidy.apply allows, entries, .refl _, fun _ => rfl, rfl⟩

/-- The names of a dictionary are served one to a page. -/
theorem Tidy.counts (dict : String) (token : ListToken)
    : let counted := server.keyCountInDict (dictRequest dict token) basis
      counted.2.Tidy ∧ counted.2.contents = basis.contents
      ∧ ∃ reply, counted.1 = some reply
        ∧ (reply.code = .notFound ∧ (∀ key, basis.contents (dict, key) = none)
          ∨ reply.code = .noErr
            ∧ ∃ init last split,
                Serves server.toListServer token (init ++ [last]) counted.2
                ∧ (∀ page ∈ init, page.end = false) ∧ last.end = true
                ∧ List.Forall₂ (fun page names => page.retcode = .ok ∧ Packs page.data names)
                    (init ++ [last]) split
                ∧ split.flatten.Nodup
                ∧ (∀ key, key ∈ split.flatten ↔ (basis.contents (dict, key)).isSome)
                ∧ init.length < rounds basis) := by
  have kept : ({ basis with listing := basis.keysOf dict } : Basis).Tidy :=
    ⟨tidy.once, tidy.listed, tidy.opened, tidy.fits⟩
  refine ⟨kept, rfl, _, rfl, ?_⟩
  by_cases empty : basis.keysOf dict = []
  · refine .inl ⟨by simp [dictRequest, empty], fun key => ?_⟩
    have absent := (mem_keysOf tidy).not.mp (empty ▸ List.not_mem_nil : key ∉ basis.keysOf dict)
    simpa using absent
  · have small (key : String) (member : key ∈ basis.keysOf dict) : key.utf8ByteSize ≤ 255 := by
      obtain ⟨value, stored⟩ := Option.isSome_iff_exists.mp ((mem_keysOf tidy).mp member)
      have size := (tidy.fits (dict, key) (tidy.listed (by simp [stored]))).key.2
      simp only [keyNameLen] at size
      omega
    obtain ⟨init, last, served, going, ends, holds, count⟩ :=
      serves_names token empty small basis.files basis.slots
    have flat : ((basis.keysOf dict).map ([·])).flatten = basis.keysOf dict := by
      rw [← List.flatMap_def, List.flatMap_singleton']
    refine .inr ⟨by simp [dictRequest, empty], init, last, _, served, going, ends, holds, ?_, ?_,
      ?_⟩
    · rw [flat]
      exact nodup_keysOf tidy dict
    · intro key
      rw [flat]
      exact mem_keysOf tidy
    · have listed := length_keysOf basis dict
      simp only [rounds]
      omega

end Requests

/-- A tidy basis works. -/
def works : server.Works rounds where
  Ready := Tidy
  contents := contents
  bound := boundTo
  behaves := server_behaves
  confined tidy _ stored := tidy.fits _ (tidy.listed stored)
  roomy tidy _ _ := tidy.roomy
  deletes := Tidy.deletes
  opens := Tidy.opens
  creates := Tidy.creates
  reads tidy _ _ _ := tidy
  writes tidy _ _ bound position data _ := tidy.writes bound position data
  drops := Tidy.drops
  deletesDict := Tidy.deletesDict
  writesBatch := Tidy.writesBatch
  counts tidy dict _ := tidy.counts dict
  lists tidy _ := ⟨⟨tidy.once, tidy.listed, tidy.opened, tidy.fits⟩, rfl⟩

end Basis

-----------------------------------------------------------------------------------------
-- Runs
-----------------------------------------------------------------------------------------

variable {σ : Type}

/-- Calls with names that fit, in any order, on a working server that splits its transfers in
any way: each call returns and succeeds, it replies what the in-memory backend replies that
starts from the same contents (keys in any order), and both end with the same contents.
-/
theorem calls_match_memory (server : PddbServer σ) (rounds : σ → Nat)
    (works : server.Works rounds) (state : σ) (ready : works.Ready state) (memory : InnerBackend)
    (faultless : memory.plan.OnlyBulk)
    (same : ∀ slot, works.contents state slot = memory.map.lookup slot) (ops : List KvOp)
    (within : ∀ op ∈ ops, op.Within nameLimits)
    : let onPddb := Runs.calls KvOp.perform ops (⟨state⟩ : PddbBackend server rounds)
      let inMemory := Runs.calls KvOp.perform ops memory
      List.Forall₂ BothReply onPddb.1 inMemory.1
      ∧ works.Ready onPddb.2.state
      ∧ ∀ slot, works.contents onPddb.2.state slot = inMemory.2.map.lookup slot := by
  intro onPddb inMemory
  have everywhere (op : KvOp) : op.Within ⟨fun _ => True, fun _ => True⟩ := by
    cases op <;> first | exact trivial | exact ⟨trivial, trivial⟩
  let Related (pddb : PddbBackend server rounds) (memory : InnerBackend) : Prop :=
    works.contract.Ready pddb ∧ InnerBackend.contract.limited.Ready memory
    ∧ works.contract.view pddb = InnerBackend.contract.limited.view memory
  have start : Related ⟨state⟩ memory := ⟨ready, faultless, funext same⟩
  have step (op : KvOp) (member : op ∈ ops) (pddb : PddbBackend server rounds)
      (memory : InnerBackend) (related : Related pddb memory)
      : BothReply (op.perform pddb).1 (op.perform memory).1
        ∧ Related (op.perform pddb).2 (op.perform memory).2 :=
    works.contract.perform_agrees InnerBackend.contract.limited (within op member)
      (everywhere op) related
  obtain ⟨replies, endReady, -, contents⟩ := Runs.calls_related step start
  exact ⟨replies, endReady, fun slot => congrFun contents slot⟩

theorem allows_short {dict key : String}
    (dictFits : 1 ≤ dict.utf8ByteSize ∧ dict.utf8ByteSize ≤ dictNameLen - 1)
    (keyFits : 1 ≤ key.utf8ByteSize ∧ key.utf8ByteSize ≤ keyNameLen - 1)
    : nameLimits.Allows (dict, key) :=
  ⟨dictFits, keyFits⟩

/-- A value is overwritten by a shorter one, listed, and another one deleted. -/
theorem calls_match_memory_overwritten
    : let ops : List KvOp :=
        [.put "d" "a" [1, 2, 3, 4, 5], .put "d" "a" [6], .put "d" "b" [7], .listKeys "d",
          .delete "d" "b"]
      let onPddb := Runs.calls KvOp.perform ops (⟨{}⟩ : PddbBackend Basis.server Basis.rounds)
      List.Forall₂ BothReply onPddb.1 (Runs.calls KvOp.perform ops { map := ∅ : InnerBackend }).1
      ∧ Basis.contents onPddb.2.state ("d", "a") = some [6]
      ∧ Basis.contents onPddb.2.state ("d", "b") = none := by
  intro ops onPddb
  have fits (key : String) (short : 1 ≤ key.utf8ByteSize ∧ key.utf8ByteSize ≤ keyNameLen - 1)
      : nameLimits.Allows ("d", key) :=
    allows_short (by decide) short
  have within (op : KvOp) (member : op ∈ ops) : op.Within nameLimits := by
    simp only [ops, List.mem_cons, List.not_mem_nil, or_false] at member
    rcases member with rfl | rfl | rfl | rfl | rfl
    · exact fits "a" (by decide)
    · exact fits "a" (by decide)
    · exact fits "b" (by decide)
    · exact (fits "a" (by decide)).dict
    · exact fits "b" (by decide)
  obtain ⟨replies, -, contents⟩ := calls_match_memory Basis.server Basis.rounds Basis.works {}
    Basis.tidy_empty { map := ∅ } FaultPlan.onlyBulk_default (fun _ => rfl) ops within
  exact ⟨replies, contents ("d", "a"), contents ("d", "b")⟩

end Pddb

open BufferingBackend (Mirrors)

/-- What a caller of the write buffer can do: a call, or begin or end a batch. -/
inductive BatchStep where
  | call (op : KvOp)
  | beginBatch
  | commit (order : HashOrder)
  | abort

namespace BatchStep

/-- A batch can be ended only through the guard of an open one. -/
def perform {β : Type} [KvBackend β] : BatchStep → Call (BufferingBackend β) KvReply
  | .call op => op.perform
  | .beginBatch => Attempt.map (fun _ => .done) BufferingBackend.beginBatch
  | .commit order => fun self =>
      if self.isBatching then
        Attempt.map (fun _ => .done) (BufferingBackend.commitInternal order) self
      else (.ok .done, self)
  | .abort => fun self => (.ok .done, if self.isBatching then self.abortInternal else self)

/-- The names of a step are within the limits. -/
def Within (limits : NameLimits) : BatchStep → Prop
  | .call op => op.Within limits
  | _ => True

theorem agrees_done {α : Type} (result : Except Error α)
    : Agrees (result.map (fun _ => .done)) (result.map (fun _ => .done)) := by
  cases result with
  | error e => exact .error e
  | ok value => exact .ok rfl

/-- Every step keeps two write buffers in step. -/
theorem perform_mirrors {α β : Type} [KvBackend α] [KvBackend β] {limits : NameLimits}
    {left : KvContractOn limits α} {right : KvContract β} {step : BatchStep}
    (within : step.Within limits) {a : BufferingBackend α} {b : BufferingBackend β}
    (mirrors : Mirrors left right a b)
    : Agrees (step.perform a).1 (step.perform b).1
      ∧ Mirrors left right (step.perform a).2 (step.perform b).2 := by
  cases step with
  | call op => exact mirrors.perform within
  | beginBatch =>
      obtain ⟨same, after⟩ := Mirrors.beginBatch mirrors
      refine ⟨?_, after⟩
      simp only [perform, Attempt.map, same]
      exact agrees_done _
  | commit order =>
      obtain ⟨same, after⟩ := Mirrors.commit order mirrors
      have flag' := mirrors.flag.symm
      cases flag : a.batching with
      | false =>
          rw [flag] at flag'
          simp only [perform, BufferingBackend.isBatching, flag, flag', Bool.false_eq_true,
            if_false]
          exact ⟨.ok rfl, mirrors⟩
      | true =>
          rw [flag] at flag'
          simp only [perform, BufferingBackend.isBatching, flag, flag', if_true, Attempt.map, same]
          exact ⟨agrees_done _, after⟩
  | abort =>
      have flag' := mirrors.flag.symm
      cases flag : a.batching with
      | false =>
          rw [flag] at flag'
          simp only [perform, BufferingBackend.isBatching, flag, flag', Bool.false_eq_true,
            if_false]
          exact ⟨.ok rfl, mirrors⟩
      | true =>
          rw [flag] at flag'
          simp only [perform, BufferingBackend.isBatching, flag, flag', if_true]
          exact ⟨.ok rfl, mirrors.abort⟩

end BatchStep

namespace Pddb

variable {σ : Type}

/-- Any run through the write buffer: calls with names that fit, and batches that are begun,
committed in any order of the entries, or aborted. However large a batch is, and whether its
bulk write is applied, refused for its size, unknown to the server or fails half way, every
step answers as over the in-memory backend, and the buffer and the contents are the same.
-/
theorem batches_match_memory (server : PddbServer σ) (rounds : σ → Nat)
    (works : server.Works rounds) (state : σ) (ready : works.Ready state) (memory : InnerBackend)
    (faultless : memory.plan.OnlyBulk)
    (same : ∀ slot, works.contents state slot = memory.map.lookup slot) (steps : List BatchStep)
    (within : ∀ step ∈ steps, step.Within nameLimits)
    : let onPddb := Runs.calls BatchStep.perform steps
        (BufferingBackend.new (⟨state⟩ : PddbBackend server rounds))
      let inMemory := Runs.calls BatchStep.perform steps (BufferingBackend.new memory)
      List.Forall₂ Agrees onPddb.1 inMemory.1
      ∧ onPddb.2.batching = inMemory.2.batching
      ∧ onPddb.2.buffer = inMemory.2.buffer
      ∧ works.Ready onPddb.2.inner.state
      ∧ ∀ slot, works.contents onPddb.2.inner.state slot = inMemory.2.inner.map.lookup slot := by
  intro onPddb inMemory
  have start : Mirrors works.contract InnerBackend.contract (.new ⟨state⟩) (.new memory) :=
    .start ready faultless (funext same)
  obtain ⟨answers, mirrors⟩ := Runs.calls_related
    (fun step member _ _ related => BatchStep.perform_mirrors (within step member) related) start
  exact ⟨answers, mirrors.flag, mirrors.buffer, mirrors.ready,
    fun slot => congrFun mirrors.same slot⟩

/-- A batch beyond the page is written entry by entry. -/
theorem batches_match_memory_oversized
    : let value : Bytes := List.replicate 4000 1
      let steps : List BatchStep :=
        [.beginBatch, .call (.put "d" "a" value), .call (.put "d" "b" [2]), .commit .insertion]
      let onPddb := Runs.calls BatchStep.perform steps
        (BufferingBackend.new (⟨{}⟩ : PddbBackend Basis.server Basis.rounds))
      ¬ BatchFits [("d", "a", value)]
      ∧ onPddb.2.batching = false
      ∧ Basis.contents onPddb.2.inner.state ("d", "a") = some value
      ∧ Basis.contents onPddb.2.inner.state ("d", "b") = some [2] := by
  intro value
  have size : value.length = 4000 := List.length_replicate
  clear_value value
  intro steps onPddb
  have within (step : BatchStep) (member : step ∈ steps) : step.Within nameLimits := by
    simp only [steps, List.mem_cons, List.not_mem_nil, or_false] at member
    rcases member with rfl | rfl | rfl | rfl
    · trivial
    · exact allows_short (by decide) (by decide)
    · exact allows_short (by decide) (by decide)
    · trivial
  obtain ⟨-, closed, -, -, contents⟩ := batches_match_memory Basis.server Basis.rounds Basis.works
    {} Basis.tidy_empty { map := ∅ } FaultPlan.onlyBulk_default (fun _ => rfl) steps within
  refine ⟨fun fits => ?_, closed, contents ("d", "a"), contents ("d", "b")⟩
  have total := fits.total
  simp only [List.map_cons, List.map_nil, List.sum_cons, List.sum_nil, entrySize, size,
    maxPddbWriteBatchLen] at total
  omega

end Pddb

end XousAppSignal.Store
