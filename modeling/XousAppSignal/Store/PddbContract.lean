import XousAppSignal.Store.LimitedContract
import XousAppSignal.Store.PddbRoundTrip
import XousAppSignal.Store.PddbServer

/-! A server that works as it is documented makes the PDDB backend a finite map, for the names
that fit the wire format: however the server splits reads, writes and listings, and whether or
not it knows the bulk write.
-/

namespace XousAppSignal.Store

namespace Pddb

variable {σ : Type}

/-- The names that the wire format carries: not empty, and within the server's records. -/
def nameLimits : NameLimits where
  dict dict := 1 ≤ dict.utf8ByteSize ∧ dict.utf8ByteSize ≤ dictNameLen - 1
  key key := 1 ≤ key.utf8ByteSize ∧ key.utf8ByteSize ≤ keyNameLen - 1

theorem nameLimits_fit {dict key : String} (allows : nameLimits.Allows (dict, key))
    : NamesFit dict key :=
  ⟨allows.dict.2, allows.key.2⟩

/-- How the whole server behaves while it works: in every state that is `Ready`, requests with
names that fit are answered and do what they are documented to do. Only the bulk write may
fail, and then it has applied a part of its entries; a server that does not know it answers
without having applied any. `rounds` is enough for every value and every listing.
-/
structure PddbServer.Works (server : PddbServer σ) (rounds : σ → Nat) where
  Ready : σ → Prop
  contents : σ → View
  bound : σ → ApiToken → Option (String × String)
  behaves : server.Behaves contents bound
  confined : ∀ {state}, Ready state → ∀ {slot}, contents state slot ≠ none
    → nameLimits.Allows slot
  roomy : ∀ {state}, Ready state → ∀ {slot value}, contents state slot = some value
    → value.length < rounds state
  deletes
    : ∀ {state}, Ready state → ∀ dict key,
        Ready (server.deleteKey dict key state).2
        ∧ ((server.deleteKey dict key state).1 = some .noErr
          ∨ (server.deleteKey dict key state).1 = some .notFound)
  opens
    : ∀ {state}, Ready state → ∀ dict key,
        Ready (server.keyRequest dict key {} state).2
        ∧ (contents state (dict, key) = none
          → contents (server.keyRequest dict key {} state).2 = contents state
            ∧ ∃ reply, (server.keyRequest dict key {} state).1 = some reply
              ∧ reply.result = .notFound)
  creates
    : ∀ {state}, Ready state → ∀ {dict key}, nameLimits.Allows (dict, key)
      → Ready (server.keyRequest dict key .createAll state).2
        ∧ ∃ token, (server.keyRequest dict key .createAll state).1 = some ⟨.noErr, some token⟩
  reads : ∀ {state}, Ready state → ∀ token position len,
    Ready (server.readKey token position len state).2
  writes
    : ∀ {state}, Ready state → ∀ {token slot}, bound state token = some slot
      → ∀ position {data}, data ≠ []
      → Ready (server.writeKey token position data state).2
        ∧ ∃ reply, (server.writeKey token position data state).1 = some reply
          ∧ reply.retcode = .ok
  drops : ∀ {state}, Ready state → ∀ token, Ready (server.keyDrop token state)
  deletesDict
    : ∀ {state}, Ready state → ∀ dict,
        Ready (server.deleteDict dict state).2
        ∧ contents (server.deleteDict dict state).2 = (contents state).clearDict dict
        ∧ ((server.deleteDict dict state).1 = some .noErr
          ∨ (server.deleteDict dict state).1 = some .notFound)
  writesBatch
    : ∀ {state}, Ready state → ∀ {page entries rest},
        batchGrammar.decode page.data.toList = some (entries, rest)
        → (∀ entry ∈ entries, nameLimits.Allows (entry.1, entry.2.1))
        → Ready (server.writeKeyBatch page state).2
          ∧ ∃ landed : List BatchEntry, landed.Sublist entries
            ∧ ((server.writeKeyBatch page state).1 = some .ok → landed = entries)
            ∧ contents (server.writeKeyBatch page state).2 = (contents state).putAll landed
  counts
    : ∀ {state}, Ready state → ∀ {dict}, nameLimits.dict dict → ∀ token,
        let counted := server.keyCountInDict (dictRequest dict token) state
        Ready counted.2 ∧ contents counted.2 = contents state
        ∧ ∃ reply, counted.1 = some reply
          ∧ (reply.code = .notFound ∧ (∀ key, contents state (dict, key) = none)
            ∨ reply.code = .noErr
              ∧ ∃ init last split,
                  Serves server.toListServer token (init ++ [last]) counted.2
                  ∧ (∀ page ∈ init, page.end = false) ∧ last.end = true
                  ∧ List.Forall₂ (fun page names => page.retcode = .ok ∧ Packs page.data names)
                      (init ++ [last]) split
                  ∧ split.flatten.Nodup
                  ∧ (∀ key, key ∈ split.flatten ↔ (contents state (dict, key)).isSome)
                  ∧ init.length < rounds state)
  lists : ∀ {state}, Ready state → ∀ page,
    Ready (server.listKeyV2 page state).2
    ∧ contents (server.listKeyV2 page state).2 = contents state

-----------------------------------------------------------------------------------------
-- What the loops keep
-----------------------------------------------------------------------------------------

/-- One read asks the server once at most. -/
theorem read_keeps {server : Server σ} {Inv : σ → Prop}
    (reads : ∀ {state}, Inv state → ∀ token position len,
      Inv (server.readKey token position len state).2)
    {state : σ} (holds : Inv state) (size : Nat) (handle : KeyHandle)
    : Inv (handle.read server size state).2.2 := by
  unfold KeyHandle.read
  split
  · exact holds
  · dsimp only
    generalize (if size ≤ pddbBufDataLen then size else pddbBufDataLen) = readlen
    have kept := reads holds handle.token handle.pos readlen
    generalize server.readKey handle.token handle.pos readlen state = outcome at kept ⊢
    obtain ⟨_ | reply, next⟩ := outcome
    · exact kept
    · dsimp only
      split
      · split <;> exact kept
      all_goals exact kept

/-- A property that reading keeps is kept by the read loop, by induction on the rounds. -/
theorem readAll_keeps {server : Server σ} {Inv : σ → Prop}
    (reads : ∀ {state}, Inv state → ∀ token position len,
      Inv (server.readKey token position len state).2)
    {rounds : Nat} {handle : KeyHandle} {out : Bytes} {state : σ} {result} (holds : Inv state)
    (ended : readAll server rounds handle out state = some result)
    : Inv result.2.2 := by
  induction rounds generalizing handle out state with
  | zero => cases ended
  | succ rounds ih =>
      have after := read_keeps reads holds readChunkLen handle
      rw [readAll] at ended
      generalize handle.read server readChunkLen state = outcome at after ended
      obtain ⟨_ | _ | ⟨byte, more⟩, moved, next⟩ := outcome
      · cases ended
        exact after
      · cases ended
        exact after
      · exact ih after ended

/-- A property that a page keeps is kept by the listing loop, by induction on the rounds. -/
theorem drain_keeps {server : ListServer σ} {Inv : σ → Prop}
    (lists : ∀ {state}, Inv state → ∀ page, Inv (server.listKeyV2 page state).2)
    {token : ListToken} {rounds : Nat} {keys : List String} {state : σ} {result}
    (holds : Inv state) (ended : drain server token rounds keys state = .returned result)
    : Inv result.2 := by
  induction rounds generalizing keys state with
  | zero => cases ended
  | succ rounds ih =>
      have after := lists holds (blankPage token)
      rw [drain] at ended
      generalize server.listKeyV2 (blankPage token) state = outcome at after ended
      obtain ⟨_ | page, next⟩ := outcome
      · cases ended
        exact after
      · dsimp only at ended
        split at ended
        · split at ended
          · cases ended
          · cases ended
            exact after
          · split at ended
            · cases ended
              exact after
            · exact ih after ended
        all_goals
          cases ended
          exact after

-----------------------------------------------------------------------------------------
-- The single calls on a working server
-----------------------------------------------------------------------------------------

namespace PddbServer.Works

variable {server : PddbServer σ} {rounds : σ → Nat} (works : server.Works rounds)
  {state : σ} {dict key : String}

/-- A value is read back whole, and no value is no error. -/
theorem get_returns (ready : works.Ready state) (allows : nameLimits.Allows (dict, key))
    : ∃ next, Pddb.get server.toServer (rounds state) dict key state
        = some (.ok (works.contents state (dict, key)), next)
      ∧ works.Ready next ∧ works.contents next = works.contents state := by
  have fits := nameLimits_fit allows
  obtain ⟨openReady, absent⟩ := works.opens ready dict key
  rcases stored : works.contents state (dict, key) with _ | value
  · obtain ⟨same, reply, replied, notFound⟩ := absent stored
    refine ⟨(server.keyRequest dict key {} state).2, ?_, openReady, same⟩
    rcases asked : server.keyRequest dict key {} state with ⟨answer, next⟩
    rw [asked] at replied
    cases replied
    rw [Pddb.get, openKey, if_neg (Nat.not_lt.mpr fits.1), if_neg (Nat.not_lt.mpr fits.2), asked]
    simp only [notFound, if_true]
  · obtain ⟨next, got, same⟩ :=
      get_stored works.behaves fits stored (works.roomy ready stored)
    refine ⟨next, got, ?_, same⟩
    obtain ⟨token, replied, -, -⟩ := works.behaves.opens dict key state (by simp [stored])
    rw [Pddb.get, openKey_of_reply fits (Prod.ext replied rfl)] at got
    obtain ⟨⟨result, after, left⟩, all, ended⟩ := Option.map_eq_some_iff.mp got
    have kept : works.Ready left := readAll_keeps works.reads openReady all
    have dropped : next = server.keyDrop after.token left := by
      cases result with
      | error e => cases ended
      | ok bytes =>
          cases ended
          rfl
    exact dropped ▸ works.drops kept _

/-- The server takes some bytes of the first page. -/
theorem write_accepts (ready : works.Ready state) {slot : String × String}
    {handle : KeyHandle} {buf old : Bytes} (opened : works.bound state handle.token = some slot)
    (stored : works.contents state slot = some old) (atEnd : handle.pos = old.length)
    (more : buf ≠ [])
    : ∃ count after next, handle.write server.toServer buf state = (.ok count, after, next)
        ∧ works.Ready next := by
  have nonempty : buf.isEmpty = false := by simpa using more
  simp only [KeyHandle.write, nonempty, Bool.false_eq_true, if_false]
  generalize pageLen : (if buf.length ≤ pddbBufDataLen then buf.length else pddbBufDataLen)
    = writelen
  have room : 0 < writelen := pageLen ▸ page_pos (List.length_pos_iff.mpr more)
  have page : buf.take writelen ≠ [] := by
    have some := List.length_pos_iff.mpr more
    rw [← List.length_pos_iff, List.length_take]
    omega
  obtain ⟨kept, reply, replied, ok⟩ := works.writes ready opened handle.pos page
  have taken := works.behaves.writes state handle.token slot old handle.pos (buf.take writelen)
    reply opened stored (le_of_eq atEnd) page replied ok
  have bounded : ¬ writelen < reply.len := by
    have within := taken.2.1
    rw [List.length_take] at within
    omega
  rcases sent : server.writeKey handle.token handle.pos (buf.take writelen) state
    with ⟨answer, next⟩
  rw [sent] at replied kept
  cases replied
  refine ⟨reply.len, { handle with pos := handle.pos + reply.len }, next, ?_, kept⟩
  simp only [ok, if_neg bounded]

/-- The write loop ends with everything written, by induction on what is left. -/
theorem writeAll_ends (ready : works.Ready state) {slot : String × String}
    {handle : KeyHandle} {buf old : Bytes} (opened : works.bound state handle.token = some slot)
    (stored : works.contents state slot = some old) (atEnd : handle.pos = old.length)
    : ∃ after next, handle.writeAll server.toServer buf state = (.ok (), after, next)
        ∧ works.Ready next := by
  fun_induction KeyHandle.writeAll server.toServer buf handle state generalizing old with
  | case1 handle state => exact ⟨handle, state, rfl, ready⟩
  | case2 handle state byte rest e middle moved sent =>
      obtain ⟨count, after, next, accepted, -⟩ :=
        works.write_accepts ready opened stored atEnd (List.cons_ne_nil byte rest)
      rw [accepted] at sent
      cases sent
  | case3 handle state byte rest middle moved sent =>
      have progress := write_appends works.behaves opened stored atEnd
        (List.cons_ne_nil byte rest) sent
      exact absurd progress.1 (by decide)
  | case4 handle state byte rest count middle moved sent ih =>
      obtain ⟨-, rfl, still, grown⟩ :=
        write_appends works.behaves opened stored atEnd (List.cons_ne_nil byte rest) sent
      obtain ⟨count', after, next, accepted, kept⟩ :=
        works.write_accepts ready opened stored atEnd (List.cons_ne_nil byte rest)
      rw [sent] at accepted
      cases accepted
      exact ih kept still (by rw [grown, Function.update_self]) rfl

theorem deleteKey_returns (ready : works.Ready state) (dict key : String)
    : ∃ result next, deleteKey server.toServer dict key state = (result, next)
        ∧ (∀ e, result = .error e → e.kind = .notFound)
        ∧ works.Ready next
        ∧ works.contents next = Function.update (works.contents state) (dict, key) none := by
  obtain ⟨kept, answered⟩ := works.deletes ready dict key
  have expected : ∀ e, (deleteKey server.toServer dict key state).1 = .error e
      → e.kind = .notFound := by
    intro e failed
    unfold deleteKey at failed
    rcases asked : server.deleteKey dict key state with ⟨answer, next⟩
    rw [asked] at answered failed
    rcases answered with rfl | rfl <;> cases failed
    rfl
  have state_eq : (deleteKey server.toServer dict key state).2
      = (server.deleteKey dict key state).2 := by
    unfold deleteKey
    rcases server.deleteKey dict key state with ⟨_ | code, next⟩
    · rfl
    · cases code <;> rfl
  refine ⟨_, _, rfl, expected, state_eq ▸ kept, ?_⟩
  exact deleteKey_clears works.behaves dict key state rfl expected

/-- A put succeeds and stores the value. -/
theorem put_returns (ready : works.Ready state) (allows : nameLimits.Allows (dict, key))
    (value : Bytes)
    : ∃ next, Pddb.put server.toServer dict key value state = (.ok (), next)
        ∧ works.Ready next
        ∧ works.contents next
          = Function.update (works.contents state) (dict, key) (some value) := by
  have fits := nameLimits_fit allows
  have written {cleared : σ} (ready : works.Ready cleared)
      (empty : works.contents cleared = Function.update (works.contents state) (dict, key) none)
      : ∃ next, put.write server.toServer dict key value cleared = (.ok (), next)
          ∧ works.Ready next := by
    obtain ⟨openReady, token, replied⟩ := works.creates ready allows
    obtain ⟨bounds, fresh⟩ := works.behaves.creates dict key cleared token replied
    rw [empty, Function.update_self, Function.update_idem, Option.getD_none] at fresh
    obtain ⟨after, next, wrote, kept⟩ := @writeAll_ends _ _ _ works _ openReady (dict, key)
      { token } value [] bounds (by rw [fresh, Function.update_self]) rfl
    refine ⟨server.keyDrop after.token next, ?_, works.drops kept _⟩
    rw [put.write, openKey_of_reply fits (Prod.ext replied rfl)]
    simp only [wrote]
  obtain ⟨result, cleared, deleted, expected, kept, empty⟩ :=
    works.deleteKey_returns ready dict key
  obtain ⟨next, wrote, nextReady⟩ := written kept empty
  have ok : Pddb.put server.toServer dict key value state = (.ok (), next) := by
    rw [put, deleted]
    cases result with
    | ok done => exact wrote
    | error e =>
        simp only [expected e rfl, if_true]
        exact wrote
  exact ⟨next, ok, nextReady, (put_stores works.behaves ok).2⟩

/-- A listing returns the keys that hold a value, each once. -/
theorem listKeys_returns (ready : works.Ready state) (fits : nameLimits.dict dict)
    : ∃ keys next,
        PddbBackend.listKeys server (rounds state) dict state = some (.ok keys, next)
        ∧ works.Ready next ∧ works.contents next = works.contents state
        ∧ keys.Nodup ∧ ∀ key, key ∈ keys ↔ (works.contents state (dict, key)).isSome := by
  obtain ⟨counted, same, reply, replied, answer⟩ :=
    works.counts ready fits (server.randomToken4 state)
  rcases asked : server.keyCountInDict (dictRequest dict (server.randomToken4 state)) state
    with ⟨answered, left⟩
  rw [asked] at counted same replied answer
  cases replied
  rcases answer with ⟨absent, none⟩ | ⟨good, init, last, split, served, going, ends, holds, once,
    listed, enough⟩
  · refine ⟨[], left, ?_, counted, same, List.nodup_nil, fun key => by simp [none]⟩
    have missing : Pddb.listKeys server.toListServer (rounds state) (server.randomToken4 state)
          dict state
        = .returned (.error ⟨.notFound, "dictionary not found"⟩, left) := by
      rw [Pddb.listKeys, if_neg (Nat.not_lt.mpr fits.2), asked]
      simp only [absent]
    simp only [PddbBackend.listKeys, missing, if_true]
  · have pack : NamesPack split.flatten := by
      intro name member
      obtain ⟨value, stored⟩ := Option.isSome_iff_exists.mp ((listed name).mp member)
      have allows : nameLimits.Allows (dict, name) := works.confined ready (by simp [stored])
      refine ⟨fun empty => ?_, ?_⟩
      · have size := allows.key.1
        simp [empty] at size
      · have size := allows.key.2
        simp only [keyNameLen] at size
        omega
    obtain ⟨after, drained⟩ := drain_split [] served going ends enough pack holds
    rw [List.nil_append] at drained
    obtain ⟨afterReady, kept⟩ := @drain_keeps _ server.toListServer
      (fun other => works.Ready other ∧ works.contents other = works.contents state)
      (fun kept page => ⟨(works.lists kept.1 page).1,
        (works.lists kept.1 page).2.trans kept.2⟩)
      _ _ _ _ _ ⟨counted, same⟩ drained
    refine ⟨split.flatten, after, ?_, afterReady, kept, once, listed⟩
    have found : Pddb.listKeys server.toListServer (rounds state) (server.randomToken4 state)
          dict state
        = .returned (.ok split.flatten, after) := by
      rw [Pddb.listKeys, if_neg (Nat.not_lt.mpr fits.2), asked]
      simp only [good, drained]
    simp only [PddbBackend.listKeys, found]

/-- A bulk write that reports success has written all of its entries, and one that fails a
part of them; one beyond the page is refused before anything is written.
-/
theorem putBatch_returns (ready : works.Ready state) {entries : List BatchEntry}
    (allows : ∀ entry ∈ entries, nameLimits.Allows (entry.1, entry.2.1))
    : ∃ result next, PddbBackend.putBatch server entries state = some (result, next)
        ∧ works.Ready next
        ∧ ∃ landed : List BatchEntry, landed.Sublist entries
          ∧ (result = .ok () → landed = entries)
          ∧ works.contents next = (works.contents state).putAll landed := by
  rcases entries with _ | ⟨first, later⟩
  · exact ⟨.ok (), state, rfl, ready, [], .refl _, fun _ => rfl, rfl⟩
  · generalize whole : first :: later = entries at allows
    have nonempty : entries ≠ [] := whole ▸ List.cons_ne_nil first later
    have asked : PddbBackend.putBatch server entries state
        = (writeBatch server.writeKeyBatch entries state).map (fun answer =>
            (answer.1.mapError (mapIpcErr · "write_batch"), answer.2)) :=
      if_neg (by simpa using nonempty)
    by_cases fits : BatchFits entries
    · obtain ⟨page, rest, decoded, -, wrote⟩ :=
        writeBatch_answers server.writeKeyBatch nonempty fits state
      obtain ⟨kept, landed, sub, full, shown⟩ := works.writesBatch ready decoded allows
      refine ⟨_, _, asked.trans (congrArg _ wrote), kept, landed, sub, fun ok => full ?_, shown⟩
      generalize (server.writeKeyBatch page state).1 = reply at ok ⊢
      rcases reply with _ | code
      · cases ok
      · cases code with
        | ok => rfl
        | _ => cases ok
    · obtain ⟨msg, refused⟩ := writeBatch_refuses server.writeKeyBatch nonempty fits state
      refine ⟨_, state, asked.trans (congrArg _ refused), ready, [], List.nil_sublist _,
        fun ok => ?_, rfl⟩
      cases ok

/-- The backend over a working server meets the contract for the names that fit. -/
def contract : KvContractOn nameLimits (PddbBackend server rounds) where
  Ready self := works.Ready self.state
  view self := works.contents self.state
  confined := works.confined
  get := by
    intro self ready dict key allows
    obtain ⟨next, got, kept, same⟩ := works.get_returns ready allows
    simp only [KvBackend.get, PddbBackend.outcome, got]
    exact ⟨rfl, kept, same⟩
  put := by
    intro self ready dict key allows value
    obtain ⟨next, put, kept, same⟩ := works.put_returns ready allows value
    simp only [KvBackend.put, PddbBackend.outcome, put]
    exact ⟨rfl, kept, same⟩
  putBatch := by
    intro self ready entries allows
    obtain ⟨result, next, wrote, kept, shown⟩ := works.putBatch_returns ready allows
    simp only [KvBackend.putBatch, PddbBackend.outcome, wrote]
    exact ⟨kept, shown⟩
  delete := by
    intro self ready dict key allows
    obtain ⟨result, next, deleted, expected, kept, same⟩ :=
      works.deleteKey_returns ready dict key
    have ok : PddbBackend.delete server dict key self.state = (.ok (), next) := by
      rw [PddbBackend.delete, deleted]
      cases result with
      | ok done => rfl
      | error e => simp only [expected e rfl, if_true]
    simp only [KvBackend.delete, PddbBackend.outcome, ok]
    exact ⟨rfl, kept, same⟩
  deleteDict := by
    intro self ready dict fits
    obtain ⟨kept, same, answered⟩ := works.deletesDict ready dict
    have ok : PddbBackend.deleteDict server dict self.state
        = (.ok (), (server.deleteDict dict self.state).2) := by
      rw [PddbBackend.deleteDict, Pddb.deleteDict]
      rcases asked : server.deleteDict dict self.state with ⟨answer, next⟩
      rw [asked] at answered
      rcases answered with rfl | rfl <;> rfl
    simp only [KvBackend.deleteDict, PddbBackend.outcome, ok]
    exact ⟨rfl, kept, same⟩
  listKeys := by
    intro self ready dict fits
    obtain ⟨keys, next, listed, kept, same, once, members⟩ := works.listKeys_returns ready fits
    refine ⟨keys, ?_, once, members⟩
    simp only [KvBackend.listKeys, PddbBackend.outcome, listed]
    exact ⟨rfl, kept, same⟩

end PddbServer.Works

end Pddb

end XousAppSignal.Store
