import XousAppSignal.Store.PddbBackend

/-! What is put through the chunked PDDB calls is what is read back. The server may take and
give any part of what it is asked for, as long as it makes progress.
-/

namespace XousAppSignal.Store.Pddb

variable {σ : Type}

/-- A file after some bytes were written at a position; what lies beyond them stays. -/
def overwrite (old : Bytes) (position : Nat) (data : Bytes) : Bytes :=
  old.take position ++ data ++ old.drop (position + data.length)

/-- Writing at the end of a file appends to it. -/
theorem overwrite_length (old data : Bytes) : overwrite old old.length data = old ++ data := by
  simp [overwrite]

/-- How the PDDB server behaves, as far as `get` and `put` rely on it. `contents` is what is
stored and `bound` which key a token stands for. A failing delete, create or write may do
anything; opening an existing key and reading it do not fail.
-/
structure Server.Behaves (server : Server σ) (contents : σ → View)
    (bound : σ → ApiToken → Option (String × String)) : Prop where
  deletes
    : ∀ dict key state,
        ((server.deleteKey dict key state).1 = some .noErr
          ∨ (server.deleteKey dict key state).1 = some .notFound)
        → contents (server.deleteKey dict key state).2
          = Function.update (contents state) (dict, key) none
  creates
    : ∀ dict key state token,
        (server.keyRequest dict key .createAll state).1 = some ⟨.noErr, some token⟩
        → bound (server.keyRequest dict key .createAll state).2 token = some (dict, key)
          ∧ contents (server.keyRequest dict key .createAll state).2
            = Function.update (contents state) (dict, key)
                (some ((contents state (dict, key)).getD []))
  opens
    : ∀ dict key state, (contents state (dict, key)).isSome = true
        → ∃ token,
          (server.keyRequest dict key {} state).1 = some ⟨.noErr, some token⟩
          ∧ bound (server.keyRequest dict key {} state).2 token = some (dict, key)
          ∧ contents (server.keyRequest dict key {} state).2 = contents state
  writes
    : ∀ state token slot old position data reply, bound state token = some slot
        → contents state slot = some old → position ≤ old.length → data ≠ []
        → (server.writeKey token position data state).1 = some reply → reply.retcode = .ok
        → 1 ≤ reply.len ∧ reply.len ≤ data.length
          ∧ bound (server.writeKey token position data state).2 token = some slot
          ∧ contents (server.writeKey token position data state).2
            = Function.update (contents state) slot
                (some (overwrite old position (data.take reply.len)))
  reads
    : ∀ state token slot value position len, bound state token = some slot
        → contents state slot = some value → 0 < len
        → ∃ reply, (server.readKey token position len state).1 = some reply
          ∧ bound (server.readKey token position len state).2 token = some slot
          ∧ contents (server.readKey token position len state).2 = contents state
          ∧ if position < value.length then
              reply.retcode = .ok ∧ 1 ≤ reply.len ∧ reply.len ≤ min len (value.length - position)
              ∧ reply.data.take reply.len = (value.drop position).take reply.len
            else reply.retcode = .unexpectedEof ∨ reply.retcode = .ok ∧ reply.len = 0
  drops : ∀ token state, contents (server.keyDrop token state) = contents state

section Streams

variable {server : Server σ} {contents : σ → View}
  {bound : σ → ApiToken → Option (String × String)}

/-- A page is never empty while there are bytes to put into it. -/
theorem page_pos {size : Nat} (more : 0 < size)
    : 0 < if size ≤ pddbBufDataLen then size else pddbBufDataLen := by
  split
  · exact more
  · decide

/-- The server accepts some bytes of the first page, and the file grows by these. -/
theorem write_appends (behaves : server.Behaves contents bound) {slot : String × String}
    {handle after : KeyHandle} {buf old : Bytes} {state next : σ} {count : Nat}
    (opened : bound state handle.token = some slot) (stored : contents state slot = some old)
    (atEnd : handle.pos = old.length) (more : buf ≠ [])
    (wrote : handle.write server buf state = (.ok count, after, next))
    : 1 ≤ count ∧ after = { handle with pos := (old ++ buf.take count).length }
      ∧ bound next handle.token = some slot
      ∧ contents next = Function.update (contents state) slot (some (old ++ buf.take count)) := by
  have nonempty : buf.isEmpty = false := by simpa using more
  simp only [KeyHandle.write, nonempty, Bool.false_eq_true, if_false] at wrote
  generalize pageLen : (if buf.length ≤ pddbBufDataLen then buf.length else pddbBufDataLen)
    = writelen at wrote
  have within : writelen ≤ buf.length := by
    rw [← pageLen]
    split <;> omega
  have room : 0 < writelen := pageLen ▸ page_pos (List.length_pos_iff.mpr more)
  have page : buf.take writelen ≠ [] := by
    rw [← List.length_pos_iff, List.length_take]
    omega
  have taken := behaves.writes state handle.token slot old handle.pos (buf.take writelen)
  rcases sent : server.writeKey handle.token handle.pos (buf.take writelen) state
    with ⟨reply, left⟩
  rw [sent] at wrote taken
  cases reply with
  | none => simp at wrote
  | some reply =>
      simp only at wrote
      split at wrote
      · next ok =>
          obtain ⟨progress, bounded, still, grown⟩ :=
            taken reply opened stored (le_of_eq atEnd) page rfl ok
          rw [List.length_take, Nat.min_eq_left within] at bounded
          rw [if_neg (Nat.not_lt.mpr bounded)] at wrote
          cases wrote
          rw [atEnd, overwrite_length, List.take_take, Nat.min_eq_left bounded] at grown
          refine ⟨progress, ?_, still, grown⟩
          simp only [atEnd, List.length_append, List.length_take]
          congr 1
          omega
      all_goals simp at wrote

/-- The write loop stores the rest of a value behind what is already there, by induction on
what is left to write.
-/
theorem writeAll_appends (behaves : server.Behaves contents bound) {slot : String × String}
    {handle after : KeyHandle} {buf old : Bytes} {state next : σ}
    (opened : bound state handle.token = some slot) (stored : contents state slot = some old)
    (atEnd : handle.pos = old.length)
    (wrote : handle.writeAll server buf state = (.ok (), after, next))
    : contents next = Function.update (contents state) slot (some (old ++ buf)) := by
  fun_induction KeyHandle.writeAll server buf handle state generalizing old with
  | case1 handle state =>
      cases wrote
      simp [← stored]
  | case2 handle state byte rest e middle moved sent => cases wrote
  | case3 handle state byte rest middle moved sent => cases wrote
  | case4 handle state byte rest count middle moved sent ih =>
      obtain ⟨-, rfl, still, grown⟩ :=
        write_appends behaves opened stored atEnd (List.cons_ne_nil byte rest) sent
      have now : contents moved slot = some (old ++ (byte :: rest).take (count + 1)) := by
        rw [grown, Function.update_self]
      rw [ih still now rfl wrote, grown, Function.update_idem, List.append_assoc,
        List.take_succ_cons, List.cons_append, List.take_append_drop]

/-- A read returns the next bytes of the file, and none only at its end. -/
theorem read_gives (behaves : server.Behaves contents bound) {slot : String × String}
    {handle : KeyHandle} {value : Bytes} {state : σ}
    (opened : bound state handle.token = some slot) (stored : contents state slot = some value)
    (within : handle.pos ≤ value.length)
    : ∃ count next,
        handle.read server readChunkLen state
          = (.ok ((value.drop handle.pos).take count), { handle with pos := handle.pos + count },
              next)
        ∧ handle.pos + count ≤ value.length ∧ (count = 0 → handle.pos = value.length)
        ∧ bound next handle.token = some slot ∧ contents next = contents state := by
  have page := behaves.reads state handle.token slot value handle.pos pddbBufDataLen opened
    stored (by decide)
  rcases given : server.readKey handle.token handle.pos pddbBufDataLen state with ⟨reply, left⟩
  rw [given] at page
  obtain ⟨reply, rfl, still, same, answer⟩ := page
  have chunk : (if readChunkLen ≤ pddbBufDataLen then readChunkLen else pddbBufDataLen)
      = pddbBufDataLen := by decide
  have positive : readChunkLen ≠ 0 := by decide
  have at_end (eof : ¬ handle.pos < value.length) : handle.pos = value.length := by omega
  split at answer
  · next inside =>
      obtain ⟨ok, progress, bounded, bytes⟩ := answer
      have fits : ¬ pddbBufDataLen < reply.len := by omega
      refine ⟨reply.len, left, ?_, by omega, by omega, still, same⟩
      simp only [KeyHandle.read, positive, if_false, chunk, given, ok, if_neg fits, bytes]
  · next eof =>
      refine ⟨0, left, ?_, by omega, fun _ => at_end eof, still, same⟩
      rcases answer with ended | ⟨ok, zero⟩
      · simp [KeyHandle.read, positive, chunk, given, ended]
      · simp [KeyHandle.read, positive, chunk, given, ok, zero]

/-- The read loop returns the rest of the file behind what it has, in one round more than
bytes are left at most. By induction on the rounds.
-/
theorem readAll_gives (behaves : server.Behaves contents bound) {slot : String × String}
    {handle : KeyHandle} {value : Bytes} {state : σ} {rounds : Nat}
    (opened : bound state handle.token = some slot) (stored : contents state slot = some value)
    (within : handle.pos ≤ value.length) (enough : value.length - handle.pos < rounds)
    : ∃ after next,
        readAll server rounds handle (value.take handle.pos) state = some (.ok value, after, next)
        ∧ contents next = contents state := by
  induction rounds generalizing handle state with
  | zero => exact absurd enough (Nat.not_lt_zero _)
  | succ rounds ih =>
      obtain ⟨count, next, read, bounded, last, still, same⟩ :=
        read_gives behaves opened stored within
      rw [readAll, read]
      rcases chunk : (value.drop handle.pos).take count with _ | ⟨byte, more⟩
      · have none : count = 0 := by
          have lengths := congrArg List.length chunk
          simp only [List.length_take, List.length_drop, List.length_nil] at lengths
          omega
        have whole : value.take handle.pos = value := by
          rw [last none, List.take_length]
        exact ⟨_, _, by rw [whole], same⟩
      · have positive : 0 < count := by
          have lengths := congrArg List.length chunk
          simp only [List.length_take, List.length_cons] at lengths
          omega
        have longer : value.take handle.pos ++ (byte :: more)
            = value.take (handle.pos + count) := by
          rw [← chunk, List.take_add]
        have here : contents next slot = .some value := by rw [same, stored]
        obtain ⟨after, final, rest, kept⟩ :=
          ih (show bound next { handle with pos := handle.pos + count }.token = some slot
              from still)
            here bounded (show value.length - (handle.pos + count) < rounds by omega)
        exact ⟨after, final, by rw [← longer] at rest; exact rest, kept.trans same⟩

end Streams

section RoundTrip

variable {server : Server σ} {contents : σ → View}
  {bound : σ → ApiToken → Option (String × String)}

/-- Names short enough to be opened. -/
def NamesFit (dict key : String) : Prop :=
  dict.utf8ByteSize ≤ dictNameLen - 1 ∧ key.utf8ByteSize ≤ keyNameLen - 1

/-- An open that succeeds had short names and passes on the server's token. -/
theorem openKey_ok {dict key : String} {opts : OpenOptions} {state next : σ}
    {handle : KeyHandle} (opened : openKey server dict key opts state = (.ok handle, next))
    : NamesFit dict key ∧ handle.pos = 0
      ∧ server.keyRequest dict key opts state = (some ⟨.noErr, some handle.token⟩, next) := by
  unfold openKey at opened
  split at opened
  · cases opened
  · next dictFits =>
      split at opened
      · cases opened
      · next keyFits =>
          refine ⟨⟨Nat.not_lt.mp dictFits, Nat.not_lt.mp keyFits⟩, ?_⟩
          rcases asked : server.keyRequest dict key opts state with ⟨reply, left⟩
          rw [asked] at opened
          cases reply with
          | none => cases opened
          | some reply =>
              rcases reply with ⟨result, token⟩
              cases result with
              | noErr =>
                  cases token with
                  | none => cases opened
                  | some token =>
                      cases opened
                      exact ⟨rfl, rfl⟩
              | _ => cases opened

theorem openKey_of_reply {dict key : String} {opts : OpenOptions} {state next : σ}
    {token : ApiToken} (fits : NamesFit dict key)
    (replied : server.keyRequest dict key opts state = (some ⟨.noErr, some token⟩, next))
    : openKey server dict key opts state = (.ok { token }, next) := by
  rw [openKey, if_neg (Nat.not_lt.mpr fits.1), if_neg (Nat.not_lt.mpr fits.2), replied]

/-- A stored value is read back whole, in one round more than it has bytes at most. -/
theorem get_stored (behaves : server.Behaves contents bound) {dict key : String}
    {value : Bytes} {state : σ} {rounds : Nat} (fits : NamesFit dict key)
    (stored : contents state (dict, key) = some value) (enough : value.length < rounds)
    : ∃ next, get server rounds dict key state = some (.ok (some value), next)
        ∧ contents next = contents state := by
  obtain ⟨token, replied, opened, same⟩ := behaves.opens dict key state (by simp [stored])
  have handed := openKey_of_reply fits
    (Prod.ext replied (Eq.refl (server.keyRequest dict key {} state).2))
  obtain ⟨after, next, all, kept⟩ := readAll_gives behaves
    (show bound _ { token : KeyHandle }.token = _ from opened) (same ▸ stored) (Nat.zero_le _)
    (show value.length - 0 < rounds from enough)
  refine ⟨server.keyDrop after.token next, ?_, ?_⟩
  · rw [List.take_zero] at all
    rw [get, handed]
    simp [all]
  · rw [behaves.drops, kept, same]

/-- The pre-delete leaves no old bytes behind. -/
theorem deleteKey_clears (behaves : server.Behaves contents bound) (dict key : String)
    (state : σ)
    : ∀ {result next}, deleteKey server dict key state = (result, next)
        → (∀ e, result = .error e → e.kind = .notFound)
        → contents next = Function.update (contents state) (dict, key) none := by
  intro result next deleted expected
  have clears := behaves.deletes dict key state
  unfold deleteKey at deleted
  rcases asked : server.deleteKey dict key state with ⟨reply, left⟩
  rw [asked] at deleted clears
  rcases reply with _ | code
  · cases deleted
    exact absurd (expected _ rfl) (by simp)
  · cases code with
    | noErr =>
        cases deleted
        exact clears (.inl rfl)
    | notFound =>
        cases deleted
        exact clears (.inr rfl)
    | _ =>
        cases deleted
        exact absurd (expected _ rfl) (by simp)

/-- A put that reports success has stored exactly the value, whatever was there before. -/
theorem put_stores (behaves : server.Behaves contents bound) {dict key : String}
    {value : Bytes} {state next : σ} (ok : put server dict key value state = (.ok (), next))
    : NamesFit dict key
      ∧ contents next = Function.update (contents state) (dict, key) (some value) := by
  have written {cleared : σ}
      (empty : contents cleared = Function.update (contents state) (dict, key) none)
      (wrote : put.write server dict key value cleared = (.ok (), next))
      : NamesFit dict key
        ∧ contents next = Function.update (contents state) (dict, key) (some value) := by
    unfold put.write at wrote
    rcases opening : openKey server dict key .createAll cleared with ⟨opened, created⟩
    rw [opening] at wrote
    cases opened with
    | error e => cases wrote
    | ok handle =>
        obtain ⟨fits, start, replied⟩ := openKey_ok opening
        obtain ⟨bounds, fresh⟩ := behaves.creates dict key cleared handle.token
          (congrArg Prod.fst replied)
        rw [replied] at bounds fresh
        rw [empty, Function.update_self, Function.update_idem, Option.getD_none] at fresh
        simp only at wrote
        rcases loop : handle.writeAll server value created with ⟨result, after, left⟩
        rw [loop] at wrote
        cases result with
        | error e => cases wrote
        | ok done =>
            cases wrote
            have stored : contents created (dict, key) = some [] := by
              rw [fresh, Function.update_self]
            have grown := writeAll_appends behaves bounds stored start loop
            refine ⟨fits, ?_⟩
            rw [behaves.drops, grown, fresh, Function.update_idem, List.nil_append]
  unfold put at ok
  rcases deletion : deleteKey server dict key state with ⟨deleted, cleared⟩
  rw [deletion] at ok
  cases deleted with
  | ok done =>
      exact written (deleteKey_clears behaves dict key state deletion (by simp)) ok
  | error e =>
      simp only at ok
      split at ok
      · next absent =>
          exact written (deleteKey_clears behaves dict key state deletion
            (fun other same => by cases same; exact absent)) ok
      · cases ok

/-- For every dictionary, key and value, whatever the key held before and however the server
splits the transfer: if `put` returns `Ok`, then `get` returns the value within one round of
reading more than it has bytes, and every other key still holds what it held.
-/
theorem put_get_round_trip (behaves : server.Behaves contents bound) (dict key : String)
    (value : Bytes) (state next : σ) (ok : put server dict key value state = (.ok (), next))
    (rounds : Nat) (enough : value.length < rounds)
    : ∃ final, get server rounds dict key next = some (.ok (some value), final)
        ∧ ∀ slot, slot ≠ (dict, key)
          → contents next slot = contents state slot
            ∧ contents final slot = contents state slot := by
  obtain ⟨fits, stored⟩ := put_stores behaves ok
  have here : contents next (dict, key) = some value := by rw [stored, Function.update_self]
  obtain ⟨final, answered, same⟩ := get_stored behaves fits here enough
  refine ⟨final, answered, fun slot other => ?_⟩
  have kept : contents next slot = contents state slot := by
    rw [stored, Function.update_of_ne other]
  exact ⟨kept, by rw [same, kept]⟩

end RoundTrip

/-- A server's files, and the key its only token stands for. -/
structure Files where
  contents : View
  bound : Option (String × String) := none

namespace Files

def token : ApiToken := (1, 2, 3)

def boundTo (files : Files) (token : ApiToken) : Option (String × String) :=
  if token = Files.token then files.bound else none

/-- A page with these bytes in front. -/
def page (data : Bytes) : Bytes :=
  data.take pddbBufDataLen ++ List.replicate (pddbBufDataLen - data.length) 0

theorem length_page (data : Bytes) : (page data).length = pddbBufDataLen := by
  simp only [page, List.length_append, List.length_take, List.length_replicate]
  omega

/-- A server that moves at most two bytes in a call. -/
def server : Server Files where
  keyRequest dict key opts files :=
    if opts.createKey || (files.contents (dict, key)).isSome then
      let value := (files.contents (dict, key)).getD []
      (some ⟨.noErr, some token⟩,
        ⟨Function.update files.contents (dict, key) (some value), some (dict, key)⟩)
    else (some ⟨.notFound, none⟩, files)
  deleteKey dict key files :=
    if (files.contents (dict, key)).isSome then
      (some .noErr, { files with contents := Function.update files.contents (dict, key) none })
    else (some .notFound, files)
  readKey token position len files :=
    let value := ((files.boundTo token).bind files.contents).getD []
    let data := (value.drop position).take (min 2 len)
    (some ⟨if data.isEmpty then .unexpectedEof else .ok, data.length, page data, length_page data⟩,
      files)
  writeKey token position data files :=
    match files.boundTo token with
    | none => (some ⟨.basisLost, 0⟩, files)
    | some slot =>
        let old := (files.contents slot).getD []
        (some ⟨.ok, (data.take 2).length⟩,
          { files with
            contents :=
              Function.update files.contents slot (some (overwrite old position (data.take 2))) })
  keyDrop token files := if token = Files.token then { files with bound := none } else files

theorem server_behaves : server.Behaves Files.contents Files.boundTo where
  deletes dict key files _ := by
    simp only [server]
    split
    · rfl
    · next absent =>
        have none : files.contents (dict, key) = none := by simpa using absent
        rw [← none, Function.update_eq_self]
  creates dict key files token replied := by
    simp only [server, OpenOptions.createAll, Bool.true_or, if_true, Option.some.injEq,
      OpenReply.mk.injEq, true_and] at replied
    subst replied
    exact ⟨by simp [server, OpenOptions.createAll, boundTo], rfl⟩
  opens dict key files stored := by
    obtain ⟨value, held⟩ := Option.isSome_iff_exists.mp stored
    have kept : Function.update files.contents (dict, key) (some value) = files.contents := by
      rw [← held, Function.update_eq_self]
    exact ⟨token, by simp [server, held], by simp [server, held, boundTo],
      by simp [server, held, kept]⟩
  writes files token slot old position data reply bound stored within more replied ok := by
    simp only [server, bound, stored, Option.getD_some, Option.some.injEq] at replied ⊢
    subst replied
    have positive := List.length_pos_iff.mpr more
    have taken : data.take (min 2 data.length) = data.take 2 := by
      rw [← List.take_take, List.take_length]
    simp only [List.length_take, taken]
    exact ⟨by omega, by omega, bound, trivial⟩
  reads files token slot value position len bound stored positive := by
    refine ⟨_, rfl, bound, rfl, ?_⟩
    simp only [bound, stored, Option.bind_some, Option.getD_some]
    generalize count_eq : min 2 len = count
    have moved : ((value.drop position).take count).length
        = min count (value.length - position) := by
      rw [List.length_take, List.length_drop]
    have taken : ((value.drop position).take count)
        = (value.drop position).take ((value.drop position).take count).length := by
      rw [List.length_take, ← List.take_take, List.take_length]
    generalize (value.drop position).take count = data at moved taken ⊢
    split
    · next inside =>
        have some : data.isEmpty = false := by
          rw [← Bool.not_eq_true, List.isEmpty_iff_length_eq_zero]
          omega
        have small : data.length ≤ pddbBufDataLen := by
          simp only [pddbBufDataLen]
          omega
        refine ⟨by simp [some], by omega, by omega, ?_⟩
        rw [page, List.take_of_length_le small, List.take_left, ← taken]
    · next eof =>
        have none : data.isEmpty = true := by
          rw [List.isEmpty_iff_length_eq_zero]
          omega
        exact .inl (by simp [none])
  drops token files := by
    simp only [server]
    split <;> rfl

end Files

/-- A put by its three calls. -/
theorem put_of_calls {server : Server σ} {dict key : String} {value : Bytes}
    {state cleared created left : σ} {handle after : KeyHandle}
    (deleted : deleteKey server dict key state = (.ok (), cleared))
    (opened : openKey server dict key .createAll cleared = (.ok handle, created))
    (wrote : handle.writeAll server value created = (.ok (), after, left))
    : put server dict key value state = (.ok (), server.keyDrop after.token left) := by
  simp only [put, put.write, deleted, opened, wrote]

/-- Three bytes over five, two at a time: the old tail is gone. -/
theorem put_get_round_trip_shorter
    : let old : Files :=
        { contents := Function.update (fun _ => none) ("dict", "key") (some [9, 9, 9, 9, 9]) }
      ∃ next final,
        put Files.server "dict" "key" [1, 2, 3] old = (.ok (), next)
        ∧ get Files.server 4 "dict" "key" next = some (.ok (some [1, 2, 3]), final) := by
  intro old
  have wrote (files : Files) (opened : files.bound = some ("dict", "key"))
      : ∃ after left,
          KeyHandle.writeAll Files.server [1, 2, 3] { token := Files.token } files
            = (.ok (), after, left) := by
    rcases files with ⟨contents, bound⟩
    cases opened
    rw [KeyHandle.writeAll]
    change ∃ after left, KeyHandle.writeAll Files.server [3] _ _ = _
    rw [KeyHandle.writeAll]
    change ∃ after left, KeyHandle.writeAll Files.server [] _ _ = _
    rw [KeyHandle.writeAll]
    exact ⟨_, _, rfl⟩
  have opened : openKey Files.server "dict" "key" .createAll
        (deleteKey Files.server "dict" "key" old).2
      = (.ok { token := Files.token }, ⟨_, some ("dict", "key")⟩) := rfl
  obtain ⟨after, left, done⟩ := wrote ⟨_, some ("dict", "key")⟩ rfl
  have ok := put_of_calls (rfl : deleteKey Files.server "dict" "key" old = _) opened done
  obtain ⟨final, answered, -⟩ := put_get_round_trip Files.server_behaves "dict" "key" [1, 2, 3]
    old _ ok 4 (by decide)
  exact ⟨_, final, ok, answered⟩

end XousAppSignal.Store.Pddb
