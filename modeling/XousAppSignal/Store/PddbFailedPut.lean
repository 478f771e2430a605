import XousAppSignal.Store.PddbRoundTrip

/-! What a failed put leaves behind. The key is deleted before it is written, so after the
delete the old value is gone whether or not the new one arrives.
-/

namespace XousAppSignal.Store.Pddb

variable {σ : Type}

/-- What a failing call may have done: a delete and a create all of their work or nothing, a
write any part of its page. A key that is not there is reported so.
-/
structure Server.Fails (server : Server σ) (contents : σ → View)
    (bound : σ → ApiToken → Option (String × String)) : Prop where
  deletes
    : ∀ dict key state,
        contents (server.deleteKey dict key state).2 = contents state
        ∨ contents (server.deleteKey dict key state).2
          = Function.update (contents state) (dict, key) none
  creates
    : ∀ dict key state,
        contents (server.keyRequest dict key .createAll state).2 = contents state
        ∨ contents (server.keyRequest dict key .createAll state).2
          = Function.update (contents state) (dict, key)
              (some ((contents state (dict, key)).getD []))
  writes
    : ∀ state token slot old position data, bound state token = some slot
        → contents state slot = some old → position ≤ old.length
        → ∃ count,
          contents (server.writeKey token position data state).2
          = Function.update (contents state) slot
              (some (overwrite old position (data.take count)))
  misses
    : ∀ dict key state, contents state (dict, key) = none
        → ∃ token,
          (server.keyRequest dict key {} state).1 = some ⟨.notFound, token⟩
          ∧ contents (server.keyRequest dict key {} state).2 = contents state

section Failures

variable {server : Server σ} {contents : σ → View}
  {bound : σ → ApiToken → Option (String × String)}

/-- A failing write has appended some part of the bytes it was given. -/
theorem write_fails (fails : server.Fails contents bound) {slot : String × String}
    {handle after : KeyHandle} {buf old : Bytes} {state next : σ} {e : IoError}
    (opened : bound state handle.token = some slot) (stored : contents state slot = some old)
    (atEnd : handle.pos = old.length)
    (wrote : handle.write server buf state = (.error e, after, next))
    : ∃ part, part <+: buf
      ∧ contents next = Function.update (contents state) slot (some (old ++ part)) := by
  unfold KeyHandle.write at wrote
  split at wrote
  · cases wrote
  · generalize (if buf.length ≤ pddbBufDataLen then buf.length else pddbBufDataLen) = writelen
      at wrote
    obtain ⟨count, grown⟩ := fails.writes state handle.token slot old handle.pos
      (buf.take writelen) opened stored (le_of_eq atEnd)
    rw [atEnd, overwrite_length, ← atEnd] at grown
    simp only at wrote
    refine ⟨(buf.take writelen).take count,
      (List.take_prefix _ _).trans (List.take_prefix _ _), ?_⟩
    rcases sent : server.writeKey handle.token handle.pos (buf.take writelen) state
      with ⟨reply, left⟩
    rw [sent] at wrote grown
    cases reply with
    | none =>
        cases wrote
        exact grown
    | some reply =>
        simp only at wrote
        split at wrote
        · split at wrote
          · cases wrote
            exact grown
          · cases wrote
        all_goals
          cases wrote
          exact grown

/-- A failing write loop has appended some part of the value, by induction on what is left to
write.
-/
theorem writeAll_fails (behaves : server.Behaves contents bound)
    (fails : server.Fails contents bound) {slot : String × String}
    {handle after : KeyHandle} {buf old : Bytes} {state next : σ} {e : IoError}
    (opened : bound state handle.token = some slot) (stored : contents state slot = some old)
    (atEnd : handle.pos = old.length)
    (wrote : handle.writeAll server buf state = (.error e, after, next))
    : ∃ part, part <+: buf
      ∧ contents next = Function.update (contents state) slot (some (old ++ part)) := by
  fun_induction KeyHandle.writeAll server buf handle state generalizing old with
  | case1 handle state => cases wrote
  | case2 handle state byte rest e middle moved sent =>
      cases wrote
      exact write_fails fails opened stored atEnd sent
  | case3 handle state byte rest middle moved sent =>
      have progress := write_appends behaves opened stored atEnd (List.cons_ne_nil byte rest) sent
      exact absurd progress.1 (by decide)
  | case4 handle state byte rest count middle moved sent ih =>
      obtain ⟨-, rfl, still, grown⟩ :=
        write_appends behaves opened stored atEnd (List.cons_ne_nil byte rest) sent
      have now : contents moved slot = some (old ++ (byte :: rest).take (count + 1)) := by
        rw [grown, Function.update_self]
      obtain ⟨part, front, left⟩ := ih still now rfl wrote
      refine ⟨(byte :: rest).take (count + 1) ++ part, ?_, ?_⟩
      · have more : (byte :: rest).take (count + 1) ++ part
            <+: (byte :: rest).take (count + 1) ++ rest.drop count :=
          (List.prefix_append_right_inj _).mpr front
        rwa [List.take_succ_cons, List.cons_append, List.cons_append, List.take_append_drop,
          ← List.cons_append, ← List.take_succ_cons] at more
      · rw [left, grown, Function.update_idem, List.append_assoc]

/-- An open for writing that fails has created an empty key or done nothing. -/
theorem openKey_createAll (fails : server.Fails contents bound) {dict key : String}
    {state next : σ} {result : Except IpcError KeyHandle}
    (opened : openKey server dict key .createAll state = (result, next))
    : contents next = contents state
      ∨ contents next
        = Function.update (contents state) (dict, key)
            (some ((contents state (dict, key)).getD [])) := by
  have made := fails.creates dict key state
  unfold openKey at opened
  split at opened
  · cases opened
    exact .inl rfl
  · split at opened
    · cases opened
      exact .inl rfl
    · rcases asked : server.keyRequest dict key .createAll state with ⟨reply, left⟩
      rw [asked] at opened made
      have same : left = next := by
        cases reply with
        | none => exact congrArg Prod.snd opened
        | some reply =>
            rcases reply with ⟨code, token⟩
            cases code with
            | noErr =>
                cases token with
                | none => exact congrArg Prod.snd opened
                | some token => exact congrArg Prod.snd opened
            | _ => exact congrArg Prod.snd opened
      exact same ▸ made

/-- The pre-delete went wrong: it failed, and not because there was nothing to delete. -/
def PreDeleteFails (server : Server σ) (dict key : String) (state : σ) : Prop :=
  ∃ e, (deleteKey server dict key state).1 = .error e ∧ e.kind ≠ .notFound

/-- The state a delete leaves is the server's. -/
theorem deleteKey_state (dict key : String) (state : σ)
    : (deleteKey server dict key state).2 = (server.deleteKey dict key state).2 := by
  unfold deleteKey
  rcases server.deleteKey dict key state with ⟨reply, left⟩
  rcases reply with _ | code
  · rfl
  · cases code <;> rfl

/-- The write after the pre-delete, where it fails, leaves no key or a part of the value. -/
theorem put_write_fails (behaves : server.Behaves contents bound)
    (fails : server.Fails contents bound) {dict key : String} {value : Bytes}
    {cleared next : σ} {e : Error} (empty : contents cleared (dict, key) = none)
    (failed : put.write server dict key value cleared = (.error e, next))
    : ∃ left, contents next = Function.update (contents cleared) (dict, key) left
        ∧ ∀ part, left = some part → part <+: value := by
  unfold put.write at failed
  rcases opening : openKey server dict key .createAll cleared with ⟨opened, created⟩
  rw [opening] at failed
  cases opened with
  | error e =>
      cases failed
      rcases openKey_createAll fails opening with same | made
      · exact ⟨none, by rw [same, ← empty, Function.update_eq_self], fun _ h => by cases h⟩
      · refine ⟨some [], by rw [made, empty, Option.getD_none], fun part h => ?_⟩
        cases h
        exact List.nil_prefix
  | ok handle =>
      obtain ⟨-, start, replied⟩ := openKey_ok opening
      obtain ⟨bounds, fresh⟩ := behaves.creates dict key cleared handle.token
        (congrArg Prod.fst replied)
      rw [replied] at bounds fresh
      rw [empty, Option.getD_none] at fresh
      have stored : contents created (dict, key) = some [] := by rw [fresh, Function.update_self]
      simp only at failed
      rcases loop : handle.writeAll server value created with ⟨result, after, left⟩
      rw [loop] at failed
      cases result with
      | ok done => cases failed
      | error e =>
          cases failed
          obtain ⟨part, front, grown⟩ :=
            writeAll_fails behaves fails bounds stored start loop
          refine ⟨some part, ?_, fun other h => ?_⟩
          · rw [behaves.drops, grown, fresh, Function.update_idem, List.nil_append]
          · cases h
            exact front

/-- A failed put has touched its own key at most. It keeps the old value only where the
pre-delete failed; else the key is absent or holds a part of the new value.
-/
theorem put_fails (behaves : server.Behaves contents bound)
    (fails : server.Fails contents bound) {dict key : String} {value : Bytes}
    {state next : σ} {e : Error} (failed : put server dict key value state = (.error e, next))
    : ∃ left, contents next = Function.update (contents state) (dict, key) left
        ∧ (PreDeleteFails server dict key state
            ∧ (left = contents state (dict, key) ∨ left = none)
          ∨ ¬ PreDeleteFails server dict key state
            ∧ ∀ part, left = some part → part <+: value) := by
  have written {cleared : σ} (clear : ¬ PreDeleteFails server dict key state)
      (empty : contents cleared = Function.update (contents state) (dict, key) none)
      (wrote : put.write server dict key value cleared = (.error e, next))
      : ∃ left, contents next = Function.update (contents state) (dict, key) left
        ∧ (PreDeleteFails server dict key state
            ∧ (left = contents state (dict, key) ∨ left = none)
          ∨ ¬ PreDeleteFails server dict key state
            ∧ ∀ part, left = some part → part <+: value) := by
    obtain ⟨left, now, front⟩ := put_write_fails behaves fails
      (by rw [empty, Function.update_self]) wrote
    exact ⟨left, by rw [now, empty, Function.update_idem], .inr ⟨clear, front⟩⟩
  unfold put at failed
  rcases deletion : deleteKey server dict key state with ⟨deleted, cleared⟩
  rw [deletion] at failed
  cases deleted with
  | ok done =>
      refine written ?_ (deleteKey_clears behaves dict key state deletion (by simp)) failed
      rintro ⟨error, wrong, -⟩
      rw [deletion] at wrong
      cases wrong
  | error error =>
      simp only at failed
      split at failed
      · next absent =>
          refine written ?_ (deleteKey_clears behaves dict key state deletion
            (fun other same => by cases same; exact absent)) failed
          rintro ⟨other, wrong, found⟩
          rw [deletion] at wrong
          cases wrong
          exact found absent
      · next found =>
          cases failed
          have wrong : PreDeleteFails server dict key state := ⟨error, by rw [deletion], found⟩
          have did := fails.deletes dict key state
          rw [← deleteKey_state, deletion] at did
          rcases did with same | gone
          · exact ⟨_, by rw [same, Function.update_eq_self], .inl ⟨wrong, .inl rfl⟩⟩
          · exact ⟨none, gone, .inl ⟨wrong, .inr rfl⟩⟩

/-- A get of short names answers with what the key holds, if it may read long enough. -/
theorem get_answers (behaves : server.Behaves contents bound)
    (fails : server.Fails contents bound) {dict key : String} {state : σ} {rounds : Nat}
    (fits : NamesFit dict key)
    (enough : ∀ value, contents state (dict, key) = some value → value.length < rounds)
    : ∃ next, get server rounds dict key state = some (.ok (contents state (dict, key)), next)
        ∧ contents next = contents state := by
  cases stored : contents state (dict, key) with
  | some value => exact get_stored behaves fits stored (enough value stored)
  | none =>
      obtain ⟨token, replied, same⟩ := fails.misses dict key state stored
      refine ⟨_, ?_, same⟩
      rcases asked : server.keyRequest dict key {} state with ⟨reply, left⟩
      rw [asked] at replied
      cases replied
      rw [get, openKey, if_neg (Nat.not_lt.mpr fits.1), if_neg (Nat.not_lt.mpr fits.2), asked]
      rfl

/-- Names that do not fit are turned away before the server is asked. -/
theorem openKey_long {dict key : String} {opts : OpenOptions} {state : σ}
    (long : ¬ NamesFit dict key)
    : ∃ msg, openKey server dict key opts state = (.error ⟨.invalidInput, msg⟩, state) := by
  rw [NamesFit, not_and_or, Nat.not_le, Nat.not_le] at long
  unfold openKey
  split
  · exact ⟨_, rfl⟩
  · next dictFits => exact ⟨_, if_pos (long.resolve_left dictFits)⟩

/-- A get that answers was given short names. -/
theorem get_ok_fits {dict key : String} {state next : σ} {rounds : Nat}
    {answer : Option Bytes}
    (answered : get server rounds dict key state = some (.ok answer, next))
    : NamesFit dict key := by
  by_contra long
  obtain ⟨msg, refused⟩ : ∃ msg,
      openKey server dict key {} state = (.error ⟨.invalidInput, msg⟩, state) := openKey_long long
  rw [get, refused] at answered
  cases answered

/-- A put that fails, for whatever dictionary, key, old content and value and at whichever of
its steps: the following get, where its names are short enough and it may read long enough,
returns the old value or, if the server had carried the delete out, nothing where the
pre-delete failed; where a later step failed it returns nothing or a part of the new value, from
its front. Every other key keeps what it held.
-/
theorem put_fails_get (behaves : server.Behaves contents bound)
    (fails : server.Fails contents bound) (dict key : String) (value : Bytes) (state next : σ)
    (e : Error) (failed : put server dict key value state = (.error e, next)) (rounds : Nat)
    (enough : value.length < rounds)
    (enoughOld : ∀ old, contents state (dict, key) = some old → old.length < rounds)
    : (NamesFit dict key
        → ∃ answer final, get server rounds dict key next = some (.ok answer, final))
      ∧ (∀ answer final, get server rounds dict key next = some (.ok answer, final)
        → (PreDeleteFails server dict key state
            → answer = contents state (dict, key) ∨ answer = none)
          ∧ (¬ PreDeleteFails server dict key state
            → answer = none ∨ ∃ part, answer = some part ∧ part <+: value))
      ∧ ∀ slot, slot ≠ (dict, key) → contents next slot = contents state slot := by
  obtain ⟨left, now, shape⟩ := put_fails behaves fails failed
  have here : contents next (dict, key) = left := by rw [now, Function.update_self]
  have short : ∀ held, contents next (dict, key) = some held → held.length < rounds := by
    intro held stored
    rw [here] at stored
    rcases shape with ⟨-, kept | gone⟩ | ⟨-, front⟩
    · exact enoughOld held (by rw [← kept, stored])
    · rw [gone] at stored
      cases stored
    · exact lt_of_le_of_lt (front held stored).length_le enough
  refine ⟨fun fits => ?_, fun answer final answered => ?_, fun slot other => ?_⟩
  · obtain ⟨final, answered, -⟩ := get_answers behaves fails fits short
    exact ⟨_, final, answered⟩
  · obtain ⟨again, answers, -⟩ := get_answers behaves fails (get_ok_fits answered) short
    have same : answer = left := by
      rw [answered, here] at answers
      cases answers
      rfl
    rw [same]
    refine ⟨fun wrong => ?_, fun done => ?_⟩
    · rcases shape with ⟨-, kept⟩ | ⟨done, -⟩
      · exact kept
      · exact absurd wrong done
    · rcases shape with ⟨wrong, -⟩ | ⟨-, front⟩
      · exact absurd wrong done
      · cases left with
        | none => exact .inl rfl
        | some part => exact .inr ⟨part, rfl, front part rfl⟩
  · rw [now, Function.update_of_ne other]

end Failures

namespace Files

/-- The server of the round trip on a disk that gives a file this much room, and creates none
where there is no room at all.
-/
def limited (room : Nat) : Server Files where
  keyRequest dict key opts files :=
    if opts.createKey && room == 0 then (some ⟨.noFreeSpace, none⟩, files)
    else server.keyRequest dict key opts files
  deleteKey := server.deleteKey
  readKey := server.readKey
  writeKey token position data files :=
    if room ≤ position then (some ⟨.diskFull, 0⟩, files)
    else server.writeKey token position data files
  keyDrop := server.keyDrop

theorem limited_behaves (room : Nat) : (limited room).Behaves Files.contents Files.boundTo where
  deletes := server_behaves.deletes
  creates dict key files token replied := by
    simp only [limited] at replied ⊢
    split at replied
    · cases replied
    · next roomy =>
        rw [if_neg roomy]
        exact server_behaves.creates dict key files token replied
  opens := server_behaves.opens
  writes files token slot old position data reply bound stored within more replied ok := by
    simp only [limited] at replied ⊢
    split at replied
    · cases replied
      cases ok
    · next roomy =>
        rw [if_neg roomy]
        exact server_behaves.writes files token slot old position data reply bound stored within
          more replied ok
  reads := server_behaves.reads
  drops := server_behaves.drops

theorem limited_fails (room : Nat) : (limited room).Fails Files.contents Files.boundTo where
  deletes dict key files := by
    simp only [limited, server]
    split
    · exact .inr rfl
    · exact .inl rfl
  creates dict key files := by
    simp only [limited]
    split
    · exact .inl rfl
    · exact .inr rfl
  writes files token slot old position data bound stored within := by
    simp only [limited]
    split
    · refine ⟨0, ?_⟩
      simp [overwrite, ← stored]
    · refine ⟨2, ?_⟩
      simp only [server, bound, stored, Option.getD_some]
  misses dict key files absent := by
    refine ⟨none, ?_, ?_⟩ <;> simp [limited, server, absent]

/-- Five bytes under the one key. -/
def five : Files where
  contents := Function.update (fun _ => none) ("dict", "key") (some [9, 9, 9, 9, 9])

/-- Where there is room for two bytes, the third does not get in. -/
theorem limited_put
    : ∃ next, put (limited 2) "dict" "key" [1, 2, 3] five
        = (.error (.backend "write: disk full"), next)
      ∧ next.contents ("dict", "key") = some [1, 2] := by
  have wrote (files : Files) (opened : files.bound = some ("dict", "key"))
      (empty : files.contents ("dict", "key") = some [])
      : ∃ after left,
          KeyHandle.writeAll (limited 2) [1, 2, 3] { token := Files.token } files
            = (.error ⟨.outOfMemory, "disk full"⟩, after, left)
          ∧ left.contents ("dict", "key") = some [1, 2] := by
    rcases files with ⟨contents, bound⟩
    cases opened
    change contents ("dict", "key") = some [] at empty
    rw [KeyHandle.writeAll]
    change ∃ after left, KeyHandle.writeAll (limited 2) [3] _ _ = _ ∧ _
    rw [KeyHandle.writeAll]
    refine ⟨_, _, rfl, ?_⟩
    simp [overwrite, pddbBufDataLen, empty]
  let cleared := (deleteKey (limited 2) "dict" "key" five).2
  let created := (openKey (limited 2) "dict" "key" .createAll cleared).2
  have deleted : deleteKey (limited 2) "dict" "key" five = (.ok (), cleared) := rfl
  have opened : openKey (limited 2) "dict" "key" .createAll cleared
      = (.ok { token := Files.token }, created) := rfl
  obtain ⟨after, left, failed, here⟩ := wrote created rfl rfl
  refine ⟨(limited 2).keyDrop after.token left, ?_, ?_⟩
  · simp only [put, put.write, deleted, opened, failed]
    rfl
  · rw [(limited_behaves 2).drops]
    exact here

end Files

/-- A put that runs out of room deletes five old bytes and leaves two of three new ones; with
no room at all it leaves no key.
-/
theorem put_fails_loses_old
    : Files.five.contents ("dict", "key") = some [9, 9, 9, 9, 9]
      ∧ (∃ e next final,
        put (Files.limited 2) "dict" "key" [1, 2, 3] Files.five = (.error e, next)
        ∧ get (Files.limited 2) 6 "dict" "key" next = some (.ok (some [1, 2]), final))
      ∧ ∃ e next final,
        put (Files.limited 0) "dict" "key" [1, 2, 3] Files.five = (.error e, next)
        ∧ get (Files.limited 0) 6 "dict" "key" next = some (.ok none, final) := by
  obtain ⟨next, failed, here⟩ := Files.limited_put
  obtain ⟨final, answered, -⟩ := get_stored (Files.limited_behaves 2)
    (show NamesFit "dict" "key" from ⟨by decide, by decide⟩) here
    (show ([1, 2] : Bytes).length < 6 by decide)
  exact ⟨rfl, ⟨_, next, final, failed, answered⟩, _, _, _, rfl, rfl⟩

/-- The put that runs out of room has left other keys alone. -/
theorem put_fails_get_out_of_room
    : ∃ e next, put (Files.limited 2) "dict" "key" [1, 2, 3] Files.five = (.error e, next)
      ∧ (∃ answer final,
        get (Files.limited 2) 6 "dict" "key" next = some (.ok answer, final)
        ∧ (answer = none ∨ ∃ part, answer = some part ∧ part <+: [1, 2, 3]))
      ∧ next.contents ("dict", "other") = none := by
  obtain ⟨next, failed, -⟩ := Files.limited_put
  obtain ⟨answers, shape, others⟩ := put_fails_get (Files.limited_behaves 2)
    (Files.limited_fails 2) "dict" "key" [1, 2, 3] Files.five next _ failed 6 (by decide)
    (fun old held => by cases held; decide)
  obtain ⟨answer, final, answered⟩ := answers ⟨by decide, by decide⟩
  have deleted : ¬ PreDeleteFails (Files.limited 2) "dict" "key" Files.five := by
    rintro ⟨e, wrong, -⟩
    cases wrong
  exact ⟨_, next, failed, ⟨answer, final, answered, (shape answer final answered).2 deleted⟩,
    (others ("dict", "other") (by decide)).trans rfl⟩

end XousAppSignal.Store.Pddb
