import XousAppSignal.Library.PackedRecords
import XousAppSignal.Store.PddbClient
import XousAppSignal.Text

/-! Listing the keys of a dictionary. The server packs names into pages, and the client reads
them with one running index through bytes that it does not trust.
-/

namespace XousAppSignal.Store.Pddb

open PackedRecords

def maxPddbKListLen : Nat := 4064

/-- Four words that tell concurrent listings apart. -/
abbrev ListToken := UInt32 × UInt32 × UInt32 × UInt32

/-- The payload of a request about a dictionary. -/
structure PddbDictRequest where
  basisSpecified : Bool
  basis : String
  dict : String
  key : String
  index : UInt32
  token : ListToken
  code : PddbRequestCode
  bulkLimit : Option Nat
  keyCount : UInt32
  foundKeyCount : UInt32

/-- One page of a listing. -/
structure PddbKeyList where
  token : ListToken
  data : Vector UInt8 maxPddbKListLen
  retcode : PddbRetcode
  «end» : Bool

/-- The server's handlers for a listing; a reply is missing where lending the page fails. -/
structure ListServer (σ : Type) where
  keyCountInDict : PddbDictRequest → σ → Option PddbDictRequest × σ
  listKeyV2 : PddbKeyList → σ → Option PddbKeyList × σ

/-- How a call ends: it returns, it panics, or the rounds it may take run out. -/
inductive Ended (α : Type) where
  | returned (result : α)
  | panicked
  | unfinished

/-- The parser's loop over one page from an index on; `none` where an index or a slice does
not lie inside the page, which is a panic.
-/
def parsePage (data : Vector UInt8 maxPddbKListLen) (idx : Nat) (keys : List String)
    : Option (Except IpcError (List String)) :=
  if idx < maxPddbKListLen then
    match data[idx]? with
    | none => none
    | some byte =>
        if byte = 0 then some (.ok keys)
        else
          let strlen := byte.toNat
          if maxPddbKListLen < idx + 1 + strlen then
            some (.error ⟨.internal, "key list overran buffer"⟩)
          else
            match readAt data (idx + 1) strlen with
            | none => none
            | some bytes =>
                match fromUtf8 bytes with
                | none => some (.error ⟨.internal, "key name not utf-8"⟩)
                | some name => parsePage data (idx + 1 + strlen) (keys ++ [name])
  else some (.ok keys)
termination_by maxPddbKListLen - idx

def dictRequest (dict : String) (token : ListToken) : PddbDictRequest :=
  ⟨false, "", dict, "", 0, token, .uninit, none, 0, 0⟩

def blankPage (token : ListToken) : PddbKeyList :=
  ⟨token, Vector.replicate maxPddbKListLen 0, .uninit, false⟩

variable {σ : Type}

/-- The second phase: pages are asked for until one is marked as the last. -/
def drain (server : ListServer σ) (token : ListToken)
    : Nat → List String → σ → Ended (Except IpcError (List String) × σ)
  | 0, _, _ => .unfinished
  | rounds + 1, keys, state =>
      match server.listKeyV2 (blankPage token) state with
      | (none, state) => .returned (.error ⟨.ipc, "lend_mut ListKeyV2"⟩, state)
      | (some response, state) =>
          match response.retcode with
          | .ok =>
              match parsePage response.data 0 keys with
              | none => .panicked
              | some (.error e) => .returned (.error e, state)
              | some (.ok keys) =>
                  if response.end then .returned (.ok keys, state)
                  else drain server token rounds keys state
          | .accessDenied =>
              .returned (.error ⟨.accessDenied, "key list locked by another process"⟩, state)
          | other => .returned (.error ⟨.internal, "ListKeyV2: " ++ other.debug⟩, state)

/-- `PddbClient::list_keys`, with the token that it draws. -/
def listKeys (server : ListServer σ) (rounds : Nat) (token : ListToken) (dict : String)
    (state : σ) : Ended (Except IpcError (List String) × σ) :=
  if dictNameLen - 1 < dict.utf8ByteSize then
    .returned (.error ⟨.invalidInput, "dict name too long"⟩, state)
  else
    match server.keyCountInDict (dictRequest dict token) state with
    | (none, state) => .returned (.error ⟨.ipc, "lend_mut KeyCountInDict"⟩, state)
    | (some resp, state) =>
        match resp.code with
        | .noErr => drain server token rounds [] state
        | .notFound => .returned (.error ⟨.notFound, "dictionary not found"⟩, state)
        | .notMounted => .returned (.error ⟨.notMounted, "PDDB not mounted"⟩, state)
        | other => .returned (.error ⟨.internal, "KeyCountInDict: " ++ other.debug⟩, state)

-----------------------------------------------------------------------------------------
-- One page
-----------------------------------------------------------------------------------------

/-- A name as a record. -/
def encodeName (name : String) : Bytes := UInt8.ofNat name.utf8ByteSize :: asBytes name

/-- The page holds these names one behind the other, and a zero byte behind them unless it is
full; what stands behind that byte does not matter.
-/
def Packs (data : Vector UInt8 maxPddbKListLen) (names : List String) : Prop :=
  ∃ tail, data.toList = names.flatMap encodeName ++ tail ∧ ∀ byte ∈ tail.head?, byte = 0

/-- Names that a record can hold. -/
def NamesPack (names : List String) : Prop :=
  ∀ name ∈ names, name ≠ "" ∧ name.utf8ByteSize ≤ 255

/-- Whatever bytes the page holds, the parser stays inside it, and where it fails it says
`Internal`. By induction on the parser's steps.
-/
theorem parsePage_total (data : Vector UInt8 maxPddbKListLen) (idx : Nat) (keys : List String)
    : ∃ result, parsePage data idx keys = some result
        ∧ ∀ e, result = .error e → e.kind = .internal := by
  fun_induction parsePage data idx keys with
  | case1 idx keys inside outside =>
      rw [Vector.getElem?_eq_getElem inside] at outside
      cases outside
  | case2 idx keys inside found => exact ⟨_, rfl, fun _ h => by cases h⟩
  | case3 idx keys inside byte found more strlen overran =>
      exact ⟨_, rfl, fun _ h => by cases h; rfl⟩
  | case4 idx keys inside byte found more strlen within outside =>
      obtain ⟨bytes, slice⟩ := readAt_isSome (Nat.not_lt.mp within)
      rw [slice] at outside
      cases outside
  | case5 idx keys inside byte found more strlen within bytes slice invalid =>
      exact ⟨_, rfl, fun _ h => by cases h; rfl⟩
  | case6 idx keys inside byte found more strlen within bytes slice name valid ih => exact ih
  | case7 idx keys outside => exact ⟨_, rfl, fun _ h => by cases h⟩

/-- A page that holds names is parsed to these, from the index behind what was parsed before.
By induction on the names.
-/
theorem parsePage_names {data : Vector UInt8 maxPddbKListLen} {names keys : List String}
    {front tail : Bytes} (pack : NamesPack names)
    (whole : front ++ names.flatMap encodeName ++ tail = data.toList)
    (closed : ∀ byte ∈ tail.head?, byte = 0)
    : parsePage data front.length keys = some (.ok (keys ++ names)) := by
  induction names generalizing front keys with
  | nil =>
      rw [List.flatMap_nil, List.append_nil] at whole
      rw [parsePage]
      split
      · next inside =>
          cases tail with
          | nil =>
              have full := congrArg List.length whole
              rw [List.append_nil, Vector.length_toList] at full
              omega
          | cons byte rest =>
              have zero : byte = 0 := closed byte rfl
              have here : data[front.length]? = some byte :=
                getElem?_behind ⟨rest, by rw [← whole, List.append_assoc]; rfl⟩
              rw [here, zero, List.append_nil]
              rfl
      · rw [List.append_nil]
  | cons name names ih =>
      obtain ⟨⟨named, short⟩, later⟩ := List.forall_mem_cons.mp pack
      have positive : name.utf8ByteSize ≠ 0 := by
        rw [Ne, String.utf8ByteSize_eq_zero_iff]
        exact named
      have byteSize : (UInt8.ofNat name.utf8ByteSize).toNat = name.utf8ByteSize := by
        rw [UInt8.toNat_ofNat']
        omega
      have some : UInt8.ofNat name.utf8ByteSize ≠ 0 := by
        intro zero
        rw [zero] at byteSize
        exact positive byteSize.symm
      have split : front ++ [UInt8.ofNat name.utf8ByteSize] ++ asBytes name
            ++ names.flatMap encodeName ++ tail
          = data.toList := by
        rw [← whole]
        simp [encodeName]
      have here : data[front.length]? = .some (UInt8.ofNat name.utf8ByteSize) :=
        getElem?_behind ⟨asBytes name ++ names.flatMap encodeName ++ tail, by
          rw [← split]
          simp only [List.append_assoc]⟩
      have slice : readAt data (front.length + 1) name.utf8ByteSize = .some (asBytes name) := by
        have behind := readAt_behind (⟨names.flatMap encodeName ++ tail, by
          rw [← split]
          simp only [List.append_assoc]⟩
          : front ++ [UInt8.ofNat name.utf8ByteSize] ++ asBytes name <+: data.toList)
        rwa [List.length_append, List.length_singleton, length_asBytes] at behind
      have room : front.length + 1 + name.utf8ByteSize ≤ maxPddbKListLen := by
        have lengths := congrArg List.length split
        simp only [List.length_append, List.length_singleton, length_asBytes,
          Vector.length_toList] at lengths
        omega
      have next := @ih (keys ++ [name])
        (front ++ [UInt8.ofNat name.utf8ByteSize] ++ asBytes name) later split
      simp only [List.length_append, List.length_singleton, length_asBytes] at next
      rw [parsePage, if_pos (by omega), here]
      simp only [some, if_false, byteSize, if_neg (Nat.not_lt.mpr room), slice,
        fromUtf8_asBytes, next, List.append_assoc, List.singleton_append]

-----------------------------------------------------------------------------------------
-- A sequence of pages
-----------------------------------------------------------------------------------------

/-- The server answers with these pages, one after the other. -/
def Serves (server : ListServer σ) (token : ListToken) : List PddbKeyList → σ → Prop
  | [], _ => True
  | page :: pages, state =>
      (server.listKeyV2 (blankPage token) state).1 = some page
      ∧ Serves server token pages (server.listKeyV2 (blankPage token) state).2

/-- Only the last page is marked as the last. -/
def EndsOnLast (pages : List PddbKeyList) : Prop :=
  ∃ init last, pages = init ++ [last] ∧ (∀ page ∈ init, page.end = false) ∧ last.end = true

section Drain

variable {server : ListServer σ} {token : ListToken} {state next : σ} {page : PddbKeyList}

/-- Whatever a page holds, the round fails on it or goes on with more names. -/
theorem drain_page (rounds : Nat) (keys : List String)
    (asked : server.listKeyV2 (blankPage token) state = (some page, next))
    : (∃ e, drain server token (rounds + 1) keys state = .returned (.error e, next)
        ∧ (e.kind = .internal ∨ e.kind = .accessDenied ∧ page.retcode = .accessDenied))
      ∨ ∃ more,
        drain server token (rounds + 1) keys state
          = if page.end then .returned (.ok more, next)
            else drain server token rounds more next := by
  rw [drain, asked]
  simp only
  obtain ⟨result, parsed, internal⟩ := parsePage_total page.data 0 keys
  cases answered : page.retcode with
  | ok =>
      simp only [parsed]
      cases result with
      | error e => exact .inl ⟨e, rfl, .inl (internal e rfl)⟩
      | ok more => exact .inr ⟨more, rfl⟩
  | accessDenied => exact .inl ⟨_, rfl, .inr ⟨rfl, rfl⟩⟩
  | _ => exact .inl ⟨_, rfl, .inl rfl⟩

/-- A page that holds names adds these. -/
theorem drain_names {names : List String} (rounds : Nat) (keys : List String)
    (asked : server.listKeyV2 (blankPage token) state = (some page, next))
    (good : page.retcode = .ok) (pack : NamesPack names) (holds : Packs page.data names)
    : drain server token (rounds + 1) keys state
      = if page.end then .returned (.ok (keys ++ names), next)
        else drain server token rounds (keys ++ names) next := by
  obtain ⟨tail, whole, closed⟩ := holds
  have parsed : parsePage page.data 0 keys = some (.ok (keys ++ names)) :=
    @parsePage_names _ names keys [] tail pack whole.symm closed
  rw [drain, asked]
  simp only [good, parsed]

/-- Pages of any content, up to the one that is marked as the last, are drained to names or to
a failure. By induction on the pages.
-/
theorem drain_total {init : List PddbKeyList} {last : PddbKeyList} {rounds : Nat}
    (keys : List String) (served : Serves server token (init ++ [last]) state)
    (going : ∀ page ∈ init, page.end = false) (ends : last.end = true)
    (enough : init.length < rounds)
    : ∃ result after, drain server token rounds keys state = .returned (result, after)
        ∧ ∀ e, result = .error e
          → e.kind = .internal
            ∨ e.kind = .accessDenied ∧ ∃ page ∈ init ++ [last], page.retcode = .accessDenied := by
  induction init generalizing rounds keys state with
  | nil =>
      obtain ⟨rounds, rfl⟩ := Nat.exists_eq_succ_of_ne_zero (Nat.ne_zero_of_lt enough)
      rcases drain_page rounds keys (Prod.ext served.1 rfl) with ⟨e, failed, kind⟩ | ⟨more, goes⟩
      · refine ⟨_, _, failed, fun other same => ?_⟩
        cases same
        exact kind.imp id (fun denied => ⟨denied.1, last, by simp, denied.2⟩)
      · rw [ends, if_pos rfl] at goes
        exact ⟨_, _, goes, fun e same => by cases same⟩
  | cons page init ih =>
      obtain ⟨rounds, rfl⟩ := Nat.exists_eq_succ_of_ne_zero (Nat.ne_zero_of_lt enough)
      rcases drain_page rounds keys (Prod.ext served.1 rfl) with ⟨e, failed, kind⟩ | ⟨more, goes⟩
      · refine ⟨_, _, failed, fun other same => ?_⟩
        cases same
        exact kind.imp id (fun denied => ⟨denied.1, page, by simp, denied.2⟩)
      · rw [going page (List.mem_cons_self ..), if_neg Bool.false_ne_true] at goes
        obtain ⟨result, after, drained, kind⟩ := ih more served.2
          (fun other member => going other (List.mem_cons_of_mem _ member))
          (Nat.lt_of_succ_lt_succ enough)
        refine ⟨result, after, goes.trans drained, fun e same => ?_⟩
        refine (kind e same).imp id (fun denied => ?_)
        obtain ⟨accessDenied, other, member, code⟩ := denied
        exact ⟨accessDenied, other, List.mem_cons_of_mem _ member, code⟩

/-- Pages that hold names are drained to these names in order, by induction on the pages. -/
theorem drain_split {init : List PddbKeyList} {last : PddbKeyList} {split : List (List String)}
    {rounds : Nat} (keys : List String) (served : Serves server token (init ++ [last]) state)
    (going : ∀ page ∈ init, page.end = false) (ends : last.end = true)
    (enough : init.length < rounds) (pack : NamesPack split.flatten)
    (holds : List.Forall₂ (fun page names => page.retcode = .ok ∧ Packs page.data names)
      (init ++ [last]) split)
    : ∃ after,
        drain server token rounds keys state = .returned (.ok (keys ++ split.flatten), after) := by
  induction init generalizing rounds keys split state with
  | nil =>
      obtain ⟨rounds, rfl⟩ := Nat.exists_eq_succ_of_ne_zero (Nat.ne_zero_of_lt enough)
      cases holds with
      | @cons _ names _ _ page none =>
          cases none
          rw [List.flatten_cons, List.flatten_nil, List.append_nil] at pack ⊢
          have goes := drain_names rounds keys (Prod.ext served.1 rfl) page.1 pack page.2
          rw [ends, if_pos rfl] at goes
          exact ⟨_, goes⟩
  | cons page init ih =>
      obtain ⟨rounds, rfl⟩ := Nat.exists_eq_succ_of_ne_zero (Nat.ne_zero_of_lt enough)
      cases holds with
      | @cons _ names _ split first later =>
          rw [List.flatten_cons] at pack ⊢
          have goes := drain_names rounds keys (Prod.ext served.1 rfl) first.1
            (fun name member => pack name (List.mem_append_left _ member)) first.2
          rw [going page (List.mem_cons_self ..), if_neg Bool.false_ne_true] at goes
          obtain ⟨after, drained⟩ := ih (keys ++ names) served.2
            (fun other member => going other (List.mem_cons_of_mem _ member))
            (Nat.lt_of_succ_lt_succ enough)
            (fun name member => pack name (List.mem_append_right _ member)) later
          exact ⟨after, by rw [goes, drained, List.append_assoc]⟩

/-- Listing a dictionary whose key count the server answers, then with pages of which only the
last one is marked so. Names of one byte to 255, packed into the pages in order and in any
split, with a zero byte behind them unless a page is full, are returned exactly. Pages of any
content and return code never take an index or a slice outside the page: the call returns names
or `Internal`, or `AccessDenied` where a page says so.
-/
theorem listKeys_pages (server : ListServer σ) (token : ListToken) (dict : String) (state : σ)
    (pages : List PddbKeyList) (rounds : Nat) (fits : dict.utf8ByteSize ≤ dictNameLen - 1)
    (counted : ∃ reply, (server.keyCountInDict (dictRequest dict token) state).1 = some reply
      ∧ reply.code = .noErr)
    (served : Serves server token pages
      (server.keyCountInDict (dictRequest dict token) state).2)
    (ends : EndsOnLast pages) (enough : pages.length ≤ rounds)
    : (∀ split : List (List String), NamesPack split.flatten
        → List.Forall₂ (fun page names => page.retcode = .ok ∧ Packs page.data names) pages split
        → ∃ after,
          listKeys server rounds token dict state = .returned (.ok split.flatten, after))
      ∧ ∃ result after,
        listKeys server rounds token dict state = .returned (result, after)
        ∧ ∀ e, result = .error e
          → e.kind = .internal
            ∨ e.kind = .accessDenied ∧ ∃ page ∈ pages, page.retcode = .accessDenied := by
  obtain ⟨init, last, rfl, going, marked⟩ := ends
  obtain ⟨reply, replied, good⟩ := counted
  rw [List.length_append, List.length_singleton] at enough
  have phase : listKeys server rounds token dict state
      = drain server token rounds []
          (server.keyCountInDict (dictRequest dict token) state).2 := by
    rcases asked : server.keyCountInDict (dictRequest dict token) state with ⟨answer, left⟩
    rw [asked] at replied
    cases replied
    rw [listKeys, if_neg (Nat.not_lt.mpr fits), asked]
    simp only [good]
  rw [phase]
  refine ⟨fun split pack holds => ?_, ?_⟩
  · obtain ⟨after, drained⟩ := drain_split [] served going marked enough pack holds
    exact ⟨after, drained⟩
  · exact drain_total [] served going marked enough

end Drain

/-- A server that plays back the pages it has left. -/
def playing : ListServer (List PddbKeyList) where
  keyCountInDict request pages := (some { request with code := .noErr }, pages)
  listKeyV2 _ pages := (pages.head?, pages.tail)

theorem playing_serves (token : ListToken) (pages : List PddbKeyList)
    : Serves playing token pages pages := by
  induction pages with
  | nil => trivial
  | cons page pages ih => exact ⟨rfl, ih⟩

/-- A page with these names in front of zero bytes. -/
def pageOf (names : List String) (last : Bool) : PddbKeyList where
  token := (0, 0, 0, 0)
  data :=
    ⟨((names.flatMap encodeName).take maxPddbKListLen
        ++ List.replicate (maxPddbKListLen - (names.flatMap encodeName).length) 0).toArray,
      by simp; omega⟩
  retcode := .ok
  «end» := last

theorem pageOf_packs {names : List String} {last : Bool}
    (room : (names.flatMap encodeName).length ≤ maxPddbKListLen)
    : Packs (pageOf names last).data names := by
  refine ⟨List.replicate (maxPddbKListLen - (names.flatMap encodeName).length) 0, ?_, ?_⟩
  · rw [pageOf, Vector.toList_mk, List.toList_toArray, List.take_of_length_le room]
  · intro byte first
    exact List.eq_of_mem_replicate (List.mem_of_mem_head? first)

/-- Two names on a first page, and nothing on a second one that ends the listing. -/
theorem listKeys_pages_two
    : ∃ after,
        listKeys playing 2 (0, 0, 0, 0) "dict" [pageOf ["a", "bc"] false, pageOf [] true]
          = .returned (.ok ["a", "bc"], after) := by
  let pages := [pageOf ["a", "bc"] false, pageOf [] true]
  have listed := listKeys_pages playing (0, 0, 0, 0) "dict" pages pages 2 (by decide) ⟨_, rfl, rfl⟩
    (playing_serves _ _) ⟨[pageOf ["a", "bc"] false], pageOf [] true, rfl, by simp [pageOf], rfl⟩
    (by decide)
  refine listed.1 [["a", "bc"], []] ?_ ?_
  · intro name member
    rcases List.mem_cons.mp member with rfl | member
    · exact ⟨by decide, by decide⟩
    · rw [List.mem_singleton.mp member]
      exact ⟨by decide, by decide⟩
  · exact .cons ⟨rfl, pageOf_packs (by decide)⟩ (.cons ⟨rfl, pageOf_packs (by decide)⟩ .nil)

end XousAppSignal.Store.Pddb
