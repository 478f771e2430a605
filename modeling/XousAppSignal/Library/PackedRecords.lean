import Mathlib.Data.List.Infix

/-! Buffers of a fixed size with checked access, and sequences of records that are read off
the front of an input until a terminator comes.
-/

namespace PackedRecords

section Buffers

variable {α : Type} {size : Nat}

/-- Write a run of values at an index; `none` where it does not lie inside the buffer. -/
def writeAt (buffer : Vector α size) (index : Nat) (data : List α) : Option (Vector α size) :=
  if fits : index + data.length ≤ size then
    some ⟨(buffer.toList.take index ++ data ++ buffer.toList.drop (index + data.length)).toArray,
      by simp; omega⟩
  else none

/-- Read a run of values at an index; `none` where it does not lie inside the buffer. -/
def readAt (buffer : Vector α size) (index count : Nat) : Option (List α) :=
  if index + count ≤ size then some ((buffer.toList.drop index).take count) else none

/-- The buffer holds this front up to the index; what it holds from there on does not matter. -/
structure Filled (buffer : Vector α size) (index : Nat) (front : List α) : Prop where
  stands : front <+: buffer.toList
  reaches : front.length = index

theorem Filled.empty (buffer : Vector α size) : Filled buffer 0 [] := ⟨List.nil_prefix, rfl⟩

/-- A run written at the index extends the front. -/
theorem Filled.write {buffer : Vector α size} {index count : Nat} {front : List α}
    (filled : Filled buffer index front) {data : List α} (counts : data.length = count)
    (room : index + count ≤ size)
    : ∃ next, writeAt buffer index data = some next
        ∧ Filled next (index + count) (front ++ data) := by
  subst counts
  refine ⟨_, by rw [writeAt, dif_pos room], ?_, ?_⟩
  · rw [Vector.toList_mk, List.toList_toArray, ← filled.reaches,
      ← List.prefix_iff_eq_take.mp filled.stands]
    exact List.prefix_append _ _
  · rw [List.length_append, filled.reaches]

/-- A run that lies behind some front is read back. -/
theorem readAt_behind {buffer : Vector α size} {front data : List α}
    (stands : front ++ data <+: buffer.toList)
    : readAt buffer front.length data.length = some data := by
  obtain ⟨rest, whole⟩ := stands
  have room : front.length + data.length ≤ size := by
    have lengths := congrArg List.length whole
    simp only [List.length_append, Vector.length_toList] at lengths
    omega
  rw [readAt, if_pos room, ← whole, List.append_assoc, List.drop_left, List.take_left]

/-- The value behind a front is at the front's length. -/
theorem getElem?_behind {buffer : Vector α size} {front : List α} {value : α}
    (stands : front ++ [value] <+: buffer.toList)
    : buffer[front.length]? = some value := by
  obtain ⟨rest, whole⟩ := stands
  rw [← Vector.getElem?_toList, ← whole, List.append_assoc,
    List.getElem?_append_right (Nat.le_refl _), Nat.sub_self]
  rfl

/-- A read inside the buffer succeeds. -/
theorem readAt_isSome {buffer : Vector α size} {index count : Nat} (inside : index + count ≤ size)
    : ∃ data, readAt buffer index count = some data :=
  ⟨_, by rw [readAt, if_pos inside]⟩

end Buffers

section Grammars

variable {α β : Type}

/-- How one record is read off the front of an input, and the terminator, which is no record.
Reading uses up some input.
-/
structure Grammar (α β : Type) where
  read : List β → Option (Option α × List β)
  shrinks
    : ∀ {input record rest}, read input = some (record, rest) → rest.length < input.length

/-- The records up to the terminator and the input behind it; `none` where the input is
malformed or ends before a terminator.
-/
def Grammar.decode (grammar : Grammar α β) (input : List β) : Option (List α × List β) :=
  match _shape : grammar.read input with
  | none => none
  | some (none, rest) => some ([], rest)
  | some (some record, rest) =>
      (grammar.decode rest).map (fun (records, left) => (record :: records, left))
termination_by input.length
decreasing_by exact grammar.shrinks _shape

variable (grammar : Grammar α β) {input rest : List β}

theorem Grammar.decode_failed (read : grammar.read input = none)
    : grammar.decode input = none := by
  rw [Grammar.decode]
  split
  · rfl
  · next shape =>
      rw [read] at shape
      cases shape
  · next shape =>
      rw [read] at shape
      cases shape

theorem Grammar.decode_stopped (read : grammar.read input = some (none, rest))
    : grammar.decode input = some ([], rest) := by
  rw [Grammar.decode]
  split
  · next shape =>
      rw [read] at shape
      cases shape
  · next shape =>
      rw [read] at shape
      cases shape
      rfl
  · next shape =>
      rw [read] at shape
      cases shape

theorem Grammar.decode_cons {record : α} (read : grammar.read input = some (some record, rest))
    : grammar.decode input
      = (grammar.decode rest).map (fun (records, left) => (record :: records, left)) := by
  rw [Grammar.decode]
  split
  · next shape =>
      rw [read] at shape
      cases shape
  · next shape =>
      rw [read] at shape
      cases shape
  · next shape =>
      rw [read] at shape
      cases shape
      rfl

/-- Records whose encodings are read back are decoded one by one up to the terminator, by
induction on the records.
-/
theorem Grammar.decode_flatMap {encode : α → List β} {stop : List β} {records : List α}
    (reads : ∀ record ∈ records, ∀ input,
      grammar.read (encode record ++ input) = some (some record, input))
    (stops : grammar.read (stop ++ rest) = some (none, rest))
    : grammar.decode (records.flatMap encode ++ (stop ++ rest)) = some (records, rest) := by
  induction records with
  | nil => exact grammar.decode_stopped stops
  | cons record records ih =>
      have first := reads record (List.mem_cons_self ..)
        (records.flatMap encode ++ (stop ++ rest))
      have later := ih (fun other member => reads other (List.mem_cons_of_mem _ member))
      rw [List.flatMap_cons, List.append_assoc, grammar.decode_cons first, later]
      rfl

/-- Decoding uses up some input, by induction on its steps. -/
theorem Grammar.decode_shrinks {records : List α}
    (decoded : grammar.decode input = some (records, rest))
    : rest.length < input.length := by
  induction input using Grammar.decode.induct grammar generalizing records with
  | case1 input failed =>
      rw [grammar.decode_failed failed] at decoded
      cases decoded
  | case2 input left read =>
      rw [grammar.decode_stopped read] at decoded
      cases decoded
      exact grammar.shrinks read
  | case3 input record left read ih =>
      rw [grammar.decode_cons read] at decoded
      obtain ⟨⟨later, last⟩, more, same⟩ := Option.map_eq_some_iff.mp decoded
      cases same
      exact (ih more).trans (grammar.shrinks read)

end Grammars

end PackedRecords
