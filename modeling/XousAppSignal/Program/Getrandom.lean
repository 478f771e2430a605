import XousAppSignal.Library.Bincode

/-! The `getrandom` backend over the TRNG service: how a destination is filled in chunks of
words and a tail of bytes. The writes to the destination are logged, each with the byte of
TRNG output it copies.
-/

namespace XousAppSignal.Getrandom

/-- `getrandom::Error`, as far as this backend uses it. -/
inductive Error where
  | unsupported
  deriving DecidableEq

/-- The service as one call finds it: whether the connection is there or can be made, and for
every `fill_buf` of the call in turn the words it fills in, or none if it fails.
-/
structure Trng where
  connects : Bool
  fillBuf : Nat → Option (Nat → UInt32)

/-- The most words `fill_buf` accepts. -/
def maxWords : Nat := 1020

/-- A word in memory, its lowest byte first. -/
def wordBytes (word : UInt32) : List UInt8 := Bincode.encodeNat 4 word.toNat

/-- A byte written to the destination: where, and which byte of which word of which request
it copies.
-/
structure Written where
  index : Nat
  request : Nat
  word : Nat
  byte : Nat
  value : UInt8

/-- The requests for words and the bytes written so far, oldest first. -/
structure Filling where
  requests : List Nat := []
  written : List Written := []

/-- One `fill_buf` for `count` words. -/
def request (trng : Trng) (count : Nat) (filling : Filling)
    : Except Error (List UInt32) × Filling :=
  let next := { filling with requests := filling.requests ++ [count] }
  match trng.fillBuf filling.requests.length with
  | some words => (.ok ((List.range count).map words), next)
  | none => (.error .unsupported, next)

/-- The TRNG byte that was copied. -/
def Written.source (written : Written) : Nat × Nat × Nat :=
  (written.request, written.word, written.byte)

/-- The place in the destination for a byte of TRNG output: behind the words of the earlier
requests and the earlier words of its own.
-/
def place (requests : List Nat) (source : Nat × Nat × Nat) : Nat :=
  4 * ((requests.take source.1).sum + source.2.1) + source.2.2

/-- A byte of a word that a request filled in, at its own place. -/
def Written.Genuine (trng : Trng) (requests : List Nat) (written : Written) : Prop :=
  ∃ count words, requests[written.request]? = some count
    ∧ trng.fillBuf written.request = some words
    ∧ written.word < count
    ∧ (wordBytes (words written.word))[written.byte]? = some written.value
    ∧ written.index = place requests written.source

/-- The destination is filled up to an index: in order, with genuine bytes. -/
structure Progress (trng : Trng) (filled : Nat) (filling : Filling) : Prop where
  bounded : ∀ count ∈ filling.requests, 1 ≤ count ∧ count ≤ maxWords
  inOrder : filling.written.map Written.index = List.range filled
  genuine : ∀ written ∈ filling.written, written.Genuine trng filling.requests

/-- More requests do not move what was copied. -/
theorem Written.Genuine.append {trng : Trng} {requests : List Nat} {written : Written}
    (genuine : written.Genuine trng requests) (more : List Nat)
    : written.Genuine trng (requests ++ more) := by
  obtain ⟨count, words, asked, filled, inside, value, index⟩ := genuine
  have early : written.request < requests.length := (List.getElem?_eq_some_iff.mp asked).1
  refine ⟨count, words, ?_, filled, inside, value, ?_⟩
  · rw [List.getElem?_append_left early, asked]
  · rw [index]
    simp only [place, Written.source, List.take_append_of_le_length early.le]

variable {trng : Trng} {filled : Nat} {filling : Filling}

/-- A request within the bounds. -/
theorem Progress.ask (progress : Progress trng filled filling) {count : Nat}
    (bounds : 1 ≤ count ∧ count ≤ maxWords)
    : Progress trng filled { filling with requests := filling.requests ++ [count] } where
  bounded other listed := by
    rcases List.mem_append.mp listed with early | last
    · exact progress.bounded other early
    · rw [List.mem_singleton.mp last]
      exact bounds
  inOrder := progress.inOrder
  genuine written listed := (progress.genuine written listed).append [count]

/-- Every request so far is answered. -/
def Answered (trng : Trng) (filling : Filling) : Prop :=
  ∀ request < filling.requests.length, (trng.fillBuf request).isSome = true

end XousAppSignal.Getrandom
