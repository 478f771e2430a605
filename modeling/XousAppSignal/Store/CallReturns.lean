import XousAppSignal.Store.ProtocolRecords

/-! Calls on a backend that does not fail: what a call returns, and what it leaves in the map,
carried through the ways in which the store combines its calls.
-/

namespace XousAppSignal.Store

namespace Returns

variable {β ε ε' α γ ι : Type} {Ready : β → Prop} {view : β → View} {backend : β}
  {middle after : View}

theorem lift {value : α} (ready : Ready backend) (shows : view backend = after)
    : Returns Ready view (Attempt.lift (.ok value : Except ε α) backend) value after :=
  ⟨rfl, ready, shows⟩

/-- A call goes on from what the first one returned. -/
theorem andThen {call : Attempt β ε α} {next : α → Attempt β ε γ} {value : α} {answer : γ}
    (first : Returns Ready view (call backend) value middle)
    (second : ∀ {backend}, Ready backend → view backend = middle
      → Returns Ready view (next value backend) answer after)
    : Returns Ready view (call.andThen next backend) answer after := by
  rcases called : call backend with ⟨result, left⟩
  rw [called] at first
  obtain rfl : result = .ok value := first.result
  simp only [Attempt.andThen, called]
  exact second first.ready first.view

theorem map {call : Attempt β ε α} {value : α} (f : α → γ)
    (returns : Returns Ready view (call backend) value after)
    : Returns Ready view (call.map f backend) (f value) after :=
  ⟨by simp [Attempt.map, returns.result, Except.map], returns.ready, returns.view⟩

theorem mapError {call : Attempt β ε α} {value : α} (rename : ε → ε')
    (returns : Returns Ready view (call backend) value after)
    : Returns Ready view (call.mapError rename backend) value after :=
  ⟨by simp [Attempt.mapError, returns.result, Except.mapError], returns.ready, returns.view⟩

/-- Calls that leave the map alone, one per item. By induction on the items. -/
theorem collect {call : ι → Attempt β ε α} {answer : ι → α} {items : List ι}
    (each : ∀ item ∈ items, ∀ {backend}, Ready backend → view backend = after
      → Returns Ready view (call item backend) (answer item) after)
    (ready : Ready backend) (shows : view backend = after)
    : Returns Ready view (Attempt.collect call items backend) (items.map answer) after := by
  induction items generalizing backend with
  | nil => exact lift ready shows
  | cons item rest ih =>
      refine (each item (List.mem_cons_self ..) ready shows).andThen fun ready shows => ?_
      exact (ih (fun other member => each other (List.mem_cons_of_mem _ member)) ready
        shows).map _

end Returns

variable {β τ : Type} [KvBackend β] {contract : KvContract β} {backend : β}

/-- A value that is stored is read and decoded. -/
theorem backendGetJsonProtocol_some (ready : contract.Ready backend) {codec : JsonCodec τ}
    {dict key : String} (context : String) {bytes : Bytes} {value : τ}
    (stored : contract.view backend (dict, key) = some bytes)
    (decoded : codec.fromSlice bytes = .ok value)
    : Returns contract.Ready contract.view (backendGetJsonProtocol codec dict key context backend)
        (some value) (contract.view backend) := by
  have found := contract.get ready dict key
  rcases got : KvBackend.get dict key backend with ⟨result, next⟩
  rw [got, stored] at found
  obtain rfl : result = .ok (some bytes) := found.result
  simp only [backendGetJsonProtocol, got, decoded]
  exact ⟨rfl, found.ready, found.view⟩

theorem backendGetJsonProtocol_none (ready : contract.Ready backend) (codec : JsonCodec τ)
    {dict key : String} (context : String)
    (absent : contract.view backend (dict, key) = none)
    : Returns contract.Ready contract.view (backendGetJsonProtocol codec dict key context backend)
        none (contract.view backend) := by
  have found := contract.get ready dict key
  rcases got : KvBackend.get dict key backend with ⟨result, next⟩
  rw [got, absent] at found
  obtain rfl : result = .ok none := found.result
  simp only [backendGetJsonProtocol, got]
  exact ⟨rfl, found.ready, found.view⟩

/-- A value that encodes is stored. -/
theorem backendPutJsonProtocol_returns (ready : contract.Ready backend) {codec : JsonCodec τ}
    (dict key context : String) {bytes : Bytes} {value : τ}
    (encoded : codec.toVec value = .ok bytes)
    : Returns contract.Ready contract.view
        (backendPutJsonProtocol codec dict key context value backend) ()
        (Function.update (contract.view backend) (dict, key) (some bytes)) := by
  have stored := contract.put ready dict key bytes
  rcases put : KvBackend.put dict key bytes backend with ⟨result, next⟩
  rw [put] at stored
  obtain rfl : result = .ok () := stored.result
  simp only [backendPutJsonProtocol, encoded, put]
  exact ⟨rfl, stored.ready, stored.view⟩

theorem backendDeleteProtocol_returns (ready : contract.Ready backend) (dict key : String)
    : Returns contract.Ready contract.view (backendDeleteProtocol dict key backend) ()
        (Function.update (contract.view backend) (dict, key) none) := by
  have gone := contract.delete ready dict key
  rcases deleted : KvBackend.delete dict key backend with ⟨result, next⟩
  rw [deleted] at gone
  obtain rfl : result = .ok () := gone.result
  simp only [backendDeleteProtocol, deleted]
  exact ⟨rfl, gone.ready, gone.view⟩

end XousAppSignal.Store
