import XousAppSignal.Ui.Summaries

/-! The name a conversation is listed under. The last incoming row decides it, so a row without
a name hides the name of an earlier one.
-/

namespace XousAppSignal.Ui

/-- An incoming row that carries a name. -/
def ThreadMessage.isNamed (m : ThreadMessage) : Bool :=
  !m.outgoing && !looksLikeRawUuid m.authorLabel

/-- The name an incoming row gives its conversation. -/
def ThreadMessage.shownName (m : ThreadMessage) : String :=
  if looksLikeRawUuid m.authorLabel then shortUuidLabel m.uuid else m.authorLabel

/-- The last incoming row. -/
def lastIncoming (rows : List ThreadMessage) : Option ThreadMessage :=
  (rows.filter (fun m => !m.outgoing)).getLast?

/-- A known name is shown: that of a named incoming row if there is one, else the short form of
the UUID, and never "You" or a raw UUID.
-/
structure KnownNameShown (rows : List ThreadMessage) (summary : DialogueSummary) : Prop where
  known
    : (∃ m ∈ rows, m.isNamed = true)
      → ∃ m ∈ rows, m.isNamed = true ∧ summary.displayName = m.authorLabel
  unknown
    : (∀ m ∈ rows, m.isNamed = false) → summary.displayName = shortUuidLabel summary.uuid
  notOwn : summary.displayName ≠ "You"
  notRaw : looksLikeRawUuid summary.displayName = false

/-- The last incoming row has a name other than "You", or no incoming row has a name, unless it
is the short form itself.
-/
def LastRowNamed (rows : List ThreadMessage) (uuid : Uuid) : Prop :=
  ∀ last ∈ lastIncoming rows,
    if last.isNamed then last.authorLabel ≠ "You"
    else
      (∃ m ∈ rows, m.isNamed = true)
        → ∃ m ∈ rows, m.isNamed = true ∧ m.authorLabel = shortUuidLabel uuid

instance (rows : List ThreadMessage) (uuid : Uuid) : Decidable (LastRowNamed rows uuid) :=
  inferInstanceAs (Decidable (∀ last ∈ lastIncoming rows, _))

-----------------------------------------------------------------------------------------
-- The short form of a UUID
-----------------------------------------------------------------------------------------

theorem toList_shortUuidLabel (uuid : Uuid)
    : ∃ rest, (shortUuidLabel uuid).toList = 'u' :: rest :=
  ⟨_, by rw [shortUuidLabel, String.toList_append]; rfl⟩

theorem shortUuidLabel_ne_you (uuid : Uuid) : shortUuidLabel uuid ≠ "You" := by
  intro same
  obtain ⟨rest, chars⟩ := toList_shortUuidLabel uuid
  rw [same] at chars
  cases chars

theorem shortUuidLabel_notRaw (uuid : Uuid) : looksLikeRawUuid (shortUuidLabel uuid) = false := by
  obtain ⟨rest, chars⟩ := toList_shortUuidLabel uuid
  have notHex : isAsciiHexdigit 'u' = false := by decide
  unfold looksLikeRawUuid
  rw [chars]
  repeat' split
  · simp [notHex]
  · simp [notHex]
  · rfl

-----------------------------------------------------------------------------------------
-- The last incoming row
-----------------------------------------------------------------------------------------

theorem lastIncoming_cons (m : ThreadMessage) (rows : List ThreadMessage)
    : lastIncoming (m :: rows)
      = (lastIncoming rows).or (if m.outgoing then none else some m) := by
  unfold lastIncoming
  cases sent : m.outgoing with
  | true => simp [sent]
  | false =>
      rw [List.filter_cons_of_pos (by simp [sent]), List.getLast?_cons]
      cases (rows.filter (fun m => !m.outgoing)).getLast? <;> rfl

theorem mem_of_lastIncoming {rows : List ThreadMessage} {last : ThreadMessage}
    (found : lastIncoming rows = some last)
    : last ∈ rows ∧ last.outgoing = false := by
  have member := List.mem_of_getLast? found
  rw [List.mem_filter, Bool.not_eq_true'] at member
  exact member

theorem outgoing_of_lastIncoming {rows : List ThreadMessage} (none : lastIncoming rows = none)
    : ∀ m ∈ rows, m.outgoing = true := by
  have empty := List.filter_eq_nil_iff.mp (List.getLast?_eq_none_iff.mp none)
  intro m listed
  simpa using empty m listed

namespace DialogueSummary

theorem add_displayName (entry : DialogueSummary) (m : ThreadMessage)
    : (entry.add m).displayName = if m.outgoing then entry.displayName else m.shownName := by
  have latest (entry : DialogueSummary) : (entry.noteLatest m).displayName = entry.displayName := by
    unfold noteLatest
    split <;> rfl
  have unread (entry : DialogueSummary) : (entry.noteUnread m).displayName = entry.displayName := by
    unfold noteUnread
    split <;> rfl
  rw [add, unread, latest, noteAuthor]
  split <;> rfl

end DialogueSummary

/-- The display name of a folded summary is that of the last incoming row, else the one it had
before, else the short form. By induction on the rows.
-/
theorem foldl_add_displayName {rows : List ThreadMessage} {uuid : Uuid}
    {entry : Option DialogueSummary} {summary : DialogueSummary}
    (folded
      : rows.foldl (fun entry m => some ((entry.getD (.empty uuid)).add m)) entry
        = some summary)
    : summary.displayName
      = ((lastIncoming rows).map ThreadMessage.shownName).getD
          ((entry.map DialogueSummary.displayName).getD (shortUuidLabel uuid)) := by
  induction rows generalizing entry with
  | nil =>
      obtain rfl : entry = some summary := folded
      rfl
  | cons m rest ih =>
      rw [ih folded, lastIncoming_cons]
      have before : (entry.getD (.empty uuid)).displayName
          = (entry.map DialogueSummary.displayName).getD (shortUuidLabel uuid) := by
        cases entry <;> rfl
      cases lastIncoming rest with
      | some last => rfl
      | none =>
          rw [Option.map_some, Option.getD_some, DialogueSummary.add_displayName, before]
          cases m.outgoing <;> rfl

/-- The rows of a conversation decide its display name. -/
theorem summariesByUuid_displayName {messages : List ThreadMessage} {uuid : Uuid}
    {summary : DialogueSummary} (found : (summariesByUuid messages).lookup uuid = some summary)
    : summary.displayName
      = ((lastIncoming (messages.filter (fun m => m.uuid = uuid))).map
          ThreadMessage.shownName).getD (shortUuidLabel uuid) := by
  rw [summariesByUuid, lookup_foldl_countMessage, AList.lookup_empty] at found
  exact foldl_add_displayName found

-----------------------------------------------------------------------------------------
-- When a known name is shown
-----------------------------------------------------------------------------------------

/-- A summary that shows the short form. -/
theorem knownNameShown_short {rows : List ThreadMessage} {summary : DialogueSummary}
    (shown : summary.displayName = shortUuidLabel summary.uuid)
    : KnownNameShown rows summary
      ↔ ((∃ m ∈ rows, m.isNamed = true)
        → ∃ m ∈ rows, m.isNamed = true ∧ m.authorLabel = shortUuidLabel summary.uuid) := by
  constructor
  · intro spec named
    obtain ⟨m, listed, name, same⟩ := spec.known named
    exact ⟨m, listed, name, same.symm.trans shown⟩
  · intro short
    refine ⟨fun named => ?_, fun _ => shown, ?_, ?_⟩
    · obtain ⟨m, listed, name, same⟩ := short named
      exact ⟨m, listed, name, shown.trans same.symm⟩
    · rw [shown]
      exact shortUuidLabel_ne_you summary.uuid
    · rw [shown]
      exact shortUuidLabel_notRaw summary.uuid

/-- A summary that shows the label of a named row. -/
theorem knownNameShown_named {rows : List ThreadMessage} {summary : DialogueSummary}
    {m : ThreadMessage} (listed : m ∈ rows) (named : m.isNamed = true)
    (shown : summary.displayName = m.authorLabel)
    : KnownNameShown rows summary ↔ m.authorLabel ≠ "You" := by
  have label : looksLikeRawUuid m.authorLabel = false := by
    simp only [ThreadMessage.isNamed, Bool.and_eq_true, Bool.not_eq_true'] at named
    exact named.2
  constructor
  · intro spec
    exact shown ▸ spec.notOwn
  · intro other
    refine ⟨fun _ => ⟨m, listed, named, shown⟩, fun unnamed => ?_, shown ▸ other, shown ▸ label⟩
    rw [unnamed m listed] at named
    cases named

/-- Every conversation of every list has a summary, and it shows a known name exactly when the
last incoming row has one other than "You" or no incoming row has one.
-/
theorem known_name_shown_iff (order : HashOrder) {messages : List ThreadMessage} {uuid : Uuid}
    (present : ∃ m ∈ messages, m.uuid = uuid)
    : ∃ summary ∈ rebuildSummaries order messages, summary.uuid = uuid
        ∧ (KnownNameShown (messages.filter (fun m => m.uuid = uuid)) summary
          ↔ LastRowNamed (messages.filter (fun m => m.uuid = uuid)) uuid) := by
  obtain ⟨summary, found⟩ :=
    Option.isSome_iff_exists.mp ((summariesByUuid_isSome messages uuid).mpr present)
  have own : summary.uuid = uuid := (summariesByUuid_spec found).1
  refine ⟨summary, mem_rebuildSummaries.mpr ⟨uuid, found⟩, own, ?_⟩
  have shown := summariesByUuid_displayName found
  have inside : ∀ m ∈ messages.filter (fun m => m.uuid = uuid), m.uuid = uuid := by
    intro m listed
    simpa using (List.mem_filter.mp listed).2
  generalize messages.filter (fun m => m.uuid = uuid) = rows at shown inside ⊢
  unfold LastRowNamed
  cases last : lastIncoming rows with
  | none =>
      rw [last] at shown
      rw [knownNameShown_short (by rw [own]; exact shown)]
      -- All rows are outgoing, so none of them is named.
      have unnamed : ¬ ∃ m ∈ rows, m.isNamed = true := by
        rintro ⟨m, listed, named⟩
        simp [ThreadMessage.isNamed, outgoing_of_lastIncoming last m listed] at named
      simp [unnamed]
  | some m =>
      obtain ⟨listed, incoming⟩ := mem_of_lastIncoming last
      rw [last, Option.map_some, Option.getD_some, ThreadMessage.shownName] at shown
      simp only [Option.mem_some_iff, forall_eq']
      cases raw : looksLikeRawUuid m.authorLabel with
      | true =>
          rw [if_pos raw, inside m listed, ← own] at shown
          have unnamed : m.isNamed = false := by simp [ThreadMessage.isNamed, raw]
          rw [knownNameShown_short shown, own, if_neg (by simp [unnamed])]
      | false =>
          rw [if_neg (by simp [raw])] at shown
          have named : m.isNamed = true := by simp [ThreadMessage.isNamed, incoming, raw]
          rw [knownNameShown_named listed named shown, if_pos named]

/-- An incoming row of one contact. -/
def receivedFrom (label : String) (timestamp : UInt64) : ThreadMessage where
  uuid := ⟨0x0123456789abcdef0011223344556677⟩
  authorLabel := label
  body := "hi"
  timestamp := timestamp
  outgoing := false
  status := .sent
  read := false
  group := false

/-- Witness: a contact whose name became known with the second message. -/
theorem known_name_shown_later
    : let rows :=
        [receivedFrom "01234567-89ab-cdef-0011-223344556677" 1, receivedFrom "Alice" 2]
      ∃ summary ∈ rebuildSummaries .insertion rows,
        summary.uuid = (receivedFrom "Alice" 2).uuid
        ∧ KnownNameShown (rows.filter (fun m => m.uuid = (receivedFrom "Alice" 2).uuid))
            summary := by
  intro rows
  have present : ∃ m ∈ rows, m.uuid = (receivedFrom "Alice" 2).uuid :=
    ⟨receivedFrom "Alice" 2, by simp [rows], rfl⟩
  obtain ⟨summary, listed, own, spec⟩ := known_name_shown_iff .insertion present
  exact ⟨summary, listed, own, spec.mpr (by decide)⟩

/-- Counterexample: a message without a name hides the one that an earlier message carried. -/
theorem known_name_hidden
    : let rows :=
        [receivedFrom "Alice" 1, receivedFrom "01234567-89ab-cdef-0011-223344556677" 2]
      (rebuildSummaries .insertion rows).map DialogueSummary.displayName = ["uuid:01234567"]
      ∧ ∀ summary ∈ rebuildSummaries .insertion rows, ¬KnownNameShown rows summary := by
  intro rows
  have names
      : (rebuildSummaries .insertion rows).map DialogueSummary.displayName
        = ["uuid:01234567"] := by
    decide +kernel
  refine ⟨names, fun summary listed spec => ?_⟩
  have shown : summary.displayName = "uuid:01234567" := by
    have member := List.mem_map_of_mem (f := DialogueSummary.displayName) listed
    rw [names] at member
    exact List.mem_singleton.mp member
  obtain ⟨m, member, named, same⟩ := spec.known (by decide)
  have others : ∀ m ∈ rows, m.isNamed = true → m.authorLabel ≠ "uuid:01234567" := by decide
  exact others m member named (same.symm.trans shown)

end XousAppSignal.Ui
