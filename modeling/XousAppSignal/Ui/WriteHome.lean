import XousAppSignal.Ui.App

/-! The text of the Home screen: a header, two lines for each conversation with a marker at
the focused one, and the key hints.
-/

namespace XousAppSignal.Ui

/-- Pad on the right to a width in characters. -/
def padRight (width : Nat) (text : String) : String :=
  text ++ String.ofList (List.replicate (width - text.length) ' ')

/-- Pad on the left to a width in characters. -/
def padLeft (width : Nat) (text : String) : String :=
  String.ofList (List.replicate (width - text.length) ' ') ++ text

/-- Brief relative timestamp. The difference saturates at zero. -/
def briefRelative (timestamp now : UInt64) : String :=
  let seconds := (now.toNat - timestamp.toNat) / 1000
  if seconds < 60 then toString seconds ++ "s"
  else if seconds < 60 * 60 then toString (seconds / 60) ++ "m"
  else if seconds < 24 * 60 * 60 then toString (seconds / 3600) ++ "h"
  else if seconds < 48 * 60 * 60 then "Yest"
  else toString (seconds / (24 * 60 * 60)) ++ "d"

/-- The glyph for the status of the latest message, if that is an outgoing one. -/
def DialogueSummary.statusGlyph (d : DialogueSummary) : String :=
  match d.lastMsgOutgoing, d.lastMsgStatus with
  | true, .pending => ".."
  | true, .sent => "v "
  | true, .delivered => "vv"
  | true, .failed => "! "
  | false, _ => "  "

def homeRule : String := String.ofList (List.replicate 45 '-')

def homeHint : String := "  F1 New  F2 Sync  F3 Help  F4 Settings"

/-- The lines of one conversation. -/
def homeRowLines (now : UInt64) (focusMarker : Char) (d : DialogueSummary) : List String :=
  let unreadMarker := if 0 < d.unreadCount then "*" else " "
  let name := if d.isGroup then "[group] " ++ d.displayName else d.displayName
  let badge :=
    if 0 < d.unreadCount then "(" ++ toString (min d.unreadCount 99) ++ ")" else ""
  [focusMarker.toString ++ " " ++ padRight 24 (ellipsize name 24) ++ " "
      ++ padLeft 6 (briefRelative d.lastMsgTs now),
    unreadMarker ++ " " ++ d.statusGlyph ++ " "
      ++ padRight 26 (ellipsize d.lastMsgSnippet 26) ++ " " ++ padLeft 4 badge,
    homeRule]

namespace App

/-- Which account this device is acting as. -/
def identityLine (app : App) : String :=
  if app.accountQueryPending then "(loading linked account…)"
  else
    match app.linked, app.accountPhone, app.accountDeviceName with
    | true, some phone, some name => phone ++ "  (" ++ name ++ ")"
    | true, some phone, none => phone
    | true, none, _ => "(loading linked account…)"
    | false, _, _ => "(unlinked)"

/-- The conversations with their markers. The focus is clamped in case the list shrank. -/
def homeRows (app : App) : List (Char × DialogueSummary) :=
  let focus := min app.homeFocus (app.store.dialogues.length - 1)
  app.store.dialogues.zipIdx.map (fun (d, i) => (if i = focus then '>' else ' ', d))

/-- The text of Home; `none` when the sum of the unread counts overflows. -/
def writeHome (now : UInt64) (app : App) : Option String := do
  let totalUnread ← app.store.totalUnread
  let title :=
    if 0 < totalUnread then
      "xas                       " ++ toString totalUnread ++ " unread"
    else "xas"
  let body :=
    if app.store.dialogues.isEmpty then
      ["", "      No conversations yet.", "", "  Wait for someone to message,",
        "  or press F1 to start one.", "", homeHint, ""]
    else
      app.homeRows.flatMap (fun (focusMarker, d) => homeRowLines now focusMarker d)
        ++ ["", "  ↑↓ Sel  Enter Open", homeHint]
  pure (String.intercalate "\n" ([title, app.identityLine, homeRule] ++ body))

/-- Home can be drawn as long as the rows can be counted in a `u32`. -/
theorem writeHome_isSome {app : App} (summarised : app.store.Summarised)
    (few : app.store.messages.length ≤ maxUnread) (now : UInt64)
    : (app.writeHome now).isSome = true := by
  obtain ⟨order, same⟩ := summarised
  have sum := unreadCounts_sum order few
  have bound : app.store.messages.countP ThreadMessage.counted < 2 ^ 32 :=
    Nat.lt_of_le_of_lt (List.countP_le_length.trans few) (by decide)
  have total : app.store.totalUnread = some (app.store.messages.countP ThreadMessage.counted) := by
    rw [MessageStore.totalUnread, same, sum]
    exact if_pos bound
  simp [writeHome, total]

/-- The screen does not tell a focus behind the list from one at its end. -/
theorem writeHome_clamped (now : UInt64) (app : App)
    : writeHome now { app with homeFocus := min app.homeFocus (app.store.dialogues.length - 1) }
      = app.writeHome now := by
  simp [writeHome, homeRows, identityLine]

-----------------------------------------------------------------------------------------
-- The marked row
-----------------------------------------------------------------------------------------

/-- The conversations that are marked. -/
def marked (app : App) : List DialogueSummary :=
  (app.homeRows.filter (fun row => row.1 == '>')).map Prod.snd

/-- The place of the marked row. -/
def markedIndex (app : App) : Nat := app.homeRows.findIdx (fun row => row.1 == '>')

/-- Numbered items of one number, by induction on the items. -/
theorem filter_zipIdx {α : Type} (items : List α) (start focus : Nat)
    : (items.zipIdx start).filter (fun item => item.2 == start + focus)
      = (items[focus]?).toList.map (fun item => (item, start + focus)) := by
  induction items generalizing start focus with
  | nil => rfl
  | cons item rest ih =>
      rw [List.zipIdx_cons, List.filter_cons]
      cases focus with
      | zero =>
          have others : (rest.zipIdx (start + 1)).filter (fun item => item.2 == start) = [] := by
            refine List.filter_eq_nil_iff.mpr ?_
            rintro ⟨other, number⟩ listed
            have beyond := (List.mem_zipIdx listed).1
            simp only [beq_iff_eq]
            omega
          simp [others]
      | succ focus =>
          have later := ih (start + 1) focus
          rw [show start + 1 + focus = start + (focus + 1) by omega] at later
          rw [if_neg (by simp), later, List.getElem?_cons_succ]

/-- Exactly one conversation is marked: that of the clamped focus. -/
theorem marked_eq {app : App} {focus : Nat} {d : DialogueSummary}
    (clamped : focus = min app.homeFocus (app.store.dialogues.length - 1))
    (listed : app.store.dialogues[focus]? = some d)
    : app.marked = [d] := by
  have numbered := filter_zipIdx app.store.dialogues 0 focus
  rw [listed, Nat.zero_add] at numbered
  have marks : ((fun row => row.1 == '>') ∘ fun row : DialogueSummary × Nat =>
      (if row.2 = focus then '>' else ' ', row.1)) = fun row => row.2 == focus := by
    funext row
    by_cases here : row.2 = focus <;> simp [here]
  unfold marked homeRows
  rw [← clamped, List.filter_map, marks, numbered]
  rfl

theorem markedIndex_eq (app : App) (nonempty : app.store.dialogues ≠ [])
    : app.markedIndex = min app.homeFocus (app.store.dialogues.length - 1) := by
  have positive := List.length_pos_iff.mpr nonempty
  refine (List.findIdx_eq ?_).mpr ⟨?_, fun i before => ?_⟩
  · simp only [homeRows, List.length_map, List.length_zipIdx]
    omega
  · simp [homeRows]
  · have apart : i ≠ min app.homeFocus (app.store.dialogues.length - 1) := by omega
    simp [homeRows, apart]

end App

end XousAppSignal.Ui
