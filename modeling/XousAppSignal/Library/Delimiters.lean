import Mathlib.Data.List.Infix

/-! Searching a list for a delimiter and cutting it there: the first position, the pieces
between delimiters, and what a delimiter whose first item occurs nowhere else determines.
-/

namespace Delimiters

variable {α : Type}

/-- The windows of this length, from left to right. -/
def windows (size : Nat) : List α → List (List α)
  | [] => []
  | item :: rest =>
      if size ≤ rest.length + 1 then (item :: rest).take size :: windows size rest else []

theorem windows_of_short {size : Nat} {items : List α} (short : items.length < size)
    : windows size items = [] := by
  cases items with
  | nil => rfl
  | cons item rest =>
      rw [List.length_cons] at short
      rw [windows, if_neg (by omega)]

/-- Joining pieces takes at least one item for each piece but the first. -/
theorem length_le_length_intercalate {first : α} {more : List α} (pieces : List (List α))
    : pieces.length ≤ (List.intercalate (first :: more) pieces).length + 1 := by
  induction pieces with
  | nil => exact Nat.zero_le _
  | cons piece rest ih =>
      cases rest with
      | nil => simp
      | cons next rest =>
          rw [List.intercalate_cons_cons, List.length_append, List.length_append,
            List.length_cons]
          have one : 1 ≤ (first :: more).length := Nat.succ_le_succ (Nat.zero_le _)
          omega

/-- Pieces each followed by the delimiter are joined pieces with one more delimiter. -/
theorem append_flatMap_eq (delimiter first : List α) (rest : List (List α))
    : first ++ delimiter ++ rest.flatMap (fun piece => piece ++ delimiter)
      = List.intercalate delimiter (first :: rest) ++ delimiter := by
  induction rest generalizing first with
  | nil => simp
  | cons next rest ih =>
      rw [List.flatMap_cons, ih next, List.intercalate_cons_cons]
      simp only [List.append_assoc]

theorem flatMap_intercalate {β : Type} (f : α → List β) (delimiter : List α)
    (pieces : List (List α))
    : (List.intercalate delimiter pieces).flatMap f
      = List.intercalate (delimiter.flatMap f) (pieces.map (fun piece => piece.flatMap f)) := by
  induction pieces with
  | nil => rfl
  | cons piece rest ih =>
      cases rest with
      | nil => simp
      | cons next rest =>
          rw [List.intercalate_cons_cons, List.flatMap_append, List.flatMap_append, ih]
          exact List.intercalate_cons_cons.symm

variable [DecidableEq α]

/-- Where the delimiter first stands. -/
def position (delimiter items : List α) : Option Nat :=
  (windows delimiter.length items).findIdx? (fun window => window == delimiter)

/-- The parts before and after the first delimiter. -/
def splitOnce (delimiter items : List α) : Option (List α × List α) :=
  (position delimiter items).map
    (fun index => (items.take index, items.drop (index + delimiter.length)))

/-- At most `count` pieces; the last one is what is left. -/
def splitn : Nat → List α → List α → List (List α)
  | 0, _, _ => []
  | 1, _, items => [items]
  | count + 2, delimiter, items =>
      match splitOnce delimiter items with
      | none => [items]
      | some (piece, rest) => piece :: splitn (count + 1) delimiter rest

/-- All pieces, of which there are no more than items and one. -/
def split (delimiter items : List α) : List (List α) :=
  splitn (items.length + 1) delimiter items

-----------------------------------------------------------------------------------------
-- The first position
-----------------------------------------------------------------------------------------

theorem position_cons {delimiter : List α} (item : α) (rest : List α)
    : position delimiter (item :: rest)
      = if delimiter <+: item :: rest then some 0
        else (position delimiter rest).map (· + 1) := by
  by_cases room : delimiter.length ≤ rest.length + 1
  · rw [position, windows, if_pos room, List.findIdx?_cons]
    by_cases found : delimiter <+: item :: rest
    · rw [if_pos found, if_pos (beq_iff_eq.mpr (List.prefix_iff_eq_take.mp found).symm)]
    · have other : ¬ ((item :: rest).take delimiter.length == delimiter) = true :=
        fun same => found (List.prefix_iff_eq_take.mpr (beq_iff_eq.mp same).symm)
      rw [if_neg found, if_neg other, position]
  · have absent : ¬ delimiter <+: item :: rest := fun found => room found.length_le
    rw [if_neg absent, position, position, windows_of_short (by rw [List.length_cons]; omega),
      windows_of_short (by omega)]
    rfl

/-- Only a list that contains the delimiter has a position of it, by induction on the list. -/
theorem infix_of_position {delimiter items : List α} {index : Nat}
    (found : position delimiter items = some index)
    : delimiter <:+: items := by
  induction items generalizing index with
  | nil => cases found
  | cons item rest ih =>
      rw [position_cons] at found
      split at found
      · next front => exact front.isInfix
      · obtain ⟨later, foundLater, -⟩ := Option.map_eq_some_iff.mp found
        exact (ih foundLater).trans (List.suffix_cons item rest).isInfix

/-- A front without the delimiter's first item is passed over, by induction on it. -/
theorem position_append {first : α} (more : List α) {front : List α} (clean : first ∉ front)
    (rest : List α)
    : position (first :: more) (front ++ rest)
      = (position (first :: more) rest).map (· + front.length) := by
  induction front with
  | nil => simp
  | cons item front ih =>
      have other : first ≠ item := List.ne_of_not_mem_cons clean
      have absent : ¬ first :: more <+: item :: (front ++ rest) :=
        fun found => other (List.cons_prefix_cons.mp found).1
      rw [List.cons_append, position_cons, if_neg absent,
        ih (List.not_mem_of_not_mem_cons clean), Option.map_map, List.length_cons]
      refine congrArg (fun shift => Option.map shift _) (funext fun index => ?_)
      exact Nat.add_assoc index front.length 1

theorem position_self_append (first : α) (more rest : List α)
    : position (first :: more) (first :: more ++ rest) = some 0 := by
  rw [List.cons_append, position_cons, if_pos]
  exact List.prefix_append (first :: more) rest

/-- The delimiter is found behind a front without its first item. -/
theorem position_of_clean {first : α} {more front : List α} (clean : first ∉ front)
    (rest : List α)
    : position (first :: more) (front ++ (first :: more ++ rest)) = some front.length := by
  rw [position_append _ clean, position_self_append, Option.map_some, Nat.zero_add]

/-- A list without the delimiter's first item does not hold the delimiter. -/
theorem position_eq_none {first : α} {more items : List α} (clean : first ∉ items)
    : position (first :: more) items = none := by
  cases found : position (first :: more) items with
  | none => rfl
  | some index => exact absurd ((infix_of_position found).subset List.mem_cons_self) clean

/-- A delimiter that is not followed by its first item is no doubled delimiter. -/
theorem position_doubled_append {first : α} {more items : List α} (simple : first ∉ more)
    (other : items.head? ≠ some first)
    : position (first :: more ++ first :: more) (first :: more ++ items)
      = (position (first :: more ++ first :: more) items).map
        (· + (first :: more).length) := by
  have absent : ¬ first :: more ++ first :: more <+: first :: more ++ items := by
    intro found
    obtain ⟨rest, same⟩ := (List.prefix_append_right_inj (first :: more)).mp found
    exact other (by rw [← same]; rfl)
  rw [List.cons_append, List.cons_append] at absent ⊢
  rw [position_cons, if_neg absent, position_append _ simple, Option.map_map, List.length_cons]
  rfl

/-- The doubled delimiter is found behind nonempty joined pieces, by induction on them. -/
theorem position_doubled {first : α} (more : List α) {pieces : List (List α)}
    (simple : first ∉ more) (clean : ∀ piece ∈ pieces, piece ≠ [] ∧ first ∉ piece)
    (rest : List α)
    : position (first :: more ++ first :: more)
        (List.intercalate (first :: more) pieces
          ++ (first :: more ++ first :: more ++ rest))
      = some (List.intercalate (first :: more) pieces).length := by
  induction pieces with
  | nil => exact position_self_append first (more ++ first :: more) rest
  | cons piece pieces ih =>
      have cleanPiece := (clean piece List.mem_cons_self).2
      cases pieces with
      | nil =>
          rw [List.intercalate_singleton]
          exact position_of_clean cleanPiece rest
      | cons next pieces =>
          have later := ih fun other listed => clean other (List.mem_cons_of_mem piece listed)
          obtain ⟨filled, cleanNext⟩ := clean next (by simp)
          obtain ⟨item, next, rfl⟩ := List.exists_cons_of_ne_nil filled
          have other : item ≠ first := (List.ne_of_not_mem_cons cleanNext).symm
          rw [List.intercalate_cons_cons, List.append_assoc, List.append_assoc]
          have passed := position_append (more ++ first :: more) cleanPiece
          rw [← List.cons_append] at passed
          rw [passed, position_doubled_append simple, later]
          · simp only [Option.map_some, List.length_append]
            congr 1
            omega
          · rw [List.intercalate_cons_cons_left]
            simpa using other

-----------------------------------------------------------------------------------------
-- Pieces
-----------------------------------------------------------------------------------------

theorem splitOnce_of_clean {first : α} {more front : List α} (clean : first ∉ front)
    (rest : List α)
    : splitOnce (first :: more) (front ++ (first :: more ++ rest)) = some (front, rest) := by
  rw [splitOnce, position_of_clean clean, Option.map_some, List.take_left, ← List.append_assoc,
    ← List.length_append, List.drop_left]

/-- Joined pieces are cut back into these when none has the delimiter's first item, by
induction on the pieces.
-/
theorem splitn_intercalate {first : α} {more : List α} {count : Nat} {pieces : List (List α)}
    (some_piece : pieces ≠ []) (enough : pieces.length ≤ count)
    (clean : ∀ piece ∈ pieces, first ∉ piece)
    : splitn count (first :: more) (List.intercalate (first :: more) pieces) = pieces := by
  induction pieces generalizing count with
  | nil => exact absurd rfl some_piece
  | cons piece rest ih =>
      have cleanPiece := clean piece List.mem_cons_self
      cases rest with
      | nil =>
          have whole : splitOnce (first :: more) piece = none := by
            rw [splitOnce, position_eq_none cleanPiece, Option.map_none]
          rw [List.intercalate_singleton]
          match count, enough with
          | 1, _ => rfl
          | count + 2, _ => rw [splitn, whole]
      | cons next rest =>
          have later := fun other listed => clean other (List.mem_cons_of_mem piece listed)
          rw [List.intercalate_cons_cons, List.append_assoc]
          match count, enough with
          | count + 2, enough =>
              have fits : (next :: rest).length ≤ count + 1 := Nat.le_of_succ_le_succ enough
              simp only [splitn, splitOnce_of_clean cleanPiece,
                ih (List.cons_ne_nil next rest) fits later]

theorem split_intercalate {first : α} {more : List α} {pieces : List (List α)}
    (some_piece : pieces ≠ []) (clean : ∀ piece ∈ pieces, first ∉ piece)
    : split (first :: more) (List.intercalate (first :: more) pieces) = pieces :=
  splitn_intercalate some_piece (length_le_length_intercalate pieces) clean

end Delimiters
