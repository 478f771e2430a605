import Mathlib.Algebra.GroupWithZero.Nat
import Mathlib.Data.List.AList

/-! Finite maps of a fixed value type, read through `lookup` and iterated in any order.
The underlying association list keeps an entry order; code that walks a hash map is given
that order explicitly, so a result about every order is a result about every hash seed.
-/

universe u v

/-- A finite map from `κ` to `ν`, with at most one entry per key. -/
abbrev FiniteMap (κ : Type u) (ν : Type v) := AList (fun _ : κ => ν)

/-- A finite set, as the keys of a map without values. -/
abbrev FiniteSet (κ : Type u) := FiniteMap κ Unit

/-- One possible order in which a hash map yields its entries: a rearrangement of them. -/
structure HashOrder where
  arrange : {α : Type} → List α → List α
  perm : ∀ {α : Type} (items : List α), (arrange items).Perm items

namespace HashOrder

/-- The order in which the entries were inserted. -/
def insertion : HashOrder := ⟨id, fun _ => .rfl⟩

/-- The opposite order. -/
def reversed : HashOrder := ⟨List.reverse, List.reverse_perm⟩

@[simp]
theorem mem_arrange (order : HashOrder) {α : Type} {items : List α} {item : α}
    : item ∈ order.arrange items ↔ item ∈ items :=
  (order.perm items).mem_iff

@[simp]
theorem length_arrange (order : HashOrder) {α : Type} (items : List α)
    : (order.arrange items).length = items.length :=
  (order.perm items).length_eq

/-- Rearranging entries cannot repeat a key. -/
theorem nodup_map_arrange (order : HashOrder) {α β : Type} (f : α → β) {items : List α}
    (unique : (items.map f).Nodup)
    : ((order.arrange items).map f).Nodup :=
  ((order.perm items).map f).nodup_iff.mpr unique

end HashOrder

namespace FiniteMap

variable {κ : Type u} {ν : Type v}

/-- The entries of a map as key-value pairs, in the map's own order. -/
def pairs (map : FiniteMap κ ν) : List (κ × ν) :=
  map.entries.map (fun entry => (entry.1, entry.2))

theorem pairs_keys (map : FiniteMap κ ν) : map.pairs.map Prod.fst = map.keys := by
  simp [pairs, AList.keys, List.keys, Function.comp_def]

theorem pairs_keys_nodup (map : FiniteMap κ ν) : (map.pairs.map Prod.fst).Nodup := by
  rw [pairs_keys]
  exact map.keys_nodup

theorem pairs_nodup (map : FiniteMap κ ν) : map.pairs.Nodup :=
  (pairs_keys_nodup map).of_map Prod.fst

variable [DecidableEq κ]

/-- A pair is listed exactly when its key looks up to its value. -/
theorem mem_pairs {map : FiniteMap κ ν} {key : κ} {value : ν}
    : (key, value) ∈ map.pairs ↔ map.lookup key = some value := by
  have listed : (⟨key, value⟩ : Sigma fun _ : κ => ν) ∈ map.entries
      ↔ map.lookup key = some value := AList.mem_lookup_iff.symm
  rw [← listed]
  constructor
  · intro member
    obtain ⟨⟨key', value'⟩, stored, same⟩ := List.mem_map.mp member
    obtain ⟨rfl, rfl⟩ := Prod.mk.inj same
    exact stored
  · intro stored
    exact List.mem_map.mpr ⟨_, stored, rfl⟩

theorem lookup_insert' (key key' : κ) (value : ν) (map : FiniteMap κ ν)
    : (map.insert key' value).lookup key
      = if key = key' then some value else map.lookup key := by
  split
  · next same => rw [same, AList.lookup_insert]
  · next other => rw [AList.lookup_insert_ne other]

theorem lookup_erase' (key key' : κ) (map : FiniteMap κ ν)
    : (map.erase key').lookup key = if key = key' then none else map.lookup key := by
  split
  · next same => rw [same, AList.lookup_erase]
  · next other => rw [AList.lookup_erase_ne other]

/-- Membership is a successful lookup. -/
theorem mem_iff_lookup {key : κ} {map : FiniteMap κ ν}
    : key ∈ map ↔ ∃ value, map.lookup key = some value := by
  rw [← AList.lookup_isSome, Option.isSome_iff_exists]

theorem pairs_insert (key : κ) (value : ν) (map : FiniteMap κ ν)
    : pairs (map.insert key value) = (key, value) :: pairs (map.erase key) := by
  rw [pairs, AList.entries_insert]
  rfl

/-- A present key's pair and the pairs of the other keys are all pairs. -/
theorem pairs_perm_erase {key : κ} {value : ν} {map : FiniteMap κ ν}
    (found : map.lookup key = some value)
    : map.pairs.Perm ((key, value) :: pairs (map.erase key)) := by
  have absent : (key, value) ∉ pairs (map.erase key) := by
    rw [mem_pairs, AList.lookup_erase]
    simp
  refine (List.perm_ext_iff_of_nodup (pairs_nodup map)
    (List.nodup_cons.mpr ⟨absent, pairs_nodup _⟩)).mpr ?_
  rintro ⟨other, stored⟩
  rw [List.mem_cons, mem_pairs, mem_pairs, lookup_erase']
  by_cases same : other = key
  · subst same
    simp [found, eq_comm]
  · simp [same]

theorem pairs_erase_of_absent {key : κ} {map : FiniteMap κ ν} (absent : map.lookup key = none)
    : (pairs (map.erase key)).Perm map.pairs := by
  refine (List.perm_ext_iff_of_nodup (pairs_nodup _) (pairs_nodup map)).mpr ?_
  rintro ⟨other, stored⟩
  rw [mem_pairs, mem_pairs, lookup_erase']
  by_cases same : other = key
  · subst same
    simp [absent]
  · simp [same]

/-- A total of a map's values. -/
def total (size : ν → Nat) (map : FiniteMap κ ν) : Nat :=
  (map.pairs.map (fun pair => size pair.2)).sum

/-- An insertion replaces the key's share of the total. -/
theorem total_insert (size : ν → Nat) (key : κ) (value : ν) (map : FiniteMap κ ν)
    : total size (map.insert key value) + ((map.lookup key).map size).getD 0
      = total size map + size value := by
  have rest : total size (map.insert key value) = size value + total size (map.erase key) := by
    simp [total, pairs_insert]
  cases found : map.lookup key with
  | none =>
      have same : total size (map.erase key) = total size map :=
        ((pairs_erase_of_absent found).map _).sum_nat
      simp only [Option.map_none, Option.getD_none]
      omega
  | some old =>
      have share : total size map = size old + total size (map.erase key) := by
        simpa [total] using ((pairs_perm_erase found).map (fun pair => size pair.2)).sum_nat
      simp only [Option.map_some, Option.getD_some]
      omega

/-- A value's share is part of the total. -/
theorem le_total (size : ν → Nat) {key : κ} {value : ν} {map : FiniteMap κ ν}
    (found : map.lookup key = some value)
    : size value ≤ total size map := by
  have share : total size map = size value + total size (map.erase key) := by
    simpa [total] using ((pairs_perm_erase found).map (fun pair => size pair.2)).sum_nat
  omega

/-- The map restricted to the keys satisfying `keep`. -/
def retain (keep : κ → Bool) (map : FiniteMap κ ν) : FiniteMap κ ν :=
  ⟨map.entries.filter (fun entry => keep entry.1),
    map.nodupKeys.sublist List.filter_sublist⟩

theorem lookup_retain (keep : κ → Bool) (map : FiniteMap κ ν) (key : κ)
    : (map.retain keep).lookup key = if keep key then map.lookup key else none := by
  apply Option.ext
  intro value
  have listed (m : FiniteMap κ ν) : m.lookup key = some value
      ↔ (⟨key, value⟩ : Sigma fun _ : κ => ν) ∈ m.entries := AList.mem_lookup_iff
  rw [listed]
  cases kept : keep key <;> simp [retain, kept, listed]

omit [DecidableEq κ] in
theorem retain_eq_self {keep : κ → Bool} {map : FiniteMap κ ν}
    (all : ∀ key ∈ map, keep key = true)
    : map.retain keep = map := by
  apply AList.ext
  refine List.filter_eq_self.mpr (fun entry listed => all entry.1 ?_)
  exact List.mem_keys_of_mem listed

theorem mem_retain {keep : κ → Bool} {map : FiniteMap κ ν} {key : κ}
    : key ∈ map.retain keep ↔ keep key = true ∧ key ∈ map := by
  simp only [mem_iff_lookup, lookup_retain]
  cases keep key <;> simp

/-- Insert the pairs from left to right. -/
def insertAll (map : FiniteMap κ ν) (items : List (κ × ν)) : FiniteMap κ ν :=
  items.foldl (fun m item => m.insert item.1 item.2) map

/-- Of the inserted values of one key the last one stays, by induction on the pairs. -/
theorem lookup_insertAll {map : FiniteMap κ ν} {items : List (κ × ν)} {key : κ}
    : (map.insertAll items).lookup key
      = ((items.filter (fun item => item.1 = key)).map Prod.snd).getLast?.or (map.lookup key) := by
  induction items generalizing map with
  | nil => rfl
  | cons item rest ih =>
      rw [insertAll, List.foldl_cons, ← insertAll, ih]
      by_cases same : item.1 = key
      · subst same
        rw [List.filter_cons_of_pos (by simp), List.map_cons, List.getLast?_cons,
          AList.lookup_insert]
        cases ((rest.filter (fun other => other.1 = item.1)).map Prod.snd).getLast? <;> rfl
      · rw [List.filter_cons_of_neg (by simpa using same),
          AList.lookup_insert_ne (Ne.symm same)]

/-- A key outside the inserted pairs keeps its value, by induction on the pairs. -/
theorem lookup_insertAll_of_notMem {map : FiniteMap κ ν} {items : List (κ × ν)} {key : κ}
    (absent : key ∉ items.map Prod.fst)
    : (map.insertAll items).lookup key = map.lookup key := by
  induction items generalizing map with
  | nil => rfl
  | cons item rest ih =>
      simp only [List.map_cons, List.mem_cons, not_or] at absent
      rw [insertAll, List.foldl_cons, ← insertAll, ih absent.2,
        AList.lookup_insert_ne absent.1]

/-- Each inserted pair is found afterwards when no key is inserted twice. -/
theorem lookup_insertAll_of_mem {map : FiniteMap κ ν} {items : List (κ × ν)} {key : κ}
    {value : ν} (unique : (items.map Prod.fst).Nodup) (member : (key, value) ∈ items)
    : (map.insertAll items).lookup key = some value := by
  induction items generalizing map with
  | nil => cases member
  | cons item rest ih =>
      simp only [List.map_cons, List.nodup_cons] at unique
      rw [insertAll, List.foldl_cons, ← insertAll]
      rcases List.mem_cons.mp member with rfl | later
      · rw [lookup_insertAll_of_notMem unique.1, AList.lookup_insert]
      · exact ih unique.2 later

/-- A map of pairs with different keys holds exactly these pairs. -/
theorem lookup_insertAll_empty {items : List (κ × ν)} (unique : (items.map Prod.fst).Nodup)
    {key : κ} {value : ν}
    : ((∅ : FiniteMap κ ν).insertAll items).lookup key = some value ↔ (key, value) ∈ items := by
  refine ⟨fun found => ?_, lookup_insertAll_of_mem unique⟩
  by_cases listed : key ∈ items.map Prod.fst
  · obtain ⟨⟨key, stored⟩, member, rfl⟩ := List.mem_map.mp listed
    rw [lookup_insertAll_of_mem unique member] at found
    exact Option.some.inj found ▸ member
  · rw [lookup_insertAll_of_notMem listed, AList.lookup_empty] at found
    cases found

end FiniteMap
