import Mathlib.Order.Lattice
import Mathlib.Data.List.Forall2
import Mathlib.Data.List.Nodup
import Mathlib.Tactic.Common

/-!
# Finite maps as strictly sorted association lists

A dictionary whose iteration order is always `sorted(keys)` is determined by the strictly
sorted list of its items. `SortedMap` is that list together with its sortedness, so writing
the items out in order loses nothing. The key type is any linear order and the values are
arbitrary.
-/

namespace AegisOt

/-- Insert or overwrite one binding, keeping the keys sorted. -/
def insertSorted {κ β : Type} [LinearOrder κ] (key : κ) (value : β) :
    List (κ × β) → List (κ × β)
  | [] => [(key, value)]
  | entry :: rest =>
      if key < entry.1 then (key, value) :: entry :: rest
      else if key = entry.1 then (key, value) :: rest
      else entry :: insertSorted key value rest

/-- Strictly increasing keys: sorted and without duplicates. -/
def KeysSorted {κ β : Type} [LinearOrder κ] (entries : List (κ × β)) : Prop :=
  entries.Pairwise (fun a b => a.1 < b.1)

instance {κ β : Type} [LinearOrder κ] (entries : List (κ × β)) :
    Decidable (KeysSorted entries) :=
  inferInstanceAs (Decidable (entries.Pairwise _))

/-- First binding of a key in an association list. -/
def lookupEntry {κ β : Type} [DecidableEq κ] (key : κ) : List (κ × β) → Option β
  | [] => none
  | entry :: rest => if entry.1 = key then some entry.2 else lookupEntry key rest

/-- A binding whose key has no other value is the one that is found. -/
theorem lookupEntry_of_unique {κ β : Type} [DecidableEq κ] {key : κ} {value : β}
    {entries : List (κ × β)} (hmem : (key, value) ∈ entries)
    (hunique : ∀ other, (key, other) ∈ entries → other = value) :
    lookupEntry key entries = some value := by
  induction entries with
  | nil => simp at hmem
  | cons entry rest ih =>
    unfold lookupEntry
    split
    · rename_i hk
      exact congrArg some (hunique entry.2 (by rw [← hk]; exact List.mem_cons_self))
    · rename_i hk
      rcases List.mem_cons.mp hmem with rfl | hmem
      · exact absurd rfl hk
      · exact ih hmem fun other hother => hunique other (List.mem_cons_of_mem _ hother)

theorem mem_of_lookupEntry {κ β : Type} [DecidableEq κ] {key : κ} {value : β}
    {entries : List (κ × β)} (h : lookupEntry key entries = some value) :
    (key, value) ∈ entries := by
  induction entries with
  | nil => cases h
  | cons entry rest ih =>
    unfold lookupEntry at h
    split at h
    · rename_i hk
      rw [← hk, ← Option.some.inj h]
      exact List.mem_cons_self
    · exact List.mem_cons_of_mem _ (ih h)

/-- In a dictionary a key has one value, so membership is lookup. -/
theorem lookupEntry_eq_some_of_nodup {κ β : Type} [DecidableEq κ] {entries : List (κ × β)}
    (h : (entries.map Prod.fst).Nodup) {key : κ} {value : β} :
    lookupEntry key entries = some value ↔ (key, value) ∈ entries := by
  constructor
  · exact mem_of_lookupEntry
  · intro hmem
    refine lookupEntry_of_unique hmem fun other hother => ?_
    have hsame := List.inj_on_of_nodup_map h hother hmem rfl
    exact congrArg Prod.snd hsame

theorem lookupEntry_eq_none_iff {κ β : Type} [DecidableEq κ] {key : κ}
    {entries : List (κ × β)} :
    lookupEntry key entries = none ↔ ∀ value, (key, value) ∉ entries := by
  induction entries with
  | nil => simp [lookupEntry]
  | cons entry rest ih =>
    obtain ⟨k, v⟩ := entry
    by_cases hk : k = key
    · subst hk
      rw [lookupEntry, if_pos rfl]
      constructor
      · nofun
      · intro h
        exact absurd List.mem_cons_self (h v)
    · rw [lookupEntry, if_neg hk, ih]
      simp [Ne.symm hk]

section

variable {κ β : Type} [LinearOrder κ]

theorem mem_insertSorted {key : κ} {value : β} {entries : List (κ × β)} {p : κ × β}
    (h : p ∈ insertSorted key value entries) : p = (key, value) ∨ p ∈ entries := by
  induction entries with
  | nil => simpa [insertSorted] using h
  | cons entry rest ih =>
    unfold insertSorted at h
    split at h
    · simpa using h
    · split at h
      · rcases List.mem_cons.mp h with h | h
        · exact Or.inl h
        · exact Or.inr (List.mem_cons_of_mem _ h)
      · rcases List.mem_cons.mp h with h | h
        · exact Or.inr (h ▸ List.mem_cons_self)
        · exact (ih h).imp id (List.mem_cons_of_mem _)

theorem keysSorted_insertSorted (key : κ) (value : β) {entries : List (κ × β)}
    (h : KeysSorted entries) : KeysSorted (insertSorted key value entries) := by
  induction entries with
  | nil => simp [insertSorted, KeysSorted]
  | cons entry rest ih =>
    obtain ⟨hentry, hrest⟩ := List.pairwise_cons.mp h
    unfold insertSorted
    split
    · rename_i hlt
      refine List.pairwise_cons.mpr ⟨?_, h⟩
      intro p hp
      rcases List.mem_cons.mp hp with rfl | hp
      · exact hlt
      · exact lt_trans hlt (hentry p hp)
    · split
      · rename_i heq
        refine List.pairwise_cons.mpr ⟨?_, hrest⟩
        intro p hp
        simpa [heq] using hentry p hp
      · rename_i hnlt hne
        refine List.pairwise_cons.mpr ⟨?_, ih hrest⟩
        intro p hp
        rcases mem_insertSorted hp with rfl | hp
        · exact lt_of_le_of_ne (not_lt.mp hnlt) (Ne.symm hne)
        · exact hentry p hp

theorem lookupEntry_insertSorted (key key' : κ) (value : β) (entries : List (κ × β)) :
    lookupEntry key' (insertSorted key value entries) =
      if key = key' then some value else lookupEntry key' entries := by
  induction entries with
  | nil => simp [insertSorted, lookupEntry]
  | cons entry rest ih =>
    unfold insertSorted
    split
    · simp [lookupEntry]
    · split
      · rename_i heq
        simp only [lookupEntry]
        split <;> simp_all
      · rename_i hne
        simp only [lookupEntry, ih]
        split
        · rename_i hk
          rw [if_neg (by rintro rfl; exact hne hk.symm)]
        · rfl

/-- In a sorted list a key's binding is unique, so membership is lookup. -/
theorem lookupEntry_eq_some {entries : List (κ × β)} (h : KeysSorted entries) {key : κ}
    {value : β} : lookupEntry key entries = some value ↔ (key, value) ∈ entries := by
  induction entries with
  | nil => simp [lookupEntry]
  | cons entry rest ih =>
    obtain ⟨hentry, hrest⟩ := List.pairwise_cons.mp h
    unfold lookupEntry
    split
    · rename_i hk
      constructor
      · intro hv
        rw [← hk, ← Option.some.inj hv]
        exact List.mem_cons_self
      · intro hmem
        rcases List.mem_cons.mp hmem with hp | hp
        · rw [← hp]
        · exact absurd hk (hentry _ hp).ne
    · rename_i hk
      rw [ih hrest, List.mem_cons]
      constructor
      · exact Or.inr
      · rintro (rfl | hp)
        · exact absurd rfl hk
        · exact hp

/-- Overwriting a binding changes one value in place. -/
theorem forall₂_insertSorted {R : β → β → Prop} (hrefl : ∀ b, R b b) {key : κ} {old new : β}
    {entries : List (κ × β)} (h : KeysSorted entries) (hfound : lookupEntry key entries = some old)
    (hrelated : R old new) :
    List.Forall₂ (fun p q => R p.2 q.2) entries (insertSorted key new entries) := by
  have hsame (l : List (κ × β)) : List.Forall₂ (fun p q => R p.2 q.2) l l :=
    List.forall₂_same.mpr fun p _ => hrefl p.2
  induction entries with
  | nil => simp [lookupEntry] at hfound
  | cons entry rest ih =>
    obtain ⟨hentry, hrest⟩ := List.pairwise_cons.mp h
    unfold insertSorted
    by_cases heq : entry.1 = key
    · simp only [lookupEntry, heq, if_true, Option.some.injEq] at hfound
      rw [if_neg (by rw [heq]; exact lt_irrefl key), if_pos heq.symm]
      exact .cons (hfound ▸ hrelated) (hsame rest)
    · simp only [lookupEntry, heq, if_false] at hfound
      have hlater := hentry _ ((lookupEntry_eq_some hrest).mp hfound)
      rw [if_neg (not_lt.mpr hlater.le), if_neg (Ne.symm heq)]
      exact .cons (hrefl _) (ih hrest hfound)

theorem insertSorted_insertSorted (key : κ) (a b : β) (entries : List (κ × β)) :
    insertSorted key b (insertSorted key a entries) = insertSorted key b entries := by
  induction entries with
  | nil => simp [insertSorted]
  | cons entry rest ih =>
    by_cases hlt : key < entry.1
    · simp [insertSorted, hlt]
    · by_cases heq : key = entry.1
      · simp [insertSorted, heq]
      · simp [insertSorted, hlt, heq, ih]

theorem length_insertSorted_le (key : κ) (value : β) (entries : List (κ × β)) :
    (insertSorted key value entries).length ≤ entries.length + 1 := by
  induction entries with
  | nil => simp [insertSorted]
  | cons entry rest ih =>
    unfold insertSorted
    split
    · simp
    · split
      · simp
      · simp only [List.length_cons]
        omega

theorem perm_insertSorted {key : κ} (value : β) {entries : List (κ × β)}
    (hnew : ∀ other, (key, other) ∉ entries) :
    (insertSorted key value entries).Perm ((key, value) :: entries) := by
  induction entries with
  | nil => exact List.Perm.refl _
  | cons entry rest ih =>
    unfold insertSorted
    split
    · exact List.Perm.refl _
    · rw [if_neg]
      · refine ((ih ?_).cons entry).trans (List.Perm.swap _ _ _)
        intro other hmem
        exact hnew other (List.mem_cons_of_mem _ hmem)
      · rintro rfl
        exact hnew entry.2 List.mem_cons_self

/-- A key above all others is inserted behind them. -/
theorem insertSorted_append {key : κ} (value : β) {entries : List (κ × β)}
    (h : ∀ p ∈ entries, p.1 < key) :
    insertSorted key value entries = entries ++ [(key, value)] := by
  induction entries with
  | nil => rfl
  | cons entry rest ih =>
    have hentry := h entry List.mem_cons_self
    rw [insertSorted, if_neg (not_lt.mpr hentry.le), if_neg hentry.ne',
      ih fun p hp => h p (List.mem_cons_of_mem _ hp), List.cons_append]

theorem lookupEntry_eq_none {key : κ} {entries : List (κ × β)} (h : ∀ p ∈ entries, p.1 < key) :
    lookupEntry key entries = none := by
  induction entries with
  | nil => rfl
  | cons entry rest ih =>
    rw [lookupEntry, if_neg (h entry List.mem_cons_self).ne,
      ih fun p hp => h p (List.mem_cons_of_mem _ hp)]

end

/-- A finite map with sorted keys. -/
structure SortedMap (κ β : Type) [LinearOrder κ] where
  entries : List (κ × β)
  sorted : KeysSorted entries

namespace SortedMap

variable {κ β : Type} [LinearOrder κ]

@[ext] theorem ext {m n : SortedMap κ β} (h : m.entries = n.entries) : m = n := by
  cases m; cases n; simp_all

instance [DecidableEq β] : DecidableEq (SortedMap κ β) := fun m n =>
  decidable_of_iff (m.entries = n.entries) ⟨ext, fun h => h ▸ rfl⟩

/-- The map without bindings. -/
def empty : SortedMap κ β := ⟨[], List.Pairwise.nil⟩

/-- `m.get(key)`. -/
def find? (m : SortedMap κ β) (key : κ) : Option β := lookupEntry key m.entries

/-- `m[key] = value` on a copy. -/
def insert (m : SortedMap κ β) (key : κ) (value : β) : SortedMap κ β :=
  ⟨insertSorted key value m.entries, keysSorted_insertSorted key value m.sorted⟩

/-- The values in key order, `[m[key] for key in sorted(m)]`. -/
def values (m : SortedMap κ β) : List β := m.entries.map Prod.snd

/-- The keys in order, `sorted(m)`. -/
def keys (m : SortedMap κ β) : List κ := m.entries.map Prod.fst

/-- `set(keys)`, as a map without values. -/
def ofKeys : List κ → SortedMap κ Unit
  | [] => empty
  | key :: rest => (ofKeys rest).insert key ()

/-- The map of a dictionary's items; the first binding of a key counts. -/
def ofEntries : List (κ × β) → SortedMap κ β
  | [] => empty
  | entry :: rest => (ofEntries rest).insert entry.1 entry.2

/-- `len(m)`. -/
def size (m : SortedMap κ β) : Nat := m.entries.length

@[simp] theorem find?_empty (key : κ) : (empty : SortedMap κ β).find? key = none := rfl

@[simp] theorem values_empty : (empty : SortedMap κ β).values = [] := rfl

theorem find?_insert (m : SortedMap κ β) (key key' : κ) (value : β) :
    (m.insert key value).find? key' = if key = key' then some value else m.find? key' :=
  lookupEntry_insertSorted key key' value m.entries

@[simp] theorem find?_insert_self (m : SortedMap κ β) (key : κ) (value : β) :
    (m.insert key value).find? key = some value := by
  simp [find?_insert]

theorem find?_insert_of_ne (m : SortedMap κ β) {key key' : κ} (value : β) (h : key ≠ key') :
    (m.insert key value).find? key' = m.find? key' := by
  simp [find?_insert, h]

theorem find?_eq_some {m : SortedMap κ β} {key : κ} {value : β} :
    m.find? key = some value ↔ (key, value) ∈ m.entries :=
  lookupEntry_eq_some m.sorted

theorem size_insert_le (m : SortedMap κ β) (key : κ) (value : β) :
    (m.insert key value).size ≤ m.size + 1 :=
  length_insertSorted_le key value m.entries

theorem mem_keys {m : SortedMap κ β} {key : κ} : key ∈ m.keys ↔ (m.find? key).isSome := by
  rw [Option.isSome_iff_exists]
  simp [keys, find?_eq_some]

theorem keys_pairwise (m : SortedMap κ β) : m.keys.Pairwise (· < ·) :=
  List.pairwise_map.mpr m.sorted

/-- The keys after an insertion do not depend on the values. -/
theorem keys_insert_congr {γ : Type} {m : SortedMap κ β} {n : SortedMap κ γ}
    (h : m.keys = n.keys) (key : κ) (value : β) (other : γ) :
    (m.insert key value).keys = (n.insert key other).keys := by
  have hentries {entries : List (κ × β)} {others : List (κ × γ)}
      (hkeys : entries.map Prod.fst = others.map Prod.fst) :
      (insertSorted key value entries).map Prod.fst =
        (insertSorted key other others).map Prod.fst := by
    induction entries generalizing others with
    | nil =>
      obtain rfl := List.map_eq_nil_iff.mp hkeys.symm
      rfl
    | cons entry rest ih =>
      cases others with
      | nil => cases hkeys
      | cons entry' rest' =>
        obtain ⟨hentry, hrest⟩ := List.cons.inj hkeys
        simp only [insertSorted, ← hentry]
        split
        · simp [hentry, hrest]
        · split
          · simp [hrest]
          · simp [hentry, ih hrest]
  exact hentries h

theorem keys_ofEntries (entries : List (κ × β)) :
    (ofEntries entries).keys = (ofKeys (entries.map Prod.fst)).keys := by
  induction entries with
  | nil => rfl
  | cons entry rest ih => exact keys_insert_congr ih entry.1 entry.2 ()

theorem entries_insert_append (m : SortedMap κ β) {key : κ} (value : β)
    (h : ∀ p ∈ m.entries, p.1 < key) : (m.insert key value).entries = m.entries ++ [(key, value)] :=
  insertSorted_append value h

/-- A new binding is one more item. -/
theorem perm_entries_insert {m : SortedMap κ β} {key : κ} (value : β) (hnew : m.find? key = none) :
    (m.insert key value).entries.Perm ((key, value) :: m.entries) :=
  perm_insertSorted value (lookupEntry_eq_none_iff.mp hnew)

/-- The sorted items of a sorted list are the list. -/
theorem entries_ofEntries {entries : List (κ × β)} (h : KeysSorted entries) :
    (ofEntries entries).entries = entries := by
  induction entries with
  | nil => rfl
  | cons entry rest ih =>
    obtain ⟨hfirst, hrest⟩ := List.pairwise_cons.mp h
    change insertSorted entry.1 entry.2 (ofEntries rest).entries = _
    rw [ih hrest]
    cases rest with
    | nil => rfl
    | cons next later => rw [insertSorted, if_pos (hfirst next List.mem_cons_self)]

theorem find?_ofEntries (entries : List (κ × β)) (key : κ) :
    (ofEntries entries).find? key = lookupEntry key entries := by
  induction entries with
  | nil => rfl
  | cons entry rest ih =>
    change ((ofEntries rest).insert entry.1 entry.2).find? key = _
    rw [find?_insert, lookupEntry, ih]

/-- The sorted items of a dictionary are its items. -/
theorem mem_entries_ofEntries {entries : List (κ × β)} (h : (entries.map Prod.fst).Nodup)
    {entry : κ × β} : entry ∈ (ofEntries entries).entries ↔ entry ∈ entries := by
  rw [← find?_eq_some, find?_ofEntries]
  exact lookupEntry_eq_some_of_nodup h

/-- A list that increases strictly is the sorted list of its set. -/
theorem entries_ofKeys {keys : List κ} (h : keys.Pairwise (· < ·)) :
    (ofKeys keys).entries = keys.map (fun key => (key, ())) := by
  induction keys with
  | nil => rfl
  | cons key rest ih =>
    obtain ⟨hfirst, hrest⟩ := List.pairwise_cons.mp h
    change insertSorted key () (ofKeys rest).entries = _
    rw [ih hrest]
    cases rest with
    | nil => rfl
    | cons next later =>
      rw [List.map_cons, insertSorted, if_pos (hfirst next List.mem_cons_self), List.map_cons,
        List.map_cons]

theorem keys_ofKeys {keys : List κ} (h : keys.Pairwise (· < ·)) : (ofKeys keys).keys = keys := by
  rw [SortedMap.keys, entries_ofKeys h, List.map_map]
  exact List.map_id keys

/-- A set is read back from its sorted list. -/
theorem ofKeys_keys (m : SortedMap κ Unit) : ofKeys m.keys = m := by
  refine ext ?_
  rw [entries_ofKeys m.keys_pairwise, keys, List.map_map]
  exact List.map_id m.entries

theorem mem_values {m : SortedMap κ β} {value : β} :
    value ∈ m.values ↔ ∃ key, m.find? key = some value := by
  simp [values, find?_eq_some]

/-- Overwriting a binding by a related one relates the values pairwise. -/
theorem forall₂_values_insert {R : β → β → Prop} (hrefl : ∀ b, R b b) {m : SortedMap κ β}
    {key : κ} {old new : β} (hfound : m.find? key = some old) (hrelated : R old new) :
    List.Forall₂ R m.values (m.insert key new).values :=
  List.forall₂_map_left_iff.mpr (List.forall₂_map_right_iff.mpr
    (forall₂_insertSorted hrefl m.sorted hfound hrelated))

theorem insert_insert (m : SortedMap κ β) (key : κ) (a b : β) :
    (m.insert key a).insert key b = m.insert key b :=
  ext (insertSorted_insertSorted key a b m.entries)

end SortedMap

end AegisOt
