import AegisOt.Misc.SortedMap

/-!
# Inverse indices

A relation between keys and items is inverted by filing: every item goes under every key it is
related to, in whatever order the pairs come, and a key that is new gets a fresh value first
(`dict.setdefault`). `Indexes` says that a map is the inverse of a relation, and `Indexes.file`
what filing some items under one key adds to the relation. A value may list items in several ways,
each with its own relation. Nothing here names a program.
-/

namespace AegisOt

/-- Two increasing lists with the same members are the same. -/
theorem eq_of_increasing {κ : Type} [LinearOrder κ] {xs ys : List κ} (hx : xs.Pairwise (· < ·))
    (hy : ys.Pairwise (· < ·)) (h : ∀ key, key ∈ xs ↔ key ∈ ys) : xs = ys := by
  have hperm : xs.Perm ys :=
    (List.perm_ext_iff_of_nodup (hx.imp fun hlt => hlt.ne) (hy.imp fun hlt => hlt.ne)).mpr h
  exact hperm.eq_of_pairwise (fun a b _ _ hab hba => absurd hba (lt_asymm hab)) hx hy

namespace SortedMap

variable {κ β γ ρ : Type} [LinearOrder κ]

theorem mem_keys_ofKeys {keys : List κ} {key : κ} : key ∈ (ofKeys keys).keys ↔ key ∈ keys := by
  induction keys with
  | nil => simp [ofKeys, SortedMap.keys, empty]
  | cons first rest ih =>
    rw [mem_keys] at ih ⊢
    change (((ofKeys rest).insert first ()).find? key).isSome ↔ _
    rw [find?_insert, List.mem_cons, ← ih]
    by_cases hfirst : first = key
    · simp [hfirst]
    · simp [hfirst, Ne.symm hfirst]

/-- `m[key] = f(m[key])` for every key. -/
def mapValues (m : SortedMap κ β) (f : β → γ) : SortedMap κ γ where
  entries := m.entries.map fun entry => (entry.1, f entry.2)
  sorted := by
    unfold KeysSorted
    rw [List.pairwise_map]
    exact m.sorted

theorem find?_mapValues (m : SortedMap κ β) (f : β → γ) (key : κ) :
    (m.mapValues f).find? key = (m.find? key).map f := by
  change lookupEntry key (m.entries.map fun entry => (entry.1, f entry.2)) =
    (lookupEntry key m.entries).map f
  induction m.entries with
  | nil => rfl
  | cons entry rest ih =>
    rw [List.map_cons, lookupEntry, lookupEntry]
    by_cases hentry : entry.1 = key
    · rw [if_pos hentry, if_pos hentry]
      rfl
    · rw [if_neg hentry, if_neg hentry]
      exact ih

/-- Maps with the same bindings are the same. -/
theorem ext_find? {m n : SortedMap κ β} (h : ∀ key, m.find? key = n.find? key) : m = n := by
  have hkeys : m.entries.map Prod.fst = n.entries.map Prod.fst := by
    refine eq_of_increasing m.keys_pairwise n.keys_pairwise fun key => ?_
    change key ∈ m.keys ↔ key ∈ n.keys
    rw [mem_keys, mem_keys, h]
  refine ext (List.ext_getElem ?_ ?_)
  · simpa using congrArg List.length hkeys
  · intro i hi hi'
    have hkey : (m.entries[i]).1 = (n.entries[i]).1 := by
      have hget := congrArg (fun keys => keys[i]?) hkeys
      simpa [hi, hi'] using hget
    have hm : m.find? (m.entries[i]).1 = some (m.entries[i]).2 :=
      find?_eq_some.mpr (List.getElem_mem hi)
    have hn : n.find? (n.entries[i]).1 = some (n.entries[i]).2 :=
      find?_eq_some.mpr (List.getElem_mem hi')
    rw [h, hkey, hn] at hm
    exact Prod.ext hkey (Option.some.inj hm).symm

/-- `m.setdefault(key, fresh)`, and a change of the value there. -/
def file (m : SortedMap κ β) (key : κ) (fresh : β) (change : β → β) : SortedMap κ β :=
  m.insert key (change ((m.find? key).getD fresh))

theorem find?_file_self (m : SortedMap κ β) (key : κ) (fresh : β) (change : β → β) :
    (m.file key fresh change).find? key = some (change ((m.find? key).getD fresh)) :=
  find?_insert_self m key _

theorem find?_file_of_ne (m : SortedMap κ β) {key other : κ} (fresh : β) (change : β → β)
    (h : key ≠ other) : (m.file key fresh change).find? other = m.find? other :=
  find?_insert_of_ne m _ h

/-- Writing what a key has changes nothing. -/
theorem insert_eq_self {m : SortedMap κ β} {key : κ} {value : β} (h : m.find? key = some value) :
    m.insert key value = m := by
  refine ext_find? fun other => ?_
  by_cases hother : key = other
  · rw [← hother, find?_insert_self, h]
  · rw [find?_insert_of_ne m value hother]

theorem find?_foldl_insert_of_not_mem {α : Type} {items : List α} {f : α → κ} {g : α → β}
    {m : SortedMap κ β} {key : κ} (h : key ∉ items.map f) :
    (items.foldl (fun m item => m.insert (f item) (g item)) m).find? key = m.find? key := by
  induction items generalizing m with
  | nil => rfl
  | cons first rest ih =>
    rw [List.map_cons, List.mem_cons, not_or] at h
    rw [List.foldl_cons, ih h.2, find?_insert_of_ne m _ (Ne.symm h.1)]

/-- A loop that writes every key once. -/
theorem find?_foldl_insert {α : Type} {items : List α} {f : α → κ} {g : α → β}
    {m : SortedMap κ β} (hnodup : (items.map f).Nodup) {item : α} (h : item ∈ items) :
    (items.foldl (fun m item => m.insert (f item) (g item)) m).find? (f item) =
      some (g item) := by
  induction items generalizing m with
  | nil => cases h
  | cons first rest ih =>
    obtain ⟨hfirst, hrest⟩ := List.nodup_cons.mp hnodup
    rw [List.foldl_cons]
    rcases List.mem_cons.mp h with rfl | h
    · rw [find?_foldl_insert_of_not_mem hfirst, find?_insert_self]
    · exact ih hrest h

/-- A loop that writes the value of each key. -/
theorem find?_foldl_insert_value {keys : List κ} {f : κ → β} {m : SortedMap κ β} {key : κ} :
    (keys.foldl (fun m key => m.insert key (f key)) m).find? key =
      if key ∈ keys then some (f key) else m.find? key := by
  induction keys generalizing m with
  | nil => simp
  | cons first rest ih =>
    rw [List.foldl_cons, ih]
    by_cases hrest : key ∈ rest
    · simp [hrest]
    · by_cases hfirst : key = first
      · simp [hfirst, find?_insert_self]
      · simp [hrest, hfirst, find?_insert_of_ne m _ (Ne.symm hfirst)]

/-- What every value of a map satisfies. -/
def Each (m : SortedMap κ β) (Q : κ → β → Prop) : Prop :=
  ∀ key value, m.find? key = some value → Q key value

theorem each_empty (Q : κ → β → Prop) : (empty : SortedMap κ β).Each Q := by
  intro key value h
  cases h

theorem Each.insert {m : SortedMap κ β} {Q : κ → β → Prop} (h : m.Each Q) {key : κ} {value : β}
    (hvalue : Q key value) : (m.insert key value).Each Q := by
  intro other found hfound
  by_cases hother : key = other
  · subst hother
    rw [find?_insert_self] at hfound
    exact Option.some.inj hfound ▸ hvalue
  · rw [find?_insert_of_ne m value hother] at hfound
    exact h other found hfound

theorem Each.file {m : SortedMap κ β} {Q : κ → β → Prop} (h : m.Each Q) {key : κ} {fresh : β}
    {change : β → β} (hfresh : Q key (change fresh)) (hchange : ∀ value, Q key value →
      Q key (change value)) : (m.file key fresh change).Each Q := by
  apply h.insert
  cases hfound : m.find? key with
  | none => exact hfresh
  | some value => exact hchange value (h key value hfound)

/-- The map is the inverse of a relation: a key is bound if something is related to it, and its
    value lists exactly what is. -/
structure Indexes (m : SortedMap κ β) (Lists : β → ρ → Prop) (R : κ → ρ → Prop) : Prop where
  bound : ∀ key, (m.find? key).isSome ↔ ∃ item, R key item
  lists : ∀ key value, m.find? key = some value → ∀ item, Lists value item ↔ R key item

variable {m : SortedMap κ β} {Lists : β → ρ → Prop} {R R' : κ → ρ → Prop}

theorem indexes_empty : (empty : SortedMap κ β).Indexes Lists fun _ _ => False where
  bound key := by simp
  lists := each_empty _

theorem Indexes.congr (h : m.Indexes Lists R) (hR : ∀ key item, R key item ↔ R' key item) :
    m.Indexes Lists R' where
  bound key := (h.bound key).trans (exists_congr (hR key))
  lists key value hfound item := (h.lists key value hfound item).trans (hR key item)

/-- The map lists an item under a key exactly if they are related. -/
theorem Indexes.exists_lists (h : m.Indexes Lists R) {key : κ} {item : ρ} :
    (∃ value, m.find? key = some value ∧ Lists value item) ↔ R key item := by
  constructor
  · rintro ⟨value, hvalue, hlisted⟩
    exact (h.lists key value hvalue item).mp hlisted
  · intro hR
    obtain ⟨value, hvalue⟩ := Option.isSome_iff_exists.mp ((h.bound key).mpr ⟨item, hR⟩)
    exact ⟨value, hvalue, (h.lists key value hvalue item).mpr hR⟩

/-- Filing some items under a key. -/
theorem Indexes.file (h : m.Indexes Lists R) {S : ρ → Prop} (hsome : ∃ item, S item) {key : κ}
    {fresh : β} {change : β → β} (hfresh : ∀ item, ¬ Lists fresh item)
    (hchange : ∀ value item, Lists (change value) item ↔ Lists value item ∨ S item) :
    (m.file key fresh change).Indexes Lists fun other item =>
      R other item ∨ other = key ∧ S item where
  bound other := by
    by_cases hother : key = other
    · subst hother
      obtain ⟨item, hitem⟩ := hsome
      rw [find?_file_self]
      exact ⟨fun _ => ⟨item, .inr ⟨rfl, hitem⟩⟩, fun _ => rfl⟩
    · rw [find?_file_of_ne m _ _ hother, h.bound]
      refine exists_congr fun item => ?_
      simp [Ne.symm hother]
  lists other value hfound item := by
    by_cases hother : key = other
    · subst hother
      rw [find?_file_self] at hfound
      rw [← Option.some.inj hfound, hchange]
      refine or_congr ?_ ⟨fun hS => ⟨rfl, hS⟩, fun hS => hS.2⟩
      cases hold : m.find? key with
      | none =>
        have hunrelated : ¬ R key item := by
          intro hR
          have hbound := (h.bound key).mpr ⟨item, hR⟩
          rw [hold] at hbound
          cases hbound
        exact ⟨fun hlisted => absurd hlisted (hfresh item), fun hR => absurd hR hunrelated⟩
      | some old => exact h.lists key old hold item
    · rw [find?_file_of_ne m _ _ hother] at hfound
      rw [h.lists other value hfound]
      simp [Ne.symm hother]

/-- Filing some items under each of some keys. -/
theorem Indexes.fileAll (h : m.Indexes Lists R) {S : κ → ρ → Prop} (keys : List κ)
    (hsome : ∀ key ∈ keys, ∃ item, S key item) {fresh : κ → β} {change : κ → β → β}
    (hfresh : ∀ key item, ¬ Lists (fresh key) item)
    (hchange : ∀ key value item, Lists (change key value) item ↔ Lists value item ∨ S key item) :
    (keys.foldl (fun m key => m.file key (fresh key) (change key)) m).Indexes Lists
      fun key item => R key item ∨ key ∈ keys ∧ S key item := by
  induction keys generalizing m R with
  | nil => exact h.congr fun key item => by simp
  | cons first rest ih =>
    obtain ⟨hfirst, hrest⟩ := List.forall_mem_cons.mp hsome
    have hfiled : (m.file first (fresh first) (change first)).Indexes Lists fun key item =>
        R key item ∨ key = first ∧ S first item := h.file hfirst (hfresh first) (hchange first)
    refine (ih hfiled hrest).congr fun key item => ?_
    rw [or_assoc, List.mem_cons]
    refine or_congr_right ?_
    constructor
    · rintro (⟨rfl, hitem⟩ | ⟨hkey, hitem⟩)
      · exact ⟨.inl rfl, hitem⟩
      · exact ⟨.inr hkey, hitem⟩
    · rintro ⟨rfl | hkey, hitem⟩
      · exact .inl ⟨rfl, hitem⟩
      · exact .inr ⟨hkey, hitem⟩

theorem Each.fileAll {Q : κ → β → Prop} (h : m.Each Q) {keys : List κ} {fresh : κ → β}
    {change : κ → β → β}
    (hfresh : ∀ key ∈ keys, Q key (change key (fresh key)))
    (hchange : ∀ key value, Q key value → Q key (change key value)) :
    (keys.foldl (fun m key => m.file key (fresh key) (change key)) m).Each Q := by
  induction keys generalizing m with
  | nil => exact h
  | cons first rest ih =>
    obtain ⟨hfirst, hrest⟩ := List.forall_mem_cons.mp hfresh
    exact ih (h.file hfirst (hchange first)) hrest

/-- Inverses of one relation have the same keys. -/
theorem Indexes.keys_eq {n : SortedMap κ γ} {Lists' : γ → ρ → Prop} (h : m.Indexes Lists R)
    (h' : n.Indexes Lists' R) : m.keys = n.keys := by
  refine eq_of_increasing m.keys_pairwise n.keys_pairwise fun key => ?_
  rw [mem_keys, mem_keys, h.bound, h'.bound]

/-- What one inverse of a relation binds, another binds too. -/
theorem Indexes.partner {n : SortedMap κ γ} {Lists' : γ → ρ → Prop} (h : m.Indexes Lists R)
    (h' : n.Indexes Lists' R) {key : κ} {value : β} (hvalue : m.find? key = some value) :
    ∃ other, n.find? key = some other := by
  apply Option.isSome_iff_exists.mp
  rw [h'.bound, ← h.bound, hvalue]
  rfl

/-- The sorted items of a key are the same in all inverses of a relation. -/
theorem Indexes.sorted_eq {ι : Type} [LinearOrder ι] {n : SortedMap κ γ} {R : κ → ι → Prop}
    {items : β → List ι} {items' : γ → List ι}
    (h : m.Indexes (fun value item => item ∈ items value) R)
    (h' : n.Indexes (fun value item => item ∈ items' value) R) {key : κ} {value : β} {other : γ}
    (hvalue : m.find? key = some value) (hother : n.find? key = some other) :
    (ofKeys (items value)).keys = (ofKeys (items' other)).keys := by
  refine eq_of_increasing (keys_pairwise _) (keys_pairwise _) fun item => ?_
  rw [mem_keys_ofKeys, mem_keys_ofKeys, h.lists key value hvalue, h'.lists key other hother]

theorem Indexes.mapValues_sorted_eq {ι : Type} [LinearOrder ι] {n : SortedMap κ γ}
    {R : κ → ι → Prop} {items : β → List ι} {items' : γ → List ι}
    (h : m.Indexes (fun value item => item ∈ items value) R)
    (h' : n.Indexes (fun value item => item ∈ items' value) R) :
    (m.mapValues fun value => (ofKeys (items value)).keys) =
      n.mapValues fun value => (ofKeys (items' value)).keys := by
  refine ext_find? fun key => ?_
  rw [find?_mapValues, find?_mapValues]
  cases hvalue : m.find? key with
  | none =>
    cases hother : n.find? key with
    | none => rfl
    | some other =>
      obtain ⟨value, hfound⟩ := h'.partner h hother
      rw [hvalue] at hfound
      cases hfound
  | some value =>
    obtain ⟨other, hother⟩ := h.partner h' hvalue
    rw [hother, Option.map_some, Option.map_some, h.sorted_eq h' hvalue hother]

/-- The values may be written in another form. -/
theorem Indexes.mapValues (h : m.Indexes Lists R) {f : β → γ} {Lists' : γ → ρ → Prop}
    (hf : ∀ value item, Lists' (f value) item ↔ Lists value item) :
    (m.mapValues f).Indexes Lists' R where
  bound key := by rw [find?_mapValues, Option.isSome_map, h.bound]
  lists key value hfound item := by
    rw [find?_mapValues] at hfound
    obtain ⟨old, hold, rfl⟩ := Option.map_eq_some_iff.mp hfound
    rw [hf, h.lists key old hold]

end SortedMap

end AegisOt
