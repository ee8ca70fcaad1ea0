import Mathlib.Data.List.Basic
import Mathlib.Data.List.Induction
import Mathlib.Data.List.Nodup
import Mathlib.Tactic.Common

/-!
# Hash chains

A list of records of which each one names the hash of the record before it, the first one a fixed
genesis. The last hash of such a list commits to the whole list: the rule `Linked.eq_of_lastHash`
needs only that hashes separate the records of the two lists and that none of them is hashed to
the genesis. Nothing here names a program; records and hashes are arbitrary.
-/

namespace AegisOt

namespace HashChain

variable {R H : Type} (previous hash : R → H)

/-- Every record names the hash of the one before it, the first one `start`. -/
def Linked (start : H) : List R → Prop
  | [] => True
  | record :: rest => previous record = start ∧ Linked (hash record) rest

/-- The hash of the last record, or `start` if there is none. -/
def lastHash (start : H) : List R → H
  | [] => start
  | record :: rest => lastHash (hash record) rest

variable {previous hash} {start : H}

@[simp] theorem lastHash_append_singleton (records : List R) (record : R) :
    lastHash hash start (records ++ [record]) = hash record := by
  induction records generalizing start with
  | nil => rfl
  | cons head rest ih => exact ih

@[simp] theorem linked_append_singleton (records : List R) (record : R) :
    Linked previous hash start (records ++ [record]) ↔
      Linked previous hash start records ∧
        previous record = lastHash hash start records := by
  induction records generalizing start with
  | nil => simp [Linked, lastHash]
  | cons head rest ih =>
    rw [List.cons_append, Linked, Linked, ih, and_assoc]
    rfl

/-- Two records that are next to each other. -/
theorem Linked.adjacent {before after : List R} {a b : R}
    (h : Linked previous hash start (before ++ a :: b :: after)) : previous b = hash a := by
  induction before generalizing start with
  | nil => exact h.2.1
  | cons head rest ih => exact ih h.2

/-- In an order of numbers, the record with the next number names the one before it. -/
theorem Linked.previous_of_succ {number : R → ℕ} {records : List R}
    (h : Linked previous hash start records)
    (hnumbers : records.Pairwise (fun a b => number a < number b)) {a b : R} (ha : a ∈ records)
    (hb : b ∈ records) (hsucc : number b = number a + 1) : previous b = hash a := by
  obtain ⟨before, after, rfl⟩ := List.append_of_mem ha
  obtain ⟨-, hafter, hbefore⟩ := List.pairwise_append.mp hnumbers
  obtain ⟨habove, hafter⟩ := List.pairwise_cons.mp hafter
  have hlater : b ∈ after := by
    rcases List.mem_append.mp hb with hb | hb
    · have hless := hbefore b hb a List.mem_cons_self
      omega
    · rcases List.mem_cons.mp hb with rfl | hb
      · omega
      · exact hb
  cases after with
  | nil => cases hlater
  | cons next rest =>
    obtain rfl : b = next := by
      rcases List.mem_cons.mp hlater with rfl | hrest
      · rfl
      · have hfirst := habove next List.mem_cons_self
        have hsecond := (List.pairwise_cons.mp hafter).1 b hrest
        omega
    exact h.adjacent

/-- In an order of numbers, a number stands for one record. -/
theorem eq_of_number {number : R → ℕ} {records : List R}
    (hnumbers : records.Pairwise (fun a b => number a < number b)) {a b : R} (ha : a ∈ records)
    (hb : b ∈ records) (hsame : number a = number b) : a = b := by
  have hnodup : (records.map number).Nodup :=
    List.pairwise_map.mpr (hnumbers.imp (fun hlt => Nat.ne_of_lt hlt))
  exact List.inj_on_of_nodup_map hnodup ha hb hsame

/-- Hashes tell the records of two lists apart, and none of them is the genesis. -/
structure Separates (hash : R → H) (start : H) (left right : List R) : Prop where
  injective : ∀ a ∈ left, ∀ b ∈ right, hash a = hash b → a = b
  ne_start : ∀ a ∈ left ++ right, hash a ≠ start

theorem Separates.mono {left right left' right' : List R} (h : Separates hash start left right)
    (hleft : left' ⊆ left) (hright : right' ⊆ right) : Separates hash start left' right' where
  injective a ha b hb := h.injective a (hleft ha) b (hright hb)
  ne_start a ha := by
    apply h.ne_start
    rw [List.mem_append] at ha ⊢
    exact ha.imp (fun h => hleft h) (fun h => hright h)

/-- A list with records does not end in the genesis. -/
theorem Separates.lastHash_ne {left right : List R} (h : Separates hash start left right)
    (records : List R) (hne : records ≠ []) (hsub : records ⊆ left ++ right) :
    lastHash hash start records ≠ start := by
  obtain ⟨init, record, rfl⟩ := (List.eq_nil_or_concat' records).resolve_left hne
  rw [lastHash_append_singleton]
  exact h.ne_start record (hsub (by simp))

/-- Two linked lists with the same last hash are equal. The induction goes from the last record
    to the first: equal records name the same predecessor. -/
theorem Linked.eq_of_lastHash {left right : List R} (hsep : Separates hash start left right)
    (hleft : Linked previous hash start left) (hright : Linked previous hash start right)
    (hlast : lastHash hash start left = lastHash hash start right) : left = right := by
  induction left using List.reverseRecOn generalizing right with
  | nil =>
    by_contra hne
    exact hsep.lastHash_ne right (Ne.symm hne) (by simp) hlast.symm
  | append_singleton init a ih =>
    rcases List.eq_nil_or_concat' right with rfl | ⟨init', b, rfl⟩
    · exact absurd hlast (hsep.lastHash_ne _ (by simp) (by simp))
    · rw [lastHash_append_singleton, lastHash_append_singleton] at hlast
      rw [linked_append_singleton] at hleft hright
      have hrecord : a = b := hsep.injective a (by simp) b (by simp) hlast
      have hinit : init = init' := by
        apply ih (hsep.mono (by simp) (by simp)) hleft.1 hright.1
        rw [← hleft.2, ← hright.2, hrecord]
      rw [hrecord, hinit]

end HashChain

end AegisOt
