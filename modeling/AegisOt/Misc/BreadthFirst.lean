import Mathlib.Data.List.Dedup
import Mathlib.Data.Finset.Card
import Mathlib.Logic.Relation

/-!
# Breadth-first search

The search with a queue over a graph that is given by the neighbours of each node. A step takes
the first node of the queue and enters those of its neighbours that are not reached yet. The
search ends because every node is entered at most once, and where no lookup of neighbours fails
it reaches the nodes that paths from its start lead to, and no others. Nothing here names a
program.
-/

namespace AegisOt

variable {α ε : Type} [DecidableEq α]

/-- The variables of the search. -/
structure Search (α : Type) where
  reached : List α
  queue : List α

namespace Search

/-- A neighbour that is not reached yet is entered. -/
def enter (search : Search α) (neighbor : α) : Search α :=
  if neighbor ∈ search.reached then search
  else ⟨search.reached ++ [neighbor], search.queue ++ [neighbor]⟩

/-- All neighbours in their order. -/
def enterAll (search : Search α) (neighbors : List α) : Search α := neighbors.foldl enter search

/-- What entering neighbours adds. -/
structure Adds (search : Search α) (neighbors new : List α) : Prop where
  nodup : new.Nodup
  fresh : ∀ a ∈ new, a ∉ search.reached
  subset : ∀ a ∈ new, a ∈ neighbors
  covers : ∀ a ∈ neighbors, a ∈ search.reached ∨ a ∈ new

theorem exists_enterAll (search : Search α) (neighbors : List α) :
    ∃ new, search.enterAll neighbors = ⟨search.reached ++ new, search.queue ++ new⟩ ∧
      search.Adds neighbors new := by
  induction neighbors generalizing search with
  | nil =>
    refine ⟨[], ?_, List.nodup_nil, by simp, by simp, by simp⟩
    simp [enterAll]
  | cons neighbor neighbors ih =>
    rw [enterAll, List.foldl_cons, ← enterAll]
    by_cases hreached : neighbor ∈ search.reached
    · rw [enter, if_pos hreached]
      obtain ⟨new, hnew, hadds⟩ := ih search
      refine ⟨new, hnew, hadds.nodup, hadds.fresh, ?_, ?_⟩
      · exact fun a ha => List.mem_cons_of_mem _ (hadds.subset a ha)
      · intro a ha
        rcases List.mem_cons.mp ha with rfl | ha
        · exact .inl hreached
        · exact hadds.covers a ha
    · rw [enter, if_neg hreached]
      obtain ⟨new, hnew, hadds⟩ := ih ⟨search.reached ++ [neighbor], search.queue ++ [neighbor]⟩
      have hfresh : ∀ a ∈ new, a ∉ search.reached ∧ a ≠ neighbor := by
        intro a ha
        have hout := hadds.fresh a ha
        rw [List.mem_append, List.mem_singleton, not_or] at hout
        exact hout
      refine ⟨neighbor :: new, by simpa using hnew, ?_, ?_, ?_, ?_⟩
      · exact List.nodup_cons.mpr ⟨fun hmem => (hfresh neighbor hmem).2 rfl, hadds.nodup⟩
      · intro a ha
        rcases List.mem_cons.mp ha with rfl | ha
        · exact hreached
        · exact (hfresh a ha).1
      · intro a ha
        rcases List.mem_cons.mp ha with rfl | ha
        · exact List.mem_cons_self
        · exact List.mem_cons_of_mem _ (hadds.subset a ha)
      · intro a ha
        rcases List.mem_cons.mp ha with rfl | ha
        · exact .inr List.mem_cons_self
        · rcases hadds.covers a ha with hcovered | hcovered
          · rw [List.mem_append, List.mem_singleton] at hcovered
            rcases hcovered with hold | rfl
            · exact .inl hold
            · exact .inr List.mem_cons_self
          · exact .inr (List.mem_cons_of_mem _ hcovered)

/-- How many nodes are not reached. -/
def unreached (nodes : List α) (search : Search α) : ℕ :=
  (nodes.toFinset \ search.reached.toFinset).card

/-- Nodes that are entered are no longer unreached. -/
theorem unreached_lt {nodes new : List α} {search : Search α} {neighbors queue : List α}
    (hadds : search.Adds neighbors new) (hnodes : ∀ a ∈ neighbors, a ∈ nodes) (hnew : new ≠ []) :
    unreached nodes ⟨search.reached ++ new, queue⟩ < unreached nodes search := by
  obtain ⟨a, ha⟩ := List.exists_mem_of_ne_nil new hnew
  refine Finset.card_lt_card ⟨?_, fun hsubset => ?_⟩
  · intro b hb
    simp only [Finset.mem_sdiff, List.mem_toFinset, List.mem_append, not_or] at hb ⊢
    exact ⟨hb.1, hb.2.1⟩
  · have hmem : a ∈ nodes.toFinset \ search.reached.toFinset := by
      simp only [Finset.mem_sdiff, List.mem_toFinset]
      exact ⟨hnodes a (hadds.subset a ha), hadds.fresh a ha⟩
    have hout := hsubset hmem
    simp only [Finset.mem_sdiff, List.mem_toFinset, List.mem_append, not_or] at hout
    exact hout.2.2 ha

end Search

/-- The search, from a state on. The neighbours of every node are among `nodes`. -/
def breadthFirst (neighbors : α → Except ε (List α)) (nodes : List α)
    (hnodes : ∀ a found, neighbors a = .ok found → ∀ b ∈ found, b ∈ nodes) (search : Search α) :
    Except ε (List α) :=
  match hqueue : search.queue with
  | [] => .ok search.reached
  | current :: rest =>
    match hfound : neighbors current with
    | .error e => .error e
    | .ok found =>
        breadthFirst neighbors nodes hnodes (Search.enterAll ⟨search.reached, rest⟩ found)
termination_by (search.unreached nodes, search.queue.length)
decreasing_by
  obtain ⟨new, hnew, hadds⟩ := Search.exists_enterAll ⟨search.reached, rest⟩ found
  rw [hnew, hqueue]
  by_cases hempty : new = []
  · subst hempty
    rw [List.append_nil, List.append_nil]
    exact Prod.Lex.right _ (Nat.lt_succ_self _)
  · exact Prod.Lex.left _ _ (Search.unreached_lt hadds (hnodes current found hfound) hempty)

/-! ## What the search reaches -/

section

variable {neighbors : α → Except ε (List α)} {nodes : List α}
  (hnodes : ∀ a found, neighbors a = .ok found → ∀ b ∈ found, b ∈ nodes)

/-- An edge of the graph. -/
def Edge (neighbors : α → Except ε (List α)) (a b : α) : Prop :=
  ∃ found, neighbors a = .ok found ∧ b ∈ found

/-- The nodes behind the queue have all their neighbours reached. -/
structure Search.Closed (neighbors : α → Except ε (List α)) (search : Search α) : Prop where
  queued : ∀ a ∈ search.queue, a ∈ search.reached
  closed : ∀ a ∈ search.reached, a ∉ search.queue → ∀ b, Edge neighbors a b → b ∈ search.reached
  nodup : search.reached.Nodup

/-- One step leaves the search closed behind its queue. -/
theorem Search.Closed.step {search : Search α} {current : α} {rest found : List α}
    (h : search.Closed neighbors) (hqueue : search.queue = current :: rest)
    (hfound : neighbors current = .ok found) :
    (Search.enterAll ⟨search.reached, rest⟩ found).Closed neighbors := by
  obtain ⟨new, hnew, hadds⟩ := Search.exists_enterAll ⟨search.reached, rest⟩ found
  rw [hnew]
  refine ⟨?_, ?_, ?_⟩
  · intro a ha
    rcases List.mem_append.mp ha with ha | ha
    · exact List.mem_append_left _ (h.queued a (hqueue ▸ List.mem_cons_of_mem _ ha))
    · exact List.mem_append_right _ ha
  · intro a ha hout b hedge
    rw [List.mem_append, not_or] at hout
    have hreached := (List.mem_append.mp ha).resolve_right hout.2
    by_cases hcurrent : a = current
    · -- The neighbours of the node that leaves the queue were just entered.
      obtain ⟨found', hfound', hb⟩ := hedge
      rw [hcurrent, hfound] at hfound'
      cases hfound'
      exact List.mem_append.mpr (hadds.covers b hb)
    · have hbehind : a ∉ search.queue := by
        rw [hqueue, List.mem_cons, not_or]
        exact ⟨hcurrent, hout.1⟩
      exact List.mem_append_left _ (h.closed a hreached hbehind b hedge)
  · exact List.nodup_append.mpr ⟨h.nodup, hadds.nodup, fun a ha b hb heq =>
      hadds.fresh b hb (heq ▸ ha)⟩

/-- A search in which no lookup fails returns a closed set, of the nodes that were reached before
    and of nodes that edges lead to. -/
theorem exists_breadthFirst {P : α → Prop} {search : Search α} (h : search.Closed neighbors)
    (hP : ∀ a ∈ search.reached, P a) (hedge : ∀ a b, P a → Edge neighbors a b → P b)
    (hok : ∀ a, P a → ∃ found, neighbors a = .ok found) :
    ∃ result, breadthFirst neighbors nodes hnodes search = .ok result ∧ result.Nodup ∧
      (∀ a ∈ search.reached, a ∈ result) ∧ (∀ a ∈ result, P a) ∧
      ∀ a ∈ result, ∀ b, Edge neighbors a b → b ∈ result := by
  fun_induction breadthFirst neighbors nodes hnodes search with
  | case1 search hqueue =>
    refine ⟨search.reached, rfl, h.nodup, fun a ha => ha, hP, fun a ha => ?_⟩
    exact h.closed a ha (by rw [hqueue]; exact List.not_mem_nil)
  | case2 search current rest hqueue e hfound =>
    obtain ⟨found, hfound'⟩ := hok current (hP current (h.queued current (by simp [hqueue])))
    rw [hfound] at hfound'
    cases hfound'
  | case3 search current rest hqueue found hfound ih =>
    obtain ⟨new, hnew, hadds⟩ := Search.exists_enterAll ⟨search.reached, rest⟩ found
    have hcurrent : P current := hP current (h.queued current (by simp [hqueue]))
    have hreached : ∀ a ∈ (Search.enterAll ⟨search.reached, rest⟩ found).reached, P a := by
      rw [hnew]
      intro a ha
      rcases List.mem_append.mp ha with ha | ha
      · exact hP a ha
      · exact hedge current a hcurrent ⟨found, hfound, hadds.subset a ha⟩
    obtain ⟨result, hresult, hnodup, hkept, hall, hclosed⟩ := ih (h.step hqueue hfound) hreached
    refine ⟨result, hresult, hnodup, fun a ha => ?_, hall, hclosed⟩
    refine hkept a ?_
    rw [hnew]
    exact List.mem_append_left _ ha

/-- The search from some nodes reaches what paths from them lead to. -/
theorem mem_breadthFirst {starts : List α} (hstarts : starts.Nodup)
    (hok : ∀ start ∈ starts, ∀ a, Relation.ReflTransGen (Edge neighbors) start a →
      ∃ found, neighbors a = .ok found) :
    ∃ result, breadthFirst neighbors nodes hnodes ⟨starts, starts⟩ = .ok result ∧ result.Nodup ∧
      ∀ a, a ∈ result ↔ ∃ start ∈ starts, Relation.ReflTransGen (Edge neighbors) start a := by
  have hclosed : Search.Closed neighbors ⟨starts, starts⟩ :=
    ⟨fun a ha => ha, fun a ha hout => absurd ha hout, hstarts⟩
  obtain ⟨result, hresult, hnodup, hkept, hsound, hcomplete⟩ := exists_breadthFirst hnodes
    (P := fun a => ∃ start ∈ starts,
      Relation.ReflTransGen (Edge neighbors) start a) hclosed
    (fun a ha => ⟨a, ha, .refl⟩)
    (fun a b ⟨start, hstart, hpath⟩ hab => ⟨start, hstart, hpath.tail hab⟩)
    (fun a ⟨start, hstart, hpath⟩ => hok start hstart a hpath)
  refine ⟨result, hresult, hnodup, fun a => ⟨hsound a, ?_⟩⟩
  rintro ⟨start, hstart, hpath⟩
  induction hpath with
  | refl => exact hkept start hstart
  | tail _ hedge ih => exact hcomplete _ ih _ hedge

end

end AegisOt
