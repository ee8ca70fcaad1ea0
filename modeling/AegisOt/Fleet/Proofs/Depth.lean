import AegisOt.Fleet.Queue

/-!
# The scan of the depth

Both cursors of the scan stand, after a pass, behind everything up to the timestamp of the
pass, because the lists ascend. So the scan compares how many events have arrived with how many
have started, at every instant of an arrival.
-/

namespace AegisOt

section

variable {values : List ℤ} {condition : ℤ → Bool} {cursor : ℕ} {t : ℤ}

theorem passWhile_le (h : cursor ≤ values.length) :
    passWhile condition values cursor ≤ values.length := by
  fun_induction passWhile condition values cursor with
  | case1 cursor hvalue => exact h
  | case2 cursor value hvalue hcondition ih =>
    exact ih (Nat.succ_le_of_lt (List.getElem?_eq_some_iff.mp hvalue).1)
  | case3 cursor value hvalue hcondition => exact h

/-- A cursor that passes what is at most `t`, and stops before what is greater. -/
theorem splitAt_passWhile (hsorted : values.Pairwise (· ≤ ·))
    (hbefore : ∀ item ∈ values.take cursor, item ≤ t)
    (hpass : ∀ item, condition item = true → item ≤ t)
    (hstop : ∀ item ∈ values.drop cursor, condition item = false → t < item) :
    SplitAt values t (passWhile condition values cursor) := by
  fun_induction passWhile condition values cursor with
  | case1 cursor hvalue =>
    refine ⟨hbefore, ?_⟩
    rw [List.drop_eq_nil_of_le (List.getElem?_eq_none_iff.mp hvalue)]
    simp
  | case2 cursor value hvalue hcondition ih =>
    obtain ⟨hcursor, rfl⟩ := List.getElem?_eq_some_iff.mp hvalue
    refine ih (fun item hitem => ?_) (fun item hitem => hstop item ?_)
    · rw [List.take_succ_eq_append_getElem hcursor, List.mem_append,
        List.mem_singleton] at hitem
      rcases hitem with hitem | rfl
      · exact hbefore item hitem
      · exact hpass _ hcondition
    · rw [List.drop_eq_getElem_cons hcursor]
      exact List.mem_cons_of_mem _ hitem
  | case3 cursor value hvalue hcondition =>
    refine ⟨hbefore, fun item hitem => ?_⟩
    have hvalueStops : t < value := by
      refine hstop value ?_ (Bool.eq_false_iff.mpr hcondition)
      obtain ⟨hcursor, rfl⟩ := List.getElem?_eq_some_iff.mp hvalue
      rw [List.drop_eq_getElem_cons hcursor]
      exact List.mem_cons_self
    exact hvalueStops.trans_le (le_of_mem_drop hsorted hvalue hitem)

end

section

variable {arrivals starts : List ℤ}

/-- The events that have arrived at an instant, less those that have started. -/
def depthAt (arrivals starts : List ℤ) (t : ℤ) : ℤ :=
  arrivals.countP (fun arrival => arrival ≤ t) - starts.countP (fun start => start ≤ t)

/-- The scan from its cursors on finds the greatest depth at the arrivals ahead of it. -/
theorem scanDepth_spec (harrivals : arrivals.Pairwise (· ≤ ·))
    (hstarts : starts.Pairwise (· ≤ ·)) (arrivalCursor startCursor : ℕ) (maximum : ℤ)
    (hstarted : startCursor ≤ starts.length)
    (hpassed : ∀ start ∈ starts.take startCursor, ∀ arrival ∈ arrivals.drop arrivalCursor,
      start ≤ arrival) :
    maximum ≤ scanDepth arrivals starts arrivalCursor startCursor maximum ∧
      (∀ arrival ∈ arrivals.drop arrivalCursor, depthAt arrivals starts arrival ≤
        scanDepth arrivals starts arrivalCursor startCursor maximum) ∧
      (scanDepth arrivals starts arrivalCursor startCursor maximum = maximum ∨
        ∃ arrival ∈ arrivals.drop arrivalCursor,
          scanDepth arrivals starts arrivalCursor startCursor maximum =
            depthAt arrivals starts arrival) := by
  fun_induction scanDepth arrivals starts arrivalCursor startCursor maximum with
  | case1 arrivalCursor startCursor maximum hvalue =>
    rw [List.drop_eq_nil_of_le (List.getElem?_eq_none_iff.mp hvalue)]
    simp
  | case2 arrivalCursor startCursor maximum timestamp hvalue arrived started ih =>
    have hhead : timestamp ∈ arrivals.drop arrivalCursor := by
      obtain ⟨hcursor, rfl⟩ := List.getElem?_eq_some_iff.mp hvalue
      rw [List.drop_eq_getElem_cons hcursor]
      exact List.mem_cons_self
    have hcursor : arrivalCursor < arrivals.length := (List.getElem?_eq_some_iff.mp hvalue).1
    have harrivedSplit : SplitAt arrivals timestamp arrived := by
      refine splitAt_passWhile harrivals (fun item hitem => ?_)
        (fun item hitem => (of_decide_eq_true hitem).le) fun item hitem hother => ?_
      · exact le_of_mem_take harrivals hvalue
          ((List.take_subset_take_left arrivals (Nat.le_succ arrivalCursor)) hitem)
      · exact lt_of_le_of_ne (le_of_mem_drop harrivals hvalue hitem)
          (Ne.symm (of_decide_eq_false hother))
    have hstartedSplit : SplitAt starts timestamp started :=
      splitAt_passWhile hstarts (fun item hitem => hpassed item hitem timestamp hhead)
        (fun item hitem => of_decide_eq_true hitem)
        fun item hitem hother => not_le.mp (of_decide_eq_false hother)
    have hdepth : (arrived : ℤ) - started = depthAt arrivals starts timestamp := by
      rw [depthAt, harrivedSplit.countP_eq (passWhile_le hcursor.le),
        hstartedSplit.countP_eq (passWhile_le hstarted)]
    obtain ⟨hmaximum, hahead, hreached⟩ := ih (passWhile_le hstarted) fun start hstart arrival
      harrival => (hstartedSplit.1 start hstart).trans (harrivedSplit.2 arrival harrival).le
    have hhere := le_max_right maximum ((arrived : ℤ) - started)
    rw [hdepth] at hhere hmaximum hreached hahead ⊢
    refine ⟨(le_max_left _ _).trans hmaximum, fun arrival harrival => ?_, ?_⟩
    · -- An arrival ahead is of this timestamp, or ahead of the next cursor.
      by_cases hlater : arrival ≤ timestamp
      · rw [le_antisymm hlater (le_of_mem_drop harrivals hvalue harrival)]
        exact hhere.trans hmaximum
      · refine hahead arrival ?_
        have hmem := List.mem_of_mem_drop harrival
        rw [← List.take_append_drop arrived arrivals] at hmem
        exact (List.mem_append.mp hmem).resolve_left fun h => hlater (harrivedSplit.1 arrival h)
    · rcases hreached with heq | ⟨arrival, harrival, heq⟩
      · rw [heq]
        rcases max_choice maximum (depthAt arrivals starts timestamp) with hmax | hmax
        · exact .inl hmax
        · exact .inr ⟨timestamp, hhead, hmax⟩
      · refine .inr ⟨arrival, ?_, heq⟩
        exact List.drop_subset_drop_left arrivals (le_passWhile _ _ _) harrival

end

end AegisOt
