import SessionLayer.Flood.Window

/-!
# What windows let through

A window that is hit at times that do not go back counts only hits that came since it
was started (`CountingWindow.Counts`); hence a hit is refused only if too many came
within the length of the window (`Counts.exceeded`).

The windows do not slide: the end of one and the beginning of the next may lie close
together. `CountingWindow.allowance` bounds how much gets through within one length
from any time on, which is up to twice the limit.
-/

namespace SessionLayer

namespace CountingWindow

variable {window : CountingWindow} {hits : List Instant} {now since : Instant}

theorem hit_of_lapsed (lapsed : window.hasLapsed now = true) :
    window.hit now =
      (decide (1 ≤ window.limit.maxCount), { window with startedAt := some now, count := 1 }) := by
  simp [hit, lapsed]

theorem hit_of_running (running : window.hasLapsed now = false) :
    window.hit now =
      (decide (window.count + 1 ≤ window.limit.maxCount),
        { window with count := window.count + 1 }) := by
  simp [hit, running]

@[simp] theorem limit_hit (window : CountingWindow) (now : Instant) :
    (window.hit now).2.limit = window.limit := by
  cases lapsed : window.hasLapsed now with
  | true => rw [hit_of_lapsed lapsed]
  | false => rw [hit_of_running lapsed]

/-- A window that runs was started, and not longer ago than its length. -/
theorem started_of_running (running : window.hasLapsed now = false) :
    ∃ start, window.startedAt = some start ∧ now - start ≤ window.limit.window := by
  unfold hasLapsed at running
  split at running
  · cases running
  · rename_i start started
    exact ⟨start, started, by simpa using running⟩

/-- A window that was hit was started no longer ago than its length. -/
theorem le_of_startedAt_hit {start : Instant}
    (started : (window.hit now).2.startedAt = some start) : now ≤ start + window.limit.window := by
  cases lapsed : window.hasLapsed now with
  | true =>
    rw [hit_of_lapsed lapsed] at started
    cases started
    exact Nat.le_add_right ..
  | false =>
    rw [hit_of_running lapsed] at started
    obtain ⟨begun, same, recent⟩ := started_of_running lapsed
    cases same.symm.trans started
    exact Nat.sub_le_iff_le_add'.mp recent

theorem startedAt_hit (window : CountingWindow) (now : Instant) :
    ∃ start, (window.hit now).2.startedAt = some start := by
  cases lapsed : window.hasLapsed now with
  | true => exact ⟨now, by rw [hit_of_lapsed lapsed]⟩
  | false =>
    obtain ⟨start, started, -⟩ := started_of_running lapsed
    exact ⟨start, by rw [hit_of_running lapsed, started]⟩

/-! ## Counting -/

/-- All that a window counts are hits that came since it was started. -/
def Counts (window : CountingWindow) (hits : List Instant) : Prop :=
  ∀ start, window.startedAt = some start →
    start ∈ hits ∧ window.count ≤ hits.countP (start ≤ ·)

theorem counts_fresh (limit : WindowLimit) (hits : List Instant) : (fresh limit).Counts hits :=
  fun _ started => by cases started

theorem Counts.hit (counts : window.Counts hits) (past : ∀ time ∈ hits, time ≤ now) :
    (window.hit now).2.Counts (hits ++ [now]) := by
  intro start started
  cases lapsed : window.hasLapsed now with
  | true =>
    rw [hit_of_lapsed lapsed] at started ⊢
    cases started
    refine ⟨List.mem_append_right _ (List.mem_singleton_self _), ?_⟩
    rw [List.countP_append, List.countP_singleton, if_pos (by simp)]
    exact Nat.le_add_left ..
  | false =>
    rw [hit_of_running lapsed] at started ⊢
    obtain ⟨begun, counted⟩ := counts start started
    refine ⟨List.mem_append_left _ begun, ?_⟩
    rw [List.countP_append, List.countP_singleton, if_pos (by simpa using past start begun)]
    exact Nat.succ_le_succ counted

/-- A hit is refused only if more than the limit came within the length of the window. -/
theorem Counts.exceeded (counts : window.Counts hits) (refused : (window.hit now).1 = false) :
    window.limit.maxCount < (hits ++ [now]).countP (now - window.limit.window ≤ ·) := by
  have last : [now].countP (now - window.limit.window ≤ ·) = 1 := by simp
  rw [List.countP_append, last]
  cases lapsed : window.hasLapsed now with
  | true =>
    rw [hit_of_lapsed lapsed, decide_eq_false_iff_not] at refused
    omega
  | false =>
    rw [hit_of_running lapsed, decide_eq_false_iff_not] at refused
    obtain ⟨start, started, recent⟩ := started_of_running lapsed
    have counted := (counts start started).2
    have near : now - window.limit.window ≤ start :=
      Nat.sub_le_iff_le_add.mpr (Nat.sub_le_iff_le_add'.mp recent)
    have within : hits.countP (start ≤ ·) ≤ hits.countP (now - window.limit.window ≤ ·) := by
      refine List.countP_mono_left fun time _ after => ?_
      simp only [decide_eq_true_eq] at after ⊢
      exact Nat.le_trans near after
    omega

/-! ## Letting through -/

/-- How much a window can still let through from `since` on, before its length has
passed: the rest of what it counts now, and one limit more if it may start anew. -/
def allowance (window : CountingWindow) (since : Instant) : Nat :=
  match window.startedAt with
  | none => window.limit.maxCount
  | some start =>
    (window.limit.maxCount - window.count) + if start < since then window.limit.maxCount else 0

theorem allowance_fresh (limit : WindowLimit) (since : Instant) :
    (fresh limit).allowance since = limit.maxCount := rfl

theorem allowance_le (window : CountingWindow) (since : Instant) :
    window.allowance since ≤ 2 * window.limit.maxCount := by
  unfold allowance
  split
  · omega
  · split <;> omega

/-- Every hit that is let through uses up some of the allowance. -/
theorem allowance_hit (after : since ≤ now) (within : now ≤ since + window.limit.window) :
    (window.hit now).1.toNat + (window.hit now).2.allowance since ≤ window.allowance since := by
  have spent (count : Nat) : (decide (count + 1 ≤ window.limit.maxCount)).toNat +
      (window.limit.maxCount - (count + 1)) = window.limit.maxCount - count := by
    by_cases fits : count + 1 ≤ window.limit.maxCount
    · rw [decide_eq_true fits, Bool.toNat_true]
      omega
    · rw [decide_eq_false fits, Bool.toNat_false]
      omega
  cases lapsed : window.hasLapsed now with
  | true =>
    rw [hit_of_lapsed lapsed]
    have anew := spent 0
    simp only [Nat.zero_add, Nat.sub_zero] at anew
    simp only [allowance, Nat.not_lt.mpr after, if_false, Nat.add_zero, anew]
    split
    · exact Nat.le_refl _
    · rename_i start started
      have before : start < since := by
        simp only [hasLapsed, started, decide_eq_true_eq] at lapsed
        have past := Nat.lt_sub_iff_add_lt'.mp lapsed
        exact Nat.lt_of_add_lt_add_right (Nat.lt_of_lt_of_le past within)
      rw [if_pos before]
      exact Nat.le_add_left ..
  | false =>
    rw [hit_of_running lapsed]
    obtain ⟨start, started, -⟩ := started_of_running lapsed
    simp only [allowance, started, ← Nat.add_assoc, spent, Nat.le_refl]

end CountingWindow

end SessionLayer
