import Mathlib.Data.List.Induction
import SessionLayer.Proofs.Flood.Window

/-!
# How fair a window is

A window is hit at times that do not go back. Hits of which no closed interval of its length
holds more than the limit are all accepted (`CountingWindow.Counts.accepted_eq_self`). Hits
that come closer are accepted up to twice the limit in any such interval, and not further
(`CountingWindow.inSpan_accepted_le`): the rest of the window that runs when the interval
begins, and one window more, for a third one cannot start before the interval is over.
-/

namespace SessionLayer.CountingWindow

/-- The window after these hits. -/
def after (window : CountingWindow) (hits : List Instant) : CountingWindow :=
  hits.foldl (fun window now => (window.hit now).2) window

/-- Those of these hits that are accepted. -/
def accepted (window : CountingWindow) : List Instant → List Instant
  | [] => []
  | now :: rest =>
    let (within, next) := window.hit now
    if within then now :: next.accepted rest else next.accepted rest

/-- How many of these times lie in the closed interval of a length that begins at `since`. -/
def inSpan (since : Instant) (length : Span) (times : List Instant) : Nat :=
  times.countP fun time => since ≤ time ∧ time ≤ since + length

variable {window : CountingWindow} {hits past : List Instant} {now since : Instant}

theorem accepted_cons (window : CountingWindow) (now : Instant) (rest : List Instant) :
    window.accepted (now :: rest) =
      if (window.hit now).1 then now :: (window.hit now).2.accepted rest
      else (window.hit now).2.accepted rest :=
  rfl

theorem after_concat (window : CountingWindow) (hits : List Instant) (now : Instant) :
    window.after (hits ++ [now]) = ((window.after hits).hit now).2 := by
  rw [after, List.foldl_append]
  rfl

/-! ## What is counted -/

@[simp] theorem limit_after (window : CountingWindow) (hits : List Instant) :
    (window.after hits).limit = window.limit := by
  induction hits using List.reverseRecOn with
  | nil => rfl
  | append_singleton hits now ih => rw [after_concat, limit_hit, ih]

/-- Of hits in order, none comes after the last. -/
theorem le_of_sorted_concat (sorted : (hits ++ [now]).Pairwise (· ≤ ·)) :
    ∀ time ∈ hits ++ [now], time ≤ now := by
  intro time present
  rcases List.mem_append.mp present with earlier | last
  · exact (List.pairwise_append.mp sorted).2.2 time earlier now (List.mem_singleton_self now)
  · exact Nat.le_of_eq (List.mem_singleton.mp last)

theorem counts_after (limit : WindowLimit) (sorted : hits.Pairwise (· ≤ ·)) :
    ((fresh limit).after hits).Counts hits := by
  induction hits using List.reverseRecOn with
  | nil => exact counts_fresh limit []
  | append_singleton hits now ih =>
    rw [after_concat]
    exact (ih (List.pairwise_append.mp sorted).1).hit fun time present =>
      le_of_sorted_concat sorted time (List.mem_append_left _ present)

/-- A window counts no more hits than came within one closed interval of its length. -/
theorem exists_count_after_le (limit : WindowLimit) (sorted : hits.Pairwise (· ≤ ·)) :
    ∃ since, ((fresh limit).after hits).count ≤ inSpan since limit.window hits := by
  rcases List.eq_nil_or_concat hits with rfl | ⟨earlier, now, rfl⟩
  · exact ⟨0, Nat.zero_le _⟩
  rw [List.concat_eq_append] at sorted ⊢
  obtain ⟨start, started⟩ := startedAt_hit ((fresh limit).after earlier) now
  have recent := le_of_startedAt_hit started
  rw [limit_after] at recent
  have counted := (counts_after limit sorted start (by rw [after_concat, started])).2
  refine ⟨start, Nat.le_trans counted (List.countP_mono_left fun time present since => ?_)⟩
  have past := le_of_sorted_concat sorted time present
  exact decide_eq_true ⟨of_decide_eq_true since, Nat.le_trans past recent⟩

/-! ## Hits that are not too many -/

/-- What came lately lies in one interval that ends now. -/
theorem countP_le_inSpan (length : Span) (past : ∀ time ∈ hits, time ≤ now) :
    hits.countP (now - length ≤ ·) ≤ inSpan (now - length) length hits := by
  refine List.countP_mono_left fun time present recent => ?_
  simp only [decide_eq_true_eq] at recent ⊢
  exact ⟨recent, Nat.le_trans (past time present) (Nat.sub_le_iff_le_add.mp (Nat.le_refl _))⟩

/-- If no interval holds more hits than the limit, a window that counted the first of them
accepts all others. -/
theorem Counts.accepted_eq_self (counts : window.Counts past)
    (sorted : (past ++ hits).Pairwise (· ≤ ·))
    (few : ∀ since, inSpan since window.limit.window (past ++ hits) ≤ window.limit.maxCount) :
    window.accepted hits = hits := by
  induction hits generalizing window past with
  | nil => rfl
  | cons now rest ih =>
    have split : past ++ now :: rest = past ++ [now] ++ rest := by simp
    rw [split] at sorted few
    have upTo := le_of_sorted_concat (List.pairwise_append.mp sorted).1
    have before : ∀ time ∈ past, time ≤ now := fun time present =>
      upTo time (List.mem_append_left _ present)
    have within : (window.hit now).1 = true := by
      refine Bool.not_eq_false _ ▸ fun refused => ?_
      have many := Nat.lt_of_lt_of_le (counts.exceeded refused)
        (countP_le_inSpan window.limit.window upTo)
      have more : inSpan (now - window.limit.window) window.limit.window (past ++ [now]) ≤
          inSpan (now - window.limit.window) window.limit.window (past ++ [now] ++ rest) :=
        (List.sublist_append_left _ rest).countP_le
      exact Nat.not_le_of_lt many (Nat.le_trans more (few _))
    have others := ih (counts.hit before) sorted (by simpa only [limit_hit] using few)
    rw [accepted_cons, if_pos within, others]

/-! ## Hits however dense -/

theorem accepted_sublist (window : CountingWindow) (hits : List Instant) :
    (window.accepted hits).Sublist hits := by
  induction hits generalizing window with
  | nil => exact .slnil
  | cons now rest ih =>
    rw [accepted_cons]
    split
    · exact (ih _).cons_cons now
    · exact (ih _).cons now

/-- Nothing that comes after an interval lies in it. -/
theorem inSpan_eq_zero {length : Span} (beyond : ∀ time ∈ hits, since + length < time) :
    inSpan since length hits = 0 :=
  List.countP_eq_zero.mpr fun time present inside =>
    Nat.not_le_of_lt (beyond time present) (of_decide_eq_true inside).2

/-- One hit more, and whether it is accepted. -/
theorem inSpan_accepted_cons (window : CountingWindow) (now : Instant) (rest : List Instant)
    (length : Span) :
    inSpan since length (window.accepted (now :: rest)) =
      (if since ≤ now ∧ now ≤ since + length then (window.hit now).1.toNat else 0) +
        inSpan since length ((window.hit now).2.accepted rest) := by
  rw [accepted_cons]
  cases within : (window.hit now).1 with
  | true =>
    rw [if_pos rfl, inSpan, List.countP_cons, Nat.add_comm]
    simp only [decide_eq_true_eq]
    rfl
  | false =>
    rw [if_neg Bool.false_ne_true, Bool.toNat_false, ite_self, Nat.zero_add]

/-- From the beginning of an interval on, no more is accepted in it than the window allows. -/
theorem inSpan_accepted_le_allowance (window : CountingWindow) (sorted : hits.Pairwise (· ≤ ·))
    (late : ∀ time ∈ hits, since ≤ time) :
    inSpan since window.limit.window (window.accepted hits) ≤ window.allowance since := by
  induction hits generalizing window with
  | nil => exact Nat.zero_le _
  | cons now rest ih =>
    have begun := late now List.mem_cons_self
    rcases Nat.lt_or_ge (since + window.limit.window) now with past | running
    · -- The interval is over, and whatever comes now comes after it.
      rw [inSpan_eq_zero fun time present => ?_]
      · exact Nat.zero_le _
      rcases List.mem_cons.mp ((accepted_sublist window _).subset present) with rfl | later
      · exact past
      · exact Nat.lt_of_lt_of_le past (List.rel_of_pairwise_cons sorted later)
    · have others := ih (window.hit now).2 sorted.of_cons fun time present =>
        late time (List.mem_cons_of_mem _ present)
      rw [limit_hit] at others
      rw [inSpan_accepted_cons, if_pos ⟨begun, running⟩]
      exact Nat.le_trans (Nat.add_le_add_left others _) (allowance_hit begun running)

/-- No interval of the length of the window holds more than twice the limit of what it
accepts. -/
theorem inSpan_accepted_le (window : CountingWindow) (since : Instant)
    (sorted : hits.Pairwise (· ≤ ·)) :
    inSpan since window.limit.window (window.accepted hits) ≤ 2 * window.limit.maxCount := by
  induction hits generalizing window with
  | nil => exact Nat.zero_le _
  | cons now rest ih =>
    rcases Nat.lt_or_ge now since with early | late
    · have others := ih (window.hit now).2 sorted.of_cons
      rw [limit_hit] at others
      rw [inSpan_accepted_cons, if_neg fun inside => Nat.not_le_of_lt early inside.1, Nat.zero_add]
      exact others
    · refine Nat.le_trans (inSpan_accepted_le_allowance window sorted fun time present => ?_)
        (allowance_le window since)
      rcases List.mem_cons.mp present with rfl | later
      · exact late
      · exact Nat.le_trans late (List.rel_of_pairwise_cons sorted later)

/-- A window that is hit at times that do not go back accepts all hits if no closed interval
of its length holds more of them than the limit. However dense they come, no such interval
holds more than twice the limit of those that it accepts. -/
theorem fair_and_bounded (limit : WindowLimit) (sorted : hits.Pairwise (· ≤ ·)) :
    ((∀ since, inSpan since limit.window hits ≤ limit.maxCount) →
      (fresh limit).accepted hits = hits) ∧
    ∀ since, inSpan since limit.window ((fresh limit).accepted hits) ≤ 2 * limit.maxCount := by
  have counted := counts_fresh limit []
  constructor
  · intro few
    exact counted.accepted_eq_self sorted few
  · intro since
    exact inSpan_accepted_le (fresh limit) since sorted

/-- Hits at both ends of each window, at most two within a millisecond. -/
def evenHits : List Instant := [0, 1000, 1001, 2001, 2002]

/-- Hits that crowd where one window ends and the next begins. -/
def crowdedHits : List Instant := [0, 1000, 1001, 1001, 1001]

/-- With a limit of two each millisecond all of the first hits are accepted, and of the
others three within one millisecond. -/
theorem fair_and_bounded_atTheTurn :
    (evenHits.Pairwise (· ≤ ·) ∧ (∀ since, inSpan since 1000 evenHits ≤ 2) ∧
      (fresh ⟨1, 2⟩).accepted evenHits = evenHits) ∧
    crowdedHits.Pairwise (· ≤ ·) ∧
      (fresh ⟨1, 2⟩).accepted crowdedHits = [0, 1000, 1001, 1001] ∧
      inSpan 1000 1000 [0, 1000, 1001, 1001] = 3 ∧
      ∀ since, inSpan since 1000 [0, 1000, 1001, 1001] ≤ 4 := by
  have even : evenHits.Pairwise (· ≤ ·) := by decide
  have crowded : crowdedHits.Pairwise (· ≤ ·) := by decide
  have few (since : Instant) : inSpan since 1000 evenHits ≤ 2 := by
    simp only [inSpan, evenHits, List.countP_cons, List.countP_nil, decide_eq_true_eq]
    grind
  have verdicts : (fresh ⟨1, 2⟩).accepted crowdedHits = [0, 1000, 1001, 1001] := by decide
  refine ⟨⟨even, few, (fair_and_bounded ⟨1, 2⟩ even).1 few⟩, crowded, verdicts, by decide, ?_⟩
  intro since
  have bounded := (fair_and_bounded ⟨1, 2⟩ crowded).2 since
  rw [verdicts] at bounded
  exact bounded

end SessionLayer.CountingWindow
