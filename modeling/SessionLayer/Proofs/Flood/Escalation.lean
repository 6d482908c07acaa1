import Mathlib.Data.List.DropRight
import SessionLayer.Proofs.Flood.Book

/-!
# When offenses become a ban

A book keeps the offenses of a host in two places less than complete: an offense forgets the
ones of its host that do not count any more, and a purge those of all hosts. Both forget only
what does not count later either, so `PenaltyBook.Follows` holds: the offenses that are kept
and those of the log since the last ban that they brought agree on what counts. A ban is
therefore brought exactly when the log says so (`PenaltyBook.escalates_by_history`), and it
lasts until something else is decided about the host (`PenaltyBook.isBanned_of_run`).
-/

namespace SessionLayer.PenaltyBook

variable {book next last : PenaltyBook} {policy : PenaltyPolicy} {act : PenaltyAct}
  {acts : List PenaltyAct} {answer : PenaltyAnswer} {log more : PenaltyLog} {host : Host}
  {now later : Instant}

/-! ## What the log says -/

/-- An offense of the host has brought a ban. -/
def escalates (host : Host) : PenaltyAct × PenaltyAnswer → Bool
  | (.offense other _, .verdict (.ban _)) => other = host
  | _ => false

/-- When the host offended. -/
def offense? (host : Host) : PenaltyAct → Option Instant
  | .offense other now => if other = host then some now else none
  | _ => none

/-- When the host offended since the last time that this brought a ban. -/
def offensesSince (host : Host) (log : PenaltyLog) : List Instant :=
  (log.rtakeWhile (escalates host · = false)).filterMap (offense? host ·.1)

/-- Something new is decided about whether the host is banned. -/
def rules (host : Host) : PenaltyAct × PenaltyAnswer → Bool
  | (.ban other _ _, _) | (.unban other, _) => other = host
  | entry => escalates host entry

theorem offensesSince_concat (host : Host) (log : PenaltyLog) (act : PenaltyAct)
    (answer : PenaltyAnswer) :
    offensesSince host (log ++ [(act, answer)]) =
      if escalates host (act, answer) = true then []
      else offensesSince host log ++ (offense? host act).toList := by
  unfold offensesSince
  split
  · rename_i escalated
    rw [List.rtakeWhile_concat_neg _ _ _ (by simpa using escalated), List.filterMap_nil]
  · rename_i calm
    rw [List.rtakeWhile_concat_pos _ _ _ (by simpa using calm), List.filterMap_append]
    rw [List.filterMap_cons, List.filterMap_nil]
    cases offense? host act <;> rfl

/-! ## Offenses -/

/-- What one thing that is done makes of the offenses that count from then on. -/
theorem strikes_of_perform (done : book.perform act = .ok (answer, next))
    (strikes : book.policy.action = .disconnect) (onward : ∀ now ∈ act.time?, now ≤ later) :
    (next.strikes.getD host []).filter (book.counts later) =
      if escalates host (act, answer) = true then []
      else (book.strikes.getD host [] ++ (offense? host act).toList).filter
        (book.counts later) := by
  cases performs_of_perform done with
  | @escalated other now _ =>
    by_cases here : other = host
    · subst here
      simp [escalates, barred, strikes_cleared strikes, Table.getD]
    · have elsewhere := Table.get?_erase_of_ne book.strikes (Ne.symm here)
      simp [escalates, offense?, here, barred, strikes_cleared strikes, Table.getD, elsewhere]
  | @struck other now _ =>
    by_cases here : other = host
    · subst here
      -- The offenses that are forgotten here do not count later either.
      simp [escalates, offense?, PenaltyBook.struck, Table.getD,
        filter_counts_filter (onward now rfl)]
    · have elsewhere := fun times => Table.get?_insert_of_ne book.strikes times (Ne.symm here)
      simp [escalates, offense?, here, PenaltyBook.struck, Table.getD, elsewhere]
  | @purged now =>
    rw [getD_strikes_purgeExpired, filter_counts_filter (onward now rfl)]
    simp [escalates, offense?]
  | barred | unbanned | granted | refused | asked | looked =>
    simp [escalates, offense?, PenaltyBook.barred, unban]

/-- The book keeps as many offenses as count after this log. -/
structure Follows (policy : PenaltyPolicy) (log : PenaltyLog) (book : PenaltyBook) : Prop where
  policy_eq : book.policy = policy
  strikes : policy.action = .disconnect → ∀ host later,
    (∀ time ∈ times (log.map Prod.fst), time ≤ later) →
      (book.strikes.getD host []).filter (book.counts later) =
        (offensesSince host log).filter (book.counts later)

theorem follows_empty (policy : PenaltyPolicy) : (empty policy).Follows policy [] :=
  ⟨rfl, fun _ _ _ _ => rfl⟩

theorem Follows.perform (follows : book.Follows policy log)
    (done : book.perform act = .ok (answer, next)) :
    next.Follows policy (log ++ [(act, answer)]) where
  policy_eq := (policy_of_perform done).trans follows.policy_eq
  strikes := by
    intro action host later onward
    rw [List.map_append, times_append, List.forall_mem_append] at onward
    have known := follows.strikes action host later onward.1
    have now : ∀ now ∈ act.time?, now ≤ later := fun now timed =>
      onward.2 now (by simpa [times] using timed)
    rw [counts_congr (policy_of_perform done),
      strikes_of_perform done (follows.policy_eq ▸ action) now, offensesSince_concat]
    split
    · rfl
    · rw [List.filter_append, List.filter_append, known]

theorem Follows.run (follows : book.Follows policy log) (ran : book.run acts = .ok (more, last)) :
    last.Follows policy (log ++ more) := by
  induction acts generalizing book log more with
  | nil =>
    cases ran
    rwa [List.append_nil]
  | cons act rest ih =>
    obtain ⟨answer, next, later, done, went, rfl⟩ := run_cons_eq_ok.mp ran
    have whole := ih (follows.perform done) went
    rwa [List.append_assoc] at whole

/-- Whether an offense brings a ban, as the log before it says. -/
def BanIsDue (policy : PenaltyPolicy) (host : Host) (log : PenaltyLog) (now : Instant) : Prop :=
  policy.action = .ban ∨
    0 < policy.banAfterDisconnects ∧
      policy.banAfterDisconnects ≤
        (offensesSince host log ++ [now]).countP (now - · ≤ policy.disconnectTracking)

/-- A book that follows the log brings a ban when the log says so. -/
theorem Follows.bringsBan_iff (follows : book.Follows policy log)
    (latest : ∀ time ∈ times (log.map Prod.fst), time ≤ now) :
    book.BringsBan host now ↔ BanIsDue policy host log now := by
  unfold BringsBan BanIsDue
  rw [follows.policy_eq]
  cases action : policy.action with
  | ban => simp
  | disconnect =>
    have counted : (offensesSince host log ++ [now]).countP
          (now - · ≤ policy.disconnectTracking) =
        ((offensesSince host log).filter (book.counts now)).length + 1 := by
      rw [List.countP_append, List.countP_singleton, Nat.sub_self, if_pos (by simp),
        ← follows.policy_eq, List.countP_eq_length_filter]
      rfl
    rw [counted, follows.strikes action host now latest]

/-! ## Bans -/

/-- As long as nothing new is decided about a host, it stays banned for as long as before. -/
theorem isBanned_of_perform (done : book.perform act = .ok (answer, next))
    (unruled : rules host (act, answer) = false) (onward : ∀ now ∈ act.time?, now ≤ later) :
    next.isBanned host later = book.isBanned host later := by
  have of_bans (same : next.bans.get? host = book.bans.get? host) :
      next.isBanned host later = book.isBanned host later := by
    rw [isBanned, banRemaining, same]
    rfl
  cases performs_of_perform done with
  | escalated _ =>
    refine of_bans ?_
    rw [PenaltyBook.barred, Table.get?_insert_of_ne _ _ fun here =>
      of_decide_eq_false unruled here.symm, bans_cleared]
  | barred =>
    exact of_bans (Table.get?_insert_of_ne _ _ fun here => of_decide_eq_false unruled here.symm)
  | unbanned =>
    exact of_bans (Table.get?_erase_of_ne _ fun here => of_decide_eq_false unruled here.symm)
  | @purged now =>
    have same := banRemaining_purgeExpired book host (onward now rfl)
    exact congrArg Option.isSome same
  | struck _ | granted | refused | asked | looked => rfl

theorem isBanned_of_run (ran : book.run acts = .ok (log, last))
    (unruled : ∀ entry ∈ log, rules host entry = false)
    (onward : ∀ time ∈ times acts, time ≤ later) :
    last.isBanned host later = book.isBanned host later := by
  induction acts generalizing book log with
  | nil =>
    cases ran
    rfl
  | cons act rest ih =>
    obtain ⟨answer, next, more, done, went, rfl⟩ := run_cons_eq_ok.mp ran
    rw [times_cons, List.forall_mem_append] at onward
    rw [List.forall_mem_cons] at unruled
    rw [ih went unruled.2 onward.2]
    exact isBanned_of_perform done unruled.1 fun now timed => onward.1 now (by simpa using timed)

/-- A host that has been banned is banned before the end of the ban, and no longer. -/
theorem isBanned_of_escalated {start : PenaltyBook}
    (done : start.perform (.offense host now) =
      .ok (.verdict (.ban start.policy.banDuration), next)) (time : Instant) :
    next.isBanned host time = true ↔ time < now + start.policy.banDuration := by
  cases performs_of_perform done
  rw [isBanned_iff, PenaltyBook.barred]
  simp

/-- For every policy and everything that is done from the start, at times that do not go back,
where each ban that may be brought ends before the clock does: An offense brings a ban if the
policy wants one for every offense, or if the offenses of the host since the last one that
brought a ban, this one included, that are not too far back are as many as bring one. Otherwise
it brings a disconnect. From a ban on, until something new is decided about the host, it is
banned at exactly the times before the end of the ban. -/
theorem escalates_by_history (onward : (times acts).Pairwise (· ≤ ·))
    (fits : ∀ act ∈ acts, act.Fits policy) :
    ∃ log last, (empty policy).run acts = .ok (log, last) ∧ log.map Prod.fst = acts ∧
      ∀ before host now answer after, log = before ++ (.offense host now, answer) :: after →
        (answer = .verdict (.ban policy.banDuration) ↔ BanIsDue policy host before now) ∧
        (answer = .verdict .disconnect ↔ ¬ BanIsDue policy host before now) ∧
        (BanIsDue policy host before now → (∀ entry ∈ after, rules host entry = false) →
          ∀ later, now ≤ later → (∀ time ∈ times (after.map Prod.fst), time ≤ later) →
            (last.isBanned host later = true ↔ later < now + policy.banDuration)) := by
  have within : ∀ act ∈ acts, act.Fits (empty policy).policy := fits
  obtain ⟨log, last, ran⟩ := exists_run within
  have same := map_fst_of_run ran
  refine ⟨log, last, ran, same, ?_⟩
  rintro before host now answer after rfl
  obtain ⟨start, next, led, done, went⟩ := exists_of_log ran
  have follows := (follows_empty policy).run led
  rw [List.nil_append] at follows
  have latest : ∀ time ∈ times (before.map Prod.fst), time ≤ now := by
    rw [← same, List.map_append, times_append, List.map_cons, times_cons] at onward
    exact fun time earlier => (List.pairwise_append.mp onward).2.2 time earlier now
      (List.mem_cons_self ..)
  rw [← follows.bringsBan_iff latest]
  cases performs_of_perform done with
  | escalated brings =>
    refine ⟨by simp [brings, follows.policy_eq], by simp [brings], ?_⟩
    intro _ unruled later _ afterwards
    rw [isBanned_of_run went unruled afterwards, isBanned_of_escalated done, follows.policy_eq]
  | struck few => exact ⟨by simp [few], by simp [few], fun brings => absurd brings few⟩

/-- Two offenses within a millisecond bring a ban of a second. -/
def twice : PenaltyPolicy :=
  { banAfterDisconnects := 2, disconnectTrackingMs := 1, banDurationSecs := 1 }

/-- Offenses of two hosts, and what they bring. The first one of either has lapsed when the
second comes, the third one of the first host comes a millisecond after its second, with a purge
in between, and its fourth is the first one after the ban. -/
def relapse : PenaltyLog :=
  [(.offense (.v4 default) 0, .verdict .disconnect),
    (.offense (.v6 default) 400, .verdict .disconnect),
    (.offense (.v4 default) 1001, .verdict .disconnect), (.purge 1500, .purged 0),
    (.offense (.v4 default) 2001, .verdict (.ban 1000000)),
    (.offense (.v6 default) 2002, .verdict .disconnect),
    (.offense (.v4 default) 2500, .verdict .disconnect), (.notice (.v4 default) 2600, .flag true)]

theorem escalates_by_history_relapse :
    (times (relapse.map Prod.fst)).Pairwise (· ≤ ·) ∧
      (∀ act ∈ relapse.map Prod.fst, act.Fits twice) ∧
      ∃ last, (empty twice).run (relapse.map Prod.fst) = .ok (relapse, last) ∧
        BanIsDue twice (.v4 default) (relapse.take 4) 2001 ∧
        ¬ BanIsDue twice (.v4 default) (relapse.take 6) 2500 ∧
        ∀ later, 2600 ≤ later →
          (last.isBanned (.v4 default) later = true ↔ later < 2001 + 1000000) := by
  have onward : (times (relapse.map Prod.fst)).Pairwise (· ≤ ·) := by decide
  have fits : ∀ act ∈ relapse.map Prod.fst, act.Fits twice := by decide
  obtain ⟨log, last, ran, -, told⟩ := escalates_by_history onward fits
  have written : ((empty twice).run (relapse.map Prod.fst)).toOption.map Prod.fst =
      some relapse := by
    decide
  rw [ran] at written
  obtain rfl : log = relapse := Option.some.inj written
  obtain ⟨banned, -, lasts⟩ := told (relapse.take 4) _ _ _ (relapse.drop 5) rfl
  obtain ⟨-, spared, -⟩ := told (relapse.take 6) _ _ _ (relapse.drop 7) rfl
  have due := banned.mp rfl
  have latest : ∀ time ∈ times ((relapse.drop 5).map Prod.fst), time ≤ 2600 := by decide
  refine ⟨onward, fits, last, ran, due, spared.mp rfl, fun later after => ?_⟩
  exact lasts due (by decide) later (Nat.le_trans (by decide) after) fun time given =>
    Nat.le_trans (latest time given) after

end SessionLayer.PenaltyBook
