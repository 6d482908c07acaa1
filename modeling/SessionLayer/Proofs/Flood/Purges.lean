import SessionLayer.Proofs.Flood.Book

/-!
# Purges that nobody sees

A purge forgets offenses that do not count, bans that have ended and notices to hosts that are
not banned. Nothing of this matters to what is decided later: two books are `SameFrom` a time on
if they agree on whatever counts from then on, a purge leaves a book that is the same from its
time on, and whatever is done with both of two such books is answered the same
(`PenaltyBook.SameFrom.perform`). Purges that are put in between the steps of a history are
therefore not seen in its answers: `PenaltyBook.purges_unseen`.
-/

namespace SessionLayer

/-- What is answered tells what was decided about a host, or how it stands. -/
def PenaltyAct.isShown : PenaltyAct → Bool
  | .offense _ _ | .notice _ _ | .remaining _ _ | .banned _ _ => true
  | .ban _ _ _ | .unban _ | .purge _ => false

/-- A notice is asked for only where the host is banned. -/
def PenaltyAct.isFounded (book : PenaltyBook) : PenaltyAct → Bool
  | .notice host now => book.isBanned host now
  | _ => true

namespace PenaltyBook

variable {book first second third next : PenaltyBook} {host other : Host}
  {clock now later lapse : Instant} {act : PenaltyAct} {acts more : List PenaltyAct}

/-! ## Books that are the same from some time on -/

/-- From this time on both books count the same offenses and the same bans, and they agree on
the notices to whoever is banned. -/
structure SameFrom (clock : Instant) (first second : PenaltyBook) : Prop where
  policy : second.policy = first.policy
  strikes : ∀ host now, clock ≤ now →
    (second.strikes.getD host []).filter (first.counts now) =
      (first.strikes.getD host []).filter (first.counts now)
  bans : ∀ host now, clock ≤ now → second.banRemaining host now = first.banRemaining host now
  notices : ∀ host, first.isBanned host clock = true →
    second.notices.get? host = first.notices.get? host

theorem SameFrom.refl (clock : Instant) (book : PenaltyBook) : book.SameFrom clock book :=
  ⟨rfl, fun _ _ _ => rfl, fun _ _ _ => rfl, fun _ _ => rfl⟩

theorem SameFrom.isBanned (same : first.SameFrom clock second) (onward : clock ≤ now) :
    second.isBanned host now = first.isBanned host now := by
  rw [PenaltyBook.isBanned, same.bans host now onward]
  rfl

theorem SameFrom.symm (same : first.SameFrom clock second) : second.SameFrom clock first where
  policy := same.policy.symm
  strikes host now onward := by rw [counts_congr same.policy, same.strikes host now onward]
  bans host now onward := (same.bans host now onward).symm
  notices host banned :=
    (same.notices host (by rwa [← same.isBanned (Nat.le_refl clock)])).symm

theorem SameFrom.trans (same : first.SameFrom clock second)
    (also : second.SameFrom clock third) : first.SameFrom clock third where
  policy := also.policy.trans same.policy
  strikes host now onward := by
    have known := also.strikes host now onward
    rw [counts_congr same.policy] at known
    exact known.trans (same.strikes host now onward)
  bans host now onward := (also.bans host now onward).trans (same.bans host now onward)
  notices host banned :=
    (also.notices host (by rwa [same.isBanned (Nat.le_refl clock)])).trans
      (same.notices host banned)

theorem SameFrom.of_le (same : first.SameFrom clock second) (onward : clock ≤ now) :
    first.SameFrom now second where
  policy := same.policy
  strikes host later after := same.strikes host later (Nat.le_trans onward after)
  bans host later after := same.bans host later (Nat.le_trans onward after)
  notices host banned := same.notices host (isBanned_of_le onward banned)

/-- A purge leaves a book that is the same from then on. -/
theorem sameFrom_purgeExpired (book : PenaltyBook) (now : Instant) :
    book.SameFrom now (book.purgeExpired now).2 where
  policy := rfl
  strikes host later onward := by
    rw [getD_strikes_purgeExpired, filter_counts_filter onward]
  bans host later onward := banRemaining_purgeExpired book host onward
  notices host banned := by
    obtain ⟨lapse, present, holds⟩ := isBanned_iff.mp banned
    have stays : (book.bans.filter fun _ lapse => now < lapse).contains host = true := by
      simp [Table.contains, Table.get?_filter, present, holds, Option.filter]
    simp only [purgeExpired, Table.get?_filter]
    cases book.notices.get? host <;> simp [Option.filter, stays]

/-! ## What is done with both books -/

theorem SameFrom.barred (same : first.SameFrom clock second) (host : Host) (lapse : Instant) :
    (first.barred host lapse).SameFrom clock (second.barred host lapse) where
  policy := same.policy
  strikes := same.strikes
  bans other now onward := by
    rw [banRemaining_barred, banRemaining_barred, same.bans other now onward]
  notices other banned := by
    rw [PenaltyBook.isBanned, banRemaining_barred] at banned
    simp only [PenaltyBook.barred, Table.get?_erase]
    split
    · rfl
    · rename_i elsewhere
      rw [if_neg elsewhere] at banned
      exact same.notices other banned

theorem SameFrom.cleared (same : first.SameFrom clock second) (host : Host) :
    (first.cleared host).SameFrom clock (second.cleared host) := by
  unfold PenaltyBook.cleared
  rw [same.policy]
  split
  · exact same
  · refine ⟨rfl, fun other now onward => ?_, same.bans, same.notices⟩
    simp only [Table.getD, Table.get?_erase]
    split
    · rfl
    · exact same.strikes other now onward

theorem SameFrom.struck (same : first.SameFrom clock second) (host : Host) :
    (first.struck host clock).SameFrom clock (second.struck host clock) where
  policy := same.policy
  strikes other now onward := by
    have known := same.strikes host clock (Nat.le_refl clock)
    simp only [PenaltyBook.struck, Table.getD, Table.get?_insert]
    split
    · simp only [Table.getD] at known
      rw [counts_congr same.policy, known]
    · exact same.strikes other now onward
  bans := same.bans
  notices := same.notices

theorem SameFrom.unban (same : first.SameFrom clock second) (host : Host) :
    (first.unban host).2.SameFrom clock (second.unban host).2 where
  policy := same.policy
  strikes := same.strikes
  bans other now onward := by
    have known := same.bans other now onward
    simp only [banRemaining, PenaltyBook.unban, Table.get?_erase] at known ⊢
    split
    · rfl
    · exact known
  notices other banned := by
    simp only [PenaltyBook.isBanned, banRemaining, PenaltyBook.unban, Table.get?_erase]
      at banned ⊢
    split
    · rfl
    · rename_i elsewhere
      rw [if_neg elsewhere] at banned
      exact same.notices other banned

theorem SameFrom.bringsBan_iff (same : first.SameFrom clock second) :
    second.BringsBan host clock ↔ first.BringsBan host clock := by
  unfold PenaltyBook.BringsBan
  rw [same.policy, counts_congr same.policy, same.strikes host clock (Nat.le_refl clock)]

/-- A host that is banned is told so at the same times. -/
theorem SameFrom.grantNotice (same : first.SameFrom clock second)
    (banned : first.isBanned host clock = true) :
    (second.grantNotice host clock).1 = (first.grantNotice host clock).1 ∧
      (first.grantNotice host clock).2.SameFrom clock (second.grantNotice host clock).2 := by
  unfold PenaltyBook.grantNotice
  rw [same.notices host banned, same.policy]
  simp only
  split
  · exact ⟨rfl, same⟩
  · refine ⟨rfl, rfl, same.strikes, same.bans, fun other also => ?_⟩
    simp only [Table.get?_insert]
    split
    · rfl
    · exact same.notices other also

/-- What comes of doing something with two books that are the same from that time on. -/
inductive Agree (clock : Instant) (act : PenaltyAct) :
    Except Halt (PenaltyAnswer × PenaltyBook) → Except Halt (PenaltyAnswer × PenaltyBook) → Prop
  | halted (halt : Halt) : Agree clock act (.error halt) (.error halt)
  | done {answer told : PenaltyAnswer} {first second : PenaltyBook} :
    (act.isShown = true → told = answer) → first.SameFrom clock second →
      Agree clock act (.ok (answer, first)) (.ok (told, second))

theorem SameFrom.agree_ban (same : first.SameFrom clock second) (host : Host) (duration : Span)
    (now : Instant) :
    Agree clock act (first.perform (.ban host duration now))
      (second.perform (.ban host duration now)) := by
  rw [PenaltyBook.perform, PenaltyBook.perform]
  by_cases within : now + duration < Instant.bound
  · rw [ban_eq_ok_iff.mpr ⟨within, rfl⟩, ban_eq_ok_iff.mpr ⟨within, rfl⟩]
    exact .done (fun _ => rfl) (same.barred host _)
  · have late := Nat.le_of_not_lt within
    rw [ban_eq_error_iff.mpr ⟨rfl, late⟩, ban_eq_error_iff.mpr ⟨rfl, late⟩]
    exact .halted _

theorem SameFrom.agree_offense (same : first.SameFrom clock second) (host : Host) :
    Agree clock act (first.perform (.offense host clock))
      (second.perform (.offense host clock)) := by
  rw [PenaltyBook.perform, PenaltyBook.perform]
  by_cases brings : first.BringsBan host clock
  · have also := same.bringsBan_iff.mpr brings
    by_cases within : clock + first.policy.banDuration < Instant.bound
    · rw [recordOffense_eq_ok_iff.mpr (.inl ⟨brings, rfl, within, rfl⟩),
        recordOffense_eq_ok_iff.mpr (.inl ⟨also, rfl, by rwa [same.policy], rfl⟩), same.policy]
      exact .done (fun _ => rfl) ((same.cleared host).barred host _)
    · have late := Nat.le_of_not_lt within
      rw [recordOffense_eq_error_iff.mpr ⟨rfl, brings, late⟩,
        recordOffense_eq_error_iff.mpr ⟨rfl, also, by rwa [same.policy]⟩]
      exact .halted _
  · have also := mt same.bringsBan_iff.mp brings
    rw [recordOffense_of_not_bringsBan brings, recordOffense_of_not_bringsBan also]
    exact .done (fun _ => rfl) (same.struck host)

theorem SameFrom.perform (same : first.SameFrom clock second)
    (timed : ∀ now ∈ act.time?, now = clock) (founded : act.isFounded first = true) :
    Agree clock act (first.perform act) (second.perform act) := by
  cases act with
  | offense host now =>
    obtain rfl := timed now rfl
    exact same.agree_offense host
  | ban host duration now => exact same.agree_ban host duration now
  | unban host => exact .done nofun (same.unban host)
  | notice host now =>
    obtain rfl := timed now rfl
    obtain ⟨granted, noted⟩ := same.grantNotice founded
    exact .done (fun _ => congrArg _ granted) noted
  | remaining host now =>
    obtain rfl := timed now rfl
    exact .done (fun _ => congrArg _ (same.bans host now (Nat.le_refl now))) same
  | banned host now =>
    obtain rfl := timed now rfl
    exact .done (fun _ => congrArg _ (same.isBanned (Nat.le_refl now))) same
  | purge now =>
    obtain rfl := timed now rfl
    exact .done nofun (((sameFrom_purgeExpired first now).symm.trans same).trans
      (sameFrom_purgeExpired second now))

/-! ## Purges in between -/

/-- The second history is the first one with purges put in between. -/
inductive Interspersed : List PenaltyAct → List PenaltyAct → Prop
  | nil : Interspersed [] []
  | kept (act : PenaltyAct) {acts more : List PenaltyAct} :
    Interspersed acts more → Interspersed (act :: acts) (act :: more)
  | purged (now : Instant) {acts more : List PenaltyAct} :
    Interspersed acts more → Interspersed acts (.purge now :: more)

/-- All along this history notices are asked for only where the host is banned. -/
def founded (book : PenaltyBook) : List PenaltyAct → Bool
  | [] => true
  | act :: rest =>
    act.isFounded book &&
      match book.perform act with
      | .ok (_, next) => next.founded rest
      | .error _ => true

/-- Everything that a history shows, in order, if it does not halt. -/
def shown (book : PenaltyBook) (acts : List PenaltyAct) : Except Halt PenaltyLog :=
  (book.run acts).map fun ran => ran.1.filter (·.1.isShown)

theorem shown_cons (book : PenaltyBook) (act : PenaltyAct) (rest : List PenaltyAct) :
    book.shown (act :: rest) = (do
      let (answer, next) ← book.perform act
      let log ← next.shown rest
      return if act.isShown then (act, answer) :: log else log) := by
  unfold shown
  rw [run]
  cases book.perform act with
  | error halt => rfl
  | ok result =>
    obtain ⟨answer, next⟩ := result
    simp only [bind, Except.bind, pure, Except.pure]
    cases next.run rest with
    | error halt => rfl
    | ok ran =>
      simp only [Except.map, List.filter_cons]

theorem times_cons_sorted (onward : (times (act :: acts)).Pairwise (· ≤ ·))
    (clocked : ∀ time ∈ times (act :: acts), clock ≤ time) :
    ∃ now, clock ≤ now ∧ (∀ time ∈ act.time?, time = now) ∧
      (times acts).Pairwise (· ≤ ·) ∧ ∀ time ∈ times acts, now ≤ time := by
  rw [times_cons] at onward clocked
  cases timed : act.time? with
  | none =>
    rw [timed] at onward clocked
    exact ⟨clock, Nat.le_refl clock, nofun, onward, clocked⟩
  | some now =>
    rw [timed] at onward clocked
    refine ⟨now, clocked now (List.mem_cons_self ..), ?_, onward.of_cons, ?_⟩
    · rintro _ ⟨⟩
      rfl
    · exact fun time later => List.rel_of_pairwise_cons onward later

/-- A history shows the same with purges put in between. -/
theorem SameFrom.shown_eq (same : first.SameFrom clock second) (inserted : Interspersed acts more)
    (onward : (times more).Pairwise (· ≤ ·)) (clocked : ∀ time ∈ times more, clock ≤ time)
    (founded : first.founded acts = true) : second.shown more = first.shown acts := by
  induction inserted generalizing first second clock with
  | nil => rfl
  | @kept act acts more _ ih =>
    obtain ⟨now, ahead, timed, onward, clocked⟩ := times_cons_sorted onward clocked
    rw [PenaltyBook.founded, Bool.and_eq_true] at founded
    have agree := (same.of_le ahead).perform timed founded.1
    rw [shown_cons, shown_cons]
    generalize first.perform act = done at agree founded
    generalize second.perform act = also at agree
    cases agree with
    | halted halt => rfl
    | done told same =>
      simp only [bind, Except.bind, ih same onward clocked founded.2]
      by_cases shows : act.isShown = true
      · rw [told shows]
      · simp only [if_neg shows]
  | purged now _ ih =>
    -- Only the second book is purged, and stays the same as the first from the purge on.
    obtain ⟨_, ahead, timed, onward, clocked⟩ := times_cons_sorted onward clocked
    obtain rfl := timed now rfl
    have next := ih ((same.of_le ahead).trans (sameFrom_purgeExpired second now)) onward clocked
      founded
    rw [shown_cons, ← next]
    simp only [PenaltyBook.perform, bind, Except.bind]
    cases (second.purgeExpired now).2.shown _ <;> rfl

/-- A purge counts the bans that have ended, among those that are kept. -/
theorem count_purgeExpired (book : PenaltyBook) (now : Instant) :
    (book.purgeExpired now).1 = book.bans.values.countP (· ≤ now) := by
  have ended : book.bans.entries.countP (fun entry => ¬ now < entry.2) =
      book.bans.entries.countP fun entry => entry.2 ≤ now :=
    List.countP_congr fun entry _ => by simp
  have all := book.bans.entries.length_eq_countP_add_countP fun entry => now < entry.2
  have lasting : (book.bans.filter fun _ lapse => now < lapse).entries.length =
      book.bans.entries.countP fun entry => now < entry.2 :=
    List.countP_eq_length_filter.symm
  rw [purgeExpired, Table.size, Table.size, Table.values, List.countP_map, lasting, all]
  simp only [decide_eq_true_eq] at ended ⊢
  rw [Nat.add_sub_cancel_left]
  exact ended

/-- For every book and everything that is done with it at times that do not go back, where
notices are asked for only where the host is banned: However many purges are put in between,
what is answered to offenses, to questions about bans and to requests for a notice stays the
same, and so does the reason for which it may halt. Each purge answers how many of the bans that
are kept when it comes have ended. -/
theorem purges_unseen (inserted : Interspersed acts more)
    (onward : (times more).Pairwise (· ≤ ·)) (founded : book.founded acts = true) :
    book.shown more = book.shown acts ∧
      ∀ log last before now answer after, book.run more = .ok (log, last) →
        log = before ++ (.purge now, answer) :: after →
          ∃ start, book.run (before.map Prod.fst) = .ok (before, start) ∧
            answer = .purged (start.bans.values.countP (· ≤ now)) := by
  refine ⟨(SameFrom.refl 0 book).shown_eq inserted onward (fun _ _ => Nat.zero_le _) founded, ?_⟩
  rintro log last before now answer after ran rfl
  obtain ⟨start, next, led, done, -⟩ := exists_of_log ran
  cases performs_of_perform done
  exact ⟨start, led, congrArg _ (count_purgeExpired start now)⟩

/-- A host is banned and told so, its ban ends, and it is banned and told so again before the
interval between two notices is over. Meanwhile it offends. -/
def bannedAgain : List PenaltyAct :=
  [.ban (.v4 default) 1000 0, .notice (.v4 default) 10, .notice (.v4 default) 20,
    .offense (.v4 default) 30, .banned (.v4 default) 1000, .offense (.v4 default) 1500,
    .ban (.v4 default) 1000 2000, .notice (.v4 default) 2010, .remaining (.v4 default) 2020]

/-- The same with three purges, the second of which finds that the ban has ended. -/
def purgedAgain : List PenaltyAct :=
  [.ban (.v4 default) 1000 0, .notice (.v4 default) 10, .purge 15, .notice (.v4 default) 20,
    .offense (.v4 default) 30, .banned (.v4 default) 1000, .purge 1000,
    .offense (.v4 default) 1500, .ban (.v4 default) 1000 2000, .purge 2005,
    .notice (.v4 default) 2010, .remaining (.v4 default) 2020]

theorem purges_unseen_bannedAgain :
    Interspersed bannedAgain purgedAgain ∧ (times purgedAgain).Pairwise (· ≤ ·) ∧
      (empty {}).founded bannedAgain = true ∧
      (empty {}).shown purgedAgain = (empty {}).shown bannedAgain ∧
      ((empty {}).shown bannedAgain).toOption.map (List.map Prod.snd) =
        some [.flag true, .flag false, .verdict .disconnect, .flag false, .verdict .disconnect,
          .flag true, .remaining (some 980)] := by
  have inserted : Interspersed bannedAgain purgedAgain :=
    .kept _ (.kept _ (.purged _ (.kept _ (.kept _ (.kept _ (.purged _ (.kept _ (.kept _
      (.purged _ (.kept _ (.kept _ .nil)))))))))))
  have onward : (times purgedAgain).Pairwise (· ≤ ·) := by decide
  have founded : (empty {}).founded bannedAgain = true := by decide
  exact ⟨inserted, onward, founded, (purges_unseen inserted onward founded).1, by decide⟩

end PenaltyBook

end SessionLayer
