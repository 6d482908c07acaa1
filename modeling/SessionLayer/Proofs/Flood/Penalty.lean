import SessionLayer.Flood.Penalty
import SessionLayer.Proofs.Data.Table
import SessionLayer.Proofs.Halting

/-!
# What becomes of a book of penalties

A ban replaces the one before it, an offense is added to those that count or brings a ban,
and a notice is written down when it is granted. `PenaltyBook.ban_eq_ok_iff` and
`PenaltyBook.recordOffense_eq_ok_iff` say so as equations between books. Whatever is noted
about one host is not seen at any other (`PenaltyBook.SameBut`), and two books that keep the
same about a host go on to do so (`PenaltyBook.SameAt`).
-/

namespace SessionLayer.PenaltyBook

variable {book next first second : PenaltyBook} {host other : Host} {duration : Span}
  {now : Instant} {verdict : PenaltyVerdict} {halt : Halt}

/-! ## Bans -/

/-- The book once a host is banned until some time. -/
def barred (book : PenaltyBook) (host : Host) (lapse : Instant) : PenaltyBook :=
  { book with bans := book.bans.insert host lapse, notices := book.notices.erase host }

theorem ban_eq_ok_iff :
    book.ban host duration now = .ok next ↔
      now + duration < Instant.bound ∧ next = book.barred host (now + duration) := by
  unfold ban Instant.after barred
  split
  · rename_i within
    simp [bind, Except.bind, pure, Except.pure, within, eq_comm]
  · rename_i late
    simp [bind, Except.bind, late]

/-- A ban has to end before the clock does. -/
theorem ban_eq_error_iff :
    book.ban host duration now = .error halt ↔
      halt = .clockOverflow ∧ Instant.bound ≤ now + duration := by
  unfold ban Instant.after
  split
  · rename_i within
    exact ⟨fun h => (by cases h), fun ⟨_, late⟩ => absurd within (Nat.not_lt_of_le late)⟩
  · rename_i late
    simp [bind, Except.bind, Nat.le_of_not_lt late, eq_comm]

theorem isBanned_iff :
    book.isBanned host now = true ↔ ∃ lapse, book.bans.get? host = some lapse ∧ now < lapse := by
  unfold isBanned banRemaining
  cases book.bans.get? host with
  | none => simp
  | some lapse =>
    by_cases holds : now < lapse <;> simp [holds]

/-- A ban that lasts later lasts now. -/
theorem isBanned_of_le {later : Instant} (onward : now ≤ later)
    (banned : book.isBanned host later = true) : book.isBanned host now = true := by
  obtain ⟨lapse, present, holds⟩ := isBanned_iff.mp banned
  exact isBanned_iff.mpr ⟨lapse, present, Nat.lt_of_le_of_lt onward holds⟩

theorem banRemaining_barred (book : PenaltyBook) (host other : Host) (lapse now : Instant) :
    (book.barred host lapse).banRemaining other now =
      if other = host then (if now < lapse then some (lapse - now) else none)
      else book.banRemaining other now := by
  simp only [banRemaining, barred, Table.get?_insert]
  split <;> rfl

/-- A purge does not change which hosts are banned from then on, and for how long. -/
theorem banRemaining_purgeExpired {later : Instant} (book : PenaltyBook) (host : Host)
    (onward : now ≤ later) :
    (book.purgeExpired now).2.banRemaining host later = book.banRemaining host later := by
  simp only [banRemaining, purgeExpired, Table.get?_filter]
  cases book.bans.get? host with
  | none => rfl
  | some lapse =>
    by_cases holds : now < lapse
    · simp [Option.filter, holds]
    · have ended : ¬ later < lapse := fun lasts => holds (Nat.lt_of_le_of_lt onward lasts)
      simp [Option.filter, holds, ended]

/-! ## Offenses -/

theorem counts_eq_true_iff {offense : Instant} :
    book.counts now offense = true ↔ now - offense ≤ book.policy.disconnectTracking :=
  decide_eq_true_iff

/-- Which offenses count is a matter of the policy. -/
theorem counts_congr (same : second.policy = first.policy) (now : Instant) :
    second.counts now = first.counts now := by
  funext offense
  rw [counts, counts, same]

/-- Of the offenses that count later none is left out by those that count now. -/
theorem filter_counts_filter {later : Instant} (onward : now ≤ later) (offenses : List Instant) :
    (offenses.filter (book.counts now)).filter (book.counts later) =
      offenses.filter (book.counts later) := by
  rw [List.filter_filter]
  refine List.filter_congr fun offense _ => ?_
  rw [Bool.and_eq_left_iff_imp, counts_eq_true_iff, counts_eq_true_iff]
  exact Nat.le_trans (Nat.sub_le_sub_right onward offense)

/-- An offense now brings a ban. -/
def BringsBan (book : PenaltyBook) (host : Host) (now : Instant) : Prop :=
  book.policy.action = .ban ∨
    0 < book.policy.banAfterDisconnects ∧
      book.policy.banAfterDisconnects ≤
        ((book.strikes.getD host []).filter (book.counts now)).length + 1

/-- The book with one more offense of a host. -/
def struck (book : PenaltyBook) (host : Host) (now : Instant) : PenaltyBook :=
  { book with
    strikes :=
      book.strikes.insert host ((book.strikes.getD host []).filter (book.counts now) ++ [now]) }

/-- The book without the offenses that have brought a ban. Where every offense brings one,
none of them is kept in the first place. -/
def cleared (book : PenaltyBook) (host : Host) : PenaltyBook :=
  match book.policy.action with
  | .ban => book
  | .disconnect => { book with strikes := book.strikes.erase host }

@[simp] theorem policy_cleared (book : PenaltyBook) (host : Host) :
    (book.cleared host).policy = book.policy := by
  unfold cleared
  split <;> rfl

@[simp] theorem bans_cleared (book : PenaltyBook) (host : Host) :
    (book.cleared host).bans = book.bans := by
  unfold cleared
  split <;> rfl

@[simp] theorem notices_cleared (book : PenaltyBook) (host : Host) :
    (book.cleared host).notices = book.notices := by
  unfold cleared
  split <;> rfl

theorem strikes_cleared (strikes : book.policy.action = .disconnect) :
    (book.cleared host).strikes = book.strikes.erase host := by
  unfold cleared
  rw [strikes]

theorem recordOffense_of_bringsBan (brings : book.BringsBan host now) :
    book.recordOffense host now = (do
      let next ← (book.cleared host).ban host book.policy.banDuration now
      return (.ban book.policy.banDuration, next)) := by
  unfold recordOffense cleared
  unfold BringsBan at brings
  cases action : book.policy.action with
  | ban => rfl
  | disconnect =>
    have many := brings.resolve_left (by rw [action]; decide)
    simp only [List.length_append, List.length_singleton, if_pos many]

theorem recordOffense_of_not_bringsBan (few : ¬ book.BringsBan host now) :
    book.recordOffense host now = .ok (.disconnect, book.struck host now) := by
  unfold recordOffense
  unfold BringsBan at few
  rw [not_or] at few
  cases action : book.policy.action with
  | ban => exact absurd action few.1
  | disconnect =>
    simp only [List.length_append, List.length_singleton, if_neg few.2]
    rfl

/-- An offense brings a ban from now on, or it is one more strike. -/
theorem recordOffense_eq_ok_iff :
    book.recordOffense host now = .ok (verdict, next) ↔
      (book.BringsBan host now ∧ verdict = .ban book.policy.banDuration ∧
          now + book.policy.banDuration < Instant.bound ∧
          next = (book.cleared host).barred host (now + book.policy.banDuration)) ∨
        (¬ book.BringsBan host now ∧ verdict = .disconnect ∧ next = book.struck host now) := by
  by_cases brings : book.BringsBan host now
  · simp only [recordOffense_of_bringsBan brings, Halt.bind_eq_ok, ban_eq_ok_iff,
      Halt.pure_eq_ok, Prod.mk.injEq, brings, true_and, not_true_eq_false, false_and, or_false]
    constructor
    · rintro ⟨_, ⟨within, rfl⟩, rfl, rfl⟩
      exact ⟨rfl, within, rfl⟩
    · rintro ⟨rfl, within, rfl⟩
      exact ⟨_, ⟨within, rfl⟩, rfl, rfl⟩
  · simp [recordOffense_of_not_bringsBan brings, brings, eq_comm]

theorem recordOffense_eq_error_iff :
    book.recordOffense host now = .error halt ↔
      halt = .clockOverflow ∧ book.BringsBan host now ∧
        Instant.bound ≤ now + book.policy.banDuration := by
  by_cases brings : book.BringsBan host now
  · simp [recordOffense_of_bringsBan brings, Halt.bind_eq_error, ban_eq_error_iff, brings, pure,
      Except.pure]
  · simp [recordOffense_of_not_bringsBan brings, brings]

/-- An offense that ends only the session is one more strike. -/
theorem eq_struck_of_disconnect (h : book.recordOffense host now = .ok (.disconnect, next)) :
    next = book.struck host now := by
  obtain ⟨_, verdict, _⟩ | ⟨_, _, rfl⟩ := recordOffense_eq_ok_iff.mp h
  · cases verdict
  · rfl

/-- An offense that ends only the session leaves the bans alone. -/
theorem bans_of_disconnect (h : book.recordOffense host now = .ok (.disconnect, next)) :
    next.bans = book.bans := by
  rw [eq_struck_of_disconnect h, struck]

/-- An offense that ends only the session leaves the notices alone. -/
theorem notices_of_disconnect (h : book.recordOffense host now = .ok (.disconnect, next)) :
    next.notices = book.notices := by
  rw [eq_struck_of_disconnect h, struck]

/-- Of the offenses of a host a purge keeps those that count. -/
theorem getD_strikes_purgeExpired (book : PenaltyBook) (host : Host) (now : Instant) :
    (book.purgeExpired now).2.strikes.getD host [] =
      (book.strikes.getD host []).filter (book.counts now) := by
  simp only [purgeExpired, countingStrikes, Table.getD, Table.get?_mapValues, Table.get?_filter]
  cases book.strikes.get? host with
  | none => rfl
  | some offenses =>
    by_cases any : offenses.any (book.counts now) = true
    · simp [Option.filter, any]
    · have none : offenses.filter (book.counts now) = [] := by
        simpa [List.filter_eq_nil_iff] using any
      simp [Option.filter, any, none]

/-! ## Notices -/

/-- A notice is granted once the interval after the last one is over. -/
theorem grantNotice_eq_true (h : (book.grantNotice host now).1 = true) :
    (book.grantNotice host now).2 = { book with notices := book.notices.insert host now } ∧
      ∀ last, book.notices.get? host = some last →
        book.policy.banNoticeInterval ≤ now - last := by
  unfold grantNotice at h ⊢
  simp only at h ⊢
  split at h
  · cases h
  · rename_i rested
    rw [if_neg rested]
    refine ⟨rfl, fun last told => ?_⟩
    rw [told] at rested
    simpa using rested

theorem grantNotice_eq_false (h : (book.grantNotice host now).1 = false) :
    (book.grantNotice host now).2 = book := by
  unfold grantNotice at h ⊢
  simp only at h ⊢
  split at h
  · rename_i recently
    rw [if_pos recently]
  · cases h

/-! ## Everything about other hosts -/

/-- What is kept about every host but this one is the same in both books. -/
structure SameBut (host : Host) (first second : PenaltyBook) : Prop where
  policy : second.policy = first.policy
  strikes : ∀ other, other ≠ host → second.strikes.get? other = first.strikes.get? other
  bans : ∀ other, other ≠ host → second.bans.get? other = first.bans.get? other
  notices : ∀ other, other ≠ host → second.notices.get? other = first.notices.get? other

theorem SameBut.refl (host : Host) (book : PenaltyBook) : book.SameBut host book :=
  ⟨rfl, fun _ _ => rfl, fun _ _ => rfl, fun _ _ => rfl⟩

theorem sameBut_barred (book : PenaltyBook) (host : Host) (lapse : Instant) :
    book.SameBut host (book.barred host lapse) :=
  ⟨rfl, fun _ _ => rfl, fun _ other => Table.get?_insert_of_ne _ _ other,
    fun _ other => Table.get?_erase_of_ne _ other⟩

theorem sameBut_ban (h : book.ban host duration now = .ok next) : book.SameBut host next := by
  obtain ⟨_, rfl⟩ := ban_eq_ok_iff.mp h
  exact sameBut_barred book host _

theorem sameBut_unban (book : PenaltyBook) (host : Host) :
    book.SameBut host (book.unban host).2 :=
  ⟨rfl, fun _ _ => rfl, fun _ other => Table.get?_erase_of_ne _ other,
    fun _ other => Table.get?_erase_of_ne _ other⟩

theorem sameBut_grantNotice (book : PenaltyBook) (host : Host) (now : Instant) :
    book.SameBut host (book.grantNotice host now).2 := by
  simp only [grantNotice]
  split
  · exact .refl host book
  · exact ⟨rfl, fun _ _ => rfl, fun _ _ => rfl, fun _ other => Table.get?_insert_of_ne _ _ other⟩

theorem sameBut_recordOffense (h : book.recordOffense host now = .ok (verdict, next)) :
    book.SameBut host next := by
  obtain ⟨_, _, _, rfl⟩ | ⟨_, _, rfl⟩ := recordOffense_eq_ok_iff.mp h
  · have same := sameBut_barred (book.cleared host) host (now + book.policy.banDuration)
    refine ⟨same.policy.trans (by simp), fun other ne => (same.strikes other ne).trans ?_,
      fun other ne => (same.bans other ne).trans (by simp),
      fun other ne => (same.notices other ne).trans (by simp)⟩
    unfold cleared
    split
    · rfl
    · exact Table.get?_erase_of_ne _ ne
  · exact ⟨rfl, fun _ other => Table.get?_insert_of_ne _ _ other, fun _ _ => rfl, fun _ _ => rfl⟩

/-! ## One host in two books -/

/-- Both books keep the same about this host. -/
structure SameAt (host : Host) (first second : PenaltyBook) : Prop where
  policy : second.policy = first.policy
  strikes : second.strikes.get? host = first.strikes.get? host
  bans : second.bans.get? host = first.bans.get? host
  notices : second.notices.get? host = first.notices.get? host

theorem SameAt.banRemaining (same : first.SameAt host second) (now : Instant) :
    second.banRemaining host now = first.banRemaining host now := by
  rw [PenaltyBook.banRemaining, same.bans]
  rfl

/-- What is noted about another host is not seen. -/
theorem SameAt.of_sameBut (same : first.SameAt host second) (elsewhere : other ≠ host)
    (but : first.SameBut other next) : next.SameAt host second where
  policy := same.policy.trans but.policy.symm
  strikes := same.strikes.trans (but.strikes host elsewhere.symm).symm
  bans := same.bans.trans (but.bans host elsewhere.symm).symm
  notices := same.notices.trans (but.notices host elsewhere.symm).symm

theorem SameAt.barred (same : first.SameAt host second) (lapse : Instant) :
    (first.barred host lapse).SameAt host (second.barred host lapse) :=
  ⟨same.policy, same.strikes, by simp [PenaltyBook.barred], by simp [PenaltyBook.barred]⟩

theorem SameAt.ban (same : first.SameAt host second)
    (h : first.ban host duration now = .ok next) :
    ∃ image, second.ban host duration now = .ok image ∧ next.SameAt host image := by
  obtain ⟨within, rfl⟩ := ban_eq_ok_iff.mp h
  exact ⟨_, ban_eq_ok_iff.mpr ⟨within, rfl⟩, same.barred _⟩

theorem SameAt.unban (same : first.SameAt host second) :
    (second.unban host).1 = (first.unban host).1 ∧
      (first.unban host).2.SameAt host (second.unban host).2 := by
  refine ⟨?_, same.policy, same.strikes, ?_, ?_⟩
  · simp only [PenaltyBook.unban, Table.contains, same.bans]
  · simp [PenaltyBook.unban]
  · simp [PenaltyBook.unban]

theorem SameAt.grantNotice (same : first.SameAt host second) (now : Instant) :
    (second.grantNotice host now).1 = (first.grantNotice host now).1 ∧
      (first.grantNotice host now).2.SameAt host (second.grantNotice host now).2 := by
  unfold PenaltyBook.grantNotice
  rw [same.notices, same.policy]
  simp only
  split
  · exact ⟨rfl, same⟩
  · exact ⟨rfl, rfl, same.strikes, same.bans, by simp⟩

theorem SameAt.bringsBan_iff (same : first.SameAt host second) :
    second.BringsBan host now ↔ first.BringsBan host now := by
  unfold PenaltyBook.BringsBan
  rw [same.policy, Table.getD, same.strikes, counts_congr same.policy]
  rfl

theorem SameAt.cleared (same : first.SameAt host second) :
    (first.cleared host).SameAt host (second.cleared host) := by
  unfold PenaltyBook.cleared
  rw [same.policy]
  split
  · exact same
  · exact ⟨rfl, by simp, same.bans, same.notices⟩

theorem SameAt.struck (same : first.SameAt host second) (now : Instant) :
    (first.struck host now).SameAt host (second.struck host now) where
  policy := same.policy
  strikes := by
    simp only [PenaltyBook.struck, Table.get?_insert_self, Table.getD, same.strikes,
      counts_congr same.policy]
  bans := same.bans
  notices := same.notices

theorem SameAt.recordOffense (same : first.SameAt host second)
    (h : first.recordOffense host now = .ok (verdict, next)) :
    ∃ image, second.recordOffense host now = .ok (verdict, image) ∧ next.SameAt host image := by
  simp only [recordOffense_eq_ok_iff, same.bringsBan_iff, same.policy] at h ⊢
  rcases h with ⟨brings, rfl, within, rfl⟩ | ⟨few, rfl, rfl⟩
  · exact ⟨_, .inl ⟨brings, rfl, within, rfl⟩, same.cleared.barred _⟩
  · exact ⟨_, .inr ⟨few, rfl, rfl⟩, same.struck now⟩

theorem SameAt.purgeExpired (same : first.SameAt host second) (now : Instant) :
    (first.purgeExpired now).2.SameAt host (second.purgeExpired now).2 where
  policy := same.policy
  strikes := by
    simp only [PenaltyBook.purgeExpired, countingStrikes, Table.get?_mapValues, Table.get?_filter,
      same.strikes, counts_congr same.policy]
  bans := by simp only [PenaltyBook.purgeExpired, Table.get?_filter, same.bans]
  notices := by
    simp only [PenaltyBook.purgeExpired, Table.get?_filter, Table.contains, same.bans,
      same.notices]

end SessionLayer.PenaltyBook
