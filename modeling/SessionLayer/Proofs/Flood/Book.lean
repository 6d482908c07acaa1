import SessionLayer.Proofs.Flood.Penalty

/-!
# Histories of a book of penalties

Everything that can be done with a book of penalties is a `PenaltyAct`, and a log is what was
done and what was answered. `PenaltyBook.run` does one thing after the other. A log that is
cut in two is cut at a book: `PenaltyBook.exists_of_log`.
-/

namespace SessionLayer

/-- Something that is done with a book of penalties. -/
inductive PenaltyAct
  | offense (host : Host) (now : Instant)
  | ban (host : Host) (duration : Span) (now : Instant)
  | unban (host : Host)
  | notice (host : Host) (now : Instant)
  /-- How long a ban still lasts is asked. -/
  | remaining (host : Host) (now : Instant)
  /-- Whether a host is banned is asked. -/
  | banned (host : Host) (now : Instant)
  | purge (now : Instant)
  deriving DecidableEq

/-- What is answered. -/
inductive PenaltyAnswer
  | done
  | verdict (verdict : PenaltyVerdict)
  | flag (value : Bool)
  | remaining (span : Option Span)
  | purged (count : Nat)
  deriving DecidableEq

/-- What was done with a book, and what was answered each time. -/
abbrev PenaltyLog := List (PenaltyAct × PenaltyAnswer)

namespace PenaltyAct

/-- The time at which something is done. -/
def time? : PenaltyAct → Option Instant
  | .offense _ now | .ban _ _ now | .notice _ now | .remaining _ now | .banned _ now
  | .purge now => some now
  | .unban _ => none

/-- When the ban ends that this may bring. -/
def lapse? (policy : PenaltyPolicy) : PenaltyAct → Option Instant
  | .offense _ now => some (now + policy.banDuration)
  | .ban _ duration now => some (now + duration)
  | _ => none

/-- A ban that this may bring ends before the clock does. -/
def Fits (policy : PenaltyPolicy) (act : PenaltyAct) : Prop :=
  ∀ lapse ∈ act.lapse? policy, lapse < Instant.bound

instance (policy : PenaltyPolicy) (act : PenaltyAct) : Decidable (act.Fits policy) :=
  inferInstanceAs (Decidable (∀ lapse ∈ act.lapse? policy, lapse < Instant.bound))

end PenaltyAct

namespace PenaltyBook

/-- Does one thing. -/
def perform (book : PenaltyBook) : PenaltyAct → Except Halt (PenaltyAnswer × PenaltyBook)
  | .offense host now => do
    let (verdict, book) ← book.recordOffense host now
    return (.verdict verdict, book)
  | .ban host duration now => do
    let book ← book.ban host duration now
    return (.done, book)
  | .unban host => .ok (.flag (book.unban host).1, (book.unban host).2)
  | .notice host now => .ok (.flag (book.grantNotice host now).1, (book.grantNotice host now).2)
  | .remaining host now => .ok (.remaining (book.banRemaining host now), book)
  | .banned host now => .ok (.flag (book.isBanned host now), book)
  | .purge now => .ok (.purged (book.purgeExpired now).1, (book.purgeExpired now).2)

/-- Does one thing after the other, and writes down what was answered. -/
def run (book : PenaltyBook) : List PenaltyAct → Except Halt (PenaltyLog × PenaltyBook)
  | [] => .ok ([], book)
  | act :: rest => do
    let (answer, book) ← book.perform act
    let (log, book) ← book.run rest
    return ((act, answer) :: log, book)

/-- The times at which things are done, in order. -/
def times (acts : List PenaltyAct) : List Instant := acts.filterMap PenaltyAct.time?

variable {book last : PenaltyBook} {acts rest : List PenaltyAct} {act : PenaltyAct}
  {answer : PenaltyAnswer} {log before after : PenaltyLog} {policy : PenaltyPolicy}

theorem times_cons (act : PenaltyAct) (rest : List PenaltyAct) :
    times (act :: rest) = act.time?.toList ++ times rest := by
  cases h : act.time? <;> simp [times, h]

theorem times_append (before after : List PenaltyAct) :
    times (before ++ after) = times before ++ times after := List.filterMap_append

theorem run_cons_eq_ok :
    book.run (act :: rest) = .ok (log, last) ↔
      ∃ answer next later, book.perform act = .ok (answer, next) ∧
        next.run rest = .ok (later, last) ∧ log = (act, answer) :: later := by
  simp only [run, Halt.bind_eq_ok, Halt.pure_eq_ok, Prod.exists, Prod.mk.injEq]
  constructor
  · rintro ⟨answer, next, done, later, _, ran, rfl, rfl⟩
    exact ⟨answer, next, later, done, ran, rfl⟩
  · rintro ⟨answer, next, later, done, ran, rfl⟩
    exact ⟨answer, next, done, later, last, ran, rfl, rfl⟩

/-- What is written down is what was done. -/
theorem map_fst_of_run (ran : book.run acts = .ok (log, last)) : log.map Prod.fst = acts := by
  induction acts generalizing book log with
  | nil =>
    cases ran
    rfl
  | cons act rest ih =>
    obtain ⟨answer, next, later, -, went, rfl⟩ := run_cons_eq_ok.mp ran
    rw [List.map_cons, ih went]

/-- What stands in a log was done with the book that the log before it leads to. -/
theorem exists_of_log (ran : book.run acts = .ok (before ++ (act, answer) :: after, last)) :
    ∃ start next, book.run (before.map Prod.fst) = .ok (before, start) ∧
      start.perform act = .ok (answer, next) ∧
      next.run (after.map Prod.fst) = .ok (after, last) := by
  induction before generalizing book acts with
  | nil =>
    cases acts with
    | nil => cases ran
    | cons first rest =>
      obtain ⟨_, next, later, done, went, same⟩ := run_cons_eq_ok.mp ran
      obtain ⟨here, rfl⟩ := List.cons.inj same
      cases here
      exact ⟨book, next, rfl, done, by rwa [map_fst_of_run went]⟩
  | cons entry before ih =>
    cases acts with
    | nil => cases ran
    | cons first rest =>
      obtain ⟨_, middle, later, done, went, same⟩ := run_cons_eq_ok.mp ran
      obtain ⟨rfl, rfl⟩ := List.cons.inj same
      obtain ⟨start, next, early, here, late⟩ := ih went
      exact ⟨start, next, run_cons_eq_ok.mpr ⟨_, middle, before, done, early, rfl⟩, here, late⟩

/-! ## One thing that is done -/

/-- What may be answered, and what may become of the book. -/
inductive Performs (book : PenaltyBook) : PenaltyAct → PenaltyAnswer → PenaltyBook → Prop
  | escalated {host : Host} {now : Instant} : book.BringsBan host now →
    Performs book (.offense host now) (.verdict (.ban book.policy.banDuration))
      ((book.cleared host).barred host (now + book.policy.banDuration))
  | struck {host : Host} {now : Instant} : ¬ book.BringsBan host now →
    Performs book (.offense host now) (.verdict .disconnect) (book.struck host now)
  | barred {host : Host} {duration : Span} {now : Instant} :
    Performs book (.ban host duration now) .done (book.barred host (now + duration))
  | unbanned {host : Host} :
    Performs book (.unban host) (.flag (book.unban host).1) (book.unban host).2
  | granted {host : Host} {now : Instant} :
    Performs book (.notice host now) (.flag true)
      { book with notices := book.notices.insert host now }
  | refused {host : Host} {now : Instant} : Performs book (.notice host now) (.flag false) book
  | asked {host : Host} {now : Instant} :
    Performs book (.remaining host now) (.remaining (book.banRemaining host now)) book
  | looked {host : Host} {now : Instant} :
    Performs book (.banned host now) (.flag (book.isBanned host now)) book
  | purged {now : Instant} :
    Performs book (.purge now) (.purged (book.purgeExpired now).1) (book.purgeExpired now).2

theorem performs_of_perform (done : book.perform act = .ok (answer, last)) :
    book.Performs act answer last := by
  cases act with
  | offense host now =>
    simp only [perform, Halt.bind_eq_ok, Halt.pure_eq_ok, Prod.exists, Prod.mk.injEq] at done
    obtain ⟨verdict, next, recorded, rfl, rfl⟩ := done
    rcases recordOffense_eq_ok_iff.mp recorded with ⟨brings, rfl, _, rfl⟩ | ⟨few, rfl, rfl⟩
    · exact .escalated brings
    · exact .struck few
  | ban host duration now =>
    simp only [perform, Halt.bind_eq_ok, Halt.pure_eq_ok, Prod.mk.injEq] at done
    obtain ⟨next, banned, rfl, rfl⟩ := done
    obtain ⟨_, rfl⟩ := ban_eq_ok_iff.mp banned
    exact .barred
  | notice host now =>
    simp only [perform, Except.ok.injEq, Prod.mk.injEq] at done
    obtain ⟨rfl, rfl⟩ := done
    cases granted : (book.grantNotice host now).1 with
    | true =>
      rw [(grantNotice_eq_true granted).1]
      exact .granted
    | false =>
      rw [grantNotice_eq_false granted]
      exact .refused
  | unban _ | remaining _ _ | banned _ _ | purge _ =>
    simp only [perform, Except.ok.injEq, Prod.mk.injEq] at done
    obtain ⟨rfl, rfl⟩ := done
    constructor

theorem policy_of_perform (done : book.perform act = .ok (answer, last)) :
    last.policy = book.policy := by
  cases performs_of_perform done with
  | escalated _ => exact policy_cleared book _
  | _ => rfl

/-! ## Runs that return -/

/-- What is done returns if the bans that it may bring end before the clock does. -/
theorem exists_perform (fits : act.Fits book.policy) :
    ∃ answer next, book.perform act = .ok (answer, next) := by
  cases act with
  | offense host now =>
    obtain ⟨⟨verdict, next⟩, recorded⟩ := Halt.exists_eq_ok_iff.mpr fun halt halts =>
      absurd (fits _ rfl) (Nat.not_lt_of_le (recordOffense_eq_error_iff.mp halts).2.2)
    exact ⟨.verdict verdict, next, by rw [perform, recorded]; rfl⟩
  | ban host duration now =>
    obtain ⟨next, banned⟩ := Halt.exists_eq_ok_iff.mpr fun halt halts =>
      absurd (fits _ rfl) (Nat.not_lt_of_le (ban_eq_error_iff.mp halts).2)
    exact ⟨.done, next, by rw [perform, banned]; rfl⟩
  | unban _ | notice _ _ | remaining _ _ | banned _ _ | purge _ => exact ⟨_, _, rfl⟩

theorem exists_run (fits : ∀ act ∈ acts, act.Fits book.policy) :
    ∃ log last, book.run acts = .ok (log, last) := by
  induction acts generalizing book with
  | nil => exact ⟨[], book, rfl⟩
  | cons act rest ih =>
    obtain ⟨now, others⟩ := List.forall_mem_cons.mp fits
    obtain ⟨answer, next, done⟩ := exists_perform now
    rw [← policy_of_perform done] at others
    obtain ⟨log, last, ran⟩ := ih others
    exact ⟨_, last, run_cons_eq_ok.mpr ⟨answer, next, log, done, ran, rfl⟩⟩

end PenaltyBook

end SessionLayer
