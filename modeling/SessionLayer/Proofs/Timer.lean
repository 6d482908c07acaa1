import Mathlib.Algebra.Ring.Nat
import Mathlib.Data.List.Chain
import SessionLayer.Proofs.Halting
import SessionLayer.Timer

/-!
# The accounts of the sweep timer

A timer is waited for again and again, and whoever waits for it may come late. What is done
with it is a list of `SweepTimer.Act`s, and the log of a run has for each sweep its deadline,
the time at which somebody woke up for it and what the timer told. `SweepTimer.act_cases` says
once what an act does to the accounts: nothing, or the sweep `SweepTimer.ComesDue`.

The deadlines depend on the policy. Under `keep` they stand in a row from the first one on
(`SweepTimer.Rhythmic`). Under `skip` each sweep puts off all later ones by its lateness
(`SweepTimer.PutOff`), and the sweeps that were missed are the whole intervals of each
lateness. They are counted in sixty-four bits, so that of a lateness of so many intervals and
more a whole round of the counter is lost.
-/

namespace SessionLayer

/-- A sweep that came due. -/
structure Sweep where
  /-- The deadline. -/
  due : Instant
  /-- When somebody woke up for it. -/
  woken : Instant
  /-- What was told then. -/
  info : SweepInfo
  deriving DecidableEq

/-- How long after the deadline somebody woke up. -/
def Sweep.late (sweep : Sweep) : Span := sweep.woken - sweep.due

namespace SweepTimer

/-- Something that is done with a timer. -/
inductive Act
  | wait (woken : Instant)
  | waitAtMost (givenUp woken : Instant)
  | recordEnd (visited : Nat)
  deriving DecidableEq

/-- What comes of a wait that has ended at `woken`: a sweep, or nothing if the wait was given
up. -/
def heed (timer : SweepTimer) (woken : Instant) :
    Option (SweepInfo × SweepTimer) → Option Sweep × SweepTimer
  | none => (none, timer)
  | some (info, next) => (timer.deadline.map (⟨·, woken, info⟩), next)

/-- Does one act. A wait for a timer that never comes due is given up. -/
def act (timer : SweepTimer) : Act → Except Halt (Option Sweep × SweepTimer)
  | .wait woken => timer.heed woken <$> timer.wait woken
  | .waitAtMost givenUp woken => timer.heed woken <$> timer.waitAtMost givenUp woken
  | .recordEnd visited => .ok (none, timer.recordEnd visited)

/-- Does one act after the other. The log has the sweeps that came due. -/
def run (timer : SweepTimer) : List Act → Except Halt (List Sweep × SweepTimer)
  | [] => .ok ([], timer)
  | act :: rest => do
    let (sweep, timer) ← timer.act act
    let (log, timer) ← timer.run rest
    return (sweep.toList ++ log, timer)

variable {timer next finish : SweepTimer} {came : Sweep} {log : List Sweep}
  {pace : Span} {first : Instant}

theorem run_cons_eq_ok {act : Act} {rest : List Act} :
    timer.run (act :: rest) = .ok (log, finish) ↔
      ∃ sweep middle later, timer.act act = .ok (sweep, middle) ∧
        middle.run rest = .ok (later, finish) ∧ log = sweep.toList ++ later := by
  simp only [run, Halt.bind_eq_ok, Halt.pure_eq_ok, Prod.exists, Prod.mk.injEq]
  constructor
  · rintro ⟨sweep, middle, done, later, last, ran, rfl, rfl⟩
    exact ⟨sweep, middle, later, done, ran, rfl⟩
  · rintro ⟨sweep, middle, later, done, ran, rfl⟩
    exact ⟨sweep, middle, done, later, finish, ran, rfl, rfl⟩

/-! ## One act -/

/-- A sweep comes due, and the accounts have room for it. -/
structure ComesDue (timer : SweepTimer) (sweep : Sweep) (next : SweepTimer) : Prop where
  due : timer.deadline = some sweep.due
  told : timer.comeDue sweep.due sweep.woken = (sweep.info, next)
  fits : next.countersFit = true

/-- Only the end of the last sweep may have been told in between. -/
def SameAccounts (timer next : SweepTimer) : Prop :=
  next = { timer with isSweeping := next.isSweeping, lastVisited := next.lastVisited }

theorem fire_eq_ok {due now : Instant} {info : SweepInfo}
    (fired : timer.fire due now = .ok (info, next)) :
    timer.comeDue due now = (info, next) ∧ next.countersFit = true := by
  simp only [fire] at fired
  split at fired
  · cases fired
  split at fired
  · rename_i fits
    cases fired
    exact ⟨rfl, fits⟩
  · cases fired

/-- A wait that nobody gives up ends with a sweep, unless the timer never comes due. -/
theorem heed_of_wait {woken : Instant} {result : Option (SweepInfo × SweepTimer)}
    (returned : timer.wait woken = .ok result) :
    timer.heed woken result = (none, timer) ∨
      ∃ came next, timer.heed woken result = (some came, next) ∧ timer.ComesDue came next := by
  unfold SweepTimer.wait at returned
  split at returned
  · cases returned
    exact .inl rfl
  · rename_i due deadline
    obtain ⟨⟨info, next⟩, fired, rfl⟩ := Except.map_eq_ok.mp returned
    obtain ⟨told, fits⟩ := fire_eq_ok fired
    exact .inr ⟨⟨due, woken, info⟩, next, by rw [heed, deadline]; rfl, deadline, told, fits⟩

/-- An act leaves the accounts as they are, or a sweep comes due with it. -/
theorem act_cases {act : Act} {sweep : Option Sweep}
    (returned : timer.act act = .ok (sweep, next)) :
    (sweep = none ∧ timer.SameAccounts next) ∨
      ∃ came, sweep = some came ∧ timer.ComesDue came next := by
  have ofHeed {woken : Instant} {result : Option (SweepInfo × SweepTimer)}
      (waited : timer.wait woken = .ok result) (same : timer.heed woken result = (sweep, next)) :
      (sweep = none ∧ timer.SameAccounts next) ∨
        ∃ came, sweep = some came ∧ timer.ComesDue came next := by
    rcases heed_of_wait waited with none | ⟨came, after, some, comesDue⟩
    · rw [none] at same
      cases same
      exact .inl ⟨rfl, rfl⟩
    · rw [some] at same
      cases same
      exact .inr ⟨came, rfl, comesDue⟩
  cases act with
  | wait woken =>
    obtain ⟨result, waited, same⟩ := Except.map_eq_ok.mp returned
    exact ofHeed waited same
  | waitAtMost givenUp woken =>
    obtain ⟨result, waited, same⟩ := Except.map_eq_ok.mp returned
    unfold SweepTimer.waitAtMost at waited
    split at waited
    · cases waited
      cases same
      exact .inl ⟨rfl, rfl⟩
    · exact ofHeed waited same
  | recordEnd visited =>
    cases returned
    refine .inl ⟨rfl, ?_⟩
    rw [recordEnd]
    split <;> rfl

/-- What is told of a sweep. -/
theorem ComesDue.info_eq (comesDue : timer.ComesDue came next) :
    came.info = (timer.comeDue came.due came.woken).1 := by rw [comesDue.told]

theorem ComesDue.next_eq (comesDue : timer.ComesDue came next) :
    next = (timer.comeDue came.due came.woken).2 := by rw [comesDue.told]

/-- Each sweep is counted once, and so are those that it missed. -/
theorem ComesDue.counts (comesDue : timer.ComesDue came next) :
    came.info.sweep = timer.sweepCount + 1 ∧ next.sweepCount = timer.sweepCount + 1 ∧
      next.totalSweeps = timer.totalSweeps + 1 ∧
      next.totalSkipped = timer.totalSkipped + came.info.skipped := by
  rw [comesDue.info_eq, comesDue.next_eq]
  exact ⟨rfl, rfl, rfl, rfl⟩

theorem totalOverruns_comeDue_le (timer : SweepTimer) (due now : Instant) :
    (timer.comeDue due now).2.totalOverruns ≤ timer.totalOverruns + 1 := by
  refine Nat.add_le_add_left ?_ timer.totalOverruns
  split
  · exact Nat.le_refl 1
  · exact Nat.zero_le 1

theorem ComesDue.settings_eq (comesDue : timer.ComesDue came next) :
    next.settings = timer.settings := by
  rw [comesDue.next_eq]
  rfl

theorem ComesDue.deadline_of_keep (comesDue : timer.ComesDue came next)
    (keeps : timer.settings.policy = .keep) :
    next.deadline = some (came.due + timer.settings.interval) ∧ came.info.skipped = 0 := by
  rw [comesDue.info_eq, comesDue.next_eq]
  simp only [comeDue, keeps, and_self]

/-- What is missed are the whole intervals of the lateness. The threshold of an overrun does
not matter: a tenth of an interval is less than a whole one. -/
theorem ComesDue.deadline_of_skip (comesDue : timer.ComesDue came next)
    (skips : timer.settings.policy = .skip) (enabled : 0 < timer.settings.interval) :
    next.deadline = some (came.woken + timer.settings.interval) ∧
      came.info.skipped = came.late / timer.settings.interval % UInt64.size := by
  rw [comesDue.info_eq, comesDue.next_eq]
  simp only [comeDue, skips, Sweep.late, true_and]
  split
  · rfl
  · rename_i punctual
    have short : came.woken - came.due < timer.settings.interval :=
      Nat.lt_of_le_of_lt (Nat.le_of_not_lt punctual) (Nat.div_lt_self enabled (by decide))
    rw [Nat.div_eq_of_lt short, Nat.zero_mod]

/-! ## The accounts -/

/-- The accounts agree with the log. -/
structure Accounts (log : List Sweep) (timer : SweepTimer) : Prop where
  counted : timer.sweepCount = log.length
  total : timer.totalSweeps = log.length
  skipped : timer.totalSkipped = (log.map fun sweep => sweep.info.skipped).sum
  numbered : log.map (fun sweep => sweep.info.sweep) = List.range' 1 log.length
  overruns : timer.totalOverruns ≤ log.length
  few : log.length < UInt64.size

theorem accounts_fresh (settings : SweepSettings) (deadline : Option Instant) :
    (fresh settings deadline).Accounts [] where
  counted := rfl
  total := rfl
  skipped := rfl
  numbered := rfl
  overruns := Nat.le_refl 0
  few := by decide

theorem Accounts.same (accounts : timer.Accounts log) (same : timer.SameAccounts next) :
    next.Accounts log := by
  rw [same]
  exact { accounts with }

theorem Accounts.concat (accounts : timer.Accounts log) (comesDue : timer.ComesDue came next) :
    next.Accounts (log ++ [came]) := by
  obtain ⟨number, count, sweeps, skips⟩ := comesDue.counts
  have one : (log ++ [came]).length = log.length + 1 := List.length_append
  constructor
  · rw [count, accounts.counted, one]
  · rw [sweeps, accounts.total, one]
  · rw [skips, accounts.skipped, List.map_append, List.sum_append, List.map_singleton,
      List.sum_singleton]
  · rw [List.map_append, List.map_singleton, accounts.numbered, number, accounts.counted, one,
      List.range'_concat, Nat.one_mul, Nat.add_comm 1]
  · rw [comesDue.next_eq, one]
    exact Nat.le_trans (totalOverruns_comeDue_le timer came.due came.woken)
      (Nat.succ_le_succ accounts.overruns)
  · have fits := comesDue.fits
    simp only [countersFit, Bool.and_eq_true, decide_eq_true_eq] at fits
    rw [one, ← accounts.counted, ← count]
    exact fits.1.1.1

/-- A timer that keeps to its pace, with its first deadline at `first`. -/
structure Rhythmic (pace : Span) (first : Instant) (log : List Sweep) (timer : SweepTimer) :
    Prop where
  keeps : timer.settings.policy = .keep
  interval : timer.settings.interval = pace
  deadline : timer.deadline = some (first + log.length * pace)
  dues : log.map Sweep.due = (List.range log.length).map fun place => first + place * pace
  nothing : ∀ sweep ∈ log, sweep.info.skipped = 0

theorem rhythmic_fresh {settings : SweepSettings} (interval : settings.interval = pace)
    (keeps : settings.policy = .keep) :
    (fresh settings (some first)).Rhythmic pace first [] where
  keeps := keeps
  interval := interval
  deadline := by
    rw [List.length_nil, Nat.zero_mul]
    rfl
  dues := rfl
  nothing := nofun

theorem Rhythmic.same (rhythmic : timer.Rhythmic pace first log)
    (same : timer.SameAccounts next) : next.Rhythmic pace first log := by
  rw [same]
  exact { rhythmic with }

theorem Rhythmic.concat (rhythmic : timer.Rhythmic pace first log)
    (comesDue : timer.ComesDue came next) : next.Rhythmic pace first (log ++ [came]) := by
  obtain ⟨deadline, none⟩ := comesDue.deadline_of_keep rhythmic.keeps
  have one : (log ++ [came]).length = log.length + 1 := List.length_append
  have here : came.due = first + log.length * pace :=
    Option.some.inj (comesDue.due.symm.trans rhythmic.deadline)
  constructor
  · rw [comesDue.settings_eq, rhythmic.keeps]
  · rw [comesDue.settings_eq, rhythmic.interval]
  · rw [deadline, here, rhythmic.interval, one, Nat.succ_mul, Nat.add_assoc]
  · rw [List.map_append, List.map_singleton, rhythmic.dues, here, one, List.range_succ,
      List.map_append, List.map_singleton]
  · intro sweep present
    rcases List.mem_append.mp present with old | new
    · exact rhythmic.nothing sweep old
    · rw [List.mem_singleton.mp new, none]

/-- A timer that starts a new interval with each sweep, with its first deadline at `first`. -/
structure PutOff (pace : Span) (first : Instant) (log : List Sweep) (timer : SweepTimer) :
    Prop where
  skips : timer.settings.policy = .skip
  interval : timer.settings.interval = pace
  deadline : timer.deadline = some (first + log.length * pace + (log.map Sweep.late).sum)
  behind : ∀ last ∈ log.getLast?, timer.deadline = some (last.woken + pace)
  apart : log.IsChain fun earlier later => earlier.woken + pace ≤ later.woken
  missed : ∀ sweep ∈ log, sweep.info.skipped = sweep.late / pace % UInt64.size

theorem putOff_fresh {settings : SweepSettings} (interval : settings.interval = pace)
    (skips : settings.policy = .skip) :
    (fresh settings (some first)).PutOff pace first [] where
  skips := skips
  interval := interval
  deadline := by
    rw [List.length_nil, Nat.zero_mul]
    rfl
  behind := nofun
  apart := .nil
  missed := nofun

theorem PutOff.same (putOff : timer.PutOff pace first log) (same : timer.SameAccounts next) :
    next.PutOff pace first log := by
  rw [same]
  exact { putOff with }

theorem PutOff.concat (putOff : timer.PutOff pace first log) (enabled : 0 < pace)
    (comesDue : timer.ComesDue came next) (punctual : came.due ≤ came.woken) :
    next.PutOff pace first (log ++ [came]) := by
  obtain ⟨deadline, missed⟩ :=
    comesDue.deadline_of_skip putOff.skips (putOff.interval ▸ enabled)
  rw [putOff.interval] at deadline missed
  have one : (log ++ [came]).length = log.length + 1 := List.length_append
  have here : came.due = first + log.length * pace + (log.map Sweep.late).sum :=
    Option.some.inj (comesDue.due.symm.trans putOff.deadline)
  have woken : came.woken = came.due + came.late := (Nat.add_sub_of_le punctual).symm
  constructor
  · rw [comesDue.settings_eq, putOff.skips]
  · rw [comesDue.settings_eq, putOff.interval]
  · rw [deadline, woken, here, one, List.map_append, List.sum_append, List.map_singleton,
      List.sum_singleton, Nat.succ_mul]
    congr 1
    ac_rfl
  · intro last ends
    rw [List.getLast?_concat, Option.mem_some_iff] at ends
    rw [deadline, ends]
  · refine putOff.apart.append (.singleton came) fun last ends later begins => ?_
    rw [List.head?_singleton, Option.mem_some_iff] at begins
    have follows := (putOff.behind last ends).symm.trans comesDue.due
    rw [← begins, Option.some.inj follows]
    exact punctual
  · intro sweep present
    rcases List.mem_append.mp present with old | new
    · exact putOff.missed sweep old
    · rw [List.mem_singleton.mp new, missed]

/-! ## Room for another sweep -/

variable {due now : Instant}

theorem deadline_comeDue_le (timer : SweepTimer) (late : due ≤ now) :
    ∃ next, (timer.comeDue due now).2.deadline = some next ∧
      next ≤ now + timer.settings.interval := by
  simp only [comeDue]
  cases timer.settings.policy with
  | skip => exact ⟨_, rfl, Nat.le_refl _⟩
  | keep => exact ⟨_, rfl, Nat.add_le_add_right late _⟩

theorem totalSkipped_comeDue_le (timer : SweepTimer) (due now : Instant) :
    (timer.comeDue due now).2.totalSkipped ≤
      timer.totalSkipped + (now - due) / timer.settings.interval := by
  simp only [comeDue]
  refine Nat.add_le_add_left ?_ timer.totalSkipped
  cases timer.settings.policy with
  | skip =>
    simp only
    split
    · exact Nat.mod_le ..
    · exact Nat.zero_le _
  | keep => exact Nat.zero_le _

/-- Whoever does not wake up before the timer is due is told of a sweep, as long as the clock
reaches the next deadline and the accounts have room. -/
theorem wait_eq_ok (deadline : timer.deadline = some due) (late : due ≤ now)
    (clock : now + timer.settings.interval < Instant.bound)
    (sweeps : timer.sweepCount + 1 < UInt64.size) (total : timer.totalSweeps + 1 < UInt64.size)
    (overruns : timer.totalOverruns + 1 < UInt64.size)
    (missed : timer.totalSkipped + (now - due) / timer.settings.interval < UInt64.size) :
    ∃ info next, timer.wait now = .ok (some (info, next)) := by
  have reached : (timer.comeDue due now).2.deadline.any (Instant.bound ≤ ·) = false := by
    obtain ⟨next, found, soon⟩ := deadline_comeDue_le timer late
    rw [found, Option.any_some, decide_eq_false_iff_not, Nat.not_le]
    exact Nat.lt_of_le_of_lt soon clock
  have fits : (timer.comeDue due now).2.countersFit = true := by
    have once := totalOverruns_comeDue_le timer due now
    have more := totalSkipped_comeDue_le timer due now
    simp only [countersFit, Bool.and_eq_true, decide_eq_true_eq]
    exact ⟨⟨⟨sweeps, total⟩, Nat.lt_of_le_of_lt once overruns⟩, Nat.lt_of_le_of_lt more missed⟩
  have fired : timer.fire due now = .ok (timer.comeDue due now) := by
    simp only [fire, reached, fits, Bool.false_eq_true, if_false, if_true]
  exact ⟨_, _, by rw [SweepTimer.wait, deadline]; simp only [fired]; rfl⟩

/-! ## Runs -/

/-- What the end of a sweep does not change and each punctual sweep keeps holds after a run in
which nobody woke up early. -/
theorem of_run (Holds : List Sweep → SweepTimer → Prop) {acts : List Act}
    (same : ∀ {log timer next}, Holds log timer → SameAccounts timer next → Holds log next)
    (concat : ∀ {log timer came next}, Holds log timer → ComesDue timer came next →
      came.due ≤ came.woken → Holds (log ++ [came]) next)
    (empty : Holds [] timer) (ran : timer.run acts = .ok (log, finish))
    (punctual : ∀ sweep ∈ log, sweep.due ≤ sweep.woken) : Holds log finish := by
  -- the sweeps that came due already go into the predicate
  induction acts generalizing timer log Holds with
  | nil =>
    cases ran
    exact empty
  | cons act rest ih =>
    obtain ⟨sweep, middle, later, returned, others, rfl⟩ := run_cons_eq_ok.mp ran
    rcases act_cases returned with ⟨rfl, unchanged⟩ | ⟨came, rfl, comesDue⟩
    · exact ih Holds same concat (same empty unchanged) others punctual
    · have began := concat empty comesDue (punctual came (List.mem_cons_self ..))
      exact ih (fun log => Holds (came :: log)) same concat began others
        fun sweep present => punctual sweep (List.mem_cons_of_mem _ present)

/-! ## What is missed -/

section Missed

variable {pace bound late : Nat} {lates : List Nat}

theorem sum_missed_mul_le (pace bound : Nat) (lates : List Nat) :
    (lates.map fun late => late / pace % bound).sum * pace ≤ lates.sum := by
  induction lates with
  | nil => exact Nat.le_of_eq (Nat.zero_mul pace)
  | cons late rest ih =>
    have here : late / pace % bound * pace ≤ late :=
      Nat.le_trans (Nat.mul_le_mul_right pace (Nat.mod_le ..)) (Nat.div_mul_le_self ..)
    rw [List.map_cons, List.sum_cons, List.sum_cons, Nat.add_mul]
    exact Nat.add_le_add here ih

/-- Where all whole intervals can be counted, less than one for each lateness is left over. -/
theorem sum_add_length_le (enabled : 0 < pace) (counted : ∀ late ∈ lates, late < bound * pace) :
    lates.sum + lates.length ≤
      ((lates.map fun late => late / pace % bound).sum + lates.length) * pace := by
  induction lates with
  | nil => exact Nat.zero_le _
  | cons late rest ih =>
    have others := ih fun other present => counted other (List.mem_cons_of_mem _ present)
    have whole : late / pace % bound = late / pace :=
      Nat.mod_eq_of_lt ((Nat.div_lt_iff_lt_mul enabled).mpr (counted late (List.mem_cons_self ..)))
    have left : late < late / pace * pace + pace := Nat.lt_div_mul_add enabled
    rw [List.map_cons, List.sum_cons, List.sum_cons, List.length_cons, whole]
    simp only [Nat.add_mul, Nat.one_mul] at others ⊢
    omega

/-- Where they cannot, a whole round of the counter is missing. -/
theorem sum_add_bound_mul_le (enabled : 0 < pace) (present : late ∈ lates)
    (uncounted : bound * pace ≤ late) :
    ((lates.map fun late => late / pace % bound).sum + bound) * pace ≤ lates.sum := by
  obtain ⟨front, back, rfl⟩ := List.append_of_mem present
  have round : bound ≤ late / pace := (Nat.le_div_iff_mul_le enabled).mpr uncounted
  have here : (late / pace % bound + bound) * pace ≤ late := by
    refine Nat.le_trans (Nat.mul_le_mul_right pace ?_) (Nat.div_mul_le_self late pace)
    rw [Nat.mod_eq_sub_mod round]
    exact Nat.add_le_of_le_sub round (Nat.mod_le ..)
  have before := sum_missed_mul_le pace bound front
  have after := sum_missed_mul_le pace bound back
  simp only [List.map_append, List.map_cons, List.sum_append, List.sum_cons, Nat.add_mul]
    at here ⊢
  omega

theorem sum_lt_iff (enabled : 0 < pace) (some : lates ≠ []) (few : lates.length < bound) :
    lates.sum < ((lates.map fun late => late / pace % bound).sum + lates.length) * pace ↔
      ∀ late ∈ lates, late < bound * pace := by
  constructor
  · intro short late present
    refine Nat.lt_of_not_le fun uncounted => ?_
    have round := sum_add_bound_mul_le enabled present uncounted
    have fewer := Nat.lt_of_mul_lt_mul_right (Nat.lt_of_le_of_lt round short)
    omega
  · intro counted
    have count := List.length_pos_iff.mpr some
    exact Nat.lt_of_lt_of_le (Nat.lt_add_of_pos_right count) (sum_add_length_le enabled counted)

/-- A wake-up, measured by the sweeps that were run and missed before the next deadline. -/
theorem woken_bounds {first woken count missed lateness : Nat} (some : 0 < count)
    (put : woken + pace = first + count * pace + lateness) (least : missed * pace ≤ lateness) :
    first + (count - 1 + missed) * pace ≤ woken ∧
      (woken < first + (2 * count - 1 + missed) * pace ↔ lateness < (missed + count) * pace) := by
  obtain ⟨before, rfl⟩ := Nat.exists_eq_add_one.mpr some
  have twice : 2 * (before + 1) - 1 = before + (before + 1) := by omega
  rw [twice, Nat.add_sub_cancel]
  simp only [Nat.add_mul, Nat.one_mul] at put ⊢
  omega

end Missed

/-- The last wake-up, measured by the sweeps that were run and missed. -/
theorem PutOff.last_woken {last : Sweep} (putOff : finish.PutOff pace first log)
    (accounts : finish.Accounts log) (enabled : 0 < pace) (ends : last ∈ log.getLast?) :
    first + (log.length - 1 + finish.totalSkipped) * pace ≤ last.woken ∧
      (last.woken < first + (2 * log.length - 1 + finish.totalSkipped) * pace ↔
        ∀ sweep ∈ log, sweep.late < UInt64.size * pace) := by
  have some : log.map Sweep.late ≠ [] := fun none => by
    rw [List.map_eq_nil_iff.mp none] at ends
    cases ends
  have total : finish.totalSkipped =
      ((log.map Sweep.late).map fun late => late / pace % UInt64.size).sum := by
    rw [accounts.skipped, List.map_map]
    exact congrArg List.sum (List.map_congr_left putOff.missed)
  have woken : last.woken + pace = first + log.length * pace + (log.map Sweep.late).sum :=
    Option.some.inj ((putOff.behind last ends).symm.trans putOff.deadline)
  have least := sum_missed_mul_le pace UInt64.size (log.map Sweep.late)
  have few : (log.map Sweep.late).length < UInt64.size := by
    rw [List.length_map]
    exact accounts.few
  have most := sum_lt_iff enabled some few
  rw [← total] at least most
  rw [List.length_map, List.forall_mem_map] at most
  rw [← most]
  exact woken_bounds (List.length_pos_of_mem (List.mem_of_getLast? ends)) woken least

/-! ## From the start -/

variable {settings : SweepSettings} {begun : Instant} {delay : Span} {acts : List Act}

theorem interval_validated_pos (enabled : settings.interval ≠ 0) :
    0 < settings.validated.interval := by
  simp only [SweepSettings.validated, if_neg enabled]
  exact Nat.lt_of_lt_of_le (by decide) (Nat.le_max_right ..)

theorem start_eq_ok (enabled : settings.interval ≠ 0)
    (started : start settings begun delay = .ok timer) :
    timer = fresh settings.validated
      (some (begun + (settings.validated.interval + delay))) := by
  have runs : settings.validated.isDisabled = false :=
    decide_eq_false (Nat.ne_of_gt (interval_validated_pos enabled))
  simp only [start, runs, Bool.false_eq_true, if_false, Instant.after] at started
  split at started
  · cases started
    rfl
  · cases started

/-- The deadlines, the wake-ups and the accounts of a timer that was started with an interval
and for which nobody woke up early.

The last wake-up stays below the second bound exactly as long as the whole intervals of every
lateness can be counted. Whoever wakes up next and not too early is told of a sweep, as long as
the clock reaches the deadline after that and the accounts have room. -/
theorem accounts_exact (enabled : settings.interval ≠ 0)
    (interval : settings.validated.interval = pace)
    (started : start settings begun delay = .ok timer)
    (ran : timer.run acts = .ok (log, finish))
    (punctual : ∀ sweep ∈ log, sweep.due ≤ sweep.woken) :
    ∃ first, timer.deadline = some first ∧
      (settings.policy = .keep →
        log.map Sweep.due = (List.range log.length).map (fun place => first + place * pace) ∧
        (∀ sweep ∈ log, sweep.info.skipped = 0) ∧ finish.totalSkipped = 0) ∧
      (settings.policy = .skip →
        (log.IsChain fun earlier later => earlier.woken + pace ≤ later.woken) ∧
        ∀ last ∈ log.getLast?,
          first + (log.length - 1 + finish.totalSkipped) * pace ≤ last.woken ∧
          (last.woken < first + (2 * log.length - 1 + finish.totalSkipped) * pace ↔
            ∀ sweep ∈ log, sweep.late < UInt64.size * pace)) ∧
      finish.totalSweeps = log.length ∧ finish.sweepCount = log.length ∧
      log.map (fun sweep => sweep.info.sweep) = List.range' 1 log.length ∧
      ∀ due now, finish.deadline = some due → due ≤ now → now + pace < Instant.bound →
        log.length + 1 < UInt64.size →
        finish.totalSkipped + (now - due) / pace < UInt64.size →
        ∃ info next, finish.wait now = .ok (some (info, next)) := by
  have positive : 0 < pace := interval ▸ interval_validated_pos enabled
  rw [start_eq_ok enabled started, interval] at ran ⊢
  have accounts : finish.Accounts log :=
    of_run Accounts .same (fun accounts comesDue _ => accounts.concat comesDue)
      (accounts_fresh _ _) ran punctual
  refine ⟨_, rfl, fun keeps => ?_, fun skips => ?_, accounts.total, accounts.counted,
    accounts.numbered, fun due now deadline late clock room missed => ?_⟩
  · have rhythmic : finish.Rhythmic pace (begun + (pace + delay)) log :=
      of_run (Rhythmic _ _) .same (fun rhythmic comesDue _ => rhythmic.concat comesDue)
        (rhythmic_fresh interval keeps) ran punctual
    refine ⟨rhythmic.dues, rhythmic.nothing, ?_⟩
    rw [accounts.skipped, List.sum_eq_zero_iff_forall_eq_nat]
    exact List.forall_mem_map.mpr rhythmic.nothing
  · have putOff : finish.PutOff pace (begun + (pace + delay)) log :=
      of_run (PutOff _ _) .same
        (fun putOff comesDue punctual => putOff.concat positive comesDue punctual)
        (putOff_fresh interval skips) ran punctual
    exact ⟨putOff.apart, fun last ends => putOff.last_woken accounts positive ends⟩
  · have same : finish.settings = settings.validated :=
      of_run (fun _ timer => timer.settings = settings.validated)
        (fun kept same => by rw [same]; exact kept)
        (fun kept comesDue _ => comesDue.settings_eq.trans kept) rfl ran punctual
    rw [← interval, ← same] at clock missed
    exact wait_eq_ok deadline late clock (accounts.counted ▸ room) (accounts.total ▸ room)
      (Nat.lt_of_le_of_lt (Nat.succ_le_succ accounts.overruns) room) missed

/-- Ten sweeps in a second. -/
def tenth (policy : LatePolicy) : SweepSettings :=
  { SweepSettings.every (.ofMillis 100) with policy }

/-- Somebody comes late by two and a half intervals of `tenth`, and then late by a little. -/
def lateTwice : List Act := [.wait 350000, .recordEnd 3, .wait 455000]

theorem accounts_exact_lateTwice :
    (∃ timer log finish, start (tenth .keep) 0 0 = .ok timer ∧
      timer.run lateTwice = .ok (log, finish) ∧ log.length = 2 ∧
      log.map Sweep.due = [100000, 100000 + 1 * 100000] ∧ finish.totalSkipped = 0) ∧
    ∃ timer log finish last, start (tenth .skip) 0 0 = .ok timer ∧
      timer.run lateTwice = .ok (log, finish) ∧ last ∈ log.getLast? ∧ log.length = 2 ∧
      finish.totalSkipped = 2 ∧ 100000 + (2 - 1 + 2) * 100000 ≤ last.woken ∧
      last.woken < 100000 + (2 * 2 - 1 + 2) * 100000 := by
  constructor
  · have ran : (fresh (tenth .keep).validated (some 100000)).run lateTwice = .ok _ := rfl
    obtain ⟨first, deadline, keeps, -⟩ :=
      accounts_exact (by decide) rfl (rfl : start (tenth .keep) 0 0 = _) ran (by decide)
    obtain ⟨dues, -, nothing⟩ := keeps rfl
    cases deadline
    exact ⟨_, _, _, rfl, ran, rfl, dues, nothing⟩
  · have ran : (fresh (tenth .skip).validated (some 100000)).run lateTwice = .ok _ := rfl
    obtain ⟨first, deadline, -, skips, -⟩ :=
      accounts_exact (by decide) rfl (rfl : start (tenth .skip) 0 0 = _) ran (by decide)
    obtain ⟨least, most⟩ := (skips rfl).2 _ rfl
    cases deadline
    exact ⟨_, _, _, _, rfl, ran, rfl, rfl, rfl, least, most.mpr (by decide)⟩

/-- Whoever comes late by a full round of the counter finds fewer sweeps missed than were. -/
theorem skipped_short_fullRound :
    ∃ timer log finish last, start (.every (.ofMillis 10)) 0 0 = .ok timer ∧
      timer.deadline = some 10000 ∧ timer.run [.wait 202914184810805067765000] = .ok (log, finish) ∧
      (∀ sweep ∈ log, sweep.due ≤ sweep.woken) ∧ last ∈ log.getLast? ∧
      ¬ last.woken < 10000 + (2 * log.length - 1 + finish.totalSkipped) * 10000 := by
  have ran : (fresh (SweepSettings.every (.ofMillis 10)).validated (some 10000)).run
      [.wait 202914184810805067765000] = .ok _ := rfl
  exact ⟨_, _, _, _, rfl, rfl, ran, by decide, rfl, by decide⟩

end SweepTimer

end SessionLayer
