import SessionLayer.Proofs.Endpoint.Clock
import SessionLayer.Proofs.Endpoint.Numbering
import SessionLayer.Proofs.Session.Watched

/-!
# What becomes of a silent peer

Sweeps come every two seconds (`Endpoint.Paced`). Each of them sends a ping to every
known client, and the application may send payloads in between. A client that has been
silent for half a minute is given up by the next sweep unless at least four payloads
with numbers went out to it within the last eight seconds: with the four pings of that
time they are enough to push every packet that waits for long out of its list.
`Endpoint.silent_stays_iff` is this statement, and `Endpoint.busySilence` is a run in
which a client that says nothing more stays registered.
-/

namespace SessionLayer

/-- The time from one sweep to the next. -/
def sweepInterval : Span := Span.ofSeconds 2

/-- The client has said who it is, and nothing for more than half a minute. -/
def Session.SilentAt (session : Session) (now : Instant) : Prop :=
  session.isIdentified = true ∧ session.lastReceivedAt + Span.ofSeconds 30 < now

instance (session : Session) (now : Instant) : Decidable (session.SilentAt now) :=
  inferInstanceAs (Decidable (_ ∧ _))

namespace Endpoint

/-- Operations from `clock` on, where the next sweep is due at `due`, up to a time and
its next sweep: the clock does not go back, and every sweep comes when it is due. -/
inductive Paced : Instant → Instant → List Operation → Instant → Instant → Prop
  | done (clock due : Instant) : Paced clock due [] clock due
  | swept {clock due last next : Instant} {rest : List Operation} :
    clock ≤ due → Paced due (due + sweepInterval) rest last next →
    Paced clock due (.sweep due :: rest) last next
  | timed {clock due now last next : Instant} {operation : Operation} {rest : List Operation} :
    operation.time? = some now → (∀ time, operation ≠ .sweep time) → clock ≤ now → now ≤ due →
    Paced now due rest last next → Paced clock due (operation :: rest) last next
  | timeless {clock due last next : Instant} {operation : Operation} {rest : List Operation} :
    operation.time? = none → Paced clock due rest last next →
    Paced clock due (operation :: rest) last next

/-- The time of an operation that sent a payload with a number to this peer. -/
def reachedBy (endpoint : Endpoint) (remote : Address) (operation : Operation)
    (outcome : Outcome) : List Instant :=
  match operation, outcome.answer with
  | .send client _ _ now, .sent (some _) =>
    if endpoint.roster.addressOf? client = some remote then [now] else []
  | _, _ => []

/-- The times at which a run sends payloads with numbers to this peer. -/
def reached (endpoint : Endpoint) (remote : Address) : List Operation → List Instant
  | [] => []
  | operation :: rest =>
    match endpoint.apply operation with
    | .ok (outcome, next) => endpoint.reachedBy remote operation outcome ++ next.reached remote rest
    | .error _ => []

/-! ## The invariant -/

/-- The sweeps so far came every two seconds. -/
structure Beat (start clock due : Instant) (sweeps : List Instant) : Prop where
  begun : start ≤ clock
  past : ∀ time ∈ sweeps, time ≤ clock
  ahead : clock ≤ due
  steady : ∀ count ≤ sweeps.length,
    sweeps.countP (due - count * sweepInterval ≤ ·) = count
  long : due ≤ start + (sweeps.length + 1) * sweepInterval

/-- The session of a peer, if there is one, is watched, and its contacts are the sweeps
and the payloads that were sent to it. -/
structure Attended (remote : Address) (start clock : Instant)
    (sweeps payloads contacts : List Instant) (endpoint : Endpoint) : Prop where
  usual : endpoint.roster.settings = {}
  begun : start ≤ clock
  past : ∀ time ∈ contacts, time ≤ clock
  merged : ∀ since, contacts.countP (since ≤ ·) =
    sweeps.countP (since ≤ ·) + payloads.countP (since ≤ ·)
  watched : ∀ session, endpoint.roster.get? remote = some session →
    ∃ tracked, session.Watched start clock contacts tracked

variable {remote : Address} {start clock due : Instant}
  {sweeps payloads contacts : List Instant} {endpoint : Endpoint}

theorem Beat.later (beat : Beat start clock due sweeps) {now : Instant} (after : clock ≤ now)
    (before : now ≤ due) : Beat start now due sweeps :=
  { beat with
    begun := Nat.le_trans beat.begun after
    past := fun time present => Nat.le_trans (beat.past time present) after
    ahead := before }

theorem Beat.sweep (beat : Beat start clock due sweeps) :
    Beat start due (due + sweepInterval) (sweeps ++ [due]) where
  begun := Nat.le_trans beat.begun beat.ahead
  past time present := by
    rcases List.mem_append.mp present with old | new
    · exact Nat.le_trans (beat.past time old) beat.ahead
    · exact Nat.le_of_eq (List.mem_singleton.mp new)
  ahead := Nat.le_add_right ..
  steady count within := by
    rw [List.countP_append]
    cases count with
    | zero =>
      have later : ∀ time ∈ sweeps, ¬ due + sweepInterval ≤ time := fun time present reached =>
        absurd (Nat.le_trans reached (Nat.le_trans (beat.past time present) beat.ahead))
          (Nat.not_le_of_lt (Nat.lt_add_of_pos_right (by decide)))
      have none : sweeps.countP (due + sweepInterval ≤ ·) = 0 := by
        rw [List.countP_eq_zero]
        intro time present
        simpa using later time present
      have next : ¬ due + sweepInterval ≤ due :=
        Nat.not_le_of_lt (Nat.lt_add_of_pos_right (by decide))
      simp [none, next]
    | succ count =>
      rw [List.length_append, List.length_singleton] at within
      have same : due + sweepInterval - (count + 1) * sweepInterval =
          due - count * sweepInterval := by
        rw [Nat.succ_mul, Nat.add_sub_add_right]
      rw [same, beat.steady count (by omega)]
      simp
  long := by
    rw [List.length_append, List.length_singleton, Nat.succ_mul, ← Nat.add_assoc]
    exact Nat.add_le_add_right beat.long _

theorem Attended.later (attended : endpoint.Attended remote start clock sweeps payloads contacts)
    {now : Instant} (after : clock ≤ now) :
    endpoint.Attended remote start now sweeps payloads contacts :=
  { attended with
    begun := Nat.le_trans attended.begun after
    past := fun time present => Nat.le_trans (attended.past time present) after
    watched := fun session stored => by
      obtain ⟨tracked, watched⟩ := attended.watched session stored
      exact ⟨tracked, watched.later after⟩ }

/-! ## Operations that send the peer no packet with a number -/

/-- Steps after which nothing but a sign of life from the peer counts, which is given
now. -/
def Quiet (now : Instant) : Deed → Prop
  | .sent _ | .kept _ => False
  | .received time => time = now
  | .checked _ | .seated | .ended | .judged | .noticed | .aside => True

theorem quiet_of_deeds {operation : Operation} {now : Instant}
    (present : operation.time? = some now ∨ operation.time? = none)
    (unsent : ∀ client payload reliable time, operation ≠ .send client payload reliable time)
    (unswept : ∀ time, operation ≠ .sweep time) : ∀ deed ∈ operation.deeds, Quiet now deed := by
  intro deed among
  cases operation with
  | send client payload reliable time => exact absurd rfl (unsent client payload reliable time)
  | sweep time => exact absurd rfl (unswept time)
  | datagram remote bytes time =>
    have same : time = now := by simpa [Operation.time?] using present
    simp only [Operation.deeds, List.mem_cons, List.not_mem_nil, or_false] at among
    rcases among with rfl | rfl | rfl | rfl | rfl <;> first | exact same | trivial
  | ban host duration time =>
    simp only [Operation.deeds, List.mem_cons, List.not_mem_nil, or_false] at among
    rcases among with rfl | rfl <;> trivial
  | _ =>
    simp only [Operation.deeds, List.mem_cons, List.not_mem_nil, or_false] at among
    subst among
    trivial

theorem watched_turn {other : Address} {deed : Deed} {session next : Session}
    {events : List Event} {sent : List Bytes} {tracked : List Instant}
    (turn : Turn other deed session events sent next) (quiet : Quiet clock deed)
    (past : ∀ time ∈ contacts, time ≤ clock)
    (watched : session.Watched start clock contacts tracked) :
    next.Watched start clock contacts tracked := by
  cases turn with
  | checked checked =>
    rw [(Session.checkRate_eq_ok checked).2]
    exact watched.congr rfl rfl rfl rfl rfl
  | received packet now left =>
    cases quiet
    have stays : ∀ farewell, packet ≠ .disconnect farewell := by
      rintro farewell rfl
      rw [Session.handlePacket, if_pos (Session.isOpen_of_staged watched.staged)] at left
      cases left
    exact (watched.received past stays).congr rfl rfl rfl rfl rfl
  | sent _ => cases quiet
  | refused _ => cases quiet
  | kept _ _ => cases quiet
  | seated room => exact watched.congr rfl rfl rfl rfl rfl
  | unseated => exact watched.congr rfl rfl rfl rfl rfl

theorem Attended.of_step {host : Host} {deed : Deed} {finish : Endpoint} {report : Report}
    (attended : endpoint.Attended remote start clock sweeps payloads contacts)
    (step : Step host deed endpoint report finish) (quiet : Quiet clock deed) :
    finish.Attended remote start clock sweeps payloads contacts := by
  cases step with
  | @turned _ other _ session next events sent stored turn =>
    refine { attended with watched := fun found here => ?_ }
    have here : (endpoint.put other next).roster.get? remote = some found := here
    rw [get?_put] at here
    split at here
    · rename_i same
      cases here
      obtain ⟨tracked, watched⟩ := attended.watched session (same ▸ stored)
      exact ⟨tracked, watched_turn turn quiet attended.past watched⟩
    · exact attended.watched found here
  | @ended _ other session next cause stored ending =>
    refine { attended with watched := fun found here => ?_ }
    rw [get?_release] at here
    split at here
    · cases here
    · exact attended.watched found here
  | judged _ => exact { attended with }
  | noticed _ _ => exact { attended with }
  | aside _ _ _ _ => exact { attended with }

theorem Attended.of_course {finish : Endpoint} {report : Report}
    {allowed : Host → Deed → Prop} (quiet : ∀ host deed, allowed host deed → Quiet clock deed)
    (attended : endpoint.Attended remote start clock sweeps payloads contacts)
    (course : Course allowed endpoint report finish) :
    finish.Attended remote start clock sweeps payloads contacts := by
  induction course with
  | stay => exact attended
  | step one fits _ ih => exact ih (attended.of_step one (quiet _ _ fits))

theorem Attended.of_opening {operation : Operation} {opened : Endpoint}
    (attended : endpoint.Attended remote start clock sweeps payloads contacts)
    (present : operation.time? = some clock ∨ operation.time? = none)
    (opening : endpoint.Opening operation opened) :
    opened.Attended remote start clock sweeps payloads contacts := by
  cases opening with
  | known _ => exact attended
  | @fresh other bytes now session _ made =>
    have same : now = clock := by simpa [Operation.time?] using present
    subst same
    rw [attended.usual] at made
    refine { attended with watched := fun found here => ?_ }
    rw [get?_enrol] at here
    split at here
    · cases here
      exact ⟨[], Session.watched_create made attended.begun⟩
    · exact attended.watched found here

/-- Whatever is neither a sweep nor a payload of the application. -/
theorem Attended.of_apply {operation : Operation} {outcome : Outcome} {finish : Endpoint}
    (attended : endpoint.Attended remote start clock sweeps payloads contacts)
    (h : endpoint.apply operation = .ok (outcome, finish))
    (present : operation.time? = some clock ∨ operation.time? = none)
    (unsent : ∀ client payload reliable time, operation ≠ .send client payload reliable time)
    (unswept : ∀ time, operation ≠ .sweep time) :
    finish.Attended remote start clock sweeps payloads contacts := by
  obtain ⟨opened, opening, course⟩ := course_of_apply h
  exact (attended.of_opening present opening).of_course
    (fun _ deed may => quiet_of_deeds present unsent unswept deed may.2) course

/-! ## Payloads -/

theorem Attended.reach (attended : endpoint.Attended remote start clock sweeps payloads contacts)
    {finish : Endpoint} (usual : finish.roster.settings = {})
    (watched : ∀ session, finish.roster.get? remote = some session →
      ∃ tracked, session.Watched start clock (contacts ++ [clock]) tracked) :
    finish.Attended remote start clock sweeps (payloads ++ [clock]) (contacts ++ [clock]) where
  usual := usual
  begun := attended.begun
  past time present := by
    rcases List.mem_append.mp present with old | new
    · exact attended.past time old
    · exact Nat.le_of_eq (List.mem_singleton.mp new)
  merged since := by
    rw [List.countP_append, List.countP_append, attended.merged, Nat.add_assoc]
  watched := watched

theorem Attended.send {client : ClientId} {payload : Payload} {reliable : Bool}
    {outcome : Outcome} {finish : Endpoint}
    (attended : endpoint.Attended remote start clock sweeps payloads contacts)
    (h : endpoint.apply (.send client payload reliable clock) = .ok (outcome, finish)) :
    ∃ contacts, finish.Attended remote start clock sweeps
      (payloads ++ endpoint.reachedBy remote (.send client payload reliable clock) outcome)
      contacts := by
  simp only [apply, Halt.bind_eq_ok, Halt.pure_eq_ok] at h
  rcases h with ⟨⟨answer, finish⟩, returned, h⟩
  cases h
  cases posting_of_send returned with
  | unknown _ =>
    refine ⟨contacts, ?_⟩
    rw [show endpoint.reachedBy remote (.send client payload reliable clock)
      (Outcome.ofSent (.error (.notFound client))) = [] from rfl, List.append_nil]
    exact attended
  | @sent other session next number known stored delivered =>
    have sending := Session.sending delivered
    by_cases here : other = remote
    · subst here
      obtain ⟨tracked, watched⟩ := attended.watched session stored
      cases number with
      | some sequence =>
        have reliably : reliable = true := by cases sending; rfl
        subst reliably
        have now : endpoint.reachedBy other (.send client payload true clock)
            (Outcome.ofSent (.ok (some sequence))) = [clock] := if_pos known
        rw [now]
        refine ⟨contacts ++ [clock], attended.reach attended.usual fun found stored' => ?_⟩
        cases (get?_put_self endpoint other next.takeOutgoing.2).symm.trans stored'
        exact ⟨_, watched.sent sending⟩
      | none =>
        have never : endpoint.reachedBy other (.send client payload reliable clock)
            (Outcome.ofSent (.ok none)) = [] := rfl
        rw [never, List.append_nil]
        refine ⟨contacts, { attended with watched := fun found stored' => ?_ }⟩
        cases (get?_put_self endpoint other next.takeOutgoing.2).symm.trans stored'
        have same := watched.notSent sending (by intro _ clash; cases clash)
        exact ⟨tracked, same.congr rfl rfl rfl rfl rfl⟩
    · have never : endpoint.reachedBy remote (.send client payload reliable clock)
          (Outcome.ofSent (.ok number)) = [] := by
        cases number with
        | none => rfl
        | some sequence => exact if_neg (by simp [known, here])
      rw [never, List.append_nil]
      refine ⟨contacts, { attended with watched := fun found stored' => ?_ }⟩
      have elsewhere : (endpoint.put other next.takeOutgoing.2).roster.get? remote =
          some found := stored'
      rw [get?_put, if_neg (Ne.symm here)] at elsewhere
      exact attended.watched found elsewhere
  | @refused other session next fault known stored delivered =>
    have never : endpoint.reachedBy remote (.send client payload reliable clock)
        (Outcome.ofSent (.error fault)) = [] := rfl
    rw [never, List.append_nil]
    refine ⟨contacts, { attended with watched := fun found stored' => ?_ }⟩
    rw [get?_put] at stored'
    split at stored'
    · rename_i here
      cases stored'
      obtain ⟨tracked, watched⟩ := attended.watched session (here ▸ stored)
      exact ⟨tracked, watched.notSent (Session.sending delivered) (by intro _ clash; cases clash)⟩
    · exact attended.watched found stored'

/-! ## Sweeps -/

theorem get?_of_swept {other : Address} {now : Instant} {report : Report} {finish : Endpoint}
    (swept : endpoint.Swept other now report finish) (elsewhere : remote ≠ other) :
    finish.roster.get? remote = endpoint.roster.get? remote := by
  cases swept with
  | absent _ => rfl
  | kept _ _ _ => exact (get?_put ..).trans (if_neg elsewhere)
  | unresponsive _ _ => exact (get?_release ..).trans (if_neg elsewhere)
  | idle _ _ _ => exact (get?_release ..).trans (if_neg elsewhere)

theorem settings_of_swept {other : Address} {now : Instant} {report : Report}
    {finish : Endpoint} (swept : endpoint.Swept other now report finish) :
    finish.roster.settings = endpoint.roster.settings := by
  cases swept <;> rfl

/-- A sweep leaves the sessions alone that it does not visit. -/
theorem frame_of_sweepAll {addresses : List Address} {now : Instant} {report : Report}
    {finish : Endpoint} (h : sweepAll now addresses endpoint = .ok (report, finish)) :
    finish.roster.settings = endpoint.roster.settings ∧
      ∀ remote ∉ addresses, finish.roster.get? remote = endpoint.roster.get? remote := by
  induction addresses generalizing endpoint report with
  | nil =>
    cases h
    exact ⟨rfl, fun _ _ => rfl⟩
  | cons other rest ih =>
    simp only [sweepAll, Halt.bind_eq_ok, Halt.pure_eq_ok] at h
    rcases h with ⟨⟨first, middle⟩, one, ⟨more, last⟩, others, h⟩
    cases h
    have swept := swept_of_sweepAt one
    obtain ⟨settings, stays⟩ := ih others
    refine ⟨settings.trans (settings_of_swept swept), fun remote absent => ?_⟩
    rw [List.mem_cons, not_or] at absent
    exact (stays remote absent.2).trans (get?_of_swept swept absent.1)

/-- A sweep visits every session once. -/
theorem swept_of_sweepAll {addresses : List Address} {now : Instant} {report : Report}
    {finish : Endpoint} (distinct : addresses.Nodup) (present : remote ∈ addresses)
    (h : sweepAll now addresses endpoint = .ok (report, finish)) :
    ∃ (before : Endpoint) (part : Report) (after : Endpoint),
      before.roster.get? remote = endpoint.roster.get? remote ∧ before.Swept remote now part after ∧
      finish.roster.get? remote = after.roster.get? remote ∧
      ∀ event ∈ part.events, event ∈ report.events := by
  induction addresses generalizing endpoint report with
  | nil => cases present
  | cons other rest ih =>
    simp only [sweepAll, Halt.bind_eq_ok, Halt.pure_eq_ok] at h
    rcases h with ⟨⟨first, middle⟩, one, ⟨more, last⟩, others, h⟩
    cases h
    obtain ⟨alone, distinct⟩ := List.nodup_cons.mp distinct
    have swept := swept_of_sweepAt one
    by_cases here : remote = other
    · subst here
      exact ⟨endpoint, first, middle, rfl, swept, (frame_of_sweepAll others).2 remote alone,
        fun event among => List.mem_append_left _ among⟩
    · have later : remote ∈ rest := (List.mem_cons.mp present).resolve_left here
      obtain ⟨before, part, after, same, swept', kept, told⟩ := ih distinct later others
      exact ⟨before, part, after, same.trans (get?_of_swept swept here), swept', kept,
        fun event among => List.mem_append_right _ (told event among)⟩

theorem swept_of_sweep {now : Instant} {report : Report} {finish : Endpoint}
    {session : Session} (h : endpoint.sweep now = .ok (report, finish))
    (stored : endpoint.roster.get? remote = some session) :
    ∃ (before : Endpoint) (part : Report) (after : Endpoint),
      before.roster.get? remote = some session ∧ before.Swept remote now part after ∧
      finish.roster.get? remote = after.roster.get? remote ∧
      ∀ event ∈ part.events, event ∈ report.events := by
  obtain ⟨swept, visited, rfl⟩ := sweep_eq_ok.mp h
  have present : remote ∈ endpoint.roster.addresses := Table.mem_keys_of_get? stored
  obtain ⟨before, part, after, same, visit, kept, told⟩ :=
    swept_of_sweepAll endpoint.roster.sessions.nodup_keys present visited
  exact ⟨before, part, after, same.trans stored, visit, kept, told⟩

theorem get?_sweep_of_none {now : Instant} {report : Report} {finish : Endpoint}
    (h : endpoint.sweep now = .ok (report, finish))
    (absent : endpoint.roster.get? remote = none) : finish.roster.get? remote = none := by
  obtain ⟨swept, visited, rfl⟩ := sweep_eq_ok.mp h
  exact ((frame_of_sweepAll visited).2 remote (Table.get?_eq_none_iff.mp absent)).trans absent

/-- A session that is there after a sweep was there before, and was looked after. -/
theorem kept_of_sweep {now : Instant} {report : Report} {finish : Endpoint} {next : Session}
    (h : endpoint.sweep now = .ok (report, finish))
    (stays : finish.roster.get? remote = some next) :
    ∃ session upkeep kept, endpoint.roster.get? remote = some session ∧
      session.maintain now = .ok (upkeep, kept) ∧ upkeep.health = .alive ∧
      next = kept.takeOutgoing.2 := by
  cases stored : endpoint.roster.get? remote with
  | none =>
    rw [get?_sweep_of_none h stored] at stays
    cases stays
  | some session =>
    obtain ⟨before, part, after, same, visit, kept, -⟩ := swept_of_sweep h stored
    rw [kept] at stays
    cases visit with
    | absent absent =>
      rw [absent] at stays
      cases stays
    | kept stored' returned alive =>
      rw [same] at stored'
      cases stored'
      rw [roster_enqueue, get?_put_self] at stays
      cases stays
      exact ⟨session, _, _, rfl, returned, alive, rfl⟩
    | unresponsive _ _ | idle _ _ _ =>
      rw [get?_release, if_pos rfl] at stays
      cases stays

/-- A session that a sweep keeps is still the same client's, who has not been heard. -/
theorem same_of_sweep {now : Instant} {report : Report} {finish : Endpoint}
    {session next : Session} (h : endpoint.sweep now = .ok (report, finish))
    (stored : endpoint.roster.get? remote = some session)
    (stays : finish.roster.get? remote = some next) :
    next.identity = session.identity ∧ next.lastReceivedAt = session.lastReceivedAt := by
  obtain ⟨before, upkeep, kept, stored', returned, -, rfl⟩ := kept_of_sweep h stays
  cases stored.symm.trans stored'
  have looking := Session.looking returned
  exact ⟨looking.identity_eq, looking.lastReceivedAt_eq⟩

theorem Attended.sweep (attended : endpoint.Attended remote start clock sweeps payloads contacts)
    {report : Report} {finish : Endpoint} (h : endpoint.sweep clock = .ok (report, finish)) :
    finish.Attended remote start clock (sweeps ++ [clock]) payloads (contacts ++ [clock]) where
  usual := by
    obtain ⟨swept, visited, rfl⟩ := sweep_eq_ok.mp h
    exact (frame_of_sweepAll visited).1.trans attended.usual
  begun := attended.begun
  past time present := by
    rcases List.mem_append.mp present with old | new
    · exact attended.past time old
    · exact Nat.le_of_eq (List.mem_singleton.mp new)
  merged since := by
    rw [List.countP_append, List.countP_append, attended.merged, Nat.add_right_comm]
  watched found here := by
    obtain ⟨session, upkeep, kept, stored, returned, alive, rfl⟩ := kept_of_sweep h here
    obtain ⟨tracked, watched⟩ := attended.watched session stored
    exact watched.kept (Session.looking returned) alive

/-! ## Runs -/

/-- Every operation but a sweep. -/
theorem Attended.next {operation : Operation} {outcome : Outcome} {finish : Endpoint}
    (attended : endpoint.Attended remote start clock sweeps payloads contacts)
    (h : endpoint.apply operation = .ok (outcome, finish))
    (present : operation.time? = some clock ∨ operation.time? = none)
    (unswept : ∀ time, operation ≠ .sweep time) :
    ∃ contacts, finish.Attended remote start clock sweeps
      (payloads ++ endpoint.reachedBy remote operation outcome) contacts := by
  by_cases sends : ∃ client payload reliable time,
      operation = .send client payload reliable time
  · rcases sends with ⟨client, payload, reliable, time, rfl⟩
    have now : time = clock := by simpa [Operation.time?] using present
    subst now
    exact attended.send h
  · have unsent : ∀ client payload reliable time,
        operation ≠ .send client payload reliable time :=
      fun client payload reliable time same => sends ⟨client, payload, reliable, time, same⟩
    have never : endpoint.reachedBy remote operation outcome = [] := by
      cases operation with
      | send client payload reliable time => exact absurd rfl (unsent client payload reliable time)
      | _ => rfl
    rw [never, List.append_nil]
    exact ⟨contacts, attended.of_apply h present unsent unswept⟩

theorem Attended.of_run {operations : List Operation} {outcomes : List Outcome}
    {finish : Endpoint} {last next : Instant} (beat : Beat start clock due sweeps)
    (attended : endpoint.Attended remote start clock sweeps payloads contacts)
    (paced : Paced clock due operations last next)
    (h : endpoint.run operations = .ok (outcomes, finish)) :
    ∃ sweeps contacts, Beat start last next sweeps ∧
      finish.Attended remote start last sweeps (payloads ++ endpoint.reached remote operations)
        contacts := by
  induction paced generalizing endpoint outcomes sweeps payloads contacts with
  | done clock due =>
    cases h
    rw [reached, List.append_nil]
    exact ⟨sweeps, contacts, beat, attended⟩
  | @swept clock due last next rest before paced ih =>
    obtain ⟨outcome, middle, others, first, returned, rfl⟩ := run_cons_eq_ok.mp h
    have unreached : endpoint.reached remote (.sweep due :: rest) =
        middle.reached remote rest := by
      rw [reached, first]
      rfl
    simp only [apply, Halt.bind_eq_ok, Halt.pure_eq_ok] at first
    rcases first with ⟨⟨report, swept⟩, first, same⟩
    cases same
    rw [unreached]
    exact ih beat.sweep ((attended.later before).sweep first) returned
  | @timed clock due now last next operation rest time unswept after before paced ih =>
    obtain ⟨outcome, middle, others, first, returned, rfl⟩ := run_cons_eq_ok.mp h
    obtain ⟨contacts, attended⟩ := (attended.later after).next first (.inl time) unswept
    rw [reached, first]
    simp only
    rw [← List.append_assoc]
    exact ih (beat.later after before) attended returned
  | @timeless clock due last next operation rest untimed paced ih =>
    obtain ⟨outcome, middle, others, first, returned, rfl⟩ := run_cons_eq_ok.mp h
    have unswept : ∀ time, operation ≠ .sweep time := by
      rintro time rfl
      cases untimed
    obtain ⟨contacts, attended⟩ := attended.next first (.inr untimed) unswept
    rw [reached, first]
    simp only
    rw [← List.append_assoc]
    exact ih beat attended returned

theorem attended_create (remote : Address) (start : Instant) :
    (Endpoint.create {}).Attended remote start start [] [] [] where
  usual := rfl
  begun := Nat.le_refl _
  past _ present := by cases present
  merged _ := rfl
  watched _ stored := by cases stored

/-! ## The verdict on a silent peer -/

/-- Within the time that a silent peer was silent there were enough sweeps. -/
theorem Beat.length_ge (beat : Beat start clock due sweeps) {heard : Instant}
    (begun : start ≤ heard) (silent : heard + Span.ofSeconds 30 < due) : 8 ≤ sweeps.length := by
  have long : due ≤ start + (sweeps.length + 1) * 2000000 := beat.long
  have past : heard + 30000000 < due := silent
  refine Nat.le_of_not_lt fun few => ?_
  have short : (sweeps.length + 1) * 2000000 ≤ 16000000 := by
    have most := Nat.mul_le_mul_right 2000000 (Nat.succ_le_of_lt few)
    exact most
  exact absurd (Nat.lt_of_lt_of_le past (Nat.le_trans long (Nat.add_le_add begun short)))
    (Nat.not_lt_of_le (Nat.add_le_add_left (by decide) heard))

/-- A silent peer is given up by a sweep unless the four pings and the payloads of the
last eight seconds fill its list. -/
theorem Attended.isUnresponsive_iff
    (attended : endpoint.Attended remote start due sweeps payloads contacts)
    (beat : Beat start clock due sweeps) {session : Session}
    (stored : endpoint.roster.get? remote = some session) (silent : session.SilentAt due) :
    session.isUnresponsive due = true ↔ payloads.countP (due - Span.ofSeconds 8 ≤ ·) < 4 := by
  obtain ⟨tracked, watched⟩ := attended.watched session stored
  have many := beat.length_ge watched.begun silent.2
  have eight : sweeps.countP (due - Span.ofSeconds 16 ≤ ·) = 8 := beat.steady 8 many
  have four : sweeps.countP (due - Span.ofSeconds 8 ≤ ·) = 4 := beat.steady 4 (by omega)
  have enough : 8 ≤ contacts.countP (due - Span.ofSeconds 16 ≤ ·) := by
    rw [attended.merged, eight]
    exact Nat.le_add_right ..
  have past : session.lastReceivedAt + Span.ofSeconds 30 < due := silent.2
  have before : session.lastReceivedAt < due - Span.ofSeconds 16 := by
    rw [Nat.lt_sub_iff_add_lt]
    exact Nat.lt_of_le_of_lt (Nat.add_le_add_left (by decide) _) past
  have long : due - Span.ofSeconds 16 + Span.ofSeconds 8 ≤ due := by
    have reach : Span.ofSeconds 16 ≤ due :=
      Nat.le_of_lt (Nat.lt_of_le_of_lt (Nat.le_trans (by decide) (Nat.le_add_left ..)) past)
    exact Nat.le_trans (Nat.add_le_add_left (by decide) _) (Nat.le_of_eq (Nat.sub_add_cancel reach))
  rw [watched.isUnresponsive_iff silent.1 before enough long, attended.merged, four]
  omega

/-- A sweep takes out the session of a known client exactly where it gives the client up,
and then the application is told. -/
theorem Attended.sweep_known
    (attended : endpoint.Attended remote start due sweeps payloads contacts)
    {session : Session} (stored : endpoint.roster.get? remote = some session)
    (known : session.isIdentified = true) {report : Report} {finish : Endpoint}
    (swept : endpoint.sweep due = .ok (report, finish)) :
    (session.isUnresponsive due = true ∧ finish.roster.get? remote = none ∧
        .disconnected session.client remote .timeout ∈ report.events) ∨
      (session.isUnresponsive due = false ∧ ∃ next, finish.roster.get? remote = some next) := by
  obtain ⟨tracked, watched⟩ := attended.watched session stored
  obtain ⟨before, part, after, same, visit, kept, told⟩ := swept_of_sweep swept stored
  rw [kept]
  cases visit with
  | absent absent =>
    rw [same] at absent
    cases absent
  | kept stored' returned alive =>
    rw [same] at stored'
    cases stored'
    have opened := Session.isOpen_of_staged watched.staged
    exact .inr ⟨(Session.looking returned).isUnresponsive_eq opened known alive, _,
      get?_put_self _ _ _⟩
  | unresponsive stored' stalled =>
    rw [same] at stored'
    cases stored'
    refine .inl ⟨stalled, (get?_release ..).trans (if_pos rfl), told _ ?_⟩
    have left := Session.disconnect_frame session (some (.plain .none))
    have mine : (session.disconnect (some (.plain .none))).2.isIdentified = true := by
      rw [left]
      exact known
    have client : (session.disconnect (some (.plain .none))).2.client = session.client := by
      rw [left]
    simp only [farewellReport, mine, if_true, client]
    exact List.mem_singleton_self _
  | idle stored' unknown _ =>
    rw [same] at stored'
    cases stored'
    rw [known] at unknown
    cases unknown

/-- After a sweep a silent client is still registered exactly where it was registered
before and at least four payloads went out to it in the last eight seconds. Otherwise it
is taken out, and the application is told that it timed out. -/
theorem silent_stays_iff {operations : List Operation} {outcomes : List Outcome}
    {finish : Endpoint} {report : Report} {now : Instant} (first : start ≤ due)
    (soon : due ≤ start + sweepInterval) (paced : Paced start due operations clock now)
    (returned : (Endpoint.create {}).run operations = .ok (outcomes, endpoint))
    (swept : endpoint.sweep now = .ok (report, finish)) (remote : Address) :
    ((∃ next, finish.roster.get? remote = some next ∧ next.SilentAt now) ↔
        ∃ session, endpoint.roster.get? remote = some session ∧ session.SilentAt now ∧
          4 ≤ ((Endpoint.create {}).reached remote operations).countP
            (now - Span.ofSeconds 8 ≤ ·)) ∧
      ∀ session, endpoint.roster.get? remote = some session → session.SilentAt now →
        finish.roster.get? remote = none →
          .disconnected session.client remote .timeout ∈ report.events := by
  have start : Beat start start due [] :=
    ⟨Nat.le_refl _, by simp, first, fun count none => by
      cases Nat.le_zero.mp none; rfl, by simpa using soon⟩
  obtain ⟨sweeps, contacts, beat, attended⟩ :=
    (attended_create remote _).of_run start paced returned
  rw [List.nil_append] at attended
  replace attended := attended.later beat.ahead
  have verdict {session : Session} (stored : endpoint.roster.get? remote = some session)
      (silent : session.SilentAt now) := attended.isUnresponsive_iff beat stored silent
  constructor
  · constructor
    · rintro ⟨next, stays, silent⟩
      cases stored : endpoint.roster.get? remote with
      | none =>
        rw [get?_sweep_of_none swept stored] at stays
        cases stays
      | some session =>
        obtain ⟨identity, heard⟩ := same_of_sweep swept stored stays
        have before : session.SilentAt now :=
          ⟨(Session.isIdentified_of_identity_eq identity).symm.trans silent.1, heard ▸ silent.2⟩
        refine ⟨session, rfl, before, Nat.le_of_not_lt fun few => ?_⟩
        rcases attended.sweep_known stored before.1 swept with ⟨-, gone, -⟩ | ⟨lively, -⟩
        · rw [gone] at stays
          cases stays
        · rw [(verdict stored before).mpr few] at lively
          cases lively
    · rintro ⟨session, stored, silent, many⟩
      rcases attended.sweep_known stored silent.1 swept with ⟨stalled, -⟩ | ⟨-, next, stays⟩
      · exact absurd ((verdict stored silent).mp stalled) (Nat.not_lt_of_le many)
      · obtain ⟨identity, heard⟩ := same_of_sweep swept stored stays
        exact ⟨next, stays, (Session.isIdentified_of_identity_eq identity).trans silent.1,
          heard ▸ silent.2⟩
  · intro session stored silent gone
    rcases attended.sweep_known stored silent.1 swept with ⟨-, -, told⟩ | ⟨-, next, stays⟩
    · exact told
    · rw [gone] at stays
      cases stays

/-- From a time on the application sends a payload one second after every sweep. -/
def busySweeps : Nat → Instant → List Operation
  | 0, _ => []
  | rounds + 1, due =>
    .sweep due :: .send ⟨1⟩ ⟨[]⟩ true (due + Span.ofSeconds 1) ::
      busySweeps rounds (due + sweepInterval)

theorem paced_busySweeps (rounds : Nat) {clock due : Instant} (before : clock ≤ due) :
    ∃ last, Paced clock due (busySweeps rounds due) last (due + rounds * sweepInterval) := by
  induction rounds generalizing clock due with
  | zero =>
    rw [Nat.zero_mul, Nat.add_zero]
    exact ⟨clock, .done clock due⟩
  | succ rounds ih =>
    have within : due + Span.ofSeconds 1 ≤ due + sweepInterval :=
      Nat.add_le_add_left (by decide) due
    obtain ⟨last, paced⟩ := ih within
    rw [Nat.succ_mul, Nat.add_comm (rounds * sweepInterval), ← Nat.add_assoc]
    exact ⟨last, .swept before (.timed rfl (by simp) (Nat.le_add_right ..) within paced)⟩

/-- A client greets and says nothing more, while the application goes on sending to it:
thirty seconds and a little more. -/
def busySilence : List Operation :=
  .datagram (.v4 default 1) [8, 0, 0, 1, 0, 0, 0, 0, 0] 0 ::
    .send ⟨1⟩ ⟨[]⟩ true (Span.ofSeconds 1) :: busySweeps 15 sweepInterval

theorem silent_stays_iff_busySilence :
    ∃ last outcomes endpoint report finish,
      Paced 0 sweepInterval busySilence last (Span.ofSeconds 32) ∧
      (Endpoint.create {}).run busySilence = .ok (outcomes, endpoint) ∧
      endpoint.sweep (Span.ofSeconds 32) = .ok (report, finish) ∧
      ∃ next, finish.roster.get? (.v4 default 1) = some next ∧
        next.SilentAt (Span.ofSeconds 32) := by
  have soon : Span.ofSeconds 1 ≤ sweepInterval := by decide
  obtain ⟨last, rest⟩ := paced_busySweeps 15 soon
  have paced : Paced 0 sweepInterval busySilence last (Span.ofSeconds 32) :=
    .timed rfl (by simp) (Nat.zero_le _) (Nat.zero_le _)
      (.timed rfl (by simp) (Nat.zero_le _) soon rest)
  obtain ⟨⟨report, finish⟩, h⟩ := Halt.exists_of_isSome
    ((Endpoint.create {}).run busySilence >>= fun ran => ran.2.sweep (Span.ofSeconds 32))
    (by decide +kernel)
  obtain ⟨⟨outcomes, endpoint⟩, returned, swept⟩ := Halt.bind_eq_ok.mp h
  have silent : ((Endpoint.create {}).run busySilence).toOption.any (fun ran =>
      (ran.2.roster.get? (.v4 default 1)).any
        fun session => session.SilentAt (Span.ofSeconds 32)) = true := by
    decide +kernel
  rw [returned] at silent
  change (endpoint.roster.get? (.v4 default 1)).any _ = true at silent
  obtain ⟨session, stored, silent⟩ := (Option.any_eq_true ..).mp silent
  have many : 4 ≤ ((Endpoint.create {}).reached (.v4 default 1) busySilence).countP
      (Span.ofSeconds 32 - Span.ofSeconds 8 ≤ ·) := by
    decide +kernel
  exact ⟨last, outcomes, endpoint, report, finish, paced, returned, swept,
    (silent_stays_iff (Nat.zero_le _) (Nat.le_refl _) paced returned swept _).1.mpr
      ⟨session, stored, of_decide_eq_true silent, many⟩⟩

end Endpoint

end SessionLayer
