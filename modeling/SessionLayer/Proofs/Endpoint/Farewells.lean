import SessionLayer.Proofs.Endpoint.Fetching

/-!
# The last word of a session

The annals of a run fall into the lives of its sessions: `livesOf` gathers what each
session has queued from the time when it was made until it ended. Between operations all
sessions are open (`Session.Steady`), so a farewell is queued only in the scene with which
a session ends. `Endpoint.farewell_last` draws the conclusion: a session queues one
farewell at most, and nothing behind it, and a session whose peer has left queues none.
The lives are those of the run: what they queue is what was fetched and what waits, each
life that goes on is a session that is there, and the ends are those that are reported.
-/

namespace SessionLayer

/-! ## Lives -/

/-- The life of a session. -/
structure Life where
  remote : Address
  /-- Everything that the session has queued, in order. -/
  queued : List Bytes
  /-- Why it ended, if it did. -/
  cause : Option DisconnectCause

namespace Life

/-- Whether this is the life of the session that an address has now. -/
def isAt (remote : Address) (life : Life) : Bool := life.remote = remote && life.cause.isNone

/-- Everything that was queued in a life, with the address for which it is. -/
def said (life : Life) : List (Address × Bytes) :=
  life.queued.map fun datagram => (life.remote, datagram)

/-- A life after one more incident. -/
def after (incident : Incident) (life : Life) : Life :=
  match incident with
  | .queued remote datagram =>
    if life.isAt remote then { life with queued := life.queued ++ [datagram] } else life
  | .ended remote _ _ cause =>
    if life.isAt remote then { life with cause := some cause } else life
  | .made _ | .noticed _ _ => life

/-- A farewell is the last word of a session, and there is none to a peer that has left. -/
structure Clean (life : Life) : Prop where
  /-- A farewell has nothing behind it and no other farewell before it. -/
  last : ∀ before farewell behind, life.queued = before ++ farewell :: behind →
    IsFarewell farewell → behind = [] ∧ ∀ datagram ∈ before, ¬ IsFarewell datagram
  unanswered : ∀ farewell, life.cause = some (.byPeer farewell) →
    ∀ datagram ∈ life.queued, ¬ IsFarewell datagram

/-- A life is clean, and one that goes on has no farewell yet. -/
structure Orderly (life : Life) : Prop where
  clean : life.Clean
  common : life.cause = none → ∀ datagram ∈ life.queued, ¬ IsFarewell datagram

end Life

/-- The lives after one more incident. -/
def livesAfter (lives : List Life) (incident : Incident) : List Life :=
  match incident with
  | .made remote => lives ++ [⟨remote, [], none⟩]
  | .queued _ _ | .ended _ _ _ _ | .noticed _ _ => lives.map (Life.after incident)

/-- The lives of all sessions in a story, in the order in which they were made. -/
def livesOf (log : List Incident) : List Life := log.foldl livesAfter []

namespace Life

variable {life : Life} {remote : Address} {datagram : Bytes} {client : ClientId}
  {identified : Bool} {cause : DisconnectCause}

theorem of_isAt (here : life.isAt remote = true) : life.remote = remote ∧ life.cause = none := by
  simpa [isAt] using here

/-- Without farewells a life is clean, however it ended. -/
theorem clean_of_common (common : ∀ datagram ∈ life.queued, ¬ IsFarewell datagram) :
    life.Clean where
  last _ farewell _ said ends :=
    absurd ends (common farewell (said ▸ List.mem_append_right _ (List.mem_cons_self ..)))
  unanswered _ _ := common

theorem Orderly.of_common (common : ∀ datagram ∈ life.queued, ¬ IsFarewell datagram) :
    life.Orderly :=
  ⟨clean_of_common common, fun _ => common⟩

/-- A common datagram keeps a life in order. -/
theorem Orderly.queued (orderly : life.Orderly) (remote : Address)
    (common : ¬ IsFarewell datagram) : (life.after (.queued remote datagram)).Orderly := by
  rw [after]
  split
  · rename_i here
    refine .of_common fun other among => ?_
    rcases List.mem_append.mp among with old | new
    · exact orderly.common (of_isAt here).2 other old
    · exact List.mem_singleton.mp new ▸ common
  · exact orderly

/-- A last datagram behind common ones is the only one that may be a farewell. -/
theorem clean_of_last {datagrams : List Bytes} {last : Bytes}
    (said : life.queued = datagrams ++ [last])
    (common : ∀ datagram ∈ datagrams, ¬ IsFarewell datagram)
    (stayed : ∀ farewell, life.cause ≠ some (.byPeer farewell)) : life.Clean where
  last before farewell behind split ends := by
    rw [said] at split
    rcases List.eq_nil_or_concat behind with rfl | ⟨front, other, rfl⟩
    · obtain ⟨rfl, -⟩ := List.append_inj' split rfl
      exact ⟨rfl, common⟩
    · rw [List.concat_eq_append, ← List.cons_append, ← List.append_assoc] at split
      obtain ⟨rfl, -⟩ := List.append_inj' split rfl
      exact absurd ends (common farewell (List.mem_append_right _ (List.mem_cons_self ..)))
  unanswered farewell left := absurd left (stayed farewell)

theorem after_queued_of_isAt (here : life.isAt remote = true) (datagram : Bytes) :
    life.after (.queued remote datagram) = { life with queued := life.queued ++ [datagram] } :=
  if_pos here

theorem after_ended_of_isAt (here : life.isAt remote = true) :
    life.after (.ended remote client identified cause) = { life with cause := some cause } :=
  if_pos here

theorem after_ended_of_not_isAt (elsewhere : life.isAt remote = false) :
    life.after (.ended remote client identified cause) = life := by
  rw [after, elsewhere, if_neg Bool.false_ne_true]

theorem isAt_after_queued (remote other : Address) (datagram : Bytes) (life : Life) :
    (life.after (.queued remote datagram)).isAt other = life.isAt other := by
  rw [after]
  split <;> rfl

theorem isAt_after_ended (remote other : Address) (life : Life) :
    (life.after (.ended remote client identified cause)).isAt other =
      (life.isAt other && other ≠ remote) := by
  cases here : life.isAt remote with
  | true =>
    rw [after_ended_of_isAt here, isAt, isAt, (of_isAt here).1]
    by_cases same : remote = other
    · simp [same]
    · simp [same, Ne.symm same]
  | false =>
    rw [after_ended_of_not_isAt here]
    by_cases same : other = remote <;> simp [same, here]

theorem said_after_ended (remote : Address) (life : Life) :
    (life.after (.ended remote client identified cause)).said = life.said := by
  rw [after]
  split <;> rfl

/-- A life may end without a word. -/
theorem Orderly.ended (orderly : life.Orderly) (remote : Address) :
    (life.after (.ended remote client identified cause)).Orderly := by
  cases here : life.isAt remote with
  | false => rwa [after_ended_of_not_isAt here]
  | true =>
    rw [after_ended_of_isAt here]
    exact ⟨clean_of_common (orderly.common (of_isAt here).2), nofun⟩

/-- A life may end with one last word, unless the peer has left. -/
theorem Orderly.parted (orderly : life.Orderly) (remote : Address) (last : Bytes)
    (stayed : ∀ farewell, cause ≠ .byPeer farewell) :
    ((life.after (.queued remote last)).after
      (.ended remote client identified cause)).Orderly := by
  cases here : life.isAt remote with
  | false => simpa [after, here] using orderly
  | true =>
    have still : (life.after (.queued remote last)).isAt remote = true := by
      rw [isAt_after_queued, here]
    rw [after_ended_of_isAt still, after_queued_of_isAt here]
    refine ⟨clean_of_last rfl (orderly.common (of_isAt here).2) fun farewell left => ?_, nofun⟩
    exact stayed farewell (Option.some.inj left)

end Life

/-! ## Many lives -/

section Lives

variable {lives : List Life} {incident : Incident}

theorem orderly_map (each : ∀ life ∈ lives, (life.after incident).Orderly) :
    ∀ life ∈ lives.map (Life.after incident), life.Orderly := by
  intro life among
  obtain ⟨before, present, rfl⟩ := List.mem_map.mp among
  exact each before present

variable (lives) (remote other : Address)

/-- A notice to a banned host belongs to no life. -/
theorem livesAfter_noticed (notice : Bytes) : livesAfter lives (.noticed remote notice) = lives :=
  List.map_id lives

theorem countP_livesAfter_made :
    (livesAfter lives (.made remote)).countP (Life.isAt other) =
      lives.countP (Life.isAt other) + if other = remote then 1 else 0 := by
  rw [livesAfter, List.countP_append, List.countP_singleton]
  simp [Life.isAt, eq_comm]

theorem countP_livesAfter_queued (datagram : Bytes) :
    (livesAfter lives (.queued remote datagram)).countP (Life.isAt other) =
      lives.countP (Life.isAt other) := by
  rw [livesAfter, List.countP_map]
  exact List.countP_congr fun life _ => by
    rw [Function.comp_apply, Life.isAt_after_queued]

theorem countP_foldl_queued (datagrams : List Bytes) :
    ((datagrams.map (.queued remote)).foldl livesAfter lives).countP (Life.isAt other) =
      lives.countP (Life.isAt other) := by
  induction datagrams generalizing lives with
  | nil => rfl
  | cons datagram rest ih => exact (ih _).trans (countP_livesAfter_queued lives _ _ datagram)

theorem countP_livesAfter_ended (client : ClientId) (identified : Bool) (cause : DisconnectCause) :
    (livesAfter lives (.ended remote client identified cause)).countP (Life.isAt other) =
      if other = remote then 0 else lives.countP (Life.isAt other) := by
  rw [livesAfter, List.countP_map]
  split
  · rename_i same
    exact List.countP_eq_zero.mpr fun life _ => by
      rw [Function.comp_apply, Life.isAt_after_ended]
      simp [same]
  · rename_i elsewhere
    exact List.countP_congr fun life _ => by
      rw [Function.comp_apply, Life.isAt_after_ended]
      simp [elsewhere]

/-- What a session queues is added to one life, if it has one. -/
theorem said_livesAfter_queued (datagram : Bytes)
    (one : lives.countP (Life.isAt remote) = 1) :
    ((livesAfter lives (.queued remote datagram)).flatMap Life.said).Perm
      (lives.flatMap Life.said ++ [(remote, datagram)]) := by
  rw [livesAfter]
  induction lives with
  | nil => cases one
  | cons life rest ih =>
    rw [List.map_cons, List.flatMap_cons, List.flatMap_cons, List.append_assoc]
    cases here : life.isAt remote with
    | true =>
      rw [List.countP_cons_of_pos here, Nat.succ_inj, List.countP_eq_zero] at one
      have others : rest.map (Life.after (.queued remote datagram)) = rest :=
        (List.map_congr_left fun other among => if_neg (one other among)).trans (List.map_id rest)
      have added : (life.after (.queued remote datagram)).said =
          life.said ++ [(remote, datagram)] := by
        simp [Life.after_queued_of_isAt here, Life.said, (Life.of_isAt here).1]
      rw [others, added, List.append_assoc]
      exact List.perm_append_comm.append_left _
    | false =>
      have same : life.after (.queued remote datagram) = life :=
        if_neg (here ▸ Bool.false_ne_true)
      rw [List.countP_cons_of_neg (here ▸ Bool.false_ne_true)] at one
      rw [same]
      exact (ih one).append_left _

theorem said_foldl_queued (datagrams : List Bytes)
    (one : lives.countP (Life.isAt remote) = 1) :
    (((datagrams.map (.queued remote)).foldl livesAfter lives).flatMap Life.said).Perm
      (lives.flatMap Life.said ++ (datagrams.map (.queued remote)).filterMap Incident.queued?) := by
  induction datagrams generalizing lives with
  | nil => simp
  | cons datagram rest ih =>
    have still := (countP_livesAfter_queued lives remote remote datagram).trans one
    have more := (said_livesAfter_queued lives remote datagram one).append_right
      ((rest.map (Incident.queued remote)).filterMap Incident.queued?)
    rw [List.append_assoc] at more
    exact (ih _ still).trans more

theorem said_livesAfter_ended (client : ClientId) (identified : Bool) (cause : DisconnectCause) :
    (livesAfter lives (.ended remote client identified cause)).flatMap Life.said =
      lives.flatMap Life.said := by
  rw [livesAfter, List.flatMap_map]
  exact List.flatMap_congr fun life _ => Life.said_after_ended remote life

end Lives

/-! ## The lives of an endpoint -/

namespace Endpoint

/-- These are the lives of the sessions that the endpoint has had: one that goes on for
each session that is there. -/
structure Lived (endpoint : Endpoint) (lives : List Life) : Prop where
  steady : ∀ remote session, endpoint.roster.get? remote = some session → session.Steady
  standing : ∀ remote,
    lives.countP (Life.isAt remote) = (endpoint.roster.get? remote).isSome.toNat
  orderly : ∀ life ∈ lives, life.Orderly

variable {start middle finish : Endpoint} {remote : Address} {session next : Session}
  {lives : List Life}

theorem lived_create (settings : EndpointSettings) : (create settings).Lived [] where
  steady _ _ stored := by cases stored
  standing _ := rfl
  orderly _ none := absurd none List.not_mem_nil

/-- A session that goes on stays where it is. -/
theorem isSome_get?_put (stored : start.roster.get? remote = some session) (next : Session)
    (other : Address) :
    ((start.put remote next).roster.get? other).isSome = (start.roster.get? other).isSome := by
  rw [get?_put]
  split
  · rename_i same
    rw [same, stored]
    rfl
  · rfl

theorem Lived.enrol (lived : start.Lived lives) (absent : start.roster.get? remote = none)
    (steady : session.Steady) :
    (start.enrol remote session).Lived (livesAfter lives (.made remote)) where
  steady := stored_change lived.steady (get?_enrol start remote · session) fun _ same =>
    Option.some.inj same ▸ steady
  standing other := by
    rw [countP_livesAfter_made, lived.standing, get?_enrol]
    split
    · rename_i same
      rw [same, absent]
      rfl
    · rfl
  orderly life among := by
    rcases List.mem_append.mp among with old | new
    · exact lived.orderly life old
    · rw [List.mem_singleton.mp new]
      exact .of_common fun _ none => absurd none List.not_mem_nil

theorem Lived.put (lived : start.Lived lives) (stored : start.roster.get? remote = some session)
    (steady : next.Steady) : (start.put remote next).Lived lives where
  steady := stored_change lived.steady (get?_put start remote · next) fun _ same =>
    Option.some.inj same ▸ steady
  standing other := by rw [isSome_get?_put stored, lived.standing]
  orderly := lived.orderly

theorem Lived.queued (lived : start.Lived lives) (remote : Address) {datagrams : List Bytes}
    (common : ∀ datagram ∈ datagrams, ¬ IsFarewell datagram) :
    start.Lived ((datagrams.map (.queued remote)).foldl livesAfter lives) := by
  induction datagrams generalizing lives with
  | nil => exact lived
  | cons datagram rest ih =>
    rw [List.forall_mem_cons] at common
    have once : start.Lived (livesAfter lives (.queued remote datagram)) :=
      { steady := lived.steady
        standing := fun other => by rw [countP_livesAfter_queued, lived.standing]
        orderly := orderly_map fun life among =>
          (lived.orderly life among).queued remote common.1 }
    exact ih once common.2

/-- A life ends together with its session. -/
theorem Lived.ended (lived : start.Lived lives) (next : Session) {datagrams : List Bytes}
    {client : ClientId} {identified : Bool} {cause : DisconnectCause}
    (short : datagrams.length ≤ 1)
    (unanswered : ∀ farewell, cause = .byPeer farewell → datagrams = []) :
    (start.release remote next).Lived ((datagrams.map (Incident.queued remote) ++
      [Incident.ended remote client identified cause]).foldl livesAfter lives) where
  steady := stored_change lived.steady (get?_release start remote · next) fun _ none => by
    cases none
  standing other := by
    rw [List.foldl_append, List.foldl_cons, List.foldl_nil, countP_livesAfter_ended,
      countP_foldl_queued, lived.standing, get?_release]
    split <;> rfl
  orderly life among := by
    match datagrams, short with
    | [], _ =>
      obtain ⟨before, present, rfl⟩ := List.mem_map.mp among
      exact (lived.orderly before present).ended remote
    | [last], _ =>
      obtain ⟨halfway, between, rfl⟩ := List.mem_map.mp among
      obtain ⟨before, present, rfl⟩ := List.mem_map.mp between
      refine (lived.orderly before present).parted remote last fun farewell left => ?_
      cases unanswered farewell left

theorem Lived.of_scene {incidents : List Incident} {report : Report} (emptied : start.Emptied)
    (lived : start.Lived lives) (scene : Scene start incidents report finish) :
    finish.Lived (incidents.foldl livesAfter lives) := by
  cases scene with
  | made absent made => exact lived.enrol absent (.of_create made)
  | @posted remote session next events stored does quiet =>
    obtain ⟨datagrams, goesOn⟩ := does.exists_goesOn
    have steady := lived.steady _ _ stored
    have fetched : next.takeOutgoing.2.Steady := (goesOn.steady steady).of_eq rfl rfl rfl
    have after := (lived.put stored fetched).queued remote (goesOn.common steady)
    rw [flush_put, goesOn.queues.queuing_eq, (emptied _ _ stored).1]
    exact ⟨after.steady, after.standing, after.orderly⟩
  | rested stored does _ =>
    obtain ⟨datagrams, goesOn⟩ := does.exists_goesOn
    exact lived.put stored (goesOn.steady (lived.steady _ _ stored))
  | ended stored ending =>
    obtain ⟨datagrams, queues, short, unanswered⟩ := ending.exists_queues
    rw [Session.parting, queues.queuing_eq, (emptied _ _ stored).1]
    exact lived.ended _ short unanswered
  | noticed remote notice =>
    rw [List.foldl_cons, List.foldl_nil, livesAfter_noticed]
    exact ⟨lived.steady, lived.standing, lived.orderly⟩
  | aside book rooms => exact ⟨lived.steady, lived.standing, lived.orderly⟩

theorem Lived.of_story {incidents : List Incident} {report : Report} (emptied : start.Emptied)
    (lived : start.Lived lives) (story : Story start incidents report finish) :
    finish.Lived (incidents.foldl livesAfter lives) := by
  induction story generalizing lives with
  | stay endpoint => exact lived
  | step scene _ ih =>
    rw [List.foldl_append]
    exact ih (emptied.of_scene scene).1 (lived.of_scene emptied scene)

/-! ## What is queued -/

/-- Whatever is queued in a scene is queued in one of the lives. -/
theorem Lived.said_of_scene {incidents : List Incident} {report : Report}
    (emptied : start.Emptied) (lived : start.Lived lives)
    (scene : Scene start incidents report finish) :
    ((incidents.foldl livesAfter lives).flatMap Life.said).Perm
      (lives.flatMap Life.said ++ incidents.filterMap Incident.queued?) := by
  have queued {remote : Address} {session : Session}
      (stored : start.roster.get? remote = some session) (next : Session) :
      (((session.queuing next).foldl livesAfter lives).flatMap Life.said).Perm
        (lives.flatMap Life.said ++ (session.queuing next).filterMap Incident.queued?) := by
    rw [emptied.queuing_eq stored]
    exact said_foldl_queued lives remote _ (by rw [lived.standing, stored]; rfl)
  cases scene with
  | @made remote _ _ absent made =>
    have same : (livesAfter lives (.made remote)).flatMap Life.said = lives.flatMap Life.said := by
      simp [livesAfter, Life.said]
    show ((livesAfter lives (.made remote)).flatMap Life.said).Perm (_ ++ [])
    rw [same, List.append_nil]
  | posted stored does quiet => exact queued stored _
  | @ended _ session next _ stored ending =>
    rw [Session.parting, List.foldl_append, List.filterMap_append, List.foldl_cons,
      List.foldl_nil, said_livesAfter_ended]
    exact (List.append_nil _).symm ▸ queued stored next
  | noticed remote notice =>
    show ((livesAfter lives (.noticed remote notice)).flatMap Life.said).Perm (_ ++ [])
    rw [livesAfter_noticed, List.append_nil]
  | rested _ _ _ | aside _ _ => simp

theorem Lived.said_of_story {incidents : List Incident} {report : Report}
    (emptied : start.Emptied) (lived : start.Lived lives)
    (story : Story start incidents report finish) :
    ((incidents.foldl livesAfter lives).flatMap Life.said).Perm
      (lives.flatMap Life.said ++ incidents.filterMap Incident.queued?) := by
  induction story generalizing lives with
  | stay endpoint => simp
  | step scene _ ih =>
    have later := ih (emptied.of_scene scene).1 (lived.of_scene emptied scene)
    rw [List.foldl_append, List.filterMap_append, ← List.append_assoc]
    exact later.trans ((lived.said_of_scene emptied scene).append_right _)

/-- The lives after an operation hold what those before it hold and what is queued in it. -/
theorem Lived.of_apply {operation : Operation} {outcome : Outcome} (emptied : start.Emptied)
    (lived : start.Lived lives) (h : start.apply operation = .ok (outcome, finish)) :
    finish.Lived ((start.incidents operation).foldl livesAfter lives) ∧
      (((start.incidents operation).foldl livesAfter lives).flatMap Life.said).Perm
        (lives.flatMap Life.said ++ (start.incidents operation).filterMap Incident.queued?) := by
  by_cases drains : operation = .drain
  · subst drains
    cases h
    exact ⟨⟨lived.steady, lived.standing, lived.orderly⟩, (List.append_nil _).symm ▸ .refl _⟩
  · have story := story_of_apply drains h
    exact ⟨lived.of_story emptied story, lived.said_of_story emptied story⟩

theorem Lived.of_run {operations : List Operation} {outcomes : List Outcome}
    (emptied : start.Emptied) (lived : start.Lived lives)
    (ran : start.run operations = .ok (outcomes, finish)) :
    finish.Lived ((start.annals operations).foldl livesAfter lives) ∧
      (((start.annals operations).foldl livesAfter lives).flatMap Life.said).Perm
        (lives.flatMap Life.said ++ (start.annals operations).filterMap Incident.queued?) := by
  induction operations generalizing start lives outcomes with
  | nil =>
    cases ran
    exact ⟨lived, (List.append_nil _).symm ▸ .refl _⟩
  | cons operation rest ih =>
    obtain ⟨outcome, middle, others, applied, later, rfl⟩ := run_cons_eq_ok.mp ran
    obtain ⟨halfway, first⟩ := lived.of_apply emptied applied
    obtain ⟨settled, all⟩ := ih (emptied.of_apply applied).1 halfway later
    rw [annals_cons applied, List.foldl_append, List.filterMap_append, ← List.append_assoc]
    exact ⟨settled, all.trans (first.append_right _)⟩

/-! ## What is reported -/

theorem filter_isParting_eq_nil {events : List Event}
    (quiet : ∀ event ∈ events, event.isParting = false) : events.filter Event.isParting = [] :=
  List.filter_eq_nil_iff.mpr fun event among => by simp [quiet event among]

theorem parting?_of_queuing (session next : Session) :
    (session.queuing next).filterMap Incident.parting? = [] := by
  rw [Session.queuing, List.filterMap_map]
  exact List.filterMap_eq_nil_iff.mpr fun _ _ => rfl

/-- What is reported of ends in a scene is what the application is to hear of it. -/
theorem partings_of_scene {incidents : List Incident} {report : Report} (emptied : start.Emptied)
    (scene : Scene start incidents report finish) :
    report.events.filter Event.isParting = incidents.filterMap Incident.parting? := by
  cases scene with
  | @posted remote session next events stored does quiet =>
    rw [parting?_of_queuing]
    exact filter_isParting_eq_nil quiet
  | @ended remote session next cause stored ending =>
    rw [Session.parting, List.filterMap_append, parting?_of_queuing, (emptied _ _ stored).1,
      events_farewellReport, ending.samePeer.client,
      Session.isIdentified_of_identity_eq ending.identity_eq]
    cases session.isIdentified <;> rfl
  | made _ _ | rested _ _ _ | noticed _ _ | aside _ _ => rfl

theorem partings_of_story {incidents : List Incident} {report : Report} (emptied : start.Emptied)
    (story : Story start incidents report finish) :
    report.events.filter Event.isParting = incidents.filterMap Incident.parting? := by
  induction story with
  | stay endpoint => rfl
  | step scene _ ih =>
    rw [Report.events_append, List.filter_append, List.filterMap_append,
      partings_of_scene emptied scene, ih (emptied.of_scene scene).1]

theorem partings_of_run {operations : List Operation} {outcomes : List Outcome}
    (emptied : start.Emptied) (ran : start.run operations = .ok (outcomes, finish)) :
    (eventsOf outcomes).filter Event.isParting =
      (start.annals operations).filterMap Incident.parting? := by
  induction operations generalizing start outcomes with
  | nil =>
    cases ran
    rfl
  | cons operation rest ih =>
    obtain ⟨outcome, middle, others, applied, later, rfl⟩ := run_cons_eq_ok.mp ran
    have here : outcome.report.events.filter Event.isParting =
        (start.incidents operation).filterMap Incident.parting? := by
      by_cases drains : operation = .drain
      · subst drains
        cases applied
        rfl
      · exact partings_of_story emptied (story_of_apply drains applied)
    rw [annals_cons applied, List.filterMap_append, ← here, ← ih (emptied.of_apply applied).1 later,
      ← List.filter_append]
    rfl

/-- What a run shows bears this log out: what is queued in it was fetched or still waits, the
ends of identified sessions in it were reported, for the same causes, and nothing else was, the
lives in it hold everything that sessions have queued, and those that go on are the lives of the
sessions that are there. -/
structure Attested (log : List Incident) (outcomes : List Outcome) (finish : Endpoint) :
    Prop where
  sent : fetchedOf outcomes ++ finish.outgoing.toList = log.filterMap Incident.datagram?
  reported : (eventsOf outcomes).filter Event.isParting = log.filterMap Incident.parting?
  gathered : ((livesOf log).flatMap Life.said).Perm (log.filterMap Incident.queued?)
  standing : ∀ remote, (livesOf log).countP (Life.isAt remote) =
    (finish.roster.get? remote).isSome.toNat

/-- Between operations every session is unidentified or identified, and it is identified
exactly if it has an identity. In its whole life a session queues one farewell at most,
nothing behind it, and none if it ends because its peer has left. -/
theorem farewell_last {settings : EndpointSettings} {operations : List Operation}
    {outcomes : List Outcome} (ran : (create settings).run operations = .ok (outcomes, finish)) :
    (∀ remote session, finish.roster.get? remote = some session →
      (session.state = .unidentified ∨ session.state = .identified) ∧
        (session.state = .identified ↔ session.isIdentified = true)) ∧
      Attested ((create settings).annals operations) outcomes finish ∧
      ∀ life ∈ livesOf ((create settings).annals operations), life.Clean := by
  have emptied := emptied_create settings
  obtain ⟨lived, gathered⟩ := (lived_create settings).of_run emptied ran
  refine ⟨fun remote session stored => ?_, ⟨(emptied.of_run ran).2, partings_of_run emptied ran,
    gathered, lived.standing⟩, fun life among => (lived.orderly life among).clean⟩
  rw [(lived.steady _ _ stored).stage]
  cases session.isIdentified <;> simp

/-- A client greets, is sent away and answers with a farewell of its own; it greets again and
leaves. -/
def answeredFarewell : List Operation :=
  [.datagram (.v4 default 1) [8, 0, 1, 0, 0, 0, 0, 0, 0] 0, .disconnect ⟨1⟩ (.plain .none),
    .datagram (.v4 default 1) [9] 0, .datagram (.v4 default 1) [8, 0, 1, 0, 0, 0, 0, 0, 0] 0,
    .datagram (.v4 default 1) [9] 0]

theorem farewell_last_answeredFarewell :
    ∃ outcomes finish, (create {}).run answeredFarewell = .ok (outcomes, finish) ∧
      (livesOf ((create {}).annals answeredFarewell)).map (fun life =>
        (life.queued.length, life.cause)) =
          [(2, some (.byServer (.plain .none))), (0, some (.byPeer none)),
            (1, some (.byPeer none))] ∧
      (∀ remote session, finish.roster.get? remote = some session →
        (session.state = .unidentified ∨ session.state = .identified) ∧
          (session.state = .identified ↔ session.isIdentified = true)) ∧
      Attested ((create {}).annals answeredFarewell) outcomes finish ∧
      ∀ life ∈ livesOf ((create {}).annals answeredFarewell), life.Clean := by
  obtain ⟨⟨outcomes, finish⟩, returned⟩ :=
    Halt.exists_of_isSome ((create {}).run answeredFarewell) (by decide +kernel)
  exact ⟨outcomes, finish, returned, by decide +kernel, farewell_last returned⟩

end Endpoint

end SessionLayer
