import SessionLayer.Proofs.Endpoint.Story

/-!
# Everything that is queued is fetched

Whatever an operation does, it leaves nothing in the outbox of a session: on each of its
ways it fetches what the session has queued, or the session has queued nothing
(`Emptied.of_scene`). So what was fetched from an endpoint in a run, with what still waits
there, is what the sessions have queued by the annals of the run, and the notices to banned
hosts, each for its peer and in the order in which they came about:
`Endpoint.fetched_eq_queued`.
-/

namespace SessionLayer

/-- The datagrams that an operation hands out. -/
def Answer.fetched : Answer → List (Address × Bytes)
  | .drained datagrams => datagrams
  | _ => []

/-- All datagrams that a run hands out, in order. -/
def fetchedOf (outcomes : List Outcome) : List (Address × Bytes) :=
  outcomes.flatMap fun outcome => outcome.answer.fetched

namespace Endpoint

/-- Every session knows its address and has nothing in its outbox. -/
def Emptied (endpoint : Endpoint) : Prop :=
  ∀ remote session, endpoint.roster.get? remote = some session →
    session.remote = remote ∧ session.outbox = .empty

variable {start middle finish : Endpoint} {remote : Address} {session next : Session}

theorem emptied_create (settings : EndpointSettings) : (create settings).Emptied :=
  fun _ _ stored => by cases stored

theorem Emptied.put (emptied : start.Emptied) (known : next.remote = remote)
    (empty : next.outbox = .empty) : (start.put remote next).Emptied :=
  stored_change emptied (get?_put start remote · next) fun _ same =>
    Option.some.inj same ▸ ⟨known, empty⟩

/-- A session that had nothing in its outbox queues what is there afterwards. -/
theorem Emptied.queuing_eq (emptied : start.Emptied)
    (stored : start.roster.get? remote = some session) (next : Session) :
    session.queuing next = next.outbox.toList.map (.queued remote) := by
  obtain ⟨known, empty⟩ := emptied _ _ stored
  rw [Session.queuing, known, empty]
  rfl

theorem filterMap_queued (remote : Address) (datagrams : List Bytes) :
    (datagrams.map (.queued remote)).filterMap Incident.datagram? =
      datagrams.map fun datagram => (remote, datagram) := by
  simp [List.filterMap_map, Function.comp_def, Incident.datagram?]

/-- What is queued in a scene is there to be fetched after it, and nothing else is. -/
theorem Emptied.of_scene {incidents : List Incident} {report : Report} (emptied : start.Emptied)
    (scene : Scene start incidents report finish) :
    finish.Emptied ∧ finish.outgoing.toList =
      start.outgoing.toList ++ incidents.filterMap Incident.datagram? := by
  cases scene with
  | @made remote session now absent made =>
    have fresh : session.remote = remote ∧ session.outbox = .empty := by
      rw [Session.create_eq_ok made]
      exact ⟨rfl, rfl⟩
    have settled : (start.enrol remote session).Emptied :=
      stored_change emptied (get?_enrol start remote · session) fun _ same =>
        Option.some.inj same ▸ fresh
    exact ⟨settled, (List.append_nil _).symm⟩
  | @posted remote session next events stored does quiet =>
    have known := does.samePeer.remote.trans (emptied _ _ stored).1
    rw [flush_put, emptied.queuing_eq stored, filterMap_queued]
    exact ⟨emptied.put known rfl, toList_enqueue _ _ _⟩
  | @rested remote session next stored does outbox =>
    have known := does.samePeer.remote.trans (emptied _ _ stored).1
    exact ⟨emptied.put known (outbox.trans (emptied _ _ stored).2), (List.append_nil _).symm⟩
  | @ended remote session next cause stored ending =>
    have settled : (start.release remote next).Emptied :=
      stored_change emptied (get?_release start remote · next) fun _ none => by cases none
    rw [Session.parting, List.filterMap_append, emptied.queuing_eq stored, filterMap_queued]
    refine ⟨settled, ?_⟩
    show (Endpoint.enqueue _ remote next.takeOutgoing.1).outgoing.toList = _
    rw [toList_enqueue]
    exact congrArg _ (List.append_nil _).symm
  | noticed _ _ => exact ⟨emptied, toList_enqueue _ _ _⟩
  | aside book rooms => exact ⟨emptied, (List.append_nil _).symm⟩

theorem Emptied.of_story {incidents : List Incident} {report : Report} (emptied : start.Emptied)
    (story : Story start incidents report finish) :
    finish.Emptied ∧ finish.outgoing.toList =
      start.outgoing.toList ++ incidents.filterMap Incident.datagram? := by
  induction story with
  | stay endpoint => exact ⟨emptied, (List.append_nil _).symm⟩
  | step scene _ ih =>
    obtain ⟨halfway, fewer⟩ := emptied.of_scene scene
    obtain ⟨settled, more⟩ := ih halfway
    exact ⟨settled, by rw [more, fewer, List.filterMap_append, List.append_assoc]⟩

/-- Only one operation hands out datagrams. -/
theorem fetched_of_apply {operation : Operation} {outcome : Outcome}
    (other : operation ≠ .drain) (h : start.apply operation = .ok (outcome, finish)) :
    outcome.answer.fetched = [] := by
  have ofResult (result : Except SessionFault Report) :
      (Outcome.ofResult result).answer.fetched = [] := by cases result <;> rfl
  have ofUnit (result : Except SessionFault Unit) :
      (Outcome.ofUnit result).answer.fetched = [] := by cases result <;> rfl
  have ofSent (result : Except SessionFault (Option Sequence)) :
      (Outcome.ofSent result).answer.fetched = [] := by cases result <;> rfl
  cases operation with
  | datagram _ _ _ | ban _ _ _ | sweep _ =>
    simp only [apply, Halt.bind_eq_ok, Halt.pure_eq_ok] at h
    obtain ⟨_, _, h⟩ := h
    cases h
    rfl
  | send client payload reliable now =>
    simp only [apply, Halt.bind_eq_ok, Halt.pure_eq_ok] at h
    obtain ⟨⟨answer, _⟩, _, h⟩ := h
    cases h
    exact ofSent answer
  | disconnect _ _ | disconnectLocalized _ _ _ _ =>
    cases h
    exact ofResult _
  | attachRoom _ _ | detachRoom _ =>
    cases h
    exact ofUnit _
  | unban _ | shutdown | ensureRoom _ | dropRoom _ =>
    cases h
    rfl
  | drain => exact absurd rfl other

/-- What an operation hands out and what waits after it is what waited before and what was
queued in it. -/
theorem Emptied.of_apply {operation : Operation} {outcome : Outcome} (emptied : start.Emptied)
    (h : start.apply operation = .ok (outcome, finish)) :
    finish.Emptied ∧ outcome.answer.fetched ++ finish.outgoing.toList =
      start.outgoing.toList ++ (start.incidents operation).filterMap Incident.datagram? := by
  by_cases drains : operation = .drain
  · subst drains
    cases h
    exact ⟨emptied, rfl⟩
  · rw [fetched_of_apply drains h, List.nil_append]
    exact emptied.of_story (story_of_apply drains h)

theorem Emptied.of_run {operations : List Operation} {outcomes : List Outcome}
    (emptied : start.Emptied) (ran : start.run operations = .ok (outcomes, finish)) :
    finish.Emptied ∧ fetchedOf outcomes ++ finish.outgoing.toList =
      start.outgoing.toList ++ (start.annals operations).filterMap Incident.datagram? := by
  induction operations generalizing start outcomes with
  | nil =>
    cases ran
    exact ⟨emptied, (List.append_nil _).symm⟩
  | cons operation rest ih =>
    obtain ⟨outcome, middle, others, applied, later, rfl⟩ := run_cons_eq_ok.mp ran
    obtain ⟨halfway, first⟩ := emptied.of_apply applied
    obtain ⟨settled, all⟩ := ih halfway later
    refine ⟨settled, ?_⟩
    rw [annals_cons applied, List.filterMap_append, ← List.append_assoc, ← first,
      List.append_assoc, ← all, ← List.append_assoc]
    rfl

end Endpoint

end SessionLayer
