import SessionLayer.Proofs.Endpoint.Numbering

/-!
# Visits to sessions

A sweep visits all sessions and ends some of them, a ban and a shutdown end those that they
visit. What comes of a visit depends on nothing but the session, the rooms and the settings
(`Visiting`), and what it changes nobody else's visit looks at. So all visits can be decided
before the first one is made: `Endpoint.visitAll_eq_ok_iff` says that visits one after the other
come to an `Endpoint.tour` of what was decided. Of a tour it is known in closed form what is
stored, told and sent, and the order only shows where peers are told apart.
-/

namespace SessionLayer

/-! ## One visit -/

/-- What comes of a visit: there was nobody, or the session stays, or it ends in this state. -/
inductive Visit
  | nobody
  | stays (report : Report) (sent : List Bytes) (next : Session)
  | ends (report : Report) (last : Session)

namespace Visit

def report : Visit → Report
  | .nobody => .empty
  | .stays report _ _ | .ends report _ => report

/-- The datagrams that go to the peer. -/
def sent : Visit → List Bytes
  | .nobody => []
  | .stays _ sent _ => sent
  | .ends _ last => last.takeOutgoing.1

/-- The session that is stored then, in place of the one that was. -/
def stored (known : Option Session) : Visit → Option Session
  | .nobody => known
  | .stays _ _ next => some next
  | .ends _ _ => none

/-- The client that is gone then. -/
def gone? : Visit → Option ClientId
  | .ends _ last => some last.client
  | .nobody | .stays _ _ _ => none

end Visit

/-- What is to come of a visit to a session. -/
abbrev Visiting := EndpointSettings → RoomTable → Address → Session → Except Halt Visit

namespace Endpoint

variable {start finish endpoint : Endpoint} {remote other : Address} {session : Session}
  {visiting : Visiting} {visits : Address → Visit} {order : List Address} {report : Report}

/-- The endpoint after a visit. -/
def settle (endpoint : Endpoint) (remote : Address) : Visit → Endpoint
  | .nobody => endpoint
  | .stays _ sent next => (endpoint.put remote next).enqueue remote sent
  | .ends _ last => endpoint.release remote last

/-- What comes of a visit to a peer. -/
def outcomeAt (endpoint : Endpoint) (visiting : Visiting) (remote : Address) : Except Halt Visit :=
  match endpoint.roster.get? remote with
  | none => .ok .nobody
  | some session => visiting endpoint.settings endpoint.rooms remote session

/-- Visits a peer. -/
def visitAt (endpoint : Endpoint) (visiting : Visiting) (remote : Address) :
    Except Halt (Report × Endpoint) := do
  let visit ← endpoint.outcomeAt visiting remote
  return (visit.report, endpoint.settle remote visit)

/-- Visits these peers, one after the other. -/
def visitAll (visiting : Visiting) : List Address → Endpoint → Except Halt (Report × Endpoint)
  | [], endpoint => .ok (.empty, endpoint)
  | remote :: rest, endpoint => do
    let (report, endpoint) ← endpoint.visitAt visiting remote
    let (more, endpoint) ← visitAll visiting rest endpoint
    return (report ++ more, endpoint)

/-- Visits these peers, where it is known what comes of every visit. -/
def tour (visits : Address → Visit) : List Address → Endpoint → Report × Endpoint
  | [], endpoint => (.empty, endpoint)
  | remote :: rest, endpoint =>
    let (report, endpoint) := tour visits rest (endpoint.settle remote (visits remote))
    ((visits remote).report ++ report, endpoint)

/-- What comes of a visit to a peer, if anything does. -/
def visitFrom (endpoint : Endpoint) (visiting : Visiting) (remote : Address) : Visit :=
  ((endpoint.outcomeAt visiting remote).toOption).getD .nobody

/-- Nobody is where no session is. -/
theorem visitFrom_of_none (visiting : Visiting) (absent : endpoint.roster.get? remote = none) :
    endpoint.visitFrom visiting remote = .nobody := by
  rw [visitFrom, outcomeAt, absent]
  rfl

theorem outcomeAt_of_get? (stored : endpoint.roster.get? remote = some session) :
    endpoint.outcomeAt visiting remote =
      visiting endpoint.settings endpoint.rooms remote session := by
  rw [outcomeAt, stored]

theorem visitFrom_of_get? (stored : endpoint.roster.get? remote = some session) {visit : Visit}
    (decided : visiting endpoint.settings endpoint.rooms remote session = .ok visit) :
    endpoint.visitFrom visiting remote = visit := by
  rw [visitFrom, outcomeAt_of_get? stored, decided]
  rfl

/-! ### What a visit changes -/

@[simp] theorem settings_settle (endpoint : Endpoint) (remote : Address) (visit : Visit) :
    (endpoint.settle remote visit).settings = endpoint.settings := by
  cases visit <;> rfl

@[simp] theorem rooms_settle (endpoint : Endpoint) (remote : Address) (visit : Visit) :
    (endpoint.settle remote visit).rooms = endpoint.rooms := by
  cases visit <;> rfl

theorem get?_settle (endpoint : Endpoint) (remote other : Address) (visit : Visit) :
    (endpoint.settle remote visit).roster.get? other =
      if other = remote then visit.stored (endpoint.roster.get? remote)
      else endpoint.roster.get? other := by
  cases visit with
  | nobody =>
    split
    · rename_i here
      rw [here]
      rfl
    · rfl
  | stays report sent next => exact get?_put _ _ _ _
  | ends report last => exact get?_release _ _ _ _

/-- What comes of the visits to the other peers does not change. -/
theorem outcomeAt_settle_of_ne (endpoint : Endpoint) (visiting : Visiting)
    (elsewhere : other ≠ remote) (visit : Visit) :
    (endpoint.settle remote visit).outcomeAt visiting other =
      endpoint.outcomeAt visiting other := by
  rw [outcomeAt, get?_settle, if_neg elsewhere, settings_settle, rooms_settle]
  rfl

theorem addresses_settle {visit : Visit}
    (known : ∀ report sent next, visit = .stays report sent next →
      endpoint.roster.get? remote ≠ none) :
    (endpoint.settle remote visit).roster.addresses =
      endpoint.roster.addresses.filter fun other => ¬ (other = remote ∧ visit.gone?.isSome) := by
  cases visit with
  | nobody => exact (List.filter_eq_self.mpr fun _ _ => by simp [Visit.gone?]).symm
  | stays report sent next =>
    obtain ⟨session, stored⟩ := Option.ne_none_iff_exists'.mp (known report sent next rfl)
    refine (addresses_put stored next).trans ?_
    exact (List.filter_eq_self.mpr fun _ _ => by simp [Visit.gone?]).symm
  | ends report last =>
    refine (addresses_release endpoint remote last).trans ?_
    simp [Visit.gone?]

/-- Only the client of a session that ends is forgotten. -/
theorem clients_settle (endpoint : Endpoint) (remote : Address) (visit : Visit) :
    (endpoint.settle remote visit).roster.clients.entries =
      endpoint.roster.clients.entries.filter fun entry => visit.gone? ≠ some entry.1 := by
  cases visit with
  | nobody | stays _ _ _ => exact (List.filter_eq_self.mpr fun _ _ => by simp [Visit.gone?]).symm
  | ends report last =>
    show (endpoint.roster.clients.erase last.client).entries = _
    simp [Table.erase, Table.filter, Visit.gone?, eq_comm]

theorem toList_settle (endpoint : Endpoint) (remote : Address) (visit : Visit) :
    (endpoint.settle remote visit).outgoing.toList =
      endpoint.outgoing.toList ++ visit.sent.map fun bytes => (remote, bytes) := by
  cases visit with
  | nobody => exact (List.append_nil _).symm
  | stays report sent next => exact toList_enqueue _ _ _
  | ends report last => exact toList_enqueue _ _ _

/-! ## All visits -/

theorem tour_congr {others : Address → Visit}
    (same : ∀ remote ∈ order, visits remote = others remote) (endpoint : Endpoint) :
    tour visits order endpoint = tour others order endpoint := by
  induction order generalizing endpoint with
  | nil => rfl
  | cons remote rest ih =>
    rw [List.forall_mem_cons] at same
    rw [tour, tour, same.1, ih same.2]

/-- Visits return if every single one does, and they come to what was decided about each. -/
theorem visitAll_eq_ok_iff (distinct : order.Nodup) {result : Report × Endpoint} :
    visitAll visiting order start = .ok result ↔
      (∀ remote ∈ order, ∃ visit, start.outcomeAt visiting remote = .ok visit) ∧
        tour (start.visitFrom visiting) order start = result := by
  induction order generalizing start result with
  | nil => simp [visitAll, tour]
  | cons remote rest ih =>
    obtain ⟨once, distinct⟩ := List.nodup_cons.mp distinct
    rw [visitAll, visitAt, List.forall_mem_cons]
    cases here : start.outcomeAt visiting remote with
    | error halt => simp [bind, Except.bind]
    | ok visit =>
      have decided : start.visitFrom visiting remote = visit := by
        rw [visitFrom, here]
        rfl
      -- The first visit leaves what comes of the others as it was decided before.
      have others : ∀ other ∈ rest, (start.settle remote visit).outcomeAt visiting other =
          start.outcomeAt visiting other := by
        intro other present
        refine outcomeAt_settle_of_ne start visiting ?_ visit
        rintro rfl
        exact once present
      have same : tour ((start.settle remote visit).visitFrom visiting) rest
          (start.settle remote visit) =
            tour (start.visitFrom visiting) rest (start.settle remote visit) :=
        tour_congr (fun other present => by rw [visitFrom, visitFrom, others other present]) _
      simp only [Except.ok.injEq, exists_eq_left', Halt.bind_eq_ok, Halt.pure_eq_ok,
        ih distinct, same, tour, decided, exists_eq', true_and]
      constructor
      · rintro ⟨_, ⟨returns, rfl⟩, rfl⟩
        exact ⟨fun other present => others other present ▸ returns other present, rfl⟩
      · rintro ⟨returns, rfl⟩
        exact ⟨_, ⟨fun other present => (others other present).symm ▸ returns other present, rfl⟩,
          rfl⟩

/-! ### What a tour comes to -/

theorem tour_frame (visits : Address → Visit) (order : List Address) (endpoint : Endpoint) :
    (tour visits order endpoint).2 =
      { endpoint with
        roster :=
          { endpoint.roster with
            sessions := (tour visits order endpoint).2.roster.sessions
            clients := (tour visits order endpoint).2.roster.clients }
        outgoing := (tour visits order endpoint).2.outgoing } := by
  induction order generalizing endpoint with
  | nil => rfl
  | cons remote rest ih =>
    refine (ih (endpoint.settle remote (visits remote))).trans ?_
    simp only [tour]
    generalize tour visits rest (endpoint.settle remote (visits remote)) = toured
    cases visits remote <;> rfl

theorem get?_tour (distinct : order.Nodup) (visits : Address → Visit) (endpoint : Endpoint)
    (other : Address) :
    (tour visits order endpoint).2.roster.get? other =
      if other ∈ order then (visits other).stored (endpoint.roster.get? other)
      else endpoint.roster.get? other := by
  induction order generalizing endpoint with
  | nil => rfl
  | cons remote rest ih =>
    obtain ⟨once, distinct⟩ := List.nodup_cons.mp distinct
    refine (ih distinct (endpoint.settle remote (visits remote))).trans ?_
    simp only [get?_settle, List.mem_cons]
    by_cases here : other = remote
    · subst here
      simp [once]
    · simp [here]

theorem addresses_tour (distinct : order.Nodup)
    (known : ∀ remote ∈ order, ∀ report sent next, visits remote = .stays report sent next →
      endpoint.roster.get? remote ≠ none) :
    (tour visits order endpoint).2.roster.addresses =
      endpoint.roster.addresses.filter fun other =>
        ¬ (other ∈ order ∧ (visits other).gone?.isSome) := by
  induction order generalizing endpoint with
  | nil => exact (List.filter_eq_self.mpr fun _ _ => by simp).symm
  | cons remote rest ih =>
    obtain ⟨once, distinct⟩ := List.nodup_cons.mp distinct
    rw [List.forall_mem_cons] at known
    refine (ih distinct fun other present report sent next stays => ?_).trans ?_
    · have elsewhere : other ≠ remote := by
        rintro rfl
        exact once present
      rw [get?_settle, if_neg elsewhere]
      exact known.2 other present report sent next stays
    · rw [addresses_settle known.1, List.filter_filter]
      refine List.filter_congr fun other _ => ?_
      by_cases here : other = remote
      · subst here
        simp [once]
      · simp [here]

theorem clients_tour (visits : Address → Visit) (order : List Address) (endpoint : Endpoint) :
    (tour visits order endpoint).2.roster.clients.entries =
      endpoint.roster.clients.entries.filter fun entry =>
        ∀ remote ∈ order, (visits remote).gone? ≠ some entry.1 := by
  induction order generalizing endpoint with
  | nil => exact (List.filter_eq_self.mpr fun _ _ => by simp).symm
  | cons remote rest ih =>
    refine (ih (endpoint.settle remote (visits remote))).trans ?_
    rw [clients_settle, List.filter_filter]
    refine List.filter_congr fun entry _ => ?_
    rw [Bool.and_comm]
    simp

theorem events_tour (visits : Address → Visit) (order : List Address) (endpoint : Endpoint) :
    (tour visits order endpoint).1.events =
      order.flatMap fun remote => (visits remote).report.events := by
  induction order generalizing endpoint with
  | nil => rfl
  | cons remote rest ih => rw [tour, Report.events_append, ih, List.flatMap_cons]

theorem detached_tour (visits : Address → Visit) (order : List Address) (endpoint : Endpoint) :
    (tour visits order endpoint).1.detached =
      order.flatMap fun remote => (visits remote).report.detached := by
  induction order generalizing endpoint with
  | nil => rfl
  | cons remote rest ih =>
    rw [tour, List.flatMap_cons, ← ih (endpoint.settle remote (visits remote))]
    rfl

theorem toList_tour (visits : Address → Visit) (order : List Address) (endpoint : Endpoint) :
    (tour visits order endpoint).2.outgoing.toList =
      endpoint.outgoing.toList ++
        order.flatMap fun remote => (visits remote).sent.map fun bytes => (remote, bytes) := by
  induction order generalizing endpoint with
  | nil => exact (List.append_nil _).symm
  | cons remote rest ih =>
    refine (ih (endpoint.settle remote (visits remote))).trans ?_
    rw [toList_settle, List.flatMap_cons, List.append_assoc]

end Endpoint

end SessionLayer
