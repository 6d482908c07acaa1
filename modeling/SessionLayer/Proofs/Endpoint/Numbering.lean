import SessionLayer.Proofs.Endpoint.Course

/-!
# Numbers of clients and their sessions

As long as fewer numbers were given out than there are, every session has a number of
its own, and the two tables of a roster are inverse to each other: `Endpoint.Numbered`.
`Endpoint.sessionsOpened` counts the sessions that a run makes, and
`Numbered.of_apply` carries the invariant over an operation, one case for each kind
of step.
-/

namespace SessionLayer

namespace Endpoint

/-! ## The roster after a step -/

theorem get?_put (endpoint : Endpoint) (remote other : Address) (session : Session) :
    (endpoint.put remote session).roster.get? other =
      if other = remote then some session else endpoint.roster.get? other :=
  Table.get?_insert _ _ _ _

theorem get?_release (endpoint : Endpoint) (remote other : Address) (session : Session) :
    (endpoint.release remote session).roster.get? other =
      if other = remote then none else endpoint.roster.get? other :=
  Table.get?_erase _ _ _

theorem get?_enrol (endpoint : Endpoint) (remote other : Address) (session : Session) :
    (endpoint.enrol remote session).roster.get? other =
      if other = remote then some session else endpoint.roster.get? other :=
  Table.get?_insert _ _ _ _

theorem addresses_put {endpoint : Endpoint} {remote : Address} {session : Session}
    (stored : endpoint.roster.get? remote = some session) (next : Session) :
    (endpoint.put remote next).roster.addresses = endpoint.roster.addresses :=
  Table.keys_insert_of_some next stored

theorem addresses_release (endpoint : Endpoint) (remote : Address) (session : Session) :
    (endpoint.release remote session).roster.addresses =
      endpoint.roster.addresses.filter (· ≠ remote) :=
  Table.keys_erase _ _

theorem addresses_enrol {endpoint : Endpoint} {remote : Address}
    (absent : endpoint.roster.get? remote = none) (session : Session) :
    (endpoint.enrol remote session).roster.addresses = endpoint.roster.addresses ++ [remote] :=
  Table.keys_insert_of_none session absent

theorem addressOf?_release (endpoint : Endpoint) (remote : Address) (session : Session)
    (client : ClientId) :
    (endpoint.release remote session).roster.addressOf? client =
      if client = session.client then none else endpoint.roster.addressOf? client :=
  Table.get?_erase _ _ _

theorem addressOf?_enrol (endpoint : Endpoint) (remote : Address) (session : Session)
    (client : ClientId) :
    (endpoint.enrol remote session).roster.addressOf? client =
      if client = endpoint.roster.nextClient then some remote
      else endpoint.roster.addressOf? client :=
  Table.get?_insert _ _ _ _

@[simp] theorem roster_enqueue (endpoint : Endpoint) (remote : Address)
    (datagrams : List Bytes) : (endpoint.enqueue remote datagrams).roster = endpoint.roster := rfl

theorem toList_enqueue (endpoint : Endpoint) (remote : Address) (datagrams : List Bytes) :
    (endpoint.enqueue remote datagrams).outgoing.toList =
      endpoint.outgoing.toList ++ datagrams.map fun bytes => (remote, bytes) :=
  Queue.toList_append ..

theorem addressOf?_put (endpoint : Endpoint) (remote : Address) (session : Session)
    (client : ClientId) :
    (endpoint.put remote session).roster.addressOf? client =
      endpoint.roster.addressOf? client := rfl

/-! ## The invariant -/

/-- How many sessions one operation makes. -/
def openings (endpoint : Endpoint) (operation : Operation) : Nat :=
  if endpoint.opens operation then 1 else 0

/-- How many sessions a run makes. -/
def sessionsOpened (endpoint : Endpoint) : List Operation → Nat
  | [] => 0
  | operation :: rest =>
    endpoint.openings operation +
      match endpoint.apply operation with
      | .ok (_, endpoint) => endpoint.sessionsOpened rest
      | .error _ => 0

/-- So many numbers were given out, none of them twice, and sessions and clients are
found by each other. -/
structure Numbered (issued : Nat) (endpoint : Endpoint) : Prop where
  next : endpoint.roster.nextClient.value.toNat = issued + 1
  issued : ∀ {remote : Address} {session : Session},
    endpoint.roster.get? remote = some session → session.client.value.toNat ≤ issued
  remote : ∀ {remote : Address} {session : Session},
    endpoint.roster.get? remote = some session → session.remote = remote
  found : ∀ {remote : Address} {session : Session},
    endpoint.roster.get? remote = some session →
      endpoint.roster.addressOf? session.client = some remote
  known : ∀ {client : ClientId} {remote : Address},
    endpoint.roster.addressOf? client = some remote →
      ∃ session, endpoint.roster.get? remote = some session ∧ session.client = client

variable {issued : Nat}

/-- Two sessions with one number are the same session. -/
theorem Numbered.remote_unique {endpoint : Endpoint} (numbered : endpoint.Numbered issued)
    {first second : Address} {left right : Session}
    (hleft : endpoint.roster.get? first = some left)
    (hright : endpoint.roster.get? second = some right) (same : left.client = right.client) :
    first = second := by
  have atFirst := numbered.found hleft
  rw [same, numbered.found hright] at atFirst
  exact (Option.some.inj atFirst).symm

theorem numbered_create (settings : EndpointSettings) :
    (Endpoint.create settings).Numbered 0 where
  next := rfl
  issued h := by cases h
  remote h := by cases h
  found h := by cases h
  known h := by cases h

theorem Numbered.put {endpoint : Endpoint} (numbered : endpoint.Numbered issued)
    {remote : Address} {session next : Session}
    (stored : endpoint.roster.get? remote = some session) (same : session.SamePeer next) :
    (endpoint.put remote next).Numbered issued where
  next := numbered.next
  issued {other _} h := by
    rw [get?_put] at h
    split at h
    · cases h
      rw [same.client]
      exact numbered.issued stored
    · exact numbered.issued h
  remote {other _} h := by
    rw [get?_put] at h
    split at h
    · rename_i here
      cases h
      rw [same.remote, here]
      exact numbered.remote stored
    · exact numbered.remote h
  found {other _} h := by
    rw [get?_put] at h
    rw [addressOf?_put]
    split at h
    · rename_i here
      cases h
      rw [same.client, here]
      exact numbered.found stored
    · exact numbered.found h
  known {client other} h := by
    rw [addressOf?_put] at h
    obtain ⟨found, hfound, rfl⟩ := numbered.known h
    by_cases here : other = remote
    · subst here
      rw [stored] at hfound
      cases hfound
      exact ⟨next, get?_put_self .., same.client⟩
    · exact ⟨found, by rw [get?_put, if_neg here, hfound], rfl⟩

theorem Numbered.release {endpoint : Endpoint} (numbered : endpoint.Numbered issued)
    {remote : Address} {session next : Session}
    (stored : endpoint.roster.get? remote = some session) (same : session.SamePeer next) :
    (endpoint.release remote next).Numbered issued where
  next := numbered.next
  issued {other _} h := by
    rw [get?_release] at h
    split at h
    · cases h
    · exact numbered.issued h
  remote {other _} h := by
    rw [get?_release] at h
    split at h
    · cases h
    · exact numbered.remote h
  found {other found} h := by
    rw [get?_release] at h
    split at h
    · cases h
    rename_i elsewhere
    have different : found.client ≠ next.client := fun clash =>
      elsewhere (numbered.remote_unique h stored (clash.trans same.client))
    rw [addressOf?_release, if_neg different]
    exact numbered.found h
  known {client other} h := by
    rw [addressOf?_release] at h
    split at h
    · cases h
    rename_i different
    obtain ⟨found, hfound, rfl⟩ := numbered.known h
    have elsewhere : other ≠ remote := by
      rintro rfl
      rw [stored] at hfound
      cases hfound
      exact different same.client.symm
    exact ⟨found, by rw [get?_release, if_neg elsewhere, hfound], rfl⟩

/-- Only the roster counts. -/
theorem Numbered.congr {first second : Endpoint} (numbered : first.Numbered issued)
    (same : second.roster = first.roster) : second.Numbered issued := by
  constructor <;> rw [same]
  · exact numbered.next
  · exact numbered.issued
  · exact numbered.remote
  · exact numbered.found
  · exact numbered.known

theorem Numbered.of_step {host : Host} {deed : Deed} {start finish : Endpoint} {report : Report}
    (numbered : start.Numbered issued) (step : Step host deed start report finish) :
    finish.Numbered issued := by
  cases step with
  | turned stored turn => exact (numbered.put stored turn.samePeer).congr rfl
  | ended stored ending => exact numbered.release stored ending.samePeer
  | judged _ => exact numbered.congr rfl
  | noticed remote notice => exact numbered.congr rfl
  | aside host book queue rooms => exact numbered.congr rfl

theorem Numbered.of_course {allowed : Host → Deed → Prop} {start finish : Endpoint}
    {report : Report} (numbered : start.Numbered issued)
    (course : Course allowed start report finish) : finish.Numbered issued := by
  induction course with
  | stay => exact numbered
  | step one _ _ ih => exact ih (numbered.of_step one)

/-- The number for a new session was not given out before. -/
theorem Numbered.client_ne {endpoint : Endpoint} (numbered : endpoint.Numbered issued)
    {remote : Address} {session : Session}
    (stored : endpoint.roster.get? remote = some session) :
    session.client ≠ endpoint.roster.nextClient := by
  intro same
  have below := numbered.issued stored
  rw [same, numbered.next] at below
  omega

theorem toNat_next {client : ClientId} (h : client.value.toNat + 1 < UInt32.size) :
    client.next.value.toNat = client.value.toNat + 1 := by
  have sum : (client.value + 1).toNat = client.value.toNat + 1 := by
    rw [UInt32.toNat_add]
    exact Nat.mod_eq_of_lt h
  have nonzero : client.value + 1 ≠ 0 := by
    intro zero
    rw [zero] at sum
    simp at sum
  rw [ClientId.next, if_neg nonzero, sum]

theorem Numbered.enrol {endpoint : Endpoint} (numbered : endpoint.Numbered issued)
    {remote : Address} {session : Session} (absent : endpoint.roster.get? remote = none)
    (client : session.client = endpoint.roster.nextClient) (here : session.remote = remote)
    (room : issued + 1 < UInt32.size - 1) : (endpoint.enrol remote session).Numbered (issued + 1) where
  next := by
    have fits : endpoint.roster.nextClient.value.toNat + 1 < UInt32.size := by
      rw [numbered.next]
      omega
    show endpoint.roster.nextClient.next.value.toNat = issued + 1 + 1
    rw [toNat_next fits, numbered.next]
  issued {other _} h := by
    rw [get?_enrol] at h
    split at h
    · cases h
      rw [client]
      exact Nat.le_of_eq numbered.next
    · exact Nat.le_succ_of_le (numbered.issued h)
  remote {other _} h := by
    rw [get?_enrol] at h
    split at h
    · rename_i same
      cases h
      rw [here, same]
    · exact numbered.remote h
  found {other _} h := by
    rw [get?_enrol] at h
    rw [addressOf?_enrol]
    split at h
    · rename_i same
      cases h
      rw [if_pos client, same]
    · rw [if_neg (numbered.client_ne h)]
      exact numbered.found h
  known {who other} h := by
    rw [addressOf?_enrol] at h
    split at h
    · rename_i new
      cases h
      exact ⟨session, by rw [get?_enrol, if_pos rfl], client.trans new.symm⟩
    · obtain ⟨found, hfound, rfl⟩ := numbered.known h
      have elsewhere : other ≠ remote := by
        rintro rfl
        rw [absent] at hfound
        cases hfound
      exact ⟨found, by rw [get?_enrol, if_neg elsewhere, hfound], rfl⟩

theorem get?_of_opens {endpoint : Endpoint} {remote : Address} {bytes : Bytes} {now : Instant}
    (h : endpoint.opens (.datagram remote bytes now) = true) :
    endpoint.roster.get? remote = none := by
  simp only [opens, Bool.and_eq_true, Option.isNone_iff_eq_none] at h
  exact h.1

theorem Opening.get?_of_get? {start opened : Endpoint} {operation : Operation}
    {remote : Address} {session : Session} (opening : start.Opening operation opened)
    (stored : start.roster.get? remote = some session) :
    opened.roster.get? remote = some session := by
  cases opening with
  | known _ => exact stored
  | @fresh other bytes now made opens created =>
    rw [get?_enrol, if_neg ?_, stored]
    rintro rfl
    rw [get?_of_opens opens] at stored
    cases stored

theorem Numbered.of_opening {start opened : Endpoint} {operation : Operation}
    (numbered : start.Numbered issued) (opening : start.Opening operation opened)
    (room : issued + start.openings operation < UInt32.size - 1) :
    opened.Numbered (issued + start.openings operation) := by
  cases opening with
  | known unopened =>
    simpa [openings, unopened] using numbered
  | fresh opens made =>
    rw [openings, if_pos opens] at room ⊢
    have session := Session.create_eq_ok made
    exact numbered.enrol (get?_of_opens opens) (by rw [session]) (by rw [session]) room

theorem Numbered.of_apply {start finish : Endpoint} {operation : Operation} {outcome : Outcome}
    (numbered : start.Numbered issued) (h : start.apply operation = .ok (outcome, finish))
    (room : issued + start.openings operation < UInt32.size - 1) :
    finish.Numbered (issued + start.openings operation) := by
  obtain ⟨opened, opening, course⟩ := course_of_apply h
  exact (numbered.of_opening opening room).of_course course

theorem sessionsOpened_cons {start middle : Endpoint} {operation : Operation}
    {outcome : Outcome} (h : start.apply operation = .ok (outcome, middle))
    (rest : List Operation) :
    start.sessionsOpened (operation :: rest) =
      start.openings operation + middle.sessionsOpened rest := by
  rw [sessionsOpened, h]

theorem sessionsOpened_append {start middle : Endpoint} {before : List Operation}
    {outcomes : List Outcome} (ran : start.run before = .ok (outcomes, middle))
    (after : List Operation) :
    start.sessionsOpened (before ++ after) =
      start.sessionsOpened before + middle.sessionsOpened after := by
  induction before generalizing start outcomes with
  | nil =>
    cases ran
    rw [List.nil_append, sessionsOpened, Nat.zero_add]
  | cons operation rest ih =>
    obtain ⟨outcome, next, others, applied, later, rfl⟩ := run_cons_eq_ok.mp ran
    rw [List.cons_append, sessionsOpened_cons applied, sessionsOpened_cons applied, ih later,
      Nat.add_assoc]

theorem Numbered.of_run {start finish : Endpoint} {operations : List Operation}
    {outcomes : List Outcome} (numbered : start.Numbered issued)
    (ran : start.run operations = .ok (outcomes, finish))
    (room : issued + start.sessionsOpened operations < UInt32.size - 1) :
    finish.Numbered (issued + start.sessionsOpened operations) := by
  induction operations generalizing start issued outcomes with
  | nil =>
    cases ran
    exact numbered
  | cons operation rest ih =>
    obtain ⟨outcome, next, others, applied, later, rfl⟩ := run_cons_eq_ok.mp ran
    rw [sessionsOpened_cons applied, ← Nat.add_assoc] at room ⊢
    exact ih (numbered.of_apply applied (by omega)) later room

end Endpoint

end SessionLayer
