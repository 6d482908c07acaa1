import SessionLayer.Proofs.Endpoint.Enrolled

/-!
# The two tables of a roster

A roster keeps the sessions by address and the addresses by client, and the two tables are
changed one after the other. While fewer sessions are made than there are client numbers they
belong together after every operation (`Roster.Indexed`), and a client that has gone is not
found again, since its number was given out already: `Endpoint.roster_indexed`.
-/

namespace SessionLayer

/-- Sessions and clients are found by each other. -/
structure Roster.Indexed (roster : Roster) : Prop where
  /-- A session stands at the address of its peer. -/
  remote : ∀ {remote : Address} {session : Session},
    roster.get? remote = some session → session.remote = remote
  /-- A client is found at an address exactly if its session stands there. -/
  address : ∀ {client : ClientId} {remote : Address},
    roster.addressOf? client = some remote ↔
      ∃ session, roster.get? remote = some session ∧ session.client = client
  /-- A client leads to its own session, and to every session leads its client. -/
  session : ∀ {client : ClientId} {session : Session},
    roster.byClient? client = some session ↔
      roster.get? session.remote = some session ∧ session.client = client
  /-- No two sessions have the same client or the same peer. -/
  apart : ∀ {first second : Address} {left right : Session},
    roster.get? first = some left → roster.get? second = some right →
      left.client = right.client ∨ left.remote = right.remote → first = second

namespace Endpoint

variable {issued : Nat} {start middle finish endpoint : Endpoint} {client : ClientId}
  {operation : Operation} {operations before after : List Operation} {outcome : Outcome}
  {outcomes : List Outcome}

theorem Numbered.indexed (numbered : endpoint.Numbered issued) : endpoint.roster.Indexed where
  remote := numbered.remote
  address {client remote} := by
    constructor
    · exact numbered.known
    · rintro ⟨session, stored, rfl⟩
      exact numbered.found stored
  session {client session} := by
    rw [Roster.byClient?, Option.bind_eq_some_iff]
    constructor
    · rintro ⟨remote, known, stored⟩
      obtain ⟨other, found, rfl⟩ := numbered.known known
      rw [stored] at found
      cases found
      rw [numbered.remote stored]
      exact ⟨stored, rfl⟩
    · rintro ⟨stored, rfl⟩
      exact ⟨session.remote, numbered.found stored, stored⟩
  apart {first second left right} here there := by
    rintro (same | same)
    · exact numbered.remote_unique here there same
    · rw [← numbered.remote here, ← numbered.remote there, same]

/-! ## Clients that have gone -/

/-- No step puts a client into the table. -/
theorem Step.addressOf?_eq_none {host : Host} {deed : Deed} {report : Report}
    (step : Step host deed start report finish)
    (gone : start.roster.addressOf? client = none) : finish.roster.addressOf? client = none := by
  cases step with
  | ended stored ending =>
    rw [addressOf?_release]
    split
    · rfl
    · exact gone
  | _ => exact gone

theorem Course.addressOf?_eq_none {allowed : Host → Deed → Prop} {report : Report}
    (course : Course allowed start report finish)
    (gone : start.roster.addressOf? client = none) : finish.roster.addressOf? client = none := by
  induction course with
  | stay => exact gone
  | step one _ _ ih => exact ih (one.addressOf?_eq_none gone)

/-- A new session gets a number that was not given out before. -/
theorem Numbered.gone_of_apply (numbered : start.Numbered issued)
    (given : client.value.toNat ≤ issued) (gone : start.roster.addressOf? client = none)
    (applied : start.apply operation = .ok (outcome, finish)) :
    finish.roster.addressOf? client = none := by
  obtain ⟨opened, opening, course⟩ := course_of_apply applied
  refine course.addressOf?_eq_none ?_
  cases opening with
  | known _ => exact gone
  | fresh _ _ =>
    have new : client ≠ start.roster.nextClient := by
      rintro rfl
      have number := numbered.next
      omega
    rw [addressOf?_enrol, if_neg new]
    exact gone

theorem Numbered.gone_of_run (numbered : start.Numbered issued)
    (given : client.value.toNat ≤ issued) (gone : start.roster.addressOf? client = none)
    (ran : start.run operations = .ok (outcomes, finish))
    (room : issued + start.sessionsOpened operations < UInt32.size - 1) :
    finish.roster.addressOf? client = none := by
  induction operations generalizing start issued outcomes with
  | nil =>
    cases ran
    exact gone
  | cons operation rest ih =>
    obtain ⟨outcome, next, others, applied, later, rfl⟩ := run_cons_eq_ok.mp ran
    rw [sessionsOpened_cons applied, ← Nat.add_assoc] at room
    exact ih (numbered.of_apply applied (by omega)) (Nat.le_trans given (Nat.le_add_right _ _))
      (numbered.gone_of_apply given gone applied) later room

/-- The clients of a run have the numbers up to the count of its sessions. -/
theorem toNat_le_of_mem_enrolments (settings : EndpointSettings)
    (few : (create settings).sessionsOpened operations < UInt32.size - 1)
    (given : client ∈ ((create settings).enrolments operations).map Prod.fst) :
    client.value.toNat ≤ (create settings).sessionsOpened operations := by
  have fits : (create settings).roster.nextClient.value.toNat +
      (create settings).sessionsOpened operations ≤ UInt32.size := by
    show 1 + _ ≤ UInt32.size
    omega
  rw [fst_enrolments] at given
  have number := List.mem_map_of_mem (f := fun client => client.value.toNat) given
  rw [toNat_upFrom fits, List.mem_range'_1] at number
  have first : (create settings).roster.nextClient.value.toNat = 1 := rfl
  omega

/-- While fewer sessions are made than there are numbers, the tables of the roster belong
together after every operation. Every client that is found was given its number for a session
at that address; and a client that was given one and is not found any more is never found
again. -/
theorem roster_indexed {settings : EndpointSettings}
    (ran : (create settings).run operations = .ok (outcomes, endpoint))
    (few : (create settings).sessionsOpened operations < UInt32.size - 1) :
    ∀ before after, operations = before ++ after →
      ∃ told middle, (create settings).run before = .ok (told, middle) ∧
        middle.roster.Indexed ∧
        (∀ client remote, middle.roster.addressOf? client = some remote →
          (client, remote) ∈ (create settings).enrolments before) ∧
        ∀ client ∈ ((create settings).enrolments before).map Prod.fst,
          middle.roster.addressOf? client = none →
            endpoint.roster.addressOf? client = none ∧
              endpoint.roster.byClient? client = none := by
  rintro before after rfl
  obtain ⟨told, middle, later, first, last, -⟩ := run_append_eq_ok.mp ran
  rw [sessionsOpened_append first] at few
  have numbered := (numbered_create settings).of_run first (by omega)
  have enrolled := (enrolled_create settings).of_run first
  rw [Nat.zero_add] at numbered
  rw [List.nil_append] at enrolled
  refine ⟨told, middle, first, numbered.indexed, ?_, ?_⟩
  · intro client remote known
    obtain ⟨session, stored, rfl⟩ := numbered.known known
    obtain ⟨earlier, others, split, -⟩ := enrolled.last stored
    rw [split]
    exact List.mem_append_right _ List.mem_cons_self
  · intro client given gone
    have number := toNat_le_of_mem_enrolments settings (by omega) given
    have absent := numbered.gone_of_run number gone last few
    exact ⟨absent, by rw [Roster.byClient?, absent, Option.bind_none]⟩

/-- A peer greets, and its session is ended. -/
def endedVisit : List Operation :=
  [.datagram (.v4 default 1) [8, 0, 1, 0, 0, 0, 0, 0, 0] 0, .disconnect ⟨1⟩ (.plain .none)]

/-- Then it greets again. -/
def secondGreeting : List Operation :=
  endedVisit ++ [.datagram (.v4 default 1) [8, 0, 2, 0, 0, 0, 0, 0, 0] 1]

/-- It is a new client then, and the old one is not found. -/
theorem roster_indexed_secondGreeting :
    ∃ outcomes endpoint, (create {}).run secondGreeting = .ok (outcomes, endpoint) ∧
      (create {}).sessionsOpened secondGreeting < UInt32.size - 1 ∧
      endpoint.roster.addressOf? ⟨1⟩ = none ∧
      endpoint.roster.addressOf? ⟨2⟩ = some (.v4 default 1) := by
  obtain ⟨⟨outcomes, endpoint⟩, ran⟩ :=
    Halt.exists_of_isSome ((create {}).run secondGreeting) (by decide +kernel)
  have few : (create {}).sessionsOpened secondGreeting < UInt32.size - 1 := by decide +kernel
  have again : ((create {}).run secondGreeting).toOption.map
      (fun result => result.2.roster.addressOf? ⟨2⟩) = some (some (.v4 default 1)) := by
    decide +kernel
  rw [ran] at again
  obtain ⟨told, middle, first, -, -, gone⟩ := roster_indexed ran few _ _ rfl
  have left : ((create {}).run endedVisit).toOption.map
      (fun result => result.2.roster.addressOf? ⟨1⟩) = some none := by decide +kernel
  rw [first] at left
  have given : (⟨1⟩ : ClientId) ∈ ((create {}).enrolments endedVisit).map Prod.fst := by
    decide +kernel
  have absent := (gone ⟨1⟩ given (Option.some.inj left)).1
  exact ⟨outcomes, endpoint, ran, few, absent, Option.some.inj again⟩

end Endpoint

end SessionLayer
