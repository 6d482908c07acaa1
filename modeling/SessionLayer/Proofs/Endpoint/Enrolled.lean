import Mathlib.Data.Nat.ModEq
import SessionLayer.Proofs.Endpoint.Separation

/-!
# Client numbers that come again

Client numbers are counted, and after the largest one the counter starts again at one
(`ClientId.nth`). It does not look at the numbers of the registered sessions. In a run, a
registered session is the last one that was made for its peer (`Endpoint.Enrolled`), so it can
be told from the sessions that were made since when a new session gets its number:
`Endpoint.client_eq_iff_wholeRound`. A client that stays while others come and go then shares
its number with a new one: `Endpoint.client_eq_iff_wholeRound_longStay`.
-/

namespace SessionLayer

namespace ClientId

/-- The number that is given out after so many others. -/
def nth (count : Nat) : ClientId := ⟨UInt32.ofNat (count % (UInt32.size - 1) + 1)⟩

theorem toNat_nth (count : Nat) : (nth count).value.toNat = count % (UInt32.size - 1) + 1 := by
  have below : count % (UInt32.size - 1) < UInt32.size - 1 := Nat.mod_lt _ (by decide)
  rw [nth, UInt32.toNat_ofNat']
  exact Nat.mod_eq_of_lt (Nat.add_lt_of_lt_sub below)

theorem nth_eq_nth_iff {first second : Nat} :
    nth first = nth second ↔ first ≡ second [MOD UInt32.size - 1] := by
  constructor
  · intro same
    have numbers := congrArg (fun client => client.value.toNat) same
    rw [toNat_nth, toNat_nth] at numbers
    exact Nat.succ.inj numbers
  · intro same
    rw [nth, nth, same]

/-- After so many more numbers the same one comes exactly if these are whole rounds. -/
theorem nth_add_eq_nth_iff (count steps : Nat) :
    nth (count + steps) = nth count ↔ UInt32.size - 1 ∣ steps := by
  rw [nth_eq_nth_iff, Nat.ModEq.comm, Nat.modEq_iff_dvd' (Nat.le_add_right count steps),
    Nat.add_sub_cancel_left]

theorem next_nth (count : Nat) : (nth count).next = nth (count + 1) := by
  have size : UInt32.size - 1 = 4294967295 := rfl
  have number := toNat_nth count
  have after := toNat_nth (count + 1)
  rw [size] at number after
  by_cases room : (nth count).value.toNat + 1 < UInt32.size
  · have small : (nth count).value.toNat + 1 < 4294967296 := room
    have same : (nth count).next.value.toNat = (nth (count + 1)).value.toNat := by
      rw [Endpoint.toNat_next room]
      omega
    exact congrArg ClientId.mk (UInt32.toNat_inj.mp same)
  · have large : ¬ (nth count).value.toNat + 1 < 4294967296 := room
    have zero : (nth count).value + 1 = 0 := by
      rw [← UInt32.toNat_inj, UInt32.toNat_add]
      show ((nth count).value.toNat + 1) % 4294967296 = 0
      omega
    have one : (1 : UInt32).toNat = (nth (count + 1)).value.toNat := by
      show 1 = (nth (count + 1)).value.toNat
      omega
    rw [next, if_pos zero]
    exact congrArg ClientId.mk (UInt32.toNat_inj.mp one)

/-- Numbers in a row, as they are given out. -/
theorem upFrom_nth (count first : Nat) :
    upFrom count (nth first) = (List.range' first count).map nth := by
  induction count generalizing first with
  | zero => rfl
  | succ count ih => rw [upFrom, next_nth, ih, List.range'_succ, List.map_cons]

end ClientId

namespace Endpoint

/-- These are the numbers and peers of all sessions that were made, and a registered session
is the last one that was made for its peer. -/
structure Enrolled (past : List (ClientId × Address)) (endpoint : Endpoint) : Prop where
  next : endpoint.roster.nextClient = .nth past.length
  last : ∀ {remote : Address} {session : Session},
    endpoint.roster.get? remote = some session →
      ∃ before after, past = before ++ (session.client, remote) :: after ∧
        remote ∉ after.map Prod.snd

variable {past : List (ClientId × Address)} {endpoint start finish : Endpoint}
  {remote : Address} {session : Session} {operation : Operation} {operations : List Operation}
  {outcome : Outcome} {outcomes : List Outcome}

theorem enrolled_create (settings : EndpointSettings) : (create settings).Enrolled [] where
  next := rfl
  last stored := by cases stored

theorem Enrolled.put (enrolled : endpoint.Enrolled past) {next : Session}
    (stored : endpoint.roster.get? remote = some session) (same : session.SamePeer next) :
    (endpoint.put remote next).Enrolled past where
  next := enrolled.next
  last {other _} found := by
    rw [get?_put] at found
    split at found
    · rename_i here
      cases found
      rw [here, same.client]
      exact enrolled.last stored
    · exact enrolled.last found

theorem Enrolled.release (enrolled : endpoint.Enrolled past) (remote : Address)
    (session : Session) : (endpoint.release remote session).Enrolled past where
  next := enrolled.next
  last {other _} found := by
    rw [get?_release] at found
    split at found
    · cases found
    · exact enrolled.last found

theorem Enrolled.of_step {host : Host} {deed : Deed} {report : Report}
    (enrolled : start.Enrolled past) (step : Step host deed start report finish) :
    finish.Enrolled past := by
  cases step with
  | turned stored turn =>
    have put := enrolled.put stored turn.samePeer
    exact ⟨put.next, put.last⟩
  | ended stored ending => exact enrolled.release _ _
  | judged _ => exact ⟨enrolled.next, enrolled.last⟩
  | noticed remote notice => exact ⟨enrolled.next, enrolled.last⟩
  | aside host book queue rooms => exact ⟨enrolled.next, enrolled.last⟩

theorem Enrolled.of_course {allowed : Host → Deed → Prop} {report : Report}
    (enrolled : start.Enrolled past) (course : Course allowed start report finish) :
    finish.Enrolled past := by
  induction course with
  | stay => exact enrolled
  | step one _ _ ih => exact ih (enrolled.of_step one)

/-- A new session is the last one for its peer, and it moves no other one. -/
theorem Enrolled.enrol (enrolled : endpoint.Enrolled past)
    (client : session.client = endpoint.roster.nextClient) :
    (endpoint.enrol remote session).Enrolled (past ++ [(endpoint.roster.nextClient, remote)]) where
  next := by
    show endpoint.roster.nextClient.next = _
    rw [enrolled.next, ClientId.next_nth, List.length_append, List.length_singleton]
  last {other _} found := by
    rw [get?_enrol] at found
    split at found
    · rename_i here
      cases found
      rw [here, client]
      exact ⟨past, [], rfl, List.not_mem_nil⟩
    · rename_i elsewhere
      obtain ⟨before, after, rfl, absent⟩ := enrolled.last found
      refine ⟨before, after ++ [(endpoint.roster.nextClient, remote)], by simp, ?_⟩
      rw [List.map_append, List.mem_append]
      rintro (among | new)
      · exact absent among
      · exact elsewhere (List.mem_singleton.mp new)

theorem Enrolled.of_opening {opened : Endpoint} (enrolled : start.Enrolled past)
    (opening : start.Opening operation opened) :
    opened.Enrolled (past ++ (start.enrolment? operation).toList) := by
  cases opening with
  | known unopened =>
    rw [enrolment?_of_not_opens unopened, Option.toList_none, List.append_nil]
    exact enrolled
  | fresh opens made =>
    rw [enrolment?, if_pos opens]
    exact enrolled.enrol (by rw [Session.create_eq_ok made])

theorem Enrolled.of_run (enrolled : start.Enrolled past)
    (ran : start.run operations = .ok (outcomes, finish)) :
    finish.Enrolled (past ++ start.enrolments operations) := by
  induction operations generalizing start past outcomes with
  | nil =>
    cases ran
    rwa [enrolments, List.append_nil]
  | cons operation rest ih =>
    obtain ⟨outcome, middle, others, applied, later, rfl⟩ := run_cons_eq_ok.mp ran
    obtain ⟨opened, opening, course⟩ := course_of_apply applied
    have after := ih ((enrolled.of_opening opening).of_course course) later
    rwa [List.append_assoc, ← enrolments_cons applied] at after

theorem client_of_lookupOrCreate {roster next : Roster} {fresh : Session} {now : Instant}
    (made : roster.lookupOrCreate remote now = .ok (fresh, true, next)) :
    fresh.client = roster.nextClient := by
  unfold Roster.lookupOrCreate at made
  split at made
  · cases made
  · simp only [Halt.bind_eq_ok, Halt.pure_eq_ok] at made
    obtain ⟨session, created, same⟩ := made
    cases same
    rw [Session.create_eq_ok created]

/-- A session has the number that is given out after those of all sessions before it. -/
theorem client_of_enrolments {settings : EndpointSettings}
    {before after : List (ClientId × Address)} {entry : ClientId × Address}
    (split : (create settings).enrolments operations = before ++ entry :: after) :
    entry.1 = .nth before.length := by
  have numbers := fst_enrolments (create settings) operations
  have first : (create settings).roster.nextClient = .nth 0 := rfl
  rw [first, ClientId.upFrom_nth, split, List.map_append, List.map_cons] at numbers
  have here := congrArg (·[before.length]?) numbers
  simp only [List.getElem?_append_right, List.length_map, Nat.le_refl, Nat.sub_self,
    List.getElem?_cons_zero, List.getElem?_map] at here
  obtain ⟨place, found, same⟩ := Option.map_eq_some_iff.mp here.symm
  obtain ⟨_, rfl⟩ := List.getElem?_eq_some_iff.mp found
  rw [← same, List.getElem_range', Nat.zero_add, Nat.one_mul]

/-- When a session is made, it gets the number of a registered one exactly if the sessions
that were made since then, itself among them, fill whole rounds of the counter. -/
theorem client_eq_iff_wholeRound {settings : EndpointSettings} {newcomer : Address}
    {fresh : Session} {now : Instant} {roster : Roster}
    (ran : (create settings).run operations = .ok (outcomes, endpoint))
    (stored : endpoint.roster.get? remote = some session)
    (made : endpoint.roster.lookupOrCreate newcomer now = .ok (fresh, true, roster)) :
    ∃ before after,
      (create settings).enrolments operations = before ++ (session.client, remote) :: after ∧
        remote ∉ after.map Prod.snd ∧
        (fresh.client = session.client ↔ UInt32.size - 1 ∣ after.length + 1) := by
  have enrolled := (enrolled_create settings).of_run ran
  rw [List.nil_append] at enrolled
  obtain ⟨before, after, split, absent⟩ := enrolled.last stored
  refine ⟨before, after, split, absent, ?_⟩
  have number : session.client = .nth before.length := client_of_enrolments split
  have total : ((create settings).enrolments operations).length =
      before.length + (after.length + 1) := by
    rw [split, List.length_append, List.length_cons]
  rw [client_of_lookupOrCreate made, enrolled.next, total, number]
  exact ClientId.nth_add_eq_nth_iff _ _

/-! ## A client that stays -/

/-- A peer that stays. -/
def resident : Address := .v4 default 1

/-- A peer that comes and goes. -/
def visitor : Address := .v4 default 2

/-- A client greets and stays. Then, so many times, a peer says only that it leaves. -/
def longStay (visits : Nat) : List Operation :=
  .datagram resident [8, 0, 1, 0, 0, 0, 0, 0, 0] 0 ::
    List.replicate visits (.datagram visitor [9] 0)

/-- An endpoint with the usual settings where nobody is punished and the visitor is not in. -/
structure Calm (endpoint : Endpoint) : Prop where
  settings : endpoint.settings = (create {}).settings
  session : endpoint.roster.settings = (create {}).roster.settings
  flood : endpoint.roster.flood = (create {}).roster.flood
  penalties : endpoint.penalties = (create {}).penalties
  absent : endpoint.roster.get? visitor = none

theorem Calm.opens (calm : start.Calm) : start.opens (.datagram visitor [9] 0) = true := by
  simp only [Endpoint.opens, admits, calm.absent, calm.settings, calm.penalties]
  rfl

theorem Calm.exists_create (calm : start.Calm) (client : ClientId) (remote : Address) :
    ∃ session, Session.create client remote start.roster.settings start.roster.flood 0 =
      .ok session := by
  rw [calm.session, calm.flood]
  exact ⟨_, rfl⟩

/-- A new session lets the farewell of its peer pass. -/
theorem Calm.checkRate (calm : start.Calm) {client : ClientId} {remote : Address}
    (made : Session.create client remote start.roster.settings start.roster.flood 0 =
      .ok session) :
    ∃ checked, session.checkRate PacketKind.disconnect.trafficClass 0 = .ok (.accept, checked) ∧
      checked.state.isOpen = true := by
  rw [Session.create_eq_ok made, calm.flood]
  exact ⟨_, rfl, rfl⟩

/-- A visit takes a client number and leaves everything else as it was. -/
theorem Calm.visit (calm : start.Calm) :
    ∃ outcome finish, start.apply (.datagram visitor [9] 0) = .ok (outcome, finish) ∧
      finish.Calm ∧
      ∀ other, other ≠ visitor → finish.roster.get? other = start.roster.get? other := by
  obtain ⟨session, made⟩ := calm.exists_create start.roster.nextClient visitor
  obtain ⟨checked, returned, opened⟩ := calm.checkRate made
  have admitted : start.admits visitor [9] 0 = true := (Bool.and_eq_true_iff.mp calm.opens).2
  obtain ⟨kind, peeked, handled⟩ := handleDatagram_of_admits admitted
  cases peeked
  have found : (start.enrol visitor session).roster.get? visitor = some session :=
    Table.get?_insert_self _ _ _
  have leaves : peerFarewell? (checked.handlePacket (.disconnect none) 0).1 = some none := by
    rw [Session.handlePacket, if_pos opened]
    rfl
  have decoded : Packet.decode [9] = .ok (.disconnect none) := rfl
  have visited : start.apply (.datagram visitor [9] 0) = .ok
      (.ofReport (farewellReport start.rooms visitor
        (checked.handlePacket (.disconnect none) 0).2 (.byPeer none)),
        (start.enrol visitor session).release visitor
          (checked.handlePacket (.disconnect none) 0).2) := by
    rw [apply, handled, handleKnown_of_none calm.absent, made]
    show (start.enrol visitor session).handleKnown visitor .disconnect [9] 0 >>= _ = _
    rw [handleKnown_of_accept found returned decoded, dispatch_of_leaves leaves, release_put]
    rfl
  refine ⟨_, _, visited, ?_, ?_⟩
  · exact ⟨calm.settings, calm.session, calm.flood, calm.penalties,
      by rw [get?_release, if_pos rfl]⟩
  · intro other elsewhere
    rw [get?_release, if_neg elsewhere, get?_enrol, if_neg elsewhere]

/-- By induction: however many visits there are, nobody else notices. -/
theorem Calm.visits (calm : start.Calm) (count : Nat) :
    ∃ outcomes finish,
      start.run (List.replicate count (.datagram visitor [9] 0)) = .ok (outcomes, finish) ∧
      finish.Calm ∧
      (∀ other, other ≠ visitor → finish.roster.get? other = start.roster.get? other) ∧
      (start.enrolments (List.replicate count (.datagram visitor [9] 0))).map Prod.snd =
        List.replicate count visitor := by
  induction count generalizing start with
  | zero => exact ⟨[], start, rfl, calm, fun _ _ => rfl, rfl⟩
  | succ count ih =>
    obtain ⟨outcome, middle, visited, still, same⟩ := calm.visit
    obtain ⟨outcomes, finish, ran, last, kept, peers⟩ := ih still
    refine ⟨outcome :: outcomes, finish, ?_, last, ?_, ?_⟩
    · rw [List.replicate_succ]
      exact run_cons_eq_ok.mpr ⟨outcome, middle, outcomes, visited, ran, rfl⟩
    · intro other elsewhere
      rw [kept other elsewhere, same other elsewhere]
    · rw [List.replicate_succ, enrolments_cons visited, List.map_append, peers, enrolment?,
        if_pos calm.opens]
      rfl

/-- The greeting makes the first session, and the visits all others. -/
theorem run_longStay (visits : Nat) :
    ∃ outcomes finish session,
      (create {}).run (longStay visits) = .ok (outcomes, finish) ∧ finish.Calm ∧
      finish.roster.get? resident = some session ∧ session.isIdentified = true ∧
      ((create {}).enrolments (longStay visits)).map Prod.snd =
        resident :: List.replicate visits visitor := by
  obtain ⟨outcome, greeted, session, applied, calm, stored, known⟩ :
      ∃ outcome greeted session,
        (create {}).apply (.datagram resident [8, 0, 1, 0, 0, 0, 0, 0, 0] 0) =
          .ok (outcome, greeted) ∧
        greeted.Calm ∧ greeted.roster.get? resident = some session ∧
        session.isIdentified = true :=
    ⟨_, _, _, rfl, ⟨rfl, rfl, rfl, rfl, rfl⟩, rfl, rfl⟩
  obtain ⟨outcomes, finish, ran, still, kept, peers⟩ := calm.visits visits
  refine ⟨outcome :: outcomes, finish, session, ?_, still, ?_, known, ?_⟩
  · exact run_cons_eq_ok.mpr ⟨outcome, greeted, outcomes, applied, ran, rfl⟩
  · rw [kept resident (by decide), stored]
  · rw [longStay, enrolments_cons applied, List.map_append, peers]
    rfl

/-- A client that stays is there when its number is given out again. -/
theorem client_eq_iff_wholeRound_longStay :
    ∃ outcomes endpoint session fresh roster,
      (create {}).run (longStay (UInt32.size - 2)) = .ok (outcomes, endpoint) ∧
      endpoint.roster.get? resident = some session ∧ session.isIdentified = true ∧
      endpoint.roster.lookupOrCreate visitor 0 = .ok (fresh, true, roster) ∧
      fresh.client = session.client := by
  obtain ⟨outcomes, endpoint, session, ran, calm, stored, known, peers⟩ :=
    run_longStay (UInt32.size - 2)
  obtain ⟨fresh, created⟩ := calm.exists_create endpoint.roster.nextClient visitor
  have made : ∃ roster,
      endpoint.roster.lookupOrCreate visitor 0 = .ok (fresh, true, roster) := by
    simp only [Roster.lookupOrCreate, calm.absent, created]
    exact ⟨_, rfl⟩
  obtain ⟨roster, made⟩ := made
  refine ⟨outcomes, endpoint, session, fresh, roster, ran, stored, known, made, ?_⟩
  obtain ⟨before, after, split, absent, reused⟩ := client_eq_iff_wholeRound ran stored made
  rw [split, List.map_append, List.map_cons] at peers
  cases before with
  | nil =>
    have visits := congrArg List.length (List.cons.inj peers).2
    rw [List.length_map, List.length_replicate] at visits
    rw [reused, visits]
    exact ⟨1, rfl⟩
  | cons first before =>
    have among : resident ∈ List.replicate (UInt32.size - 2) visitor := by
      rw [← (List.cons.inj peers).2]
      exact List.mem_append_right _ List.mem_cons_self
    exact absurd (List.eq_of_mem_replicate among) (by decide)

end Endpoint

end SessionLayer
