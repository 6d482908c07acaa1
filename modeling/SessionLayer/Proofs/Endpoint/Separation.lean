import Mathlib.Data.List.Nodup
import Mathlib.Logic.Equiv.Basic
import SessionLayer.Proofs.Endpoint.Image

/-!
# Hosts do not affect each other

From a run, take what concerns one host: the datagrams of its peers, the commands to its
clients, its bans, and what concerns everybody (`Endpoint.share`). The run of these
operations alone does to the peers of the host what the whole run does to them; only the
numbers of the clients differ, as fewer are given out: `Endpoint.host_runs_alone`.
-/

namespace SessionLayer

/-- So many numbers as they are given out, from this one on. -/
def ClientId.upFrom : Nat → ClientId → List ClientId
  | 0, _ => []
  | count + 1, client => client :: upFrom count client.next

/-- Everything that a run tells, in order. -/
def reportOf (outcomes : List Outcome) : Report :=
  outcomes.foldr (fun outcome rest => outcome.report ++ rest) .empty

namespace Endpoint

/-- The operations of a run that concern a host, each at its time in the run. -/
def share (endpoint : Endpoint) (host : Host) : List Operation → List Operation
  | [] => []
  | operation :: rest =>
    match endpoint.apply operation with
    | .ok (_, next) =>
      if endpoint.concerns host operation then operation :: next.share host rest
      else next.share host rest
    | .error _ => []

/-- The number and the peer of the session that an operation makes, if it makes one. -/
def enrolment? (endpoint : Endpoint) : Operation → Option (ClientId × Address)
  | .datagram remote bytes now =>
    if endpoint.opens (.datagram remote bytes now) then some (endpoint.roster.nextClient, remote)
    else none
  | _ => none

/-- The numbers and the peers of the sessions that a run makes, in order. -/
def enrolments (endpoint : Endpoint) : List Operation → List (ClientId × Address)
  | [] => []
  | operation :: rest =>
    (endpoint.enrolment? operation).toList ++
      match endpoint.apply operation with
      | .ok (_, next) => next.enrolments rest
      | .error _ => []

/-- The clients whose sessions a run makes for peers of a host. -/
def clientsFrom (endpoint : Endpoint) (host : Host) (operations : List Operation) :
    List ClientId :=
  ((endpoint.enrolments operations).filter fun entry => entry.2.host = host).map Prod.fst

/-- Everything that a run queues, in order: what was fetched, and what still waits. -/
def queued (outcomes : List Outcome) (finish : Endpoint) : List (Address × Bytes) :=
  outcomes.flatMap (fun outcome => outcome.answer.datagrams) ++ finish.outgoing.toList

variable {host : Host} {mine : List ClientId} {naming : ClientId → ClientId}
  {start finish full part : Endpoint} {operation : Operation} {operations : List Operation}
  {outcome : Outcome} {outcomes : List Outcome}

/-! ## The numbers that are given out -/

theorem nextClient_of_course {allowed : Host → Deed → Prop} {report : Report}
    (course : Course allowed start report finish) :
    finish.roster.nextClient = start.roster.nextClient := by
  induction course with
  | stay => rfl
  | step one _ _ ih =>
    rw [ih]
    cases one <;> rfl

theorem nextClient_of_apply (h : start.apply operation = .ok (outcome, finish)) :
    finish.roster.nextClient =
      if start.opens operation then start.roster.nextClient.next else start.roster.nextClient := by
  obtain ⟨opened, opening, course⟩ := course_of_apply h
  rw [nextClient_of_course course]
  cases opening with
  | known unopened => simp [unopened]
  | fresh opens _ =>
    rw [if_pos opens]
    rfl

theorem enrolment?_of_not_opens (h : start.opens operation = false) :
    start.enrolment? operation = none := by
  cases operation with
  | datagram remote bytes now => simp [enrolment?, h]
  | _ => rfl

/-- A session is made for a peer that the operation comes from. -/
theorem enrolment?_of_opens (h : start.opens operation = true) :
    ∃ remote, start.enrolment? operation = some (start.roster.nextClient, remote) ∧
      ∀ host, start.concerns host operation = decide (remote.host = host) := by
  cases operation with
  | datagram remote bytes now => exact ⟨remote, if_pos h, fun _ => rfl⟩
  | _ => cases h

/-- Sessions are numbered in the order in which they are made. -/
theorem fst_enrolments (start : Endpoint) (operations : List Operation) :
    (start.enrolments operations).map Prod.fst =
      ClientId.upFrom (start.sessionsOpened operations) start.roster.nextClient := by
  induction operations generalizing start with
  | nil => rfl
  | cons operation rest ih =>
    rw [enrolments, sessionsOpened, List.map_append, openings]
    cases opens : start.opens operation with
    | false =>
      rw [enrolment?_of_not_opens opens]
      cases applied : start.apply operation with
      | error halt => rfl
      | ok result =>
        have next := nextClient_of_apply applied
        rw [opens] at next
        simpa [next] using ih result.2
    | true =>
      obtain ⟨remote, new, _⟩ := enrolment?_of_opens opens
      rw [new, if_pos rfl, Nat.add_comm]
      cases applied : start.apply operation with
      | error halt => rfl
      | ok result =>
        have next := nextClient_of_apply applied
        rw [opens] at next
        simpa [next, ClientId.upFrom] using ih result.2

theorem toNat_upFrom {count : Nat} {client : ClientId}
    (room : client.value.toNat + count ≤ UInt32.size) :
    (ClientId.upFrom count client).map (·.value.toNat) =
      List.range' client.value.toNat count := by
  induction count generalizing client with
  | zero => rfl
  | succ count ih =>
    rw [ClientId.upFrom, List.map_cons, List.range'_succ]
    cases count with
    | zero => rfl
    | succ count =>
      have next : client.next.value.toNat = client.value.toNat + 1 := toNat_next (by omega)
      rw [ih (by omega), next]

/-- Fewer numbers than there are, are all different. -/
theorem nodup_upFrom {count : Nat} (room : count < UInt32.size) :
    (ClientId.upFrom count ⟨1⟩).Nodup := by
  refine List.Nodup.of_map (·.value.toNat) ?_
  have fits : (⟨1⟩ : ClientId).value.toNat + count ≤ UInt32.size :=
    Nat.add_comm .. ▸ Nat.succ_le_of_lt room
  rw [toNat_upFrom fits]
  exact List.nodup_range'

/-- Among different numbers and as many others, the one can be exchanged for the other. -/
theorem exists_naming {first second : List ClientId} (left : first.Nodup) (right : second.Nodup)
    (same : first.length = second.length) :
    ∃ naming : Equiv.Perm ClientId, first.map naming = second := by
  induction first generalizing second with
  | nil => exact ⟨Equiv.refl _, (List.length_eq_zero_iff.mp same.symm).symm⟩
  | cons client rest ih =>
    cases second with
    | nil => cases same
    | cons number others =>
      obtain ⟨fresh, left⟩ := List.nodup_cons.mp left
      obtain ⟨unused, right⟩ := List.nodup_cons.mp right
      obtain ⟨naming, named⟩ := ih left right (Nat.succ.inj same)
      refine ⟨naming.trans (Equiv.swap (naming client) number), ?_⟩
      rw [List.map_cons, Equiv.trans_apply, Equiv.swap_apply_left, ← named]
      congr 1
      refine List.map_congr_left fun other among => ?_
      have differs : naming other ≠ naming client := fun clash =>
        fresh (naming.injective clash ▸ among)
      have kept : naming other ≠ number := fun clash =>
        unused (named ▸ clash ▸ List.mem_map_of_mem among)
      exact Equiv.swap_apply_of_ne_of_ne differs kept

/-! ## Two runs -/

theorem enrolments_cons (h : start.apply operation = .ok (outcome, finish))
    (rest : List Operation) :
    start.enrolments (operation :: rest) =
      (start.enrolment? operation).toList ++ finish.enrolments rest := by
  rw [enrolments, h]

theorem share_cons (h : start.apply operation = .ok (outcome, finish)) (host : Host)
    (rest : List Operation) :
    start.share host (operation :: rest) =
      (if start.concerns host operation then [operation] else []) ++ finish.share host rest := by
  rw [share, h]
  simp only
  split <;> rfl

theorem clientsFrom_cons (h : start.apply operation = .ok (outcome, finish)) (host : Host)
    (rest : List Operation) :
    start.clientsFrom host (operation :: rest) =
      (if start.opens operation && start.concerns host operation
        then [start.roster.nextClient] else []) ++ finish.clientsFrom host rest := by
  rw [clientsFrom, enrolments_cons h, List.filter_append, List.map_append]
  congr 1
  cases opens : start.opens operation with
  | false => simp [enrolment?_of_not_opens opens]
  | true =>
    obtain ⟨remote, new, concerned⟩ := enrolment?_of_opens opens
    by_cases here : remote.host = host <;> simp [new, concerned, here]

theorem Mirror.opens (mirror : full.Mirror host mine naming part)
    (here : full.concerns host operation = true) :
    part.opens (operation.renamed naming) = full.opens operation := by
  cases operation with
  | datagram remote bytes now =>
    have inside : remote.host = host := of_decide_eq_true here
    simp only [Operation.renamed, Endpoint.opens, mirror.admits inside,
      mirror.sessions remote inside, Option.isNone_map]
  | _ => rfl

theorem reportOf_cons (outcome : Outcome) (outcomes : List Outcome) :
    reportOf (outcome :: outcomes) = outcome.report ++ reportOf outcomes := rfl

theorem datagrams_portion (outcome : Outcome) :
    (outcome.portion host mine naming).answer.datagrams =
      outcome.answer.datagrams.filter fun item => item.1.host = host := by
  rcases outcome with ⟨answer, report⟩
  cases answer <;> rfl

/-- Where the clients of a host are numbered without gaps, the first of them has the first
number. -/
theorem numbers_of_opens {opens : Bool} {client number : ClientId} {others : List ClientId}
    (numbers : ((if opens then [client] else []) ++ others).map naming =
      ClientId.upFrom ((if opens then [client] else []) ++ others).length number) :
    (opens = true → naming client = number) ∧
      others.map naming =
        ClientId.upFrom others.length (if opens then number.next else number) := by
  cases opens with
  | false => exact ⟨(nomatch ·), numbers⟩
  | true =>
    obtain ⟨first, rest⟩ := List.cons.inj numbers
    exact ⟨fun _ => first, rest⟩

/-- A whole run has its image on the other side, where the clients of the host get the
numbers that `naming` gives to them. -/
theorem Mirror.of_run (mirror : full.Mirror host mine naming part)
    (injective : Function.Injective naming)
    (own : ∀ entry ∈ full.enrolments operations, entry.1 ∈ mine ↔ entry.2.host = host)
    (numbers : (full.clientsFrom host operations).map naming =
      ClientId.upFrom (full.clientsFrom host operations).length part.roster.nextClient)
    (h : full.run operations = .ok (outcomes, finish)) :
    ∃ images image, part.run ((full.share host operations).map (Operation.renamed naming)) =
        .ok (images, image) ∧
      finish.Mirror host mine naming image ∧
      reportOf images = (reportOf outcomes).portion mine naming ∧
      images.flatMap (fun outcome => outcome.answer.datagrams) =
        (outcomes.flatMap fun outcome => outcome.answer.datagrams).filter
          fun item => item.1.host = host := by
  induction operations generalizing full part outcomes with
  | nil =>
    cases h
    exact ⟨_, _, rfl, mirror, rfl, rfl⟩
  | cons operation rest ih =>
    obtain ⟨outcome, middle, others, first, returned, rfl⟩ := run_cons_eq_ok.mp h
    rw [enrolments_cons first] at own
    rw [clientsFrom_cons first] at numbers
    rw [share_cons first]
    have later : ∀ entry ∈ middle.enrolments rest, entry.1 ∈ mine ↔ entry.2.host = host :=
      fun entry among => own entry (List.mem_append_right _ among)
    have judged (opens : full.opens operation = true) :
        full.roster.nextClient ∈ mine ↔ full.concerns host operation = true := by
      obtain ⟨remote, new, concerned⟩ := enrolment?_of_opens opens
      rw [concerned, decide_eq_true_iff]
      exact own (full.roster.nextClient, remote) (by simp [new])
    cases concerned : full.concerns host operation with
    | false =>
      obtain ⟨unseen, kept⟩ := mirror.of_apply_elsewhere first concerned fun opens own => by
        rw [judged opens, concerned] at own
        cases own
      rw [concerned, Bool.and_false] at numbers
      obtain ⟨images, image, imaged, last, told, fetched⟩ := ih kept later numbers returned
      refine ⟨images, image, imaged, last, ?_, ?_⟩
      · rw [reportOf_cons, Report.portion_append, unseen, Report.empty_append, told]
      · rw [List.flatMap_cons, datagrams_of_elsewhere first concerned, List.nil_append, fetched]
    | true =>
      obtain ⟨number, numbers⟩ := numbers_of_opens (by simpa [concerned] using numbers)
      obtain ⟨next, applied, kept⟩ := mirror.of_apply injective first concerned fun opens =>
        ⟨(judged opens).mpr concerned, number opens⟩
      rw [← mirror.opens concerned, ← nextClient_of_apply applied] at numbers
      obtain ⟨images, image, imaged, last, told, fetched⟩ := ih kept later numbers returned
      refine ⟨_ :: images, image, run_cons_eq_ok.mpr ⟨_, next, images, applied, imaged, rfl⟩, last,
        ?_, ?_⟩
      · rw [reportOf_cons, reportOf_cons, Report.portion_append, told]
        rfl
      · rw [List.flatMap_cons, List.flatMap_cons, List.filter_append, fetched]
        congr 1
        exact datagrams_portion outcome

theorem length_upFrom (count : Nat) (client : ClientId) :
    (ClientId.upFrom count client).length = count := by
  induction count generalizing client with
  | zero => rfl
  | succ count ih => rw [ClientId.upFrom, List.length_cons, ih]

/-- While numbers are not given out twice, a client belongs to the host of its peer. -/
theorem mem_clientsFrom_iff
    (different : ((start.enrolments operations).map Prod.fst).Nodup)
    {entry : ClientId × Address} (among : entry ∈ start.enrolments operations) :
    entry.1 ∈ start.clientsFrom host operations ↔ entry.2.host = host := by
  constructor
  · intro own
    obtain ⟨other, kept, same⟩ := List.mem_map.mp own
    obtain ⟨among', here⟩ := List.mem_filter.mp kept
    cases List.inj_on_of_nodup_map different among' among same
    exact of_decide_eq_true here
  · intro here
    exact List.mem_map_of_mem (List.mem_filter.mpr ⟨among, decide_eq_true here⟩)

/-- Peers of other hosts have no session on the other side. -/
theorem Mirror.get?_elsewhere (mirror : full.Mirror host mine naming part) {remote : Address}
    (elsewhere : remote.host ≠ host) : part.roster.get? remote = none := by
  refine Table.get?_eq_none_iff.mpr fun known => ?_
  have known : remote ∈ part.roster.addresses := known
  rw [mirror.addresses] at known
  exact elsewhere (of_decide_eq_true (List.mem_filter.mp known).2)

/-- What concerns one host, done alone, does to the peers of the host what the whole run
does to them: up to the numbers of clients they are told the same, and are sent the same
in the same order, their sessions end up in the same states, and the host is banned for as
long. -/
theorem host_runs_alone {settings : EndpointSettings} (host : Host)
    (fits : (Endpoint.create settings).sessionsOpened operations < UInt32.size - 1)
    (returned : (Endpoint.create settings).run operations = .ok (outcomes, finish)) :
    ∃ naming : ClientId → ClientId, Function.Injective naming ∧
      ∃ images image,
        (Endpoint.create settings).run
            (((Endpoint.create settings).share host operations).map
              (Operation.renamed naming)) = .ok (images, image) ∧
          reportOf images = (reportOf outcomes).portion
            ((Endpoint.create settings).clientsFrom host operations) naming ∧
          queued images image =
            (queued outcomes finish).filter (fun item => item.1.host = host) ∧
          (∀ remote, image.roster.get? remote =
            if remote.host = host then (finish.roster.get? remote).map (Session.renamed naming)
            else none) ∧
          ∀ now, image.penalties.banRemaining host now =
            finish.penalties.banRemaining host now := by
  have different : (((Endpoint.create settings).enrolments operations).map Prod.fst).Nodup := by
    rw [fst_enrolments]
    exact nodup_upFrom (Nat.lt_of_lt_of_le fits (Nat.sub_le ..))
  have part : ((Endpoint.create settings).clientsFrom host operations).Sublist
      (((Endpoint.create settings).enrolments operations).map Prod.fst) :=
    List.filter_sublist.map Prod.fst
  have few : ((Endpoint.create settings).clientsFrom host operations).length < UInt32.size := by
    have most := part.length_le
    rw [fst_enrolments, length_upFrom] at most
    omega
  obtain ⟨naming, named⟩ :=
    exists_naming (different.sublist part) (nodup_upFrom few) (length_upFrom ..).symm
  obtain ⟨images, image, imaged, mirror, told, fetched⟩ :=
    (mirror_create host _ naming settings).of_run naming.injective
      (fun _ => mem_clientsFrom_iff different) named returned
  refine ⟨naming, naming.injective, images, image, imaged, told, ?_, fun remote => ?_,
    mirror.penalties.banRemaining⟩
  · rw [queued, queued, List.filter_append, fetched, mirror.outgoing]
  · split
    · rename_i here
      exact mirror.sessions remote here
    · rename_i elsewhere
      exact mirror.get?_elsewhere elsewhere

/-- Peers of two hosts greet. The one is sent a payload and leaves, the host of the other
is banned in between. -/
def neighbours : List Operation :=
  [.datagram (.v4 default 1) [8, 0, 0, 1, 0, 0, 0, 0, 0] 0,
    .datagram (.v6 default 0 1) [8, 0, 0, 1, 0, 0, 0, 0, 0] 0,
    .send ⟨2⟩ ⟨[]⟩ true 1, .ban (.v4 default) (Span.ofSeconds 60) 2, .sweep 3,
    .disconnect ⟨2⟩ (.plain .none)]

theorem host_runs_alone_neighbours :
    ∃ outcomes finish,
      (Endpoint.create {}).sessionsOpened neighbours < UInt32.size - 1 ∧
      (Endpoint.create {}).run neighbours = .ok (outcomes, finish) ∧
      ∃ naming : ClientId → ClientId, Function.Injective naming ∧
        ∃ images image,
          (Endpoint.create {}).run (((Endpoint.create {}).share (.v6 default) neighbours).map
            (Operation.renamed naming)) = .ok (images, image) ∧
          reportOf images = (reportOf outcomes).portion [⟨2⟩] naming := by
  obtain ⟨⟨outcomes, finish⟩, returned⟩ := Halt.exists_of_isSome
    ((Endpoint.create {}).run neighbours) (by decide +kernel)
  have fits : (Endpoint.create {}).sessionsOpened neighbours < UInt32.size - 1 := by
    decide +kernel
  have mine : (Endpoint.create {}).clientsFrom (.v6 default) neighbours = [⟨2⟩] := by
    decide +kernel
  obtain ⟨naming, injective, images, image, imaged, told, -⟩ :=
    host_runs_alone (.v6 default) fits returned
  rw [mine] at told
  exact ⟨outcomes, finish, fits, returned, naming, injective, images, image, imaged, told⟩

end Endpoint

end SessionLayer
