import SessionLayer.Proofs.Endpoint.Causes
import SessionLayer.Proofs.Endpoint.Rulings

/-!
# What it takes to be punished

Acknowledgements are unreliable datagrams and count against the limit of that class. A
peer that greets and from then on only acknowledges is therefore not safe from flood
control, however well it behaves: it is punished if so much is sent to it that it has to
acknowledge more than the limit allows. `Endpoint.punished_only_deservedly` says that
nothing less is enough, and `Endpoint.thirteenPayloads` is a run in which a peer is expelled
for acknowledging each payload once.
-/

namespace SessionLayer

/-- The kinds of the datagrams that a peer sends, and when they come. -/
def arrivals (remote : Address) (operations : List Operation) : List (PacketKind × Instant) :=
  operations.filterMap fun
    | .datagram sender bytes now =>
      if sender = remote then (PacketKind.peek bytes).toOption.map (·, now) else none
    | _ => none

/-- A greeting, and nothing but acknowledgements after it. -/
def Polite : List (PacketKind × Instant) → Prop
  | [] => True
  | first :: rest => first.1 = .hello ∧ ∀ later ∈ rest, later.1 = .acknowledge

instance (arrived : List (PacketKind × Instant)) : Decidable (Polite arrived) :=
  match arrived with
  | [] => .isTrue trivial
  | _ :: _ => inferInstanceAs (Decidable (_ ∧ _))

/-- How many acknowledgements came from this time on. -/
def acknowledged (since : Instant) (arrived : List (PacketKind × Instant)) : Nat :=
  arrived.countP fun arrival => arrival.1 = .acknowledge ∧ since ≤ arrival.2

section Arrivals

variable {arrived : List (PacketKind × Instant)} {rulings : List Ruling} {since : Instant}
  {limit : Nat}

/-- Whatever a polite peer sends unreliably is an acknowledgement. -/
theorem Polite.eq_acknowledge (polite : Polite arrived) {arrival : PacketKind × Instant}
    (among : arrival ∈ arrived) (unreliable : arrival.1.trafficClass = .unreliable) :
    arrival.1 = .acknowledge := by
  cases arrived with
  | nil => cases among
  | cons first rest =>
    rcases List.mem_cons.mp among with rfl | later
    · rw [polite.1] at unreliable
      cases unreliable
    · exact polite.2 arrival later

/-- A polite peer sends one reliable datagram. -/
theorem Polite.countP_reliable (polite : Polite arrived) :
    arrived.countP (fun arrival => arrival.1.trafficClass = .reliable) ≤ 1 := by
  cases arrived with
  | nil => exact Nat.zero_le _
  | cons first rest =>
    have none : rest.countP (fun arrival => arrival.1.trafficClass = .reliable) = 0 := by
      rw [List.countP_eq_zero]
      intro arrival among
      rw [polite.2 arrival among]
      decide
    rw [List.countP_cons, none, Nat.zero_add]
    split <;> decide

theorem countP_hitsOf (trafficClass : TrafficClass) (rulings : List Ruling) (since : Instant) :
    (hitsOf trafficClass rulings).countP (since ≤ ·) =
      (rulings.map fun ruling => (ruling.kind, ruling.now)).countP fun arrival =>
        arrival.1.trafficClass = trafficClass && since ≤ arrival.2 := by
  rw [hitsOf, List.countP_map, List.countP_map, List.countP_filter]
  refine List.countP_congr fun ruling _ => ?_
  simp [and_comm]

/-- Too many datagrams of a class, among those of a polite peer, are too many
acknowledgements. -/
theorem Polite.lt_acknowledged (polite : Polite arrived)
    (heard : (rulings.map fun ruling => (ruling.kind, ruling.now)).Sublist arrived)
    {trafficClass : TrafficClass} (positive : 1 ≤ limit)
    (many : limit < (hitsOf trafficClass rulings).countP (since ≤ ·)) :
    trafficClass = .unreliable ∧ limit < acknowledged since arrived := by
  rw [countP_hitsOf] at many
  replace many := Nat.lt_of_lt_of_le many heard.countP_le
  cases trafficClass with
  | reliable =>
    have few := polite.countP_reliable
    have fewer : arrived.countP (fun arrival =>
        arrival.1.trafficClass = .reliable && since ≤ arrival.2) ≤
          arrived.countP (fun arrival => arrival.1.trafficClass = .reliable) :=
      List.countP_mono_left fun _ _ both => (Bool.and_eq_true_iff.mp both).1
    omega
  | unreliable =>
    refine ⟨rfl, Nat.lt_of_lt_of_le many (List.countP_mono_left fun arrival among both => ?_)⟩
    simp only [Bool.and_eq_true, decide_eq_true_eq] at both ⊢
    exact ⟨polite.eq_acknowledge among both.1, both.2⟩

end Arrivals

namespace Endpoint

variable {start finish : Endpoint} {remote : Address} {operation : Operation}
  {operations before : List Operation} {outcome : Outcome} {outcomes : List Outcome}
  {past : List Ruling} {ruling : Ruling}

/-! ## Limiters over a run -/

/-- The limiter of a peer, of its session or of its next one, tallies these rulings. -/
def Tallied (endpoint : Endpoint) (remote : Address) (past : List Ruling) : Prop :=
  (endpoint.limiterAt remote).Tallies endpoint.roster.flood past

theorem tallied_of_none {endpoint : Endpoint} (absent : endpoint.roster.get? remote = none)
    (past : List Ruling) : endpoint.Tallied remote past := by
  rw [Tallied, limiterAt_of_none absent]
  exact RateLimiter.tallies_fresh _ past

theorem Tallied.of_apply (tallied : start.Tallied remote past)
    (sorted : ((past ++ (start.ruling? remote operation).toList).map Ruling.now).Pairwise (· ≤ ·))
    (h : start.apply operation = .ok (outcome, finish)) :
    finish.Tallied remote (past ++ (start.ruling? remote operation).toList) := by
  cases stored : finish.roster.get? remote with
  | none => exact tallied_of_none stored _
  | some next =>
    rw [Tallied, limiterAt_of_get? stored, flood_of_apply h]
    rcases limiter_of_apply h stored with ⟨unruled, session, there, same⟩ | ⟨ruling, decided, same⟩
    · rw [unruled, Option.toList_none, List.append_nil, same, ← limiterAt_of_get? there]
      exact tallied
    · rw [decided] at sorted ⊢
      rw [same]
      exact tallied.check sorted (ruling?_eq_some decided).2.1

/-- After a run the limiter of a peer tallies the rulings of the run. -/
theorem Tallied.of_run (tallied : start.Tallied remote past)
    (sorted : ((past ++ start.rulings remote operations).map Ruling.now).Pairwise (· ≤ ·))
    (h : start.run operations = .ok (outcomes, finish)) :
    finish.Tallied remote (past ++ start.rulings remote operations) := by
  induction operations generalizing start past outcomes with
  | nil =>
    cases h
    rwa [rulings, List.append_nil]
  | cons operation rest ih =>
    obtain ⟨outcome, middle, others, first, next, -⟩ := run_cons_eq_ok.mp h
    rw [rulings_cons first, ← List.append_assoc] at sorted ⊢
    refine ih (tallied.of_apply ?_ first) sorted next
    rw [List.map_append] at sorted
    exact (List.pairwise_append.mp sorted).1

theorem rulings_sublist_arrivals (endpoint : Endpoint) (remote : Address)
    (operations : List Operation) :
    ((endpoint.rulings remote operations).map fun ruling => (ruling.kind, ruling.now)).Sublist
      (arrivals remote operations) := by
  induction operations generalizing endpoint with
  | nil => exact List.Sublist.refl _
  | cons operation rest ih =>
    cases applied : endpoint.apply operation with
    | error halt =>
      rw [rulings_of_error applied]
      exact List.nil_sublist _
    | ok result =>
      rw [rulings_cons applied, List.map_append]
      cases ruled : endpoint.ruling? remote operation with
      | none =>
        refine (ih result.2).trans ?_
        exact (List.sublist_cons_self operation rest).filterMap _
      | some ruling =>
        obtain ⟨⟨bytes, rfl, -, peeked⟩, -⟩ := ruling?_eq_some ruled
        simp only [arrivals, List.filterMap_cons, if_true, peeked, Except.toOption,
          Option.map_some]
        exact (ih result.2).cons_cons _

/-- A run and one operation more. -/
theorem rulings_snoc (h : start.run before = .ok (outcomes, finish))
    (applied : ∃ result, finish.apply operation = .ok result) (remote : Address) :
    start.rulings remote (before ++ [operation]) =
      start.rulings remote before ++ (finish.ruling? remote operation).toList := by
  induction before generalizing start outcomes with
  | nil =>
    cases h
    obtain ⟨result, applied⟩ := applied
    rw [List.nil_append, rulings_cons applied, rulings, List.append_nil, rulings, List.nil_append]
  | cons first rest ih =>
    obtain ⟨outcome, middle, others, one, next, -⟩ := run_cons_eq_ok.mp h
    rw [List.cons_append, rulings_cons one, rulings_cons one, ih next, List.append_assoc]

/-! ## Punishment -/

/-- What flood control may do with an operation, under the usual settings, to a peer that
only acknowledges. -/
structure Deserved (remote : Address) (before : List Operation) (operation : Operation)
    (start : Endpoint) (outcome : Outcome) (finish : Endpoint) : Prop where
  /-- A datagram of the peer is dealt with as the limiter has decided about it. -/
  obeyed : ∀ bytes now, operation = .datagram remote bytes now →
    start.Handling remote bytes now outcome.report finish
  /-- A datagram of the peer is refused only as the eleventh acknowledgement within a
  second. -/
  refused : ∀ ruling, start.ruling? remote operation = some ruling → ruling.decision ≠ .accept →
    ruling.kind = .acknowledge ∧
      10 < acknowledged (ruling.now - Span.ofMillis 1000) (arrivals remote (before ++ [operation]))
  /-- A penalty on it takes three refusals within two minutes. -/
  penalized : ∀ ruling, start.ruling? remote operation = some ruling →
    ruling.decision = .penalize →
    3 ≤ (refusalsOf ((Endpoint.create {}).rulings remote (before ++ [operation]))).countP
      (ruling.now - Span.ofSeconds 120 ≤ ·)
  /-- A penalty on a peer of another host leaves its session alone. -/
  spared : ∀ sender, start.Penalizes sender operation → sender.host ≠ remote.host →
    finish.roster.get? remote = start.roster.get? remote
  /-- It is said to have sent too much only by a penalty on its own datagram. -/
  expelled : ∀ client farewell,
    .disconnected client remote (.rateLimited farewell) ∈ outcome.report.events →
      start.Penalizes remote operation
  /-- It is said to be banned only when its host is condemned. -/
  banned : ∀ client farewell,
    .disconnected client remote (.banned farewell) ∈ outcome.report.events →
      start.Condemns remote.host operation
  /-- And only then its host comes to be banned. -/
  outlawed : ∀ now, finish.isBanned remote.host now = true →
    start.isBanned remote.host now = true ∨ start.Condemns remote.host operation

theorem spared_of_penalizes {sender : Address}
    (h : start.apply operation = .ok (outcome, finish))
    (penal : start.Penalizes sender operation) (other : sender.host ≠ remote.host) :
    finish.roster.get? remote = start.roster.get? remote := by
  obtain ⟨ruling, decided, decision⟩ := penal
  obtain ⟨⟨bytes, rfl, -⟩, -⟩ := ruling?_eq_some decided
  have elsewhere : remote ≠ sender := fun same => other (congrArg Address.host same.symm)
  have handling := handling_of_apply h
  generalize outcome.report = report at handling
  cases handling with
  | turnedAway unruled _ _ =>
    rw [unruled] at decided
    cases decided
  | @ruled opened _ _ next _ _ same opening _ _ _ ruled =>
    rw [decided] at same
    cases same
    have before : (opened.put sender next).roster.get? remote = start.roster.get? remote := by
      rw [get?_put, if_neg elsewhere, opening.get?_of_ne elsewhere]
    rw [decision] at ruled
    cases ruled with
    | expelled _ closing => exact (closing.kept remote elsewhere).trans before
    | banned _ closing => exact (closing.kept remote (Ne.symm other)).trans before

/-- Under the usual settings, whatever the application sends and whenever sweeps come, a
peer that greets and from then on only acknowledges is punished only as it deserves. -/
theorem punished_only_deservedly (onward : Onward 0 (before ++ [operation]))
    (polite : Polite (arrivals remote (before ++ [operation])))
    (returned : (Endpoint.create {}).run before = .ok (outcomes, start))
    (applied : start.apply operation = .ok (outcome, finish)) :
    Deserved remote before operation start outcome finish := by
  have whole := rulings_snoc returned ⟨_, applied⟩ remote
  have sorted := onward.of_cons.sublist
    (rulings_sublist_times (Endpoint.create {}) remote (before ++ [operation]))
  rw [whole] at sorted
  have usual : start.roster.flood = {} := flood_of_run returned
  have tallied : start.Tallied remote ((Endpoint.create {}).rulings remote before) :=
    (tallied_of_none rfl []).of_run
      (by rw [List.map_append] at sorted; exact (List.pairwise_append.mp sorted).1) returned
  rw [Tallied, usual] at tallied
  refine
    { obeyed := fun bytes now datagram => handling_of_apply (datagram ▸ applied)
      refused := fun ruling decided refused => ?_
      penalized := fun ruling decided penal => ?_
      spared := fun sender penal other => spared_of_penalizes applied penal other
      expelled := fun client farewell told => explained_of_apply applied told
      banned := fun client farewell told => explained_of_apply applied told
      outlawed := fun now banned => ?_ }
  · rw [decided] at whole
    have beyond := tallied.exceeded (ruling?_eq_some decided).2.1 refused
    have heard := rulings_sublist_arrivals (Endpoint.create {}) remote (before ++ [operation])
    rw [whole] at heard
    obtain ⟨unreliable, many⟩ := polite.lt_acknowledged heard
      (by cases ruling.kind.trafficClass <;> decide) beyond
    rw [unreliable] at many
    have among : (ruling.kind, ruling.now) ∈ arrivals remote (before ++ [operation]) :=
      heard.mem (by simp)
    exact ⟨polite.eq_acknowledge among unreliable, many⟩
  · rw [decided] at whole sorted
    rw [whole]
    exact tallied.penalized sorted (ruling?_eq_some decided).2.1 penal
  · rcases ban_of_apply applied remote.host with fewer | ⟨condemned, -⟩
    · exact .inl (fewer now banned)
    · exact .inr condemned

/-! ## A peer that is expelled for acknowledging -/

/-- The acknowledgement that a datagram to this peer asks for. -/
def reply? (remote : Address) : Address × Bytes → Option Bytes
  | (destination, bytes) =>
    if destination = remote then
      match Packet.decode bytes with
      | .ok (.reliable sequence _) | .ok (.ping sequence) =>
        (Packet.ack sequence).encode.toOption
      | _ => none
    else none

/-- A client greets, and the application sends it thirteen payloads at once. -/
def thirteenPayloads : List Operation :=
  .datagram (.v4 default 1) [8, 0, 1, 0, 0, 0, 0, 0, 0] 0 ::
    List.replicate 13 (.send ⟨1⟩ ⟨[]⟩ true 0)

/-- The acknowledgements of the first payloads. -/
def firstReplies (count : Nat) : List Bytes :=
  (List.range count).map fun number => [10, 0, UInt8.ofNat (number + 1), 255]

/-- The client sends these acknowledgements. -/
def acknowledging (replies : List Bytes) : List Operation :=
  replies.map fun reply => .datagram (.v4 default 1) reply 0

/-- It acknowledges each payload once, and for that it is expelled. -/
theorem expelled_thirteenPayloads :
    Onward 0 (thirteenPayloads ++ acknowledging (firstReplies 13)) ∧
      Polite (arrivals (.v4 default 1) (thirteenPayloads ++ acknowledging (firstReplies 13))) ∧
      ∃ outcomes queued more finish,
        (Endpoint.create {}).run thirteenPayloads = .ok (outcomes, queued) ∧
        queued.outgoing.toList.filterMap (reply? (.v4 default 1)) = firstReplies 13 ∧
        queued.run (acknowledging (firstReplies 13)) = .ok (more, finish) ∧
        .disconnected ⟨1⟩ (.v4 default 1) (.rateLimited ⟨.custom,
          some "You have been disconnected for sending too many packets."⟩) ∈ eventsOf more := by
  refine ⟨by decide, by decide +kernel, ?_⟩
  obtain ⟨⟨⟨outcomes, queued⟩, more, finish⟩, h⟩ := Halt.exists_of_isSome
    ((Endpoint.create {}).run thirteenPayloads >>= fun sent =>
      sent.2.run (acknowledging (firstReplies 13)) >>= fun last => pure (sent, last))
    (by decide +kernel)
  simp only [Halt.bind_eq_ok, Halt.pure_eq_ok] at h
  rcases h with ⟨sent, returned, last, acked, h⟩
  cases h
  have asked : ((Endpoint.create {}).run thirteenPayloads).toOption.any (fun sent =>
      sent.2.outgoing.toList.filterMap (reply? (.v4 default 1)) = firstReplies 13 &&
        (sent.2.run (acknowledging (firstReplies 13))).toOption.any fun last =>
          Event.disconnected ⟨1⟩ (.v4 default 1) (.rateLimited ⟨.custom,
            some "You have been disconnected for sending too many packets."⟩) ∈
              eventsOf last.1) = true := by
    decide +kernel
  rw [returned] at asked
  obtain ⟨each, told⟩ := Bool.and_eq_true_iff.mp asked
  rw [acked] at told
  exact ⟨outcomes, queued, more, finish, returned, of_decide_eq_true each, acked,
    of_decide_eq_true told⟩

/-- The run until the last of the acknowledgements comes. -/
def twelveReplies : List Operation := thirteenPayloads ++ acknowledging (firstReplies 12)

/-- The last of the acknowledgements. -/
def lastReply : Operation := .datagram (.v4 default 1) [10, 0, 13, 255] 0

/-- It is the thirteenth within a second and the third that is refused. -/
theorem punished_only_deservedly_lastReply :
    ∃ outcomes start outcome finish ruling,
      (Endpoint.create {}).run twelveReplies = .ok (outcomes, start) ∧
      start.apply lastReply = .ok (outcome, finish) ∧
      start.ruling? (.v4 default 1) lastReply = some ruling ∧ ruling.decision = .penalize ∧
      start.Handling (.v4 default 1) [10, 0, 13, 255] 0 outcome.report finish ∧
      10 < acknowledged (ruling.now - Span.ofMillis 1000)
        (arrivals (.v4 default 1) (twelveReplies ++ [lastReply])) ∧
      3 ≤ (refusalsOf ((Endpoint.create {}).rulings (.v4 default 1)
        (twelveReplies ++ [lastReply]))).countP (ruling.now - Span.ofSeconds 120 ≤ ·) := by
  obtain ⟨⟨⟨outcomes, start⟩, outcome, finish⟩, h⟩ := Halt.exists_of_isSome
    ((Endpoint.create {}).run twelveReplies >>= fun ran =>
      ran.2.apply lastReply >>= fun last => pure (ran, last))
    (by decide +kernel)
  simp only [Halt.bind_eq_ok, Halt.pure_eq_ok] at h
  rcases h with ⟨ran, returned, last, applied, h⟩
  cases h
  have penal : ((Endpoint.create {}).run twelveReplies).toOption.any (fun ran =>
      (ran.2.ruling? (.v4 default 1) lastReply).any fun ruling =>
        ruling.decision = .penalize) = true := by
    decide +kernel
  rw [returned] at penal
  change (start.ruling? _ _).any _ = true at penal
  obtain ⟨ruling, decided, penal⟩ := (Option.any_eq_true ..).mp penal
  replace penal : ruling.decision = .penalize := of_decide_eq_true penal
  have onward : Onward 0 (twelveReplies ++ [lastReply]) := by decide
  have polite : Polite (arrivals (.v4 default 1) (twelveReplies ++ [lastReply])) := by
    decide +kernel
  have deserved := punished_only_deservedly onward polite returned applied
  exact ⟨outcomes, start, outcome, finish, ruling, returned, applied, decided, penal,
    deserved.obeyed _ _ rfl, (deserved.refused ruling decided (by simp [penal])).2,
    deserved.penalized ruling decided penal⟩

end Endpoint

end SessionLayer
