import SessionLayer.Proofs.Endpoint.Bans

/-!
# Why a client is gone

Of the causes that the application is told, `rateLimited` and `banned` are the two that
blame the peer. `Endpoint.explained_of_apply` says what must have happened for each: a
penalty on a datagram of the peer itself, or whatever bans its host.
-/

namespace SessionLayer.Endpoint

variable {start finish : Endpoint} {operation : Operation} {outcome : Outcome}

/-- What must have happened for a peer to be gone for this cause. -/
def Explains (endpoint : Endpoint) (operation : Operation) (remote : Address) :
    DisconnectCause → Prop
  | .rateLimited _ => endpoint.Penalizes remote operation
  | .banned _ => endpoint.Condemns remote.host operation
  | .byPeer _ | .byServer _ | .timeout => True

theorem explained_of_closing {causes : DisconnectCause → Prop} {gone : Address → Prop}
    {middle : Endpoint} {report : Report} (closing : Closing causes gone middle report finish)
    (explains : ∀ remote cause, gone remote → causes cause → start.Explains operation remote cause)
    {client : ClientId} {remote : Address} {cause : DisconnectCause}
    (told : .disconnected client remote cause ∈ report.events) :
    start.Explains operation remote cause := by
  obtain ⟨_, _, _, same, here, fits⟩ := closing.told _ told
  cases same
  exact explains remote cause here fits

/-- What a session hands up tells of nobody who is gone. -/
theorem disconnected_notMem_handed (inbound : List Inbound) (sender : Address)
    (session : Session) (client : ClientId) (remote : Address) (cause : DisconnectCause) :
    .disconnected client remote cause ∉ inbound.filterMap (eventOf? sender session) := by
  intro told
  obtain ⟨handed, -, same⟩ := List.mem_filterMap.mp told
  cases handed with
  | identified => cases known : session.identity <;> simp [eventOf?, known] at same
  | deliver payload reliable => simp [eventOf?] at same
  | peerLeft farewell => simp [eventOf?] at same

theorem explained_of_handling {sender : Address} {bytes : Bytes} {now : Instant}
    {report : Report} (handling : start.Handling sender bytes now report finish)
    {client : ClientId} {remote : Address} {cause : DisconnectCause}
    (told : .disconnected client remote cause ∈ report.events) :
    start.Explains (.datagram sender bytes now) remote cause := by
  cases handling with
  | turnedAway _ _ _ => cases told
  | @ruled opened _ _ next ruling _ decided _ _ _ _ ruled =>
    generalize decision : ruling.decision = verdict at ruled
    cases ruled with
    | dropped _ => cases told
    | unreadable _ => cases told
    | taken _ _ => exact (disconnected_notMem_handed _ _ _ _ _ _ told).elim
    | left _ _ =>
      rw [events_farewellReport] at told
      split at told
      · cases List.mem_singleton.mp told
        trivial
      · cases told
    | expelled _ closing =>
      refine explained_of_closing closing ?_ told
      rintro _ _ rfl ⟨farewell, rfl⟩
      exact ⟨ruling, decided, decision⟩
    | banned _ closing =>
      refine explained_of_closing closing ?_ told
      rintro other _ here ⟨farewell, rfl⟩
      exact .inr ⟨sender, Eq.symm here, ruling, decided, decision⟩

theorem timeout_of_sweepAll {addresses : List Address} {now : Instant} {report : Report}
    (h : sweepAll now addresses start = .ok (report, finish)) {client : ClientId}
    {remote : Address} {cause : DisconnectCause}
    (told : .disconnected client remote cause ∈ report.events) : cause = .timeout := by
  induction addresses generalizing start report with
  | nil =>
    cases h
    cases told
  | cons other rest ih =>
    simp only [sweepAll, Halt.bind_eq_ok, Halt.pure_eq_ok] at h
    rcases h with ⟨⟨first, middle⟩, one, ⟨more, last⟩, others, h⟩
    cases h
    rcases List.mem_append.mp told with told | told
    · cases swept_of_sweepAt one with
      | absent _ => cases told
      | kept _ _ _ =>
        obtain ⟨_, _, same⟩ := List.mem_map.mp told
        cases same
      | unresponsive _ _ =>
        rw [events_farewellReport] at told
        split at told
        · cases List.mem_singleton.mp told
          rfl
        · cases told
      | idle _ unknown _ =>
        rw [events_farewellReport, unknown] at told
        cases told
    · exact ih others told

/-- A client is told that it sent too much, or that it is banned, only by an operation that
brings this on. -/
theorem explained_of_apply (h : start.apply operation = .ok (outcome, finish))
    {client : ClientId} {remote : Address} {cause : DisconnectCause}
    (told : .disconnected client remote cause ∈ outcome.report.events) :
    start.Explains operation remote cause := by
  have byServer (remote : Address) (cause : DisconnectCause)
      (fits : ∃ farewell, cause = .byServer farewell) : start.Explains operation remote cause := by
    rcases fits with ⟨farewell, rfl⟩
    trivial
  cases operation with
  | datagram sender bytes now => exact explained_of_handling (handling_of_apply h) told
  | send client payload reliable now =>
    simp only [apply, Halt.bind_eq_ok, Halt.pure_eq_ok] at h
    rcases h with ⟨⟨answer, finish⟩, _, h⟩
    cases h
    rw [report_ofSent] at told
    cases told
  | disconnect client farewell =>
    cases h
    simp only at told
    split at told
    · cases told
    · exact explained_of_closing (closing_close _ _ farewell ⟨farewell, rfl⟩)
        (fun other cause _ fits => byServer other cause fits) told
  | disconnectLocalized client reason text args =>
    cases h
    simp only at told
    split at told
    · cases told
    · exact explained_of_closing (closing_close _ _ _ ⟨_, rfl⟩)
        (fun other cause _ fits => byServer other cause fits) told
  | attachRoom client room =>
    cases h
    rw [report_ofUnit] at told
    cases told
  | detachRoom client =>
    cases h
    rw [report_ofUnit] at told
    cases told
  | ban host duration now =>
    obtain ⟨book, -, closing⟩ := closing_of_ban h
    refine explained_of_closing closing ?_ told
    rintro other _ rfl ⟨farewell, rfl⟩
    exact .inl ⟨duration, now, rfl⟩
  | sweep now =>
    simp only [apply, Halt.bind_eq_ok, Halt.pure_eq_ok] at h
    rcases h with ⟨⟨report, finish⟩, swept, h⟩
    cases h
    obtain ⟨middle, visited, rfl⟩ := sweep_eq_ok.mp swept
    rw [timeout_of_sweepAll visited told]
    trivial
  | shutdown =>
    cases h
    exact explained_of_closing (closing_shutdown start)
      (fun other cause _ fits => byServer other cause fits) told
  | unban host => cases h; cases told
  | ensureRoom name => cases h; cases told
  | dropRoom name => cases h; cases told
  | drain => cases h; cases told

end SessionLayer.Endpoint
