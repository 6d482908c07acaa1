import SessionLayer.Proofs.Endpoint.Numbering

/-!
# Sessions that are closed together

A farewell, a ban and the end of the server take out one session or many. Each of them
is a `Closing`: it says which sessions go and for what causes, and nothing else changes
but the datagrams that wait.
-/

namespace SessionLayer.Endpoint

/-- The sessions of `gone` are taken out, each for one of these causes. -/
structure Closing (causes : DisconnectCause → Prop) (gone : Address → Prop) (start : Endpoint)
    (report : Report) (finish : Endpoint) : Prop where
  out : ∀ remote, gone remote → finish.roster.get? remote = none
  kept : ∀ remote, ¬ gone remote → finish.roster.get? remote = start.roster.get? remote
  penalties : finish.penalties = start.penalties
  told : ∀ event ∈ report.events, ∃ client remote cause,
    event = .disconnected client remote cause ∧ gone remote ∧ causes cause

variable {causes : DisconnectCause → Prop} {gone : Address → Prop}
  {start finish : Endpoint} {report : Report}

/-- What stays of the sessions that were there. -/
theorem Closing.stored (closing : Closing causes gone start report finish) {remote : Address}
    {session : Session} (stored : finish.roster.get? remote = some session) :
    start.roster.get? remote = some session := by
  by_cases out : gone remote
  · rw [closing.out remote out] at stored
    cases stored
  · rwa [closing.kept remote out] at stored

theorem closing_close (endpoint : Endpoint) (remote : Address) (farewell : Farewell)
    {cause : Farewell → DisconnectCause} (fits : causes (cause farewell)) :
    Closing causes (· = remote) endpoint (endpoint.close remote farewell cause).1
      (endpoint.close remote farewell cause).2 := by
  cases found : endpoint.roster.get? remote with
  | none =>
    rw [close_of_none found]
    exact ⟨fun _ same => same ▸ found, fun _ _ => rfl, rfl, fun _ told => by cases told⟩
  | some session =>
    rw [close_of_get? found]
    refine ⟨fun other same => ?_, fun other elsewhere => ?_, rfl, fun event told => ?_⟩
    · rw [get?_release, if_pos same]
    · rw [get?_release, if_neg elsewhere]
    · rw [events_farewellReport] at told
      split at told
      · exact ⟨_, _, _, List.mem_singleton.mp told, rfl, fits⟩
      · cases told

theorem closing_atEach {operation : Endpoint → Address → Report × Endpoint}
    (each : ∀ (endpoint : Endpoint) (remote : Address), Closing causes (· = remote) endpoint
      (operation endpoint remote).1 (operation endpoint remote).2)
    (addresses : List Address) (endpoint : Endpoint) :
    Closing causes (· ∈ addresses) endpoint (endpoint.atEach addresses operation).1
      (endpoint.atEach addresses operation).2 := by
  induction addresses generalizing endpoint with
  | nil =>
    exact
      { out := fun _ among => by cases among
        kept := fun _ _ => rfl
        penalties := rfl
        told := fun _ told => by cases told }
  | cons remote rest ih =>
    rw [atEach_cons]
    have first := each endpoint remote
    have others := ih (operation endpoint remote).2
    refine ⟨fun other among => ?_, fun other elsewhere => ?_, others.penalties.trans
      first.penalties, fun event told => ?_⟩
    · by_cases later : other ∈ rest
      · exact others.out other later
      · rw [others.kept other later]
        exact first.out other ((List.mem_cons.mp among).resolve_right later)
    · rw [List.mem_cons, not_or] at elsewhere
      rw [others.kept other elsewhere.2, first.kept other elsewhere.1]
    · rcases List.mem_append.mp told with told | told
      · obtain ⟨client, other, cause, same, here, fits⟩ := first.told event told
        exact ⟨client, other, cause, same, here ▸ List.mem_cons_self .., fits⟩
      · obtain ⟨client, other, cause, same, later, fits⟩ := others.told event told
        exact ⟨client, other, cause, same, List.mem_cons_of_mem _ later, fits⟩

/-- A ban leaves no session of the host. -/
theorem closing_disconnectBanned (endpoint : Endpoint) (host : Host) (duration : Span) :
    Closing (∃ farewell, · = .banned farewell) (·.host = host) endpoint
      (endpoint.disconnectBanned host duration).1 (endpoint.disconnectBanned host duration).2 := by
  have closing : Closing (∃ farewell, · = .banned farewell) _ endpoint
      (endpoint.disconnectBanned host duration).1 (endpoint.disconnectBanned host duration).2 :=
    closing_atEach (fun _ _ => closing_close _ _ _ ⟨_, rfl⟩)
      (endpoint.roster.addresses.filter fun remote => remote.host = host) endpoint
  have among (remote : Address) :
      remote ∈ endpoint.roster.addresses.filter (fun remote => remote.host = host) ↔
        remote ∈ endpoint.roster.addresses ∧ remote.host = host := by
    simp [List.mem_filter]
  refine ⟨fun remote here => ?_, fun remote elsewhere => ?_, closing.penalties,
    fun event told => ?_⟩
  · by_cases present : remote ∈ endpoint.roster.addresses
    · exact closing.out remote ((among remote).mpr ⟨present, here⟩)
    · have absent : endpoint.roster.get? remote = none := Table.get?_eq_none_iff.mpr present
      rw [← absent]
      exact closing.kept remote fun listed => present ((among remote).mp listed).1
  · exact closing.kept remote fun listed => elsewhere ((among remote).mp listed).2
  · obtain ⟨client, remote, cause, same, listed, fits⟩ := closing.told event told
    exact ⟨client, remote, cause, same, ((among remote).mp listed).2, fits⟩

/-- A ban goes into the book, and then it closes the sessions of the host. -/
theorem closing_of_ban {host : Host} {duration : Span} {now : Instant} {outcome : Outcome}
    (h : start.apply (.ban host duration now) = .ok (outcome, finish)) :
    ∃ book, start.penalties.ban host duration now = .ok book ∧
      Closing (∃ farewell, · = .banned farewell) (·.host = host)
        { start with penalties := book } outcome.report finish := by
  simp only [apply, ban, Halt.bind_eq_ok, Halt.pure_eq_ok] at h
  rcases h with ⟨⟨report, finish⟩, ⟨book, recorded, closed⟩, h⟩
  cases h
  have closing := closing_disconnectBanned { start with penalties := book } host duration
  rw [closed] at closing
  exact ⟨book, recorded, closing⟩

theorem closing_shutdown (endpoint : Endpoint) :
    Closing (∃ farewell, · = .byServer farewell) (· ∈ endpoint.roster.addresses) endpoint
      endpoint.shutdown.1 endpoint.shutdown.2 :=
  closing_atEach (fun _ _ => closing_close _ _ _ ⟨_, rfl⟩) _ endpoint

end SessionLayer.Endpoint
