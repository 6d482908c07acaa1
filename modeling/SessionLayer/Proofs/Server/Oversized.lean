import SessionLayer.Proofs.Endpoint.Rulings
import SessionLayer.Proofs.Endpoint.Separation
import SessionLayer.Server.Basic

/-!
# Datagrams that are too large

A socket hands up as much of a datagram as the buffer holds. So a datagram that is too large is
recognised as such where the buffer holds more than the endpoint lets through, and is taken for
a shorter one where it does not. The buffer is measured by the limit that the settings name; the
endpoint keeps to that limit as it has raised it. `Server.oversized_dropped_iff` says for which
settings the two agree.
-/

namespace SessionLayer

/-- The buffer holds more than the endpoint lets through, unless the endpoint has raised the
limit and nobody asked for a buffer of four bytes. -/
theorem ServerSettings.limit_lt_receiveBuffer_iff {settings : ServerSettings}
    (bounded : settings.endpoint.flood.maxPacketSize < sizeBound - 1) :
    settings.endpoint.validated.flood.maxPacketSize < settings.receiveBuffer ↔
      3 ≤ settings.endpoint.flood.maxPacketSize ∨ 4 ≤ settings.recvBufferBytes := by
  have word : sizeBound = 18446744073709551616 := rfl
  simp only [EndpointSettings.validated, receiveBuffer, maxDatagramSize, word] at bounded ⊢
  omega

theorem ServerSettings.receiveBuffer_pos (settings : ServerSettings) :
    0 < settings.receiveBuffer := by
  have word : sizeBound = 18446744073709551616 := rfl
  simp only [receiveBuffer, maxDatagramSize, word]
  omega

namespace Server

/-- What a server may have become since `start`: it has received datagrams, carried out
commands and looked at its timer, in any order and with any answers of the application, and
rooms were made and dropped meanwhile. -/
inductive Serves (start : Server) : Server → Prop
  | refl : Serves start start
  | received {server : Server} (application : Application) (remote : Address)
    (datagram : Bytes) (now : Instant) :
    Serves start server → Serves start (server.receive application remote datagram now).2
  | commanded {server : Server} (command : Command) (now : Instant) :
    Serves start server → Serves start (server.command command now).2
  | ticked {server : Server} (application : Application) (now : Instant) :
    Serves start server → Serves start (server.tick application now).2
  | roomMade {server : Server} (name : String) :
    Serves start server →
    Serves start { server with endpoint := (server.endpoint.ensureRoom name).2 }
  | roomDropped {server : Server} (name : String) :
    Serves start server →
    Serves start { server with endpoint := (server.endpoint.dropRoom name).2 }

/-- What the settings say and a server never changes: the size of its buffer and the settings
of its endpoint. Between two things that it does, no datagram waits to be sent. -/
structure Keeps (settings : ServerSettings) (server : Server) : Prop where
  receiveBuffer : server.receiveBuffer = settings.receiveBuffer
  settings : server.endpoint.settings = settings.endpoint.validated
  outgoing : server.endpoint.outgoing = .empty

namespace Keeps

variable {settings : ServerSettings} {server : Server} {operation : Operation} {now : Instant}

theorem of_start {delay : Span} (started : start settings now delay = .ok server) :
    Keeps settings server := by
  simp only [start, Halt.bind_eq_ok, Halt.pure_eq_ok] at started
  obtain ⟨_, -, _, -, rfl⟩ := started
  exact ⟨rfl, rfl, rfl⟩

theorem perform (keeps : Keeps settings server) : Keeps settings (server.perform operation).2 := by
  unfold Server.perform
  split
  · exact ⟨keeps.receiveBuffer, keeps.settings, keeps.outgoing⟩
  · rename_i outcome endpoint applied
    have same : endpoint.settings = server.endpoint.settings :=
      Endpoint.ownSettings_of_apply applied
    exact ⟨keeps.receiveBuffer, same.trans keeps.settings, rfl⟩

theorem command {command : Command} (keeps : Keeps settings server) :
    Keeps settings (server.command command now).2 :=
  ⟨keeps.perform.receiveBuffer, keeps.perform.settings, keeps.perform.outgoing⟩

theorem commands {list : List Command} (keeps : Keeps settings server) :
    Keeps settings (Server.commands now list server).2 := by
  induction list generalizing server with
  | nil => exact keeps
  | cons first rest ih =>
    unfold Server.commands
    split
    · exact keeps
    · exact ih keeps.command

theorem performAnswered {application : Application} (keeps : Keeps settings server) :
    Keeps settings (server.performAnswered application operation now).2 :=
  keeps.perform.commands

theorem tick {application : Application} (keeps : Keeps settings server) :
    Keeps settings (server.tick application now).2 := by
  unfold Server.tick
  split
  · split
    · exact ⟨keeps.receiveBuffer, keeps.settings, keeps.outgoing⟩
    · exact keeps
    · exact performAnswered ⟨keeps.receiveBuffer, keeps.settings, keeps.outgoing⟩
  · exact keeps

theorem of_serves {later : Server} (keeps : Keeps settings server)
    (serves : server.Serves later) : Keeps settings later := by
  induction serves with
  | refl => exact keeps
  | received _ _ _ _ _ ih => exact ih.performAnswered
  | commanded _ _ _ ih => exact ih.command
  | ticked _ _ _ ih => exact ih.tick
  | roomMade _ _ ih => exact ⟨ih.receiveBuffer, ih.settings, ih.outgoing⟩
  | roomDropped _ _ ih => exact ⟨ih.receiveBuffer, ih.settings, ih.outgoing⟩

end Keeps

variable {settings : ServerSettings} {server : Server} {now : Instant}

/-- A buffer that holds more than the limit lets a datagram that is too large show. -/
theorem receive_of_oversized (keeps : Keeps settings server)
    (roomy : settings.endpoint.validated.flood.maxPacketSize < settings.receiveBuffer)
    {datagram : Bytes}
    (large : settings.endpoint.validated.flood.maxPacketSize < datagram.length)
    (application : Application) (remote : Address) :
    server.receive application remote datagram now = (.empty, server) := by
  obtain ⟨⟨limits, roster, penalties, outgoing, rooms⟩, timer, buffer, stopped⟩ := server
  obtain ⟨rfl, rfl, rfl⟩ := keeps
  have shown : settings.endpoint.validated.flood.maxPacketSize <
      (datagram.take settings.receiveBuffer).length := by
    rw [List.length_take]
    exact Nat.lt_min.mpr ⟨roomy, large⟩
  have dropped : Endpoint.handleDatagram
      ⟨settings.endpoint.validated, roster, penalties, .empty, rooms⟩ remote
      (datagram.take settings.receiveBuffer) now =
        .ok (.empty, ⟨settings.endpoint.validated, roster, penalties, .empty, rooms⟩) := by
    rw [Endpoint.handleDatagram, if_pos shown]
  simp only [receive, performAnswered, perform, Endpoint.apply, dropped]
  rfl

/-! ## A buffer that holds no more than the limit -/

/-- What opens no session leaves the number for the next client. -/
theorem nextClient_perform {operation : Operation}
    (unopened : server.endpoint.opens operation = false) :
    (server.perform operation).2.endpoint.roster.nextClient =
      server.endpoint.roster.nextClient := by
  unfold perform
  split
  · rfl
  · rename_i applied
    have same := Endpoint.nextClient_of_apply applied
    rwa [unopened] at same

/-- What opens a session takes this number, unless it stops the server. -/
theorem perform_of_opens {operation : Operation}
    (opens : server.endpoint.opens operation = true) :
    (server.perform operation).1.report.events = [] ∧
        (server.perform operation).2.hasStopped = true ∨
      (server.perform operation).2.endpoint.roster.nextClient =
        server.endpoint.roster.nextClient.next := by
  unfold perform
  split
  · exact .inl ⟨rfl, rfl⟩
  · rename_i applied
    have numbered := Endpoint.nextClient_of_apply applied
    rw [if_pos opens] at numbered
    exact .inr numbered

theorem nextClient_commands {list : List Command} :
    (commands now list server).2.endpoint.roster.nextClient =
      server.endpoint.roster.nextClient := by
  induction list generalizing server with
  | nil => rfl
  | cons first rest ih =>
    unfold commands
    split
    · rfl
    · have unopened : server.endpoint.opens (first.operation now) = false := by
        cases first <;> rfl
      exact ih.trans (nextClient_perform unopened)

/-- Behind a buffer that holds no more than the limit, no datagram is too large: what a new
peer sends is handled as the beginning that fits, whatever its length. -/
theorem opens_of_short (keeps : Keeps settings server)
    (short : settings.receiveBuffer ≤ settings.endpoint.validated.flood.maxPacketSize)
    (room : 0 < settings.receiveBuffer) {remote : Address} {datagram : Bytes}
    {kind : PacketKind} (absent : server.endpoint.roster.get? remote = none)
    (free : server.endpoint.isBanned remote.host now = false)
    (named : datagram.head? = some kind.tag) :
    server.endpoint.opens (.datagram remote (datagram.take server.receiveBuffer) now) = true := by
  have fits : (datagram.take server.receiveBuffer).length ≤
      server.endpoint.settings.flood.maxPacketSize := by
    rw [keeps.settings, keeps.receiveBuffer, List.length_take]
    exact Nat.le_trans (Nat.min_le_left _ _) short
  have peeked : PacketKind.peek (datagram.take server.receiveBuffer) = .ok kind := by
    rw [PacketKind.peek_eq_ok_iff, List.head?_take, keeps.receiveBuffer,
      if_neg (Nat.pos_iff_ne_zero.mp room)]
    exact named
  rw [Endpoint.isBanned, PenaltyBook.isBanned, Option.isSome_eq_false_iff] at free
  simp only [Endpoint.opens, Endpoint.admits, absent, fits, free, peeked, Option.isNone_none,
    decide_true, Bool.and_self]
  rfl

/-- A datagram that opens a session takes the number too, whatever the application answers. -/
theorem receive_of_opens (application : Application) (remote : Address) (datagram : Bytes)
    (now : Instant)
    (opens : server.endpoint.opens
      (.datagram remote (datagram.take server.receiveBuffer) now) = true) :
    (server.receive application remote datagram now).2.hasStopped = true ∨
      (server.receive application remote datagram now).2.endpoint.roster.nextClient =
        server.endpoint.roster.nextClient.next := by
  rcases perform_of_opens opens with ⟨quiet, stopped⟩ | numbered
  · refine .inl ?_
    simp only [receive, performAnswered, quiet]
    exact stopped
  · exact .inr (nextClient_commands.trans numbered)

/-- For every server with these settings, whatever it has done: its endpoint keeps to the
limit that it has raised, its buffer has the size that was reckoned from the limit as it was
named, and the buffer is the larger one unless the limit was below three and the buffer asked
for was below four. In that case, and only then, a datagram that is too large may not be
dropped: one from a new peer opens a session as its beginning would, however long it is. -/
theorem oversized_dropped_iff {delay : Span}
    (bounded : settings.endpoint.flood.maxPacketSize < ServerSettings.sizeBound - 1)
    (started : start settings now delay = .ok server) :
    (∀ later, server.Serves later →
      later.endpoint.settings = settings.endpoint.validated ∧
        later.receiveBuffer = settings.receiveBuffer) ∧
    (settings.endpoint.validated.flood.maxPacketSize < settings.receiveBuffer ↔
      3 ≤ settings.endpoint.flood.maxPacketSize ∨ 4 ≤ settings.recvBufferBytes) ∧
    ((∀ later, server.Serves later → ∀ application remote datagram time,
        settings.endpoint.validated.flood.maxPacketSize < datagram.length →
        later.receive application remote datagram time = (.empty, later)) ↔
      3 ≤ settings.endpoint.flood.maxPacketSize ∨ 4 ≤ settings.recvBufferBytes) ∧
    (settings.endpoint.flood.maxPacketSize < 3 → settings.recvBufferBytes < 4 →
      ∀ later, server.Serves later → ∀ application remote datagram time kind,
        later.endpoint.roster.get? remote = none →
        later.endpoint.isBanned remote.host time = false →
        datagram.head? = some (PacketKind.tag kind) →
        (later.receive application remote datagram time).2.hasStopped = true ∨
          (later.receive application remote datagram time).2.endpoint.roster.nextClient =
            later.endpoint.roster.nextClient.next) := by
  have keeps := Keeps.of_start started
  have larger := ServerSettings.limit_lt_receiveBuffer_iff bounded
  have short (low : settings.endpoint.flood.maxPacketSize < 3)
      (small : settings.recvBufferBytes < 4) :
      settings.receiveBuffer ≤ settings.endpoint.validated.flood.maxPacketSize :=
    Nat.le_of_not_lt fun roomy => by
      have := larger.mp roomy
      omega
  refine ⟨fun later serves => ?_, larger, ⟨fun drops => ?_, fun roomy => ?_⟩, ?_⟩
  · exact ⟨(keeps.of_serves serves).settings, (keeps.of_serves serves).receiveBuffer⟩
  · -- A new server would drop the greeting of a new peer, but it cannot.
    by_contra agrees
    obtain ⟨low, small⟩ := not_or.mp agrees
    have limit := short (Nat.lt_of_not_le low) (Nat.lt_of_not_le small)
    have dropped := drops server .refl .silent (.v4 default 1) [8, 0, 0, 0] now
      (by simp only [EndpointSettings.validated, List.length_cons, List.length_nil]; omega)
    simp only [start, Halt.bind_eq_ok, Halt.pure_eq_ok] at started
    obtain ⟨_, -, _, -, rfl⟩ := started
    have greeted : [8, 0, 0, 0].head? = some PacketKind.hello.tag := rfl
    have seen := receive_of_opens .silent (.v4 default 1) [8, 0, 0, 0] now
      (opens_of_short keeps limit settings.receiveBuffer_pos rfl rfl greeted)
    rw [dropped] at seen
    rcases seen with stopped | numbered
    · cases stopped
    · cases numbered
  · intro later serves application remote datagram time large
    exact receive_of_oversized (keeps.of_serves serves) (larger.mpr roomy) large application remote
  · intro low small later serves application remote datagram time kind absent free named
    have opens := opens_of_short (keeps.of_serves serves) (short low small)
      settings.receiveBuffer_pos absent free named
    exact receive_of_opens application remote datagram time opens

/-- Settings with a limit that the endpoint raises, and no wish for a larger buffer. -/
def cramped : ServerSettings where
  recvBufferBytes := 0
  endpoint := { flood := { maxPacketSize := 2 } }

/-- With these settings the buffer holds three bytes and three are let through. A ping with a
fourth byte is acknowledged like a ping. -/
theorem oversized_dropped_iff_cramped :
    ∃ server, start cramped 0 0 = .ok server ∧
      cramped.receiveBuffer = 3 ∧ cramped.endpoint.validated.flood.maxPacketSize = 3 ∧
      (server.receive .silent (.v4 default 1) [12, 0, 5, 0] 0).1.sent =
        [(.v4 default 1, [10, 0, 5, 255])] ∧
      ¬ ∀ later, server.Serves later → ∀ application remote datagram time,
        cramped.endpoint.validated.flood.maxPacketSize < datagram.length →
        later.receive application remote datagram time = (.empty, later) := by
  have seen : (start cramped 0 0).toOption.any (fun server =>
      (server.receive .silent (.v4 default 1) [12, 0, 5, 0] 0).1.sent =
        [(.v4 default 1, [10, 0, 5, 255])]) = true := by
    decide +kernel
  obtain ⟨server, started, answered⟩ := Halt.exists_of_any seen
  obtain ⟨-, -, drops, -⟩ := oversized_dropped_iff (by decide +kernel) started
  refine ⟨server, started, by decide +kernel, by decide +kernel, by simpa using answered, ?_⟩
  exact fun always => absurd (drops.mp always) (by decide)

end Server

end SessionLayer
