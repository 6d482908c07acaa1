import SessionLayer.Proofs.Delivery.Spaced
import SessionLayer.Proofs.Session.Run

/-!
# Repeats of reliable payloads

A session that hands up payloads as they come accepts a number when it hands up the payload
under it, and the number of the greeting before all others: `Session.accepted` reads these
numbers off the log of a run. Through every run the history of the session records exactly
them (`Session.Remembers`). So each reliable payload is acknowledged once, and it is handed
up if and only if its number is not among the last accepted ones:
`Session.handed_iff_forgotten`.
-/

namespace SessionLayer.Session

/-- The number that an act made the session accept: that of the greeting which said who the
client is, or that of a reliable payload which was handed up. -/
def Entry.accepted? : Entry → Option Sequence
  | ⟨.packet (.hello sequence _) _, [.identified]⟩ => some sequence
  | ⟨.packet (.reliable sequence _) _, _ :: _⟩ => some sequence
  | _ => none

/-- The numbers that a session accepted, oldest first. -/
def accepted (log : List Entry) : List Sequence := log.filterMap Entry.accepted?

theorem accepted_append (first second : List Entry) :
    accepted (first ++ second) = accepted first ++ accepted second :=
  List.filterMap_append

/-- A log in which nothing was accepted before the greeting that said who the client is. -/
def GreetedFirst (log : List Entry) : Prop :=
  ∃ early number greeting now later,
    log = early ++ ⟨.packet (.hello number greeting) now, [.identified]⟩ :: later ∧
      accepted early = []

theorem GreetedFirst.append {log : List Entry} (first : GreetedFirst log) (more : List Entry) :
    GreetedFirst (log ++ more) := by
  obtain ⟨early, number, greeting, now, later, rfl, none⟩ := first
  exact ⟨early, number, greeting, now, later ++ more, by simp, none⟩

/-! ## The invariant -/

/-- The history of a session that does not wait for gaps records what it accepted. -/
structure Remembers (memory : Nat) (log : List Entry) (session : Session) : Prop where
  unordered : session.settings.messageOrdering = false
  deep : session.history.capacity = memory
  records : session.history.Records (accepted log)
  silent : session.isIdentified = false → accepted log = []
  greeted : session.isIdentified = true → GreetedFirst log

variable {memory : Nat} {log : List Entry} {session next : Session} {sequence : Sequence}
  {now : Instant}

theorem remembers_create {client : ClientId} {remote : Address} {settings : SessionSettings}
    {flood : FloodSettings} (made : create client remote settings flood now = .ok session)
    (unordered : settings.messageOrdering = false) :
    session.Remembers settings.receivedHistory [] := by
  rw [create_eq_ok made]
  exact ⟨unordered, rfl, ReceivedHistory.records_empty _, fun _ => rfl, nofun⟩

/-- An act that accepts no number and leaves the history alone. -/
theorem Remembers.idle (remembers : session.Remembers memory log) {entry : Entry}
    (none : entry.accepted? = none) (history : next.history = session.history)
    (identity : next.identity = session.identity) (settings : next.settings = session.settings) :
    next.Remembers memory (log ++ [entry]) := by
  have same : accepted (log ++ [entry]) = accepted log := by
    rw [accepted_append]
    simp [accepted, none]
  have known := isIdentified_of_identity_eq identity
  exact
    { unordered := settings ▸ remembers.unordered
      deep := history ▸ remembers.deep
      records := by
        rw [history, same]
        exact remembers.records
      silent := by
        rw [known, same]
        exact remembers.silent
      greeted := by
        rw [known]
        exact fun identified => (remembers.greeted identified).append [entry] }

/-! ## Packets -/

/-- The greeting that says who the client is counts as the first number. -/
theorem Remembers.greet (remembers : session.Remembers memory log)
    (unknown : session.isIdentified = false) (greeting : Hello) :
    (session.onHello sequence greeting).2.Remembers memory
      (log ++ [⟨.packet (.hello sequence greeting) now, (session.onHello sequence greeting).1⟩])
    := by
  have nothing := remembers.silent unknown
  have new : sequence ∉ session.history.recent := by
    rw [remembers.records.recent, nothing, latest_nil]
    exact List.not_mem_nil
  have unknown : (session.postAck sequence).isIdentified = false := unknown
  have accepts := (remembers.records.accept new).2
  have all : accepted (log ++ [⟨.packet (.hello sequence greeting) now, [.identified]⟩]) =
      accepted log ++ [sequence] := accepted_append _ _
  simp only [onHello, unknown, Bool.false_eq_true, if_false]
  exact
    { unordered := remembers.unordered
      deep := (ReceivedHistory.capacity_accept _ _).trans remembers.deep
      records := by
        rw [all]
        exact accepts
      silent unknown := by cases unknown
      greeted := fun _ => ⟨log, sequence, greeting, now, [], rfl, nothing⟩ }

theorem onHello_of_identified (known : session.isIdentified = true) (greeting : Hello) :
    session.onHello sequence greeting = ([], session.postAck sequence) := by
  have known : (session.postAck sequence).isIdentified = true := known
  simp only [onHello, known, if_true]

/-- What becomes of a reliable payload: its number decides, and it is acknowledged in any
case. -/
theorem onReliable_of_unordered (known : session.isIdentified = true)
    (unordered : session.settings.messageOrdering = false) (payload : Payload) :
    session.onReliable sequence payload now =
      (if sequence ∈ session.history.recent then [] else [.deliver payload true],
        { session.postAck sequence with history := (session.history.accept sequence).2 }) := by
  have history : (session.postAck sequence).history = session.history := rfl
  have settings : (session.postAck sequence).settings.messageOrdering = false := unordered
  simp only [onReliable, known, Bool.not_true, Bool.false_eq_true, if_false, history, settings]
  by_cases repeated : sequence ∈ session.history.recent
  · simp only [ReceivedHistory.accept_of_mem repeated, Bool.not_false, if_true, if_pos repeated]
  · have new := ReceivedHistory.accept_iff_notMem.mpr repeated
    simp only [new, Bool.not_true, Bool.false_eq_true, if_false, if_neg repeated]

theorem Remembers.onReliable (remembers : session.Remembers memory log)
    (known : session.isIdentified = true) (payload : Payload) :
    (session.onReliable sequence payload now).2.Remembers memory
      (log ++ [⟨.packet (.reliable sequence payload) now,
        (session.onReliable sequence payload now).1⟩]) := by
  rw [onReliable_of_unordered known remembers.unordered]
  by_cases repeated : sequence ∈ session.history.recent
  · rw [if_pos repeated, ReceivedHistory.accept_of_mem repeated]
    exact remembers.idle rfl rfl rfl rfl
  · have accepts := (remembers.records.accept repeated).2
    have all : accepted (log ++
        [⟨.packet (.reliable sequence payload) now, [.deliver payload true]⟩]) =
        accepted log ++ [sequence] := accepted_append _ _
    rw [if_neg repeated]
    exact
      { unordered := remembers.unordered
        deep := (ReceivedHistory.capacity_accept _ _).trans remembers.deep
        records := by
          rw [all]
          exact accepts
        silent := fun unknown => absurd (unknown.symm.trans known) Bool.false_ne_true
        greeted := fun _ => (remembers.greeted known).append _ }

theorem Remembers.onPacket (remembers : session.Remembers memory log) (packet : Packet) :
    (session.onPacket packet now).2.Remembers memory
      (log ++ [⟨.packet packet now, (session.onPacket packet now).1⟩]) := by
  cases packet with
  | hello sequence greeting =>
    cases known : session.isIdentified with
    | false => exact remembers.greet known greeting
    | true =>
      rw [Session.onPacket, onHello_of_identified known]
      exact remembers.idle rfl rfl rfl rfl
  | reliable sequence payload =>
    cases known : session.isIdentified with
    | false =>
      simp only [Session.onPacket, Session.onReliable, known, Bool.not_false, if_true]
      exact remembers.idle rfl rfl rfl rfl
    | true => exact remembers.onReliable known payload
  | acknowledge sequence missing => exact remembers.idle rfl rfl rfl rfl
  | ping sequence => exact remembers.idle rfl rfl rfl rfl
  | unreliable payload => exact remembers.idle rfl rfl rfl rfl
  | disconnect farewell => exact remembers.idle rfl rfl rfl rfl

/-- A closed session accepts nothing. -/
theorem Remembers.handlePacket (remembers : session.Remembers memory log) (packet : Packet)
    (now : Instant) :
    (session.handlePacket packet now).2.Remembers memory
      (log ++ [⟨.packet packet now, (session.handlePacket packet now).1⟩]) := by
  unfold Session.handlePacket
  split
  · have touched : ({ session with lastReceivedAt := now } : Session).Remembers memory log :=
      { remembers with }
    exact touched.onPacket packet
  · refine remembers.idle ?_ rfl rfl rfl
    cases packet <;> rfl

/-! ## Runs -/

theorem Remembers.of_act {act : Act} {handed : List Inbound}
    (remembers : session.Remembers memory log) (returned : session.act act = .ok (handed, next)) :
    next.Remembers memory (log ++ [⟨act, handed⟩]) := by
  rcases heard_or_kept returned with
    ⟨packet, now, rfl, same⟩ | ⟨other, history, identity, settings⟩
  · have heard := remembers.handlePacket packet now
    rwa [same] at heard
  · refine remembers.idle ?_ history identity settings
    cases act with
    | packet packet now => exact absurd rfl (other packet now)
    | _ => rfl

theorem Remembers.of_run {acts : List Act} {more : List Entry}
    (remembers : session.Remembers memory log) (ran : session.run acts = .ok (more, next)) :
    next.Remembers memory (log ++ more) := by
  induction acts generalizing session log more with
  | nil =>
    cases ran
    rwa [List.append_nil]
  | cons act rest ih =>
    obtain ⟨handed, middle, later, returned, others, rfl⟩ := run_cons_eq_ok.mp ran
    have after := ih (remembers.of_act returned) others
    rwa [List.append_assoc] at after

/-- Take any run of a new session that hands up payloads as they come. If it is open and
identified at the end, the greeting that said who the client is came before all other
accepted numbers, and every reliable payload that comes next is answered with one
acknowledgement of its number and handed up exactly if the number is not among the last
`receivedHistory` that were accepted. And if two payloads were handed up under one number in
the run, the session accepted as many other numbers in between, all different. -/
theorem handed_iff_forgotten {client : ClientId} {remote : Address} {settings : SessionSettings}
    {flood : FloodSettings} {fresh : Session} {acts : List Act}
    (made : create client remote settings flood now = .ok fresh)
    (unordered : settings.messageOrdering = false)
    (ran : fresh.run acts = .ok (log, session)) :
    (session.state.isOpen = true → session.isIdentified = true →
      GreetedFirst log ∧ ∀ sequence payload now,
        (∃ datagram, (Packet.ack sequence).encode = .ok datagram ∧
          (session.handlePacket (.reliable sequence payload) now).2.outbox.toList =
            session.outbox.toList ++ [datagram]) ∧
        (session.handlePacket (.reliable sequence payload) now).1 =
          if sequence ∈ latest settings.receivedHistory (accepted log) then []
          else [.deliver payload true]) ∧
      ∀ before between after sequence payload now again later,
        log = before ++ ⟨.packet (.reliable sequence payload) now, [.deliver payload true]⟩ ::
          between ++ ⟨.packet (.reliable sequence again) later, [.deliver again true]⟩ :: after →
        ∃ others, others.Sublist (accepted between) ∧
          others.length = settings.receivedHistory ∧ (sequence :: others).Nodup := by
  have remembers := (remembers_create made unordered).of_run ran
  rw [List.nil_append] at remembers
  refine ⟨fun opened known => ⟨remembers.greeted known, fun sequence payload now => ?_⟩, ?_⟩
  · have touched : ({ session with lastReceivedAt := now } : Session).isIdentified = true := known
    rw [Session.handlePacket, if_pos opened, Session.onPacket,
      onReliable_of_unordered touched remembers.unordered, ← remembers.deep,
      ← remembers.records.recent]
    exact ⟨⟨_, rfl, Queue.toList_push _ _⟩, rfl⟩
  · rintro before between after sequence payload now again later rfl
    have spaced := remembers.records.spaced
    rw [remembers.deep] at spaced
    have split : accepted (before ++
        ⟨.packet (.reliable sequence payload) now, [.deliver payload true]⟩ :: between ++
        ⟨.packet (.reliable sequence again) later, [.deliver again true]⟩ :: after) =
        accepted before ++ sequence :: accepted between ++ sequence :: accepted after := by
      rw [accepted_append, accepted_append]
      rfl
    rw [split] at spaced
    obtain ⟨long, different⟩ := spaced.between
    exact ⟨_, List.take_sublist _ _, List.length_take_of_le long, different⟩

/-- A payload, its repeat, another payload, and the first one again. -/
def forgottenRepeat : List Act :=
  [.packet (.hello 0 (.brief default "")) 0, .packet (.reliable 1 ⟨[]⟩) 0,
    .packet (.reliable 1 ⟨[]⟩) 1, .packet (.reliable 2 ⟨[]⟩) 2, .packet (.reliable 1 ⟨[]⟩) 3]

/-- A history with one place tells the first repeat, but not the second. -/
theorem handed_iff_forgotten_forgottenRepeat :
    ∃ fresh log session,
      create ⟨1⟩ default { receivedHistory := 1 } {} 0 = .ok fresh ∧
      fresh.run forgottenRepeat = .ok (log, session) ∧ session.state.isOpen = true ∧
      session.isIdentified = true ∧ accepted log = [0, 1, 2, 1] ∧
      (session.handlePacket (.reliable 1 ⟨[]⟩) 4).1 = [] ∧
      (session.handlePacket (.reliable 2 ⟨[]⟩) 4).1 = [.deliver ⟨[]⟩ true] ∧
      ∃ others, others.Sublist [2] ∧ others.length = 1 ∧ ((1 : Sequence) :: others).Nodup := by
  obtain ⟨fresh, made⟩ := Halt.exists_of_isSome
    (create ⟨1⟩ default { receivedHistory := 1 } {} 0) (by decide +kernel)
  have same := create_eq_ok made
  obtain ⟨⟨log, session⟩, ran⟩ := Halt.exists_of_isSome (fresh.run forgottenRepeat)
    (by rw [same]; decide +kernel)
  have seen : ((fresh.run forgottenRepeat).toOption.map fun result =>
      (result.2.state.isOpen, result.2.isIdentified, result.1)) =
      some (true, true, [⟨.packet (.hello 0 (.brief default "")) 0, [.identified]⟩] ++
        ⟨.packet (.reliable 1 ⟨[]⟩) 0, [.deliver ⟨[]⟩ true]⟩ ::
        [⟨.packet (.reliable 1 ⟨[]⟩) 1, []⟩,
          ⟨.packet (.reliable 2 ⟨[]⟩) 2, [.deliver ⟨[]⟩ true]⟩] ++
        ⟨.packet (.reliable 1 ⟨[]⟩) 3, [.deliver ⟨[]⟩ true]⟩ :: []) := by
    rw [same]
    decide +kernel
  rw [ran] at seen
  obtain ⟨opened, seen⟩ := Prod.mk.inj (Option.some.inj seen)
  obtain ⟨known, split⟩ := Prod.mk.inj seen
  change log = _ at split
  obtain ⟨next, apart⟩ := handed_iff_forgotten made rfl ran
  obtain ⟨-, answers⟩ := next opened known
  have numbers : accepted log = [0, 1, 2, 1] := by rw [split]; rfl
  refine ⟨fresh, log, session, made, ran, opened, known, numbers, ?_, ?_, ?_⟩
  · rw [(answers 1 ⟨[]⟩ 4).2, numbers]
    rfl
  · rw [(answers 2 ⟨[]⟩ 4).2, numbers]
    rfl
  · exact apart _ _ _ _ _ _ _ _ split

end SessionLayer.Session
