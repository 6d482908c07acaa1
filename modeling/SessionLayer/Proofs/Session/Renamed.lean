import SessionLayer.Proofs.Session.Cases

/-!
# Sessions under another number

The number of its client is nothing that a session acts on. It only names the client in
the faults of commands: whatever a session does, it does under any other number as well.
-/

namespace SessionLayer

variable (naming : ClientId → ClientId)

/-- The fault with its client under another number. -/
def SessionFault.renamed : SessionFault → SessionFault
  | .notFound client => .notFound (naming client)
  | .notIdentified client => .notIdentified (naming client)
  | .closed client => .closed (naming client)
  | .encode fault => .encode fault

namespace Session

/-- The session with its client under another number. -/
def renamed (session : Session) : Session := { session with client := naming session.client }

@[simp] theorem client_renamed (session : Session) :
    (session.renamed naming).client = naming session.client := rfl

@[simp] theorem isIdentified_renamed (session : Session) :
    (session.renamed naming).isIdentified = session.isIdentified := rfl

@[simp] theorem liveRoom?_renamed (session : Session) (rooms : RoomTable) :
    (session.renamed naming).liveRoom? rooms = session.liveRoom? rooms := rfl

variable {naming} {session next : Session} {now : Instant}

theorem create_renamed {client : ClientId} {remote : Address} {settings : SessionSettings}
    {flood : FloodSettings} (h : Session.create client remote settings flood now = .ok session) :
    Session.create (naming client) remote settings flood now = .ok (session.renamed naming) := by
  simp only [create, Halt.bind_eq_ok, Halt.pure_eq_ok] at h ⊢
  rcases h with ⟨pending, hpending, history, hhistory, rfl⟩
  exact ⟨pending, hpending, history, hhistory, rfl⟩

theorem checkRate_renamed {trafficClass : TrafficClass} {decision : RateDecision}
    (h : session.checkRate trafficClass now = .ok (decision, next)) :
    (session.renamed naming).checkRate trafficClass now = .ok (decision, next.renamed naming) := by
  unfold checkRate at h ⊢
  simp only at h
  split at h
  · rename_i fits
    cases h
    exact if_pos fits
  · cases h

/-! ## Packets from the peer -/

theorem postAck_renamed (session : Session) (sequence : Sequence) :
    (session.renamed naming).postAck sequence = (session.postAck sequence).renamed naming := by
  unfold postAck
  split <;> rfl

theorem onHello_renamed (session : Session) (sequence : Sequence) (greeting : Hello) :
    (session.renamed naming).onHello sequence greeting =
      ((session.onHello sequence greeting).1,
        (session.onHello sequence greeting).2.renamed naming) := by
  unfold onHello
  rw [postAck_renamed]
  by_cases known : (session.postAck sequence).isIdentified = true
  · rw [if_pos known]
    exact if_pos known
  · rw [if_neg known]
    exact if_neg known

theorem onReliable_renamed (session : Session) (sequence : Sequence) (payload : Payload)
    (now : Instant) :
    (session.renamed naming).onReliable sequence payload now =
      ((session.onReliable sequence payload now).1,
        (session.onReliable sequence payload now).2.renamed naming) := by
  unfold onReliable
  rw [postAck_renamed]
  by_cases known : (!session.isIdentified) = true
  · rw [if_pos known]
    exact if_pos known
  rw [if_neg known]
  refine (if_neg known).trans ?_
  by_cases seen : (!((session.postAck sequence).history.accept sequence).1) = true
  · simp only [seen, if_true]
    exact if_pos seen
  simp only [seen]
  refine (if_neg seen).trans ?_
  by_cases ordered : (session.postAck sequence).settings.messageOrdering = true
  · simp only [ordered, if_true]
    exact if_pos ordered
  · simp only [ordered]
    exact if_neg ordered

theorem handlePacket_renamed (session : Session) (packet : Packet) (now : Instant) :
    (session.renamed naming).handlePacket packet now =
      ((session.handlePacket packet now).1, (session.handlePacket packet now).2.renamed naming) := by
  unfold handlePacket
  have heard : { session.renamed naming with lastReceivedAt := now } =
    Session.renamed naming { session with lastReceivedAt := now } := rfl
  rw [heard]
  show (if session.state.isOpen then _ else _) = _
  cases session.state.isOpen with
  | false => rfl
  | true =>
    cases packet with
    | hello sequence greeting => exact onHello_renamed _ sequence greeting
    | ping sequence => exact congrArg (Prod.mk []) (postAck_renamed _ sequence)
    | reliable sequence payload => exact onReliable_renamed _ sequence payload now
    | acknowledge sequence echo => rfl
    | unreliable payload => rfl
    | disconnect farewell => rfl

/-! ## Packets to the peer -/

theorem takeSequence_renamed {sequence : Sequence}
    (h : session.takeSequence = .ok (sequence, next)) :
    (session.renamed naming).takeSequence = .ok (sequence, next.renamed naming) := by
  simp only [takeSequence, Halt.bind_eq_ok, Halt.pure_eq_ok] at h ⊢
  rcases h with ⟨number, free, h⟩
  cases h
  exact ⟨sequence, free, rfl⟩

theorem sendFault?_renamed (session : Session) :
    (session.renamed naming).sendFault? = session.sendFault?.map (·.renamed naming) := by
  rcases session with ⟨client, remote, state⟩
  cases state <;> rfl

theorem send_renamed {payload : Payload} {reliable : Bool}
    {answer : Except SessionFault (Option Sequence)}
    (h : session.send payload reliable now = .ok (answer, next)) :
    (session.renamed naming).send payload reliable now =
      .ok (answer.mapError (·.renamed naming), next.renamed naming) := by
  unfold send at h ⊢
  rw [sendFault?_renamed]
  cases refusal : session.sendFault? with
  | some fault =>
    rw [refusal] at h
    cases h
    rfl
  | none =>
    rw [refusal] at h
    cases reliable with
    | false =>
      simp only [Option.map_none, Bool.false_eq_true, if_false, sendUnreliable,
        Except.ok.injEq] at h ⊢
      split at h <;> cases h <;> rfl
    | true =>
      simp only [Option.map_none, if_true, sendReliable, Halt.bind_eq_ok] at h ⊢
      rcases h with ⟨⟨sequence, taken⟩, free, h⟩
      refine ⟨_, takeSequence_renamed free, ?_⟩
      simp only at h ⊢
      split at h <;> cases h <;> rfl

theorem disconnect_renamed (session : Session) (farewell : Option Farewell) :
    (session.renamed naming).disconnect farewell =
      ((session.disconnect farewell).1, (session.disconnect farewell).2.renamed naming) := by
  unfold disconnect
  show (if session.sentDisconnect || !session.state.isOpen then _ else _) = _
  cases session.sentDisconnect || !session.state.isOpen <;> rfl

/-! ## Looking after a session -/

theorem sendPing_renamed {sequence : Sequence}
    (h : session.sendPing now = .ok (sequence, next)) :
    (session.renamed naming).sendPing now = .ok (sequence, next.renamed naming) := by
  simp only [sendPing, Halt.bind_eq_ok] at h ⊢
  rcases h with ⟨⟨number, taken⟩, free, h⟩
  refine ⟨_, takeSequence_renamed free, ?_⟩
  simp only at h ⊢
  split at h <;> cases h <;> rfl

theorem expireGaps_renamed (session : Session) (now : Instant) :
    (session.renamed naming).expireGaps now =
      ((session.expireGaps now).1, (session.expireGaps now).2.renamed naming) := by
  unfold expireGaps
  show (if session.settings.messageOrdering then _ else _) = _
  cases session.settings.messageOrdering <;> rfl

theorem keepUp_renamed {upkeep : Upkeep} (h : session.keepUp now = .ok (upkeep, next)) :
    (session.renamed naming).keepUp now = .ok (upkeep, next.renamed naming) := by
  have again : (session.renamed naming).resendOverdue now =
    ((session.resendOverdue now).1, (session.resendOverdue now).2.renamed naming) := rfl
  unfold keepUp at h ⊢
  rw [again]
  simp only at h ⊢
  split at h
  · cases h
  rename_i fits
  simp only [Halt.bind_eq_ok] at h
  rcases h with ⟨⟨sequence, pinged⟩, sent, h⟩
  refine (if_neg fits).trans ?_
  simp only [Halt.bind_eq_ok]
  refine ⟨_, sendPing_renamed sent, ?_⟩
  simp only [expireGaps_renamed]
  cases h
  rfl

theorem maintain_renamed {upkeep : Upkeep} (h : session.maintain now = .ok (upkeep, next)) :
    (session.renamed naming).maintain now = .ok (upkeep, next.renamed naming) := by
  unfold maintain at h ⊢
  show (if !session.state.isOpen then _ else if !session.isIdentified then _
    else if session.isUnresponsive now then _ else _) = _
  split at h
  · rename_i shut
    cases h
    exact if_pos shut
  rename_i opened
  rw [if_neg opened]
  split at h
  · rename_i unknown
    cases h
    exact if_pos unknown
  rename_i known
  rw [if_neg known]
  split at h
  · rename_i stalled
    cases h
    exact if_pos stalled
  · rename_i lively
    exact (if_neg lively).trans (keepUp_renamed h)

end Session

end SessionLayer
