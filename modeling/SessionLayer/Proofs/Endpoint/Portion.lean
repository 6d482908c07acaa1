import SessionLayer.Proofs.Endpoint.Numbering
import SessionLayer.Proofs.Session.Renamed

/-!
# The portion of one host

Of everything that an endpoint keeps and tells, some part belongs to the peers of one
host: their sessions, the events of their clients, the datagrams to their addresses and
the penalties of the host. `Endpoint.Mirror` says that one endpoint holds this portion
of another and nothing else, its clients under numbers of their own. What happens to
sessions and penalties of other hosts leaves the mirror as it is (`Mirror.of_course`),
and every change at an address of the host has its image.
-/

namespace SessionLayer

/-! ## What clients are told, under other numbers -/

/-- The event with its client under another number. -/
def Event.renamed (naming : ClientId → ClientId) : Event → Event
  | .identified client remote identity => .identified (naming client) remote identity
  | .message client payload reliable => .message (naming client) payload reliable
  | .disconnected client remote cause => .disconnected (naming client) remote cause

/-- The notice to a room with its client under another number. -/
def Detachment.renamed (naming : ClientId → ClientId) (detachment : Detachment) : Detachment :=
  { detachment with client := naming detachment.client }

namespace Report

/-- What is told of these clients, under other numbers. -/
def portion (mine : List ClientId) (naming : ClientId → ClientId) (report : Report) : Report where
  events := (report.events.filter fun event => event.client ∈ mine).map (Event.renamed naming)
  detached :=
    (report.detached.filter fun detachment => detachment.client ∈ mine).map
      (Detachment.renamed naming)

variable {mine : List ClientId} {naming : ClientId → ClientId}

@[simp] theorem portion_append (first second : Report) :
    (first ++ second).portion mine naming =
      first.portion mine naming ++ second.portion mine naming := by
  show Report.portion mine naming (append first second) =
    append (first.portion mine naming) (second.portion mine naming)
  simp only [portion, append, List.filter_append, List.map_append]

/-- What is told of one of these clients is told under its other number. -/
theorem portion_of_mem {report : Report} {client : ClientId} (own : client ∈ mine)
    (events : ∀ event ∈ report.events, event.client = client)
    (detached : ∀ detachment ∈ report.detached, detachment.client = client) :
    report.portion mine naming =
      ⟨report.events.map (Event.renamed naming),
        report.detached.map (Detachment.renamed naming)⟩ := by
  have every : ∀ event ∈ report.events, decide (event.client ∈ mine) = true :=
    fun event told => by simpa [events event told] using own
  have each : ∀ detachment ∈ report.detached, decide (detachment.client ∈ mine) = true :=
    fun detachment told => by simpa [detached detachment told] using own
  rw [portion, List.filter_eq_self.mpr every, List.filter_eq_self.mpr each]

/-- What is told of any other client is left out. -/
theorem portion_of_notMem {report : Report} {client : ClientId} (foreign : client ∉ mine)
    (events : ∀ event ∈ report.events, event.client = client)
    (detached : ∀ detachment ∈ report.detached, detachment.client = client) :
    report.portion mine naming = empty := by
  have no : ∀ event ∈ report.events, ¬ decide (event.client ∈ mine) = true :=
    fun event told => by simpa [events event told] using foreign
  have none : ∀ detachment ∈ report.detached, ¬ decide (detachment.client ∈ mine) = true :=
    fun detachment told => by simpa [detached detachment told] using foreign
  rw [portion, List.filter_eq_nil_iff.mpr no, List.filter_eq_nil_iff.mpr none]
  rfl

end Report

/-! ## The mirror -/

namespace Endpoint

/-- One endpoint holds the portion of a host of another one, whose clients `mine` have
numbers of their own there. -/
structure Mirror (host : Host) (mine : List ClientId) (naming : ClientId → ClientId)
    (full part : Endpoint) : Prop where
  settings : part.settings = full.settings
  usual : part.roster.settings = full.roster.settings
  flood : part.roster.flood = full.roster.flood
  rooms : part.rooms = full.rooms
  addresses : part.roster.addresses = full.roster.addresses.filter fun remote => remote.host = host
  sessions : ∀ remote : Address, remote.host = host →
    part.roster.get? remote = (full.roster.get? remote).map (Session.renamed naming)
  clients : ∀ (client : ClientId) (remote : Address), remote.host = host →
    full.roster.addressOf? client = some remote →
      part.roster.addressOf? (naming client) = some remote
  owned : ∀ (remote : Address) (session : Session),
    full.roster.get? remote = some session → (session.client ∈ mine ↔ remote.host = host)
  outgoing : part.outgoing.toList = full.outgoing.toList.filter fun item => item.1.host = host
  penalties : full.penalties.SameAt host part.penalties

/-- The report of one side is the portion of the other side's, and the endpoints mirror
each other. -/
structure Alike (host : Host) (mine : List ClientId) (naming : ClientId → ClientId)
    (full part : Report × Endpoint) : Prop where
  report : part.1 = full.1.portion mine naming
  mirror : full.2.Mirror host mine naming part.2

theorem mirror_create (host : Host) (mine : List ClientId) (naming : ClientId → ClientId)
    (settings : EndpointSettings) :
    (Endpoint.create settings).Mirror host mine naming (Endpoint.create settings) where
  settings := rfl
  usual := rfl
  flood := rfl
  rooms := rfl
  addresses := rfl
  sessions _ _ := rfl
  clients _ _ _ known := by cases known
  owned _ _ stored := by cases stored
  outgoing := rfl
  penalties := ⟨rfl, rfl, rfl, rfl⟩

variable {host : Host} {mine : List ClientId} {naming : ClientId → ClientId}
  {full part : Endpoint} {remote : Address} {session next : Session}

/-! ### Changes elsewhere -/

theorem Mirror.enqueue_elsewhere (mirror : full.Mirror host mine naming part)
    (elsewhere : remote.host ≠ host) (datagrams : List Bytes) :
    (full.enqueue remote datagrams).Mirror host mine naming part :=
  { mirror with
    outgoing := by
      rw [toList_enqueue, List.filter_append, ← mirror.outgoing]
      simp [elsewhere] }

theorem Mirror.put_elsewhere (mirror : full.Mirror host mine naming part)
    (elsewhere : remote.host ≠ host) (stored : full.roster.get? remote = some session)
    (same : session.SamePeer next) : (full.put remote next).Mirror host mine naming part :=
  { mirror with
    addresses := mirror.addresses.trans (by rw [addresses_put stored])
    sessions := fun other here => by
      have different : other ≠ remote := fun clash => elsewhere (clash ▸ here)
      rw [get?_put, if_neg different]
      exact mirror.sessions other here
    owned := fun other found present => by
      rw [get?_put] at present
      split at present
      · rename_i clash
        cases present
        rw [same.client, clash]
        exact mirror.owned remote session stored
      · exact mirror.owned other found present }

theorem Mirror.release_elsewhere (mirror : full.Mirror host mine naming part)
    (elsewhere : remote.host ≠ host) (session : Session) :
    (full.release remote session).Mirror host mine naming part := by
  refine Mirror.enqueue_elsewhere ?_ elsewhere session.takeOutgoing.1
  have gone (other : Address) := get?_release full remote other session
  refine { mirror with addresses := ?_, sessions := ?_, clients := ?_, owned := ?_ }
  · have others : ∀ other ∈ full.roster.addresses,
        (decide (other.host = host) && decide (other ≠ remote)) = decide (other.host = host) := by
      intro other _
      by_cases here : other.host = host
      · have different : other ≠ remote := fun clash => elsewhere (clash ▸ here)
        simp [here, different]
      · simp [here]
    have released := addresses_release full remote session
    calc part.roster.addresses
        = full.roster.addresses.filter fun other => other.host = host := mirror.addresses
      _ = (full.release remote session).roster.addresses.filter fun other => other.host = host := by
        rw [released, List.filter_filter]
        exact (List.filter_congr others).symm
  · intro other here
    have different : other ≠ remote := fun clash => elsewhere (clash ▸ here)
    refine (mirror.sessions other here).trans (congrArg _ ?_)
    exact ((gone other).trans (if_neg different)).symm
  · intro client other here known
    replace known := (addressOf?_release full remote session client).symm.trans known
    split at known
    · cases known
    · exact mirror.clients client other here known
  · intro other found present
    replace present := (gone other).symm.trans present
    split at present
    · cases present
    · exact mirror.owned other found present

theorem Mirror.enrol_elsewhere (mirror : full.Mirror host mine naming part)
    (elsewhere : remote.host ≠ host) (absent : full.roster.get? remote = none)
    (foreign : full.roster.nextClient ∉ mine) (client : session.client = full.roster.nextClient) :
    (full.enrol remote session).Mirror host mine naming part :=
  { mirror with
    addresses := by
      rw [addresses_enrol absent, List.filter_append, ← mirror.addresses]
      simp [elsewhere]
    sessions := fun other here => by
      have different : other ≠ remote := fun clash => elsewhere (clash ▸ here)
      rw [get?_enrol, if_neg different]
      exact mirror.sessions other here
    clients := fun client other here known => by
      rw [addressOf?_enrol] at known
      split at known
      · cases known
        exact absurd here elsewhere
      · exact mirror.clients client other here known
    owned := fun other found present => by
      rw [get?_enrol] at present
      split at present
      · rename_i clash
        cases present
        rw [client, clash]
        exact iff_of_false foreign elsewhere
      · exact mirror.owned other found present }

/-- A step that concerns another host is not seen. -/
theorem Mirror.of_step {other : Host} {deed : Deed} {report : Report} {finish : Endpoint}
    (mirror : full.Mirror host mine naming part) (step : Step other deed full report finish)
    (elsewhere : other ≠ host) (inside : deed ≠ .aside) :
    report.portion mine naming = .empty ∧ finish.Mirror host mine naming part := by
  cases step with
  | @turned _ remote _ session _ events sent stored turn =>
    have foreign : session.client ∉ mine := fun own =>
      elsewhere ((mirror.owned remote session stored).mp own)
    exact ⟨Report.portion_of_notMem foreign turn.client_eq (fun _ told => by cases told),
      (mirror.put_elsewhere elsewhere stored turn.samePeer).enqueue_elsewhere elsewhere sent⟩
  | @ended _ remote session next cause stored ending =>
    have foreign : next.client ∉ mine := fun own =>
      elsewhere ((mirror.owned remote session stored).mp (ending.samePeer.client ▸ own))
    obtain ⟨events, detached⟩ := client_of_farewellReport full.rooms remote next cause
    exact ⟨Report.portion_of_notMem foreign events detached,
      mirror.release_elsewhere elsewhere next⟩
  | judged but =>
    exact ⟨rfl, { mirror with penalties := mirror.penalties.of_sameBut elsewhere but }⟩
  | noticed remote notice => exact ⟨rfl, mirror.enqueue_elsewhere elsewhere [notice]⟩
  | aside _ _ _ _ => exact absurd rfl inside

/-- Steps that concern other hosts, one after the other, are not seen. -/
theorem Mirror.of_course {allowed : Host → Deed → Prop} {report : Report} {finish : Endpoint}
    (mirror : full.Mirror host mine naming part) (course : Course allowed full report finish)
    (elsewhere : ∀ other deed, allowed other deed → other ≠ host ∧ deed ≠ .aside) :
    report.portion mine naming = .empty ∧ finish.Mirror host mine naming part := by
  induction course with
  | stay => exact ⟨rfl, mirror⟩
  | step one fits _ ih =>
    obtain ⟨outside, inside⟩ := elsewhere _ _ fits
    obtain ⟨first, mirror⟩ := mirror.of_step one outside inside
    obtain ⟨rest, mirror⟩ := ih mirror
    exact ⟨by rw [Report.portion_append, first, rest, Report.empty_append], mirror⟩

/-! ### Changes at the host -/

theorem Mirror.get? (mirror : full.Mirror host mine naming part) (here : remote.host = host)
    (stored : full.roster.get? remote = some session) :
    part.roster.get? remote = some (session.renamed naming) := by
  rw [mirror.sessions remote here, stored, Option.map_some]

theorem Mirror.get?_none (mirror : full.Mirror host mine naming part) (here : remote.host = host)
    (absent : full.roster.get? remote = none) : part.roster.get? remote = none := by
  rw [mirror.sessions remote here, absent, Option.map_none]

theorem Mirror.enqueue (mirror : full.Mirror host mine naming part) (here : remote.host = host)
    (datagrams : List Bytes) :
    (full.enqueue remote datagrams).Mirror host mine naming (part.enqueue remote datagrams) :=
  { mirror with
    outgoing := by
      rw [toList_enqueue, toList_enqueue, List.filter_append, ← mirror.outgoing]
      congr 1
      exact (List.filter_eq_self.mpr fun item queued => by
        obtain ⟨bytes, _, rfl⟩ := List.mem_map.mp queued
        simpa using here).symm }

theorem Mirror.put (mirror : full.Mirror host mine naming part) (here : remote.host = host)
    (stored : full.roster.get? remote = some session) (same : session.SamePeer next) :
    (full.put remote next).Mirror host mine naming (part.put remote (next.renamed naming)) :=
  { mirror with
    addresses := by
      rw [addresses_put (mirror.get? here stored), addresses_put stored]
      exact mirror.addresses
    sessions := fun other inside => by
      rw [get?_put, get?_put]
      split
      · rfl
      · exact mirror.sessions other inside
    owned := fun other found present => by
      rw [get?_put] at present
      split at present
      · rename_i clash
        cases present
        rw [same.client, clash]
        exact mirror.owned remote session stored
      · exact mirror.owned other found present }

theorem Mirror.release (mirror : full.Mirror host mine naming part)
    (injective : Function.Injective naming)
    (here : remote.host = host) (session : Session) :
    (full.release remote session).Mirror host mine naming
      (part.release remote (session.renamed naming)) := by
  refine Mirror.enqueue ?_ here session.takeOutgoing.1
  refine { mirror with addresses := ?_, sessions := ?_, clients := ?_, owned := ?_ }
  · show (part.roster.sessions.erase remote).keys =
      ((full.roster.sessions.erase remote).keys).filter fun other => other.host = host
    have kept : part.roster.sessions.keys =
        full.roster.sessions.keys.filter fun other => other.host = host := mirror.addresses
    rw [Table.keys_erase, Table.keys_erase, kept, List.filter_filter, List.filter_filter]
    simp only [Bool.and_comm]
  · intro other inside
    refine (get?_release part remote other (session.renamed naming)).trans ?_
    refine Eq.trans ?_ (congrArg _ (get?_release full remote other session).symm)
    split
    · rfl
    · exact mirror.sessions other inside
  · intro client other inside known
    replace known := (addressOf?_release full remote session client).symm.trans known
    split at known
    · cases known
    · rename_i different
      refine (addressOf?_release part remote (session.renamed naming) (naming client)).trans ?_
      refine (if_neg fun clash => different (injective clash)).trans ?_
      exact mirror.clients client other inside known
  · intro other found present
    replace present := (get?_release full remote other session).symm.trans present
    split at present
    · cases present
    · exact mirror.owned other found present

theorem Mirror.enrol (mirror : full.Mirror host mine naming part)
    (injective : Function.Injective naming)
    (here : remote.host = host) (absent : full.roster.get? remote = none)
    (own : full.roster.nextClient ∈ mine) (client : session.client = full.roster.nextClient)
    (number : naming full.roster.nextClient = part.roster.nextClient) :
    (full.enrol remote session).Mirror host mine naming
      (part.enrol remote (session.renamed naming)) :=
  { mirror with
    addresses := by
      rw [addresses_enrol absent, addresses_enrol (mirror.get?_none here absent),
        List.filter_append, mirror.addresses]
      simp [here]
    sessions := fun other inside => by
      rw [get?_enrol, get?_enrol]
      split
      · rfl
      · exact mirror.sessions other inside
    clients := fun client other inside known => by
      rw [addressOf?_enrol] at known ⊢
      split at known
      · rename_i new
        rw [if_pos (by rw [new, number])]
        exact known
      · rename_i old
        rw [if_neg fun clash => old (injective (clash.trans number.symm))]
        exact mirror.clients client other inside known
    owned := fun other found present => by
      rw [get?_enrol] at present
      split at present
      · rename_i clash
        cases present
        rw [client, clash]
        exact iff_of_true own here
      · exact mirror.owned other found present }

end Endpoint

end SessionLayer
