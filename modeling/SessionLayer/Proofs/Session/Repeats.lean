import SessionLayer.Proofs.Session.Link

/-!
# What is handed up again

A history of the receiver tells repeats apart only while it remembers them. How far
this goes is `Link.Sound.repeated`: between two copies of one packet the receiver hands
up as many other packets as its history is long, and none of them is further away than
the sender's list of pending packets is long. `Link.handed_again` says what follows with
the usual settings, for which both lists have eight places.
-/

namespace SessionLayer.Link

variable {window memory : Nat} {first : Sequence} {link : Link}

/-- Between two copies of a packet the receiver hands up as many others as it remembers,
all different, and all of them near to it. -/
theorem Sound.repeated (sound : link.Sound window memory first)
    {before middle after : List (Nat × Payload)} {place : Nat} {payload again : Payload}
    (split : link.handed = before ++ (place, payload) :: middle ++ (place, again) :: after) :
    ∃ others, others.Sublist (middle.map Prod.fst) ∧ others.length = memory ∧
      (place :: others).Nodup ∧
      ∀ other ∈ place :: others, place < other + window ∧ other < place + window := by
  have spaced := sound.accepted.spaced
  rw [sound.deep, split] at spaced
  simp only [List.map_append, List.map_cons, ← List.cons_append] at spaced
  obtain ⟨long, different⟩ := spaced.between
  rw [List.length_map] at long
  have within : ((middle.take memory).map Prod.fst).Sublist (middle.map Prod.fst) :=
    (List.take_sublist ..).map _
  refine ⟨(middle.take memory).map Prod.fst, within, ?_, ?_, ?_⟩
  · rw [List.length_map, List.length_take, Nat.min_eq_left long]
  · have numbers : (((place, payload) :: middle.take memory).map fun item =>
        sequenceAt link.issued item.1).Nodup := by
      rwa [List.map_cons, List.map_take]
    have places : (((place, payload) :: middle.take memory).map Prod.fst).Nodup := by
      rw [List.Nodup, List.pairwise_map] at numbers ⊢
      exact numbers.imp fun differ same => differ (by rw [same])
    exact places
  · have near := (List.pairwise_append.mp sound.near).1
    rw [split, List.map_append, List.map_append, List.map_cons, List.map_cons] at near
    obtain ⟨front, -, across⟩ := List.pairwise_append.mp near
    obtain ⟨-, inner, -⟩ := List.pairwise_append.mp front
    have self : place < place + window := across place
      (List.mem_append_right _ (List.mem_cons_self ..)) place (List.mem_cons_self ..)
    intro other present
    rcases List.mem_cons.mp present with rfl | present
    · exact ⟨self, self⟩
    · have present := within.subset present
      exact ⟨(List.pairwise_cons.mp inner).1 other present,
        across other (List.mem_append_right _ (List.mem_cons_of_mem _ present)) place
          (List.mem_cons_self ..)⟩

/-- Different places from `low` on are at most as many as there are. -/
theorem length_le_of_nodup (low count : Nat) {places : List Nat} (different : places.Nodup)
    (within : ∀ place ∈ places, low ≤ place ∧ place < low + count) : places.length ≤ count := by
  have inside : places ⊆ List.range' low count := fun place present =>
    List.mem_range'_1.mpr (within place present)
  have few := different.length_le_of_subset inside
  rwa [List.length_range'] at few

/-- With the usual settings a payload may be handed up again, but only when eight others
were handed up since, and one of them was sent earlier. What is handed up is always what
was sent. -/
theorem handed_again {sender fresh : Session} {greeting : Hello} {now : Instant}
    {moves : List Move} (ready : Ready {} sender fresh)
    (returned : (start sender fresh greeting now).run moves = .ok link) :
    (∀ place payload, (place, payload) ∈ link.handed →
        ∃ sequence, link.issued[place]? = some (.reliable sequence payload)) ∧
      ∀ before middle after place payload again,
        link.handed = before ++ (place, payload) :: middle ++ (place, again) :: after →
        ∃ others, others.Sublist (middle.map Prod.fst) ∧ others.length = 8 ∧
          (place :: others).Nodup ∧ ∃ earlier ∈ others, earlier < place := by
  have sound := (ready.sound greeting now).of_run returned
  refine ⟨sound.payloads, fun before middle after place payload again split => ?_⟩
  obtain ⟨others, within, many, different, near⟩ := sound.repeated split
  refine ⟨others, within, many, different, ?_⟩
  -- of eight different places less than eight away not all can come later
  apply Classical.byContradiction
  intro later
  have few := length_le_of_nodup place 8 different fun other present => by
    have after : place ≤ other := by
      rcases List.mem_cons.mp present with rfl | present
      · exact Nat.le_refl _
      · exact Nat.le_of_not_lt fun earlier => later ⟨other, present, earlier⟩
    exact ⟨after, (near other present).2⟩
  rw [List.length_cons, many] at few
  exact absurd few (by decide)

/-- Two new sessions with the usual settings, of which the first was greeted. -/
def newcomers : Except Halt (Session × Session) := do
  let own ← Session.create ⟨1⟩ (.v4 default 1) {} {} 0
  let fresh ← Session.create ⟨2⟩ (.v4 default 2) {} {} 0
  return (own.greeted 0 (.brief default "") 0, fresh)

theorem ready_of_newcomers {sender fresh : Session} (h : newcomers = .ok (sender, fresh)) :
    Ready {} sender fresh := by
  simp only [newcomers, Halt.bind_eq_ok, Halt.pure_eq_ok, Prod.mk.injEq] at h
  rcases h with ⟨own, made, fresh, made', rfl, rfl⟩
  exact ready_of_create made made' rfl _

/-- A payload with one empty message. -/
def signal (tag : UInt8) : Payload := ⟨[.ofBytes tag []]⟩

/-- Of eight payloads only the last arrives, and its acknowledgement is lost. When all
are sent again, the first seven arrive; a ninth follows. By then the receiver has
forgotten the eighth, which the sender has not. -/
def lateArrivals : List Move :=
  (List.range 8).map (fun tag => .send (signal (.ofNat tag)) 0) ++ List.replicate 7 (.lose 0)
    ++ [.deliver 0, .loseAnswer 0, .maintain 1600000]
    ++ List.replicate 7 (.deliver 1600000) ++ [.lose 0, .lose 0]
    ++ [.send (signal 8) 1600000, .deliver 1600000, .maintain 3200000]
    ++ List.replicate 7 (.deliver 3200000)

/-- The run of `lateArrivals` between two newcomers. -/
def lateArrivalsRun : Except Halt Link := do
  let (sender, fresh) ← newcomers
  (start sender fresh (.brief default "") 0).run lateArrivals

theorem run_of_lateArrivalsRun (h : lateArrivalsRun = .ok link) :
    ∃ sender fresh, newcomers = .ok (sender, fresh) ∧
      (start sender fresh (.brief default "") 0).run lateArrivals = .ok link := by
  obtain ⟨⟨sender, fresh⟩, made, returned⟩ := Halt.bind_eq_ok.mp h
  exact ⟨sender, fresh, made, returned⟩

/-- With the usual settings and a clock that does not go back, a payload that was sent
once can be handed up twice. -/
theorem handed_twice_lateArrivals :
    ∃ sender fresh link, Ready {} sender fresh ∧
      (lateArrivals.filterMap Move.time?).Pairwise (· ≤ ·) ∧
      (start sender fresh (.brief default "") 0).run lateArrivals = .ok link ∧
      ¬ (link.handed.map Prod.fst).Nodup := by
  obtain ⟨link, h⟩ := Halt.exists_of_isSome lateArrivalsRun (by decide +kernel)
  have places : (lateArrivalsRun.toOption.map fun link => link.handed.map Prod.fst) =
      some [7, 0, 1, 2, 3, 4, 5, 6, 9, 7] := by decide +kernel
  rw [h] at places
  obtain ⟨sender, fresh, made, returned⟩ := run_of_lateArrivalsRun h
  have handed : link.handed.map Prod.fst = [7, 0, 1, 2, 3, 4, 5, 6, 9, 7] :=
    Option.some.inj places
  refine ⟨sender, fresh, link, ready_of_newcomers made, by decide +kernel, returned, ?_⟩
  rw [handed]
  decide

theorem handed_again_lateArrivals :
    ∃ sender fresh link before middle payload, Ready {} sender fresh ∧
      (start sender fresh (.brief default "") 0).run lateArrivals = .ok link ∧
      link.handed = before ++ (7, payload) :: middle ++ [(7, payload)] ∧
      ∃ others, others.Sublist (middle.map Prod.fst) ∧ others.length = 8 ∧
        (7 :: others).Nodup ∧ ∃ earlier ∈ others, earlier < 7 := by
  obtain ⟨link, h⟩ := Halt.exists_of_isSome lateArrivalsRun (by decide +kernel)
  have handed : (lateArrivalsRun.toOption.map Link.handed) =
      some ([] ++ (7, signal 7) ::
        [(0, signal 0), (1, signal 1), (2, signal 2), (3, signal 3), (4, signal 4),
          (5, signal 5), (6, signal 6), (9, signal 8)] ++ (7, signal 7) :: []) := by
    decide +kernel
  rw [h] at handed
  obtain ⟨sender, fresh, made, returned⟩ := run_of_lateArrivalsRun h
  have split := Option.some.inj handed
  exact ⟨sender, fresh, link, _, _, _, ready_of_newcomers made, returned, split,
    (handed_again (ready_of_newcomers made) returned).2 _ _ _ _ _ _ split⟩

end SessionLayer.Link
