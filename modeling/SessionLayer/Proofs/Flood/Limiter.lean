import SessionLayer.Flood.Limiter
import SessionLayer.Proofs.Flood.Window

/-!
# What a limiter goes by

A `Ruling` is what was decided about one datagram. A limiter that `Tallies` the rulings
on a peer has counted none of its datagrams that did not come, and has kept no warning
that was not given. Therefore a refusal shows that too many datagrams of the class came
lately (`Tallies.exceeded`), and a penalty shows that too many of them were refused lately
(`Tallies.penalized`).
-/

namespace SessionLayer

/-- The limit of a class. -/
def FloodSettings.limit (settings : FloodSettings) : TrafficClass → WindowLimit
  | .reliable => settings.reliable
  | .unreliable => settings.unreliable

/-- What was decided about a datagram. -/
structure Ruling where
  kind : PacketKind
  now : Instant
  decision : RateDecision
  /-- Whether a session was made for the datagram. -/
  opened : Bool
  deriving DecidableEq

/-- Whether the datagram was above the limit. -/
def Ruling.isRefusal (ruling : Ruling) : Bool := ruling.decision ≠ .accept

/-- When the datagrams of a class came. -/
def hitsOf (trafficClass : TrafficClass) (rulings : List Ruling) : List Instant :=
  (rulings.filter (·.kind.trafficClass = trafficClass)).map Ruling.now

/-- When the datagrams above the limit came. -/
def refusalsOf (rulings : List Ruling) : List Instant :=
  (rulings.filter Ruling.isRefusal).map Ruling.now

section Lists

variable {trafficClass : TrafficClass} {past : List Ruling} {ruling : Ruling}

theorem hitsOf_snoc (same : ruling.kind.trafficClass = trafficClass) :
    hitsOf trafficClass (past ++ [ruling]) = hitsOf trafficClass past ++ [ruling.now] := by
  simp [hitsOf, List.filter_append, same]

theorem hitsOf_snoc_of_ne (other : ruling.kind.trafficClass ≠ trafficClass) :
    hitsOf trafficClass (past ++ [ruling]) = hitsOf trafficClass past := by
  simp [hitsOf, List.filter_append, other]

theorem refusalsOf_snoc (refused : ruling.decision ≠ .accept) :
    refusalsOf (past ++ [ruling]) = refusalsOf past ++ [ruling.now] := by
  simp [refusalsOf, List.filter_append, Ruling.isRefusal, refused]

theorem refusalsOf_sublist_snoc : (refusalsOf past).Sublist (refusalsOf (past ++ [ruling])) := by
  rw [refusalsOf, refusalsOf, List.filter_append, List.map_append]
  exact List.sublist_append_left ..

end Lists

namespace RateLimiter

variable {limiter : RateLimiter} {trafficClass other : TrafficClass} {now : Instant}

/-! ## Single decisions -/

/-- The window of a class. -/
def window (limiter : RateLimiter) : TrafficClass → CountingWindow
  | .reliable => limiter.reliable
  | .unreliable => limiter.unreliable

theorem window_hit (limiter : RateLimiter) (trafficClass other : TrafficClass) (now : Instant) :
    (limiter.hit trafficClass now).2.window other =
      if other = trafficClass then ((limiter.window other).hit now).2
      else limiter.window other := by
  cases trafficClass <;> cases other <;> rfl

theorem warnings_hit (limiter : RateLimiter) (trafficClass : TrafficClass) (now : Instant) :
    (limiter.hit trafficClass now).2.warnings = limiter.warnings := by
  cases trafficClass <;> rfl

theorem maxWarnings_hit (limiter : RateLimiter) (trafficClass : TrafficClass) (now : Instant) :
    (limiter.hit trafficClass now).2.maxWarnings = limiter.maxWarnings := by
  cases trafficClass <;> rfl

theorem check_of_within (within : ((limiter.window trafficClass).hit now).1 = true) :
    limiter.check trafficClass now = (.accept, (limiter.hit trafficClass now).2) := by
  have same : (limiter.hit trafficClass now).1 = true := by
    cases trafficClass <;> exact within
  simp only [check, same, if_true]

theorem check_of_above (above : ((limiter.window trafficClass).hit now).1 = false) :
    limiter.check trafficClass now = (limiter.hit trafficClass now).2.warn now := by
  have same : (limiter.hit trafficClass now).1 = false := by
    cases trafficClass <;> exact above
  simp only [check, same, Bool.false_eq_true, if_false]

theorem warn_ne_accept (limiter : RateLimiter) (now : Instant) :
    (limiter.warn now).1 ≠ .accept := by
  unfold warn
  simp only
  split <;> simp

theorem check_eq_accept :
    (limiter.check trafficClass now).1 = .accept ↔
      ((limiter.window trafficClass).hit now).1 = true := by
  cases within : ((limiter.window trafficClass).hit now).1 with
  | true => simp [check_of_within within]
  | false => simp [check_of_above within, warn_ne_accept]

@[simp] theorem window_warn (limiter : RateLimiter) (now : Instant) (trafficClass : TrafficClass) :
    (limiter.warn now).2.window trafficClass = limiter.window trafficClass := by
  unfold warn
  simp only
  split <;> cases trafficClass <;> rfl

/-- Whatever is decided, the datagram counts in the window of its class and in no other. -/
theorem window_check (limiter : RateLimiter) (trafficClass other : TrafficClass)
    (now : Instant) :
    (limiter.check trafficClass now).2.window other =
      if other = trafficClass then ((limiter.window other).hit now).2
      else limiter.window other := by
  rw [← window_hit]
  cases within : ((limiter.window trafficClass).hit now).1 with
  | true => rw [check_of_within within]
  | false => rw [check_of_above within, window_warn]

/-- The warnings that still count when another one is given at `now`. -/
def counting (limiter : RateLimiter) (now : Instant) : List Instant :=
  limiter.warnings.dropWhile fun given => limiter.warningsWindow < now - given

theorem counting_hit (limiter : RateLimiter) (trafficClass : TrafficClass) (now later : Instant) :
    (limiter.hit trafficClass now).2.counting later = limiter.counting later := by
  cases trafficClass <;> rfl

/-- Of warnings in order, those that have lapsed come first, so that what is left counts. -/
theorem counting_eq_filter (sorted : limiter.warnings.Pairwise (· ≤ ·)) (now : Instant) :
    limiter.counting now = limiter.warnings.filter (now - · ≤ limiter.warningsWindow) := by
  unfold counting
  generalize limiter.warnings = warnings at sorted
  induction warnings with
  | nil => rfl
  | cons first rest ih =>
    rw [List.dropWhile_cons]
    split
    · rename_i lapsed
      rw [List.filter_cons_of_neg (by simpa only [decide_eq_true_eq, Nat.not_le] using lapsed)]
      exact ih sorted.of_cons
    · rename_i recent
      have near : now - first ≤ limiter.warningsWindow := by
        simpa only [decide_eq_true_eq, Nat.not_lt] using recent
      refine (List.filter_eq_self.mpr fun given present => ?_).symm
      rw [decide_eq_true_eq]
      rcases List.mem_cons.mp present with rfl | later
      · exact near
      · exact Nat.le_trans (Nat.sub_le_sub_left (List.rel_of_pairwise_cons sorted later) now) near

theorem le_of_mem_counting (sorted : limiter.warnings.Pairwise (· ≤ ·)) :
    ∀ given ∈ limiter.counting now, now - limiter.warningsWindow ≤ given := by
  intro given present
  rw [counting_eq_filter sorted] at present
  have near := of_decide_eq_true (List.mem_filter.mp present).2
  exact Nat.sub_le_iff_le_add.mpr (Nat.sub_le_iff_le_add'.mp near)

theorem warnings_warn (limiter : RateLimiter) (now : Instant) :
    (limiter.warn now).2.warnings = [] ∨
      (limiter.warn now).2.warnings = limiter.counting now ++ [now] := by
  unfold warn
  simp only
  split
  · exact .inl rfl
  · exact .inr rfl

/-- A penalty is due when there are enough warnings that still count. -/
theorem warn_eq_penalize (sorted : limiter.warnings.Pairwise (· ≤ ·))
    (h : (limiter.warn now).1 = .penalize) :
    limiter.maxWarnings ≤
      (limiter.warnings ++ [now]).countP (now - limiter.warningsWindow ≤ ·) := by
  have enough : limiter.maxWarnings ≤ (limiter.counting now ++ [now]).length := by
    unfold warn at h
    simp only at h
    split at h
    · rename_i enough
      exact enough
    · cases h
  have recent : ∀ time ∈ limiter.counting now ++ [now], now - limiter.warningsWindow ≤ time := by
    intro time present
    rcases List.mem_append.mp present with given | last
    · exact le_of_mem_counting sorted time given
    · rw [List.mem_singleton.mp last]
      exact Nat.sub_le ..
  have all : (limiter.counting now ++ [now]).countP (now - limiter.warningsWindow ≤ ·) =
      (limiter.counting now ++ [now]).length :=
    List.countP_eq_length.mpr fun time present => by simpa using recent time present
  rw [← all] at enough
  have among : (limiter.counting now ++ [now]).Sublist (limiter.warnings ++ [now]) :=
    (List.dropWhile_sublist _).append (List.Sublist.refl _)
  exact Nat.le_trans enough among.countP_le

theorem check_eq_penalize (sorted : limiter.warnings.Pairwise (· ≤ ·))
    (h : (limiter.check trafficClass now).1 = .penalize) :
    limiter.maxWarnings ≤
      (limiter.warnings ++ [now]).countP (now - limiter.warningsWindow ≤ ·) := by
  have above : ((limiter.window trafficClass).hit now).1 = false := by
    rw [← Bool.not_eq_true, ← check_eq_accept, h]
    simp
  rw [check_of_above above] at h
  have due := warn_eq_penalize (by rwa [warnings_hit]) h
  rw [warnings_hit] at due
  cases trafficClass <;> exact due

theorem warningsWindow_check (limiter : RateLimiter) (trafficClass : TrafficClass)
    (now : Instant) :
    (limiter.check trafficClass now).2.warningsWindow = limiter.warningsWindow ∧
      (limiter.check trafficClass now).2.maxWarnings = limiter.maxWarnings := by
  unfold check warn
  simp only
  split
  · cases trafficClass <;> exact ⟨rfl, rfl⟩
  · split <;> cases trafficClass <;> exact ⟨rfl, rfl⟩

/-! ## Decisions one after the other -/

/-- What a limiter has counted and whom it has warned is among these rulings. -/
structure Tallies (limiter : RateLimiter) (settings : FloodSettings) (past : List Ruling) :
    Prop where
  limit : ∀ trafficClass, (limiter.window trafficClass).limit = settings.limit trafficClass
  counts : ∀ trafficClass, (limiter.window trafficClass).Counts (hitsOf trafficClass past)
  warned : limiter.warnings.Sublist (refusalsOf past)
  warningsWindow : limiter.warningsWindow = settings.warningsWindow
  maxWarnings : limiter.maxWarnings = settings.maxWarnings

/-- A new limiter has counted nothing. -/
theorem tallies_fresh (settings : FloodSettings) (past : List Ruling) :
    (fresh settings).Tallies settings past where
  limit trafficClass := by cases trafficClass <;> rfl
  counts trafficClass := by cases trafficClass <;> exact CountingWindow.counts_fresh _ _
  warned := List.nil_sublist _
  warningsWindow := rfl
  maxWarnings := rfl

variable {settings : FloodSettings} {past : List Ruling} {ruling : Ruling}

theorem pairwise_refusalsOf (sorted : ((past ++ [ruling]).map Ruling.now).Pairwise (· ≤ ·)) :
    (refusalsOf past).Pairwise (· ≤ ·) := by
  rw [List.map_append] at sorted
  exact (List.pairwise_append.mp sorted).1.sublist (List.filter_sublist.map _)

/-- The limiter goes on tallying when it decides about the next datagram. -/
theorem Tallies.check (tallies : limiter.Tallies settings past)
    (sorted : ((past ++ [ruling]).map Ruling.now).Pairwise (· ≤ ·))
    (decided : ruling.decision = (limiter.check ruling.kind.trafficClass ruling.now).1) :
    (limiter.check ruling.kind.trafficClass ruling.now).2.Tallies settings (past ++ [ruling]) where
  limit trafficClass := by
    rw [window_check]
    split
    · rw [CountingWindow.limit_hit, tallies.limit]
    · exact tallies.limit trafficClass
  counts trafficClass := by
    rw [window_check]
    split
    · rename_i same
      rw [hitsOf_snoc same.symm]
      refine (tallies.counts trafficClass).hit fun time present => ?_
      obtain ⟨earlier, among, rfl⟩ := List.mem_map.mp present
      rw [List.map_append, List.pairwise_append] at sorted
      exact sorted.2.2 _ (List.mem_map_of_mem (List.mem_filter.mp among).1) _
        (List.mem_singleton_self _)
    · rename_i other
      rw [hitsOf_snoc_of_ne (Ne.symm other)]
      exact tallies.counts trafficClass
  warned := by
    cases within : ((limiter.window ruling.kind.trafficClass).hit ruling.now).1 with
    | true =>
      rw [check_of_within within, warnings_hit]
      exact tallies.warned.trans refusalsOf_sublist_snoc
    | false =>
      have refused : ruling.decision ≠ .accept := by
        rw [decided, check_of_above within]
        exact warn_ne_accept _ _
      rw [check_of_above within, refusalsOf_snoc refused]
      rcases warnings_warn (limiter.hit ruling.kind.trafficClass ruling.now).2 ruling.now with
        none | more
      · rw [none]
        exact List.nil_sublist _
      · rw [more, counting, warnings_hit]
        exact ((List.dropWhile_sublist _).trans tallies.warned).append (List.Sublist.refl _)
  warningsWindow := (warningsWindow_check ..).1.trans tallies.warningsWindow
  maxWarnings := (warningsWindow_check ..).2.trans tallies.maxWarnings

/-- A refusal: more datagrams of the class than the limit came within its window. -/
theorem Tallies.exceeded (tallies : limiter.Tallies settings past)
    (decided : ruling.decision = (limiter.check ruling.kind.trafficClass ruling.now).1)
    (refused : ruling.decision ≠ .accept) :
    (settings.limit ruling.kind.trafficClass).maxCount <
      (hitsOf ruling.kind.trafficClass (past ++ [ruling])).countP
        (ruling.now - (settings.limit ruling.kind.trafficClass).window ≤ ·) := by
  rw [decided, Ne, check_eq_accept, Bool.not_eq_true] at refused
  rw [hitsOf_snoc rfl, ← tallies.limit]
  exact (tallies.counts _).exceeded refused

/-- A penalty: as many datagrams as bring one were refused within the time for which a
warning counts. -/
theorem Tallies.penalized (tallies : limiter.Tallies settings past)
    (sorted : ((past ++ [ruling]).map Ruling.now).Pairwise (· ≤ ·))
    (decided : ruling.decision = (limiter.check ruling.kind.trafficClass ruling.now).1)
    (penal : ruling.decision = .penalize) :
    settings.maxWarnings ≤
      (refusalsOf (past ++ [ruling])).countP (ruling.now - settings.warningsWindow ≤ ·) := by
  rw [refusalsOf_snoc (by simp [penal]), ← tallies.warningsWindow, ← tallies.maxWarnings]
  have ordered := (pairwise_refusalsOf sorted).sublist tallies.warned
  have due := check_eq_penalize ordered (decided.symm.trans penal)
  exact Nat.le_trans due (tallies.warned.append (List.Sublist.refl _)).countP_le

end RateLimiter

end SessionLayer
