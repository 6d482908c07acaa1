import SessionLayer.Proofs.Endpoint.Clock
import SessionLayer.Proofs.Endpoint.Handling

/-!
# The decisions of a run

`Endpoint.rulings` lists what the limiters decided about one peer's datagrams in a run,
whichever session it had at the time.
-/

namespace SessionLayer.Endpoint

variable {endpoint start middle finish : Endpoint} {remote : Address} {operation : Operation}
  {rest : List Operation} {outcome : Outcome} {ruling : Ruling} {clock : Instant}

/-- What was decided about the datagrams of a peer, in order. -/
def rulings (endpoint : Endpoint) (remote : Address) : List Operation → List Ruling
  | [] => []
  | operation :: rest =>
    match endpoint.apply operation with
    | .ok (_, next) => (endpoint.ruling? remote operation).toList ++ next.rulings remote rest
    | .error _ => []

theorem rulings_cons (h : start.apply operation = .ok (outcome, middle)) (remote : Address)
    (rest : List Operation) :
    start.rulings remote (operation :: rest) =
      (start.ruling? remote operation).toList ++ middle.rulings remote rest := by
  rw [rulings, h]

theorem rulings_of_error {halt : Halt} (h : start.apply operation = .error halt)
    (remote : Address) (rest : List Operation) : start.rulings remote (operation :: rest) = [] := by
  rw [rulings, h]

/-- The operation that a ruling is about was given its time. -/
theorem time?_of_ruling? (h : endpoint.ruling? remote operation = some ruling) :
    operation.time? = some ruling.now := by
  obtain ⟨⟨bytes, rfl, -⟩, -⟩ := ruling?_eq_some h
  rfl

theorem clockAfter_of_ruling? (h : endpoint.ruling? remote operation = some ruling) :
    operation.clockAfter clock = ruling.now := by
  rw [Operation.clockAfter, time?_of_ruling? h, Option.getD_some]

/-- The rulings of a run fall on the times of its operations, in order. -/
theorem rulings_sublist_times (endpoint : Endpoint) (remote : Address)
    (operations : List Operation) :
    ((endpoint.rulings remote operations).map Ruling.now).Sublist (times operations) := by
  induction operations generalizing endpoint with
  | nil => exact List.Sublist.refl _
  | cons operation rest ih =>
    cases applied : endpoint.apply operation with
    | error halt =>
      rw [rulings_of_error applied]
      exact List.nil_sublist _
    | ok result =>
      rw [rulings_cons applied, List.map_append, times_cons]
      refine List.Sublist.append ?_ (ih result.2)
      cases ruled : endpoint.ruling? remote operation with
      | none => exact List.nil_sublist _
      | some ruling =>
        rw [time?_of_ruling? ruled]
        exact List.Sublist.refl _

theorem le_of_mem_rulings {operations : List Operation} (onward : Onward clock operations)
    (among : ruling ∈ endpoint.rulings remote operations) : clock ≤ ruling.now :=
  onward.le_of_mem ((rulings_sublist_times endpoint remote operations).mem
    (List.mem_map_of_mem among))

/-! ## What stays the same -/

section View

variable {β : Type} (view : Endpoint → β)
  (stepped : ∀ {host deed start report finish}, Step host deed start report finish →
    view finish = view start)

include stepped

theorem Course.view_eq {allowed : Host → Deed → Prop} {report : Report}
    (course : Course allowed start report finish) : view finish = view start := by
  induction course with
  | stay => rfl
  | step one _ _ ih => exact ih.trans (stepped one)

variable (opened : ∀ {start operation opened}, Opening start operation opened →
  view opened = view start)

include opened

/-- What no step changes, and no new session, no operation changes. -/
theorem view_of_apply (h : start.apply operation = .ok (outcome, finish)) :
    view finish = view start := by
  obtain ⟨between, opening, course⟩ := course_of_apply h
  exact (course.view_eq view stepped).trans (opened opening)

theorem view_of_run {operations : List Operation} {outcomes : List Outcome}
    (h : start.run operations = .ok (outcomes, finish)) : view finish = view start := by
  induction operations generalizing start outcomes with
  | nil =>
    cases h
    rfl
  | cons operation rest ih =>
    obtain ⟨outcome, middle, others, first, next, -⟩ := run_cons_eq_ok.mp h
    exact (ih next).trans (view_of_apply view stepped opened first)

end View

/-- The limits for new sessions do not change. -/
theorem flood_of_apply (h : start.apply operation = .ok (outcome, finish)) :
    finish.roster.flood = start.roster.flood :=
  view_of_apply (·.roster.flood) (fun step => by cases step <;> rfl)
    (fun opening => by cases opening <;> rfl) h

theorem flood_of_run {operations : List Operation} {outcomes : List Outcome}
    (h : start.run operations = .ok (outcomes, finish)) :
    finish.roster.flood = start.roster.flood :=
  view_of_run (·.roster.flood) (fun step => by cases step <;> rfl)
    (fun opening => by cases opening <;> rfl) h

/-- Nor do their other settings. -/
theorem settings_of_apply (h : start.apply operation = .ok (outcome, finish)) :
    finish.roster.settings = start.roster.settings :=
  view_of_apply (·.roster.settings) (fun step => by cases step <;> rfl)
    (fun opening => by cases opening <;> rfl) h

theorem settings_of_run {operations : List Operation} {outcomes : List Outcome}
    (h : start.run operations = .ok (outcomes, finish)) :
    finish.roster.settings = start.roster.settings :=
  view_of_run (·.roster.settings) (fun step => by cases step <;> rfl)
    (fun opening => by cases opening <;> rfl) h

/-- Nor do the settings of the endpoint itself. -/
theorem ownSettings_of_apply (h : start.apply operation = .ok (outcome, finish)) :
    finish.settings = start.settings :=
  view_of_apply (·.settings) (fun step => by cases step <;> rfl)
    (fun opening => by cases opening <;> rfl) h

theorem ownSettings_of_run {operations : List Operation} {outcomes : List Outcome}
    (h : start.run operations = .ok (outcomes, finish)) : finish.settings = start.settings :=
  view_of_run (·.settings) (fun step => by cases step <;> rfl)
    (fun opening => by cases opening <;> rfl) h

end SessionLayer.Endpoint
