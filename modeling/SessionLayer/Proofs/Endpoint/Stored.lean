import SessionLayer.Proofs.Endpoint.Numbering

/-!
# What holds of every session

A property of the sessions of an endpoint need only be looked at where a session changes: a
step concerns one of them, and an operation makes one at most. A property that new sessions
have and that every turn of a session keeps is therefore had by all sessions after a run
(`Endpoint.stored_of_run`).
-/

namespace SessionLayer

namespace Endpoint

variable {start finish opened : Endpoint} {operation : Operation} {outcome : Outcome}
  {outcomes : List Outcome} {operations : List Operation}
  {property : Address → Session → Prop}

/-- What holds of every session still does after one address is given another session, for
which it holds, or none. -/
theorem stored_change {remote : Address} {change : Option Session}
    (each : ∀ other session, start.roster.get? other = some session → property other session)
    (roster : ∀ other, finish.roster.get? other =
      if other = remote then change else start.roster.get? other)
    (fits : ∀ session ∈ change, property remote session) :
    ∀ other session, finish.roster.get? other = some session → property other session := by
  intro other session stored
  rw [roster] at stored
  split at stored
  · rename_i same
    exact same ▸ fits session stored
  · exact each other session stored

theorem stored_of_opening
    (fresh : ∀ {remote bytes now session}, operation = .datagram remote bytes now →
      Session.create start.roster.nextClient remote start.roster.settings start.roster.flood now =
        .ok session → property remote session)
    (opening : start.Opening operation opened)
    (each : ∀ remote session, start.roster.get? remote = some session →
      property remote session) :
    ∀ remote session, opened.roster.get? remote = some session → property remote session := by
  cases opening with
  | known _ => exact each
  | fresh _ made =>
    exact stored_change each (get?_enrol _ _ · _) fun _ same => by
      cases same
      exact fresh rfl made

/-- What every turn of a session keeps, a course keeps for all sessions. -/
theorem stored_of_course {allowed : Host → Deed → Prop} {report : Report}
    (keeps : ∀ {remote deed session next events sent}, allowed remote.host deed →
      Turn remote deed session events sent next → property remote session → property remote next)
    (course : Course allowed start report finish)
    (each : ∀ remote session, start.roster.get? remote = some session →
      property remote session) :
    ∀ remote session, finish.roster.get? remote = some session → property remote session := by
  induction course with
  | stay => exact each
  | step one may _ ih =>
    refine ih ?_
    cases one with
    | turned stored turn =>
      exact stored_change each (get?_put _ _ · _) fun _ same => by
        cases same
        exact keeps may turn (each _ _ stored)
    | ended _ _ => exact stored_change each (get?_release _ _ · _) fun _ none => by cases none
    | judged _ | noticed _ _ | aside _ _ _ _ => exact each

/-- What holds of every new session, and every turn of a session keeps, is kept by an
operation. -/
theorem stored_of_apply
    (fresh : ∀ {remote bytes now session}, operation = .datagram remote bytes now →
      Session.create start.roster.nextClient remote start.roster.settings start.roster.flood now =
        .ok session → property remote session)
    (keeps : ∀ {remote deed session next events sent}, deed ∈ operation.deeds →
      Turn remote deed session events sent next → property remote session → property remote next)
    (h : start.apply operation = .ok (outcome, finish))
    (each : ∀ remote session, start.roster.get? remote = some session →
      property remote session) :
    ∀ remote session, finish.roster.get? remote = some session → property remote session := by
  obtain ⟨opened, opening, course⟩ := course_of_apply h
  exact stored_of_course (fun may turn holds => keeps may.2 turn holds) course
    (stored_of_opening fresh opening each)

/-- What holds of every new session, and every turn of a session keeps, holds of all
sessions after a run. -/
theorem stored_of_run
    (fresh : ∀ {client remote settings flood now session},
      Session.create client remote settings flood now = .ok session → property remote session)
    (keeps : ∀ {remote deed session next events sent},
      Turn remote deed session events sent next → property remote session → property remote next)
    (ran : start.run operations = .ok (outcomes, finish))
    (each : ∀ remote session, start.roster.get? remote = some session →
      property remote session) :
    ∀ remote session, finish.roster.get? remote = some session → property remote session := by
  induction operations generalizing start outcomes with
  | nil =>
    cases ran
    exact each
  | cons operation rest ih =>
    obtain ⟨outcome, middle, others, first, next, -⟩ := run_cons_eq_ok.mp ran
    exact ih next
      (stored_of_apply (fun _ made => fresh made) (fun _ turn => keeps turn) first each)

end Endpoint

end SessionLayer
