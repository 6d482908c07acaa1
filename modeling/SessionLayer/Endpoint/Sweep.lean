import SessionLayer.Endpoint.Basic
import SessionLayer.Session.Upkeep

/-!
# Sweeps

A sweep looks after every session, takes out those whose peer has fallen silent,
and purges the penalties.
-/

namespace SessionLayer.Endpoint

/-- Looks after the session of one peer. A client that never said who it is goes
without a word. -/
def sweepAt (endpoint : Endpoint) (remote : Address) (now : Instant) :
    Except Halt (Report × Endpoint) :=
  match endpoint.roster.get? remote with
  | none => .ok (.empty, endpoint)
  | some session => do
    let (upkeep, session) ← session.maintain now
    let released := Report.ofEvents (upkeep.released.map (Event.message session.client · true))
    match upkeep.health with
    | .alive => return (released, (endpoint.put remote session).flush remote)
    | .unresponsive =>
      let (_, session) := session.disconnect (some (.plain .none))
      let (report, endpoint) := (endpoint.put remote session).teardown remote .timeout
      return (released ++ report, endpoint)
    | .idle =>
      let (report, endpoint) := (endpoint.put remote session).teardown remote .timeout
      return (released ++ report, endpoint)

/-- Looks after the sessions of these peers, one after the other. -/
def sweepAll (now : Instant) : List Address → Endpoint → Except Halt (Report × Endpoint)
  | [], endpoint => .ok (.empty, endpoint)
  | remote :: rest, endpoint => do
    let (report, endpoint) ← endpoint.sweepAt remote now
    let (more, endpoint) ← sweepAll now rest endpoint
    return (report ++ more, endpoint)

/-- A sweep that visits the sessions in the given order. -/
def sweepInOrder (endpoint : Endpoint) (order : List Address) (now : Instant) :
    Except Halt (Report × Endpoint) := do
  let (report, endpoint) ← sweepAll now order endpoint
  return (report, { endpoint with penalties := (endpoint.penalties.purgeExpired now).2 })

/-- A sweep over all sessions. -/
def sweep (endpoint : Endpoint) (now : Instant) : Except Halt (Report × Endpoint) :=
  endpoint.sweepInOrder endpoint.roster.addresses now

end SessionLayer.Endpoint
