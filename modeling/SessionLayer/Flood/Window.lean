import SessionLayer.Settings.Basic

/-!
# Windows

A window counts datagrams from the first one on. When more than its length has
passed since then, the next datagram starts it anew.
-/

namespace SessionLayer

/-- A count of datagrams since the window was started. -/
structure CountingWindow where
  limit : WindowLimit
  startedAt : Option Instant
  count : Nat
  deriving DecidableEq

namespace CountingWindow

/-- A window that was never started. -/
def fresh (limit : WindowLimit) : CountingWindow := ⟨limit, none, 0⟩

/-- Whether the next datagram starts the window anew. -/
def hasLapsed (window : CountingWindow) (now : Instant) : Bool :=
  match window.startedAt with
  | none => true
  | some start => window.limit.window < now - start

/-- Counts one datagram and says whether it is within the limit. A count that does
not fit its thirty-two bits is for the owner of the window to find. -/
def hit (window : CountingWindow) (now : Instant) : Bool × CountingWindow :=
  let window :=
    if window.hasLapsed now then { window with startedAt := some now, count := 1 }
    else { window with count := window.count + 1 }
  (window.count ≤ window.limit.maxCount, window)

end CountingWindow

end SessionLayer
