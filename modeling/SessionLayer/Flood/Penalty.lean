import SessionLayer.Data.Table
import SessionLayer.Net.Address
import SessionLayer.Settings.Basic

/-!
# Penalties

Sessions come and go, but a host that floods keeps its address. Its offenses and
bans are kept by host, outside of any session.
-/

namespace SessionLayer

/-- What an offense brings. -/
inductive PenaltyVerdict
  | disconnect
  | ban (duration : Span)
  deriving DecidableEq

/-- The offenses and bans of all hosts. -/
structure PenaltyBook where
  policy : PenaltyPolicy
  /-- When the offenses that count took place, oldest first. -/
  strikes : Table Host (List Instant)
  /-- When the bans end. -/
  bans : Table Host Instant
  /-- When banned hosts were last told so. -/
  notices : Table Host Instant

namespace PenaltyBook

/-- A book without offenses and bans. -/
def empty (policy : PenaltyPolicy) : PenaltyBook := ⟨policy, .empty, .empty, .empty⟩

/-- Bans a host for a duration from now on, in place of any ban that it had. The
host may be told at once. -/
def ban (book : PenaltyBook) (host : Host) (duration : Span) (now : Instant) :
    Except Halt PenaltyBook := do
  let lapse ← Instant.after now duration
  return { book with bans := book.bans.insert host lapse, notices := book.notices.erase host }

/-- Lifts the ban of a host and says whether there was one. -/
def unban (book : PenaltyBook) (host : Host) : Bool × PenaltyBook :=
  (book.bans.contains host,
    { book with bans := book.bans.erase host, notices := book.notices.erase host })

/-- Whether an offense still counts. -/
def counts (book : PenaltyBook) (now offense : Instant) : Bool :=
  now - offense ≤ book.policy.disconnectTracking

/-- Takes note of an offense and decides what it brings. -/
def recordOffense (book : PenaltyBook) (host : Host) (now : Instant) :
    Except Halt (PenaltyVerdict × PenaltyBook) :=
  let duration := book.policy.banDuration
  match book.policy.action with
  | .ban => do return (.ban duration, ← book.ban host duration now)
  | .disconnect =>
    let strikes := (book.strikes.getD host []).filter (book.counts now) ++ [now]
    let threshold := book.policy.banAfterDisconnects
    if 0 < threshold ∧ threshold ≤ strikes.length then do
      let book ← { book with strikes := book.strikes.erase host }.ban host duration now
      return (.ban duration, book)
    else .ok (.disconnect, { book with strikes := book.strikes.insert host strikes })

/-- Whether a banned host may be told so now. If it may, the time is noted. -/
def grantNotice (book : PenaltyBook) (host : Host) (now : Instant) : Bool × PenaltyBook :=
  let recently := (book.notices.get? host).any fun last =>
    now - last < book.policy.banNoticeInterval
  if recently then (false, book)
  else (true, { book with notices := book.notices.insert host now })

/-- How long the ban of a host still lasts, if it is banned. -/
def banRemaining (book : PenaltyBook) (host : Host) (now : Instant) : Option Span :=
  (book.bans.get? host).bind fun lapse => if now < lapse then some (lapse - now) else none

/-- Whether a host is banned. -/
def isBanned (book : PenaltyBook) (host : Host) (now : Instant) : Bool :=
  (book.banRemaining host now).isSome

/-- The offenses of every host that still count; a host without any is left
out. -/
def countingStrikes (book : PenaltyBook) (now : Instant) : Table Host (List Instant) :=
  (book.strikes.filter fun _ times => times.any (book.counts now)).mapValues
    (List.filter (book.counts now))

/-- Forgets bans that have ended, notices to hosts without a ban, and offenses
that do not count any more. Says how many bans have ended. -/
def purgeExpired (book : PenaltyBook) (now : Instant) : Nat × PenaltyBook :=
  let bans := book.bans.filter fun _ lapse => now < lapse
  (book.bans.size - bans.size,
    { book with
      strikes := book.countingStrikes now
      bans := bans
      notices := book.notices.filter fun host _ => bans.contains host })

end PenaltyBook

end SessionLayer
