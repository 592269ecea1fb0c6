import RoutePreference.Aft.Entry

/-!
# Session parameters

* `AckMode`: when a session's operations count as acknowledged;
* `ElectionId`: what decides which session may program entries;
* `SessionParams`: the parameters agreed on when a session is opened;
* `Status.satisfies`: whether a status completes an operation in a mode.
-/

namespace RoutePreference

/-- When an operation is acknowledged. -/
inductive AckMode where
  /-- Once the routing table has accepted the entry. -/
  | rib
  /-- Once the entry is used for forwarding. -/
  | ribAndFib
deriving DecidableEq, Inhabited

/-- A number of two parts; the session with the highest one is the primary. -/
structure ElectionId where
  high : Nat
  low : Nat
deriving DecidableEq, Inhabited, Ord

/-- What a session and the device agree on. -/
structure SessionParams where
  /-- Whether entries outlive the session. -/
  persistence : Bool
  ackMode : AckMode
  electionId : ElectionId
deriving DecidableEq, Inhabited

/-- Whether the status completes an operation made in the mode. -/
def Status.satisfies : Status → AckMode → Bool
  | failed _, _ => false
  | _, .rib => true
  | fibProgrammed, .ribAndFib => true
  | ribProgrammed, .ribAndFib => false

end RoutePreference
