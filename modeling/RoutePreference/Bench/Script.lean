import RoutePreference.Harness.Procedure

/-!
# Scripted surroundings

* `Turn`: a reply that is fixed beforehand: it is given after a while, or never;
* `Script`: collaborators that reply as fixed beforehand, with a clock and a record of the calls;
* `Script.answer`, `Script.surroundings`: their replies.

Each reply is used up by the call that it belongs to, even if the call is given up before it
comes.  When the replies are used up, operations succeed, and the last reply to a read is repeated.
-/

namespace RoutePreference

/-- A reply, the time it takes, and whether it ever comes. -/
structure Turn (α : Type) where
  delay : Nat
  reply : Option (Except CallError α)

/-- Collaborators with replies fixed beforehand. -/
structure Script where
  clock : Nat := 0
  /-- The replies to operations: the numbers of the results, counted from that of the first
  operation, with their statuses. -/
  modifies : List (Turn (List (Int × Status))) := []
  flushes : List (Except CallError Unit) := []
  closes : List (Except CallError Unit) := []
  reads : List (Turn (Option String)) := []
  counterReads : List (Turn FlowCounters) := []
  started : Except CallError Unit := .ok ()
  stopped : Except CallError Unit := .ok ()
  lossRead : Except CallError Unit := .ok ()
  routed : Except CallError Unit := .ok ()
  /-- The counters that were read last. -/
  counters : FlowCounters := { tx := 0, rx := 0 }
  /-- The calls so far and when they were made, the last one first. -/
  record : List (Nat × Call) := []

namespace Script

variable {α β : Type}

/-- Waits for a reply, or for the limit. -/
def wait (s : Script) (limit : Option Nat) (t : Turn α) : Option (Except CallError α) × Script :=
  let giveUp : Option (Except CallError α) × Script :=
    (none, { s with clock := Nat.max s.clock (limit.getD s.clock) })
  match t.reply with
  | none => giveUp
  | some r =>
    if t.delay = 0 then (some r, s)
    else if limit.any (· < s.clock + t.delay) then giveUp
    else (some r, { s with clock := s.clock + t.delay })

/-- The first reply and those that follow it; without one, the given reply. -/
def firstOr (rest : List α) (fallback : α) : α × List α :=
  match rest with
  | [] => (fallback, [])
  | a :: rest => (a, rest)

/-- The first reply and those that follow it; the last one stays. -/
def repeatingOr (rest : List α) (fallback : α) : α × List α :=
  match rest with
  | [] => (fallback, [])
  | [a] => (a, [a])
  | a :: rest => (a, rest)

/-- Results under the numbers of the operations, which have 64 bits. -/
def resultsFor (ops : List Operation) (results : List (Int × Status)) : List OperationResult :=
  let first := (ops.head?.map (·.id)).getD 0
  results.map fun (offset, status) =>
    { id := ((first + offset) % 0x10000000000000000).toNat, status }

/-- The answer to a call. -/
def answer (c : Call) (limit : Option Nat) (s : Script) : Option c.Reply × Script :=
  let s := { s with record := (s.clock, c) :: s.record }
  match c with
  | .modify _ ops =>
    let (turn, modifies) := firstOr s.modifies ⟨0, some (.ok [(0, .ribProgrammed)])⟩
    let (r, s) := { s with modifies }.wait limit turn
    (r.map (·.map (resultsFor ops)), s)
  | .flush _ _ =>
    let (r, flushes) := firstOr s.flushes (.ok ())
    (some r, { s with flushes })
  | .close _ =>
    let (r, closes) := firstOr s.closes (.ok ())
    (some r, { s with closes })
  | .read _ =>
    let (turn, reads) := repeatingOr s.reads ⟨0, some (.ok none)⟩
    { s with reads }.wait limit turn
  | .counters _ =>
    let (turn, counterReads) := repeatingOr s.counterReads ⟨0, some (.ok ⟨0, 0⟩)⟩
    match { s with counterReads }.wait limit turn with
    | (some (.ok counters), s) => (some (.ok counters), { s with counters })
    | (r, s) => (r, s)
  | .startFlow _ => (some s.started, s)
  | .stopFlow _ => (some s.stopped, s)
  | .loss _ => (some (s.lossRead.map fun _ => s.counters.lossPercent), s)
  | .replaceStatic _ => (some s.routed, s)
  | .openSession _ =>
    let session : Nat := 0
    (some (.ok session), s)
  | .configureDut _ | .configureAte _ | .startProtocols | .stopProtocols | .replaceInstance _
  | .deleteInstance _ | .deleteStatic _ _ => (some (.ok ()), s)

/-- The collaborators as surroundings of a procedure. -/
def surroundings : Surroundings Script where
  now := clock
  passUntil moment s := { s with clock := Nat.max s.clock moment }
  answer := answer

/-- The calls so far, in order. -/
def calls (s : Script) : List (Nat × Call) := s.record.reverse

end Script

end RoutePreference
