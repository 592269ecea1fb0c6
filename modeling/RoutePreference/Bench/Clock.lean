import RoutePreference.Bench.Queue
import RoutePreference.Harness.Procedure

/-!
# Calls on the clock

* `Bench.nextEvent?`: the next moment at which something happens by itself;
* `Bench.passUntil`: lets time pass;
* `Bench.await`: waits for an answer;
* `Bench.answer`: makes a call to the testbed, `Bench.release`: lets go of a session;
* `Bench.surroundings`: the testbed as surroundings of a procedure.

Time passes only when nothing can happen without it, and then goes straight to the next event.  At
a moment at which several things are due, the caller goes first.
-/

namespace RoutePreference

namespace Bench

/-- The earlier of two moments. -/
def earlier : Option Nat → Option Nat → Option Nat
  | some t, some u => some (Nat.min t u)
  | some t, none => some t
  | none, u => u

/-- The next moment at which something happens by itself. -/
def nextEvent? (b : Bench) : Option Nat :=
  b.transmissions.foldl
    (fun next t => if t.blocked then next else earlier next (some t.due)) b.busyUntil

/-- Lets time pass up to a moment, with at most so many events on the way. -/
def passEvents (moment : Nat) : Nat → Bench → Bench
  | 0, b => { b with clock := moment }
  | n + 1, b =>
    let b := b.settle
    match b.nextEvent? with
    | some t =>
      if t < moment then passEvents moment n { b with clock := t } else { b with clock := moment }
    | none => { b with clock := moment }

/-- Lets time pass up to a moment.  Events lie at least a millisecond apart. -/
def passUntil (moment : Nat) (b : Bench) : Bench :=
  if moment ≤ b.clock then b else passEvents moment (moment - b.clock) b

/-! ### Waiting for an answer -/

/-- Whether a limit has been reached. -/
def isOver (limit : Option Nat) (t : Nat) : Bool :=
  match limit with
  | some l => l ≤ t
  | none => false

/-- Gives up waiting; a request that is in the queue already stays there. -/
def abandon (b : Bench) (ticket : Nat) : Bench := b.withdraw (.caller ticket)

/-- The answer for a ticket. -/
def answerFor? (b : Bench) (ticket : Nat) : Option Answer :=
  (b.answers.find? fun a => a.1 = ticket).map (·.2)

/-- Waits for an answer, with at most so many events on the way. -/
def awaitEvents (ticket : Nat) (limit : Option Nat) : Nat → Bench → Option Answer × Bench
  | 0, b => (none, b.abandon ticket)
  | n + 1, b =>
    if isOver limit b.clock then (none, b.abandon ticket)
    else
      let b := b.settle
      if b.isPromised (.caller ticket) then awaitEvents ticket limit n (b.fill (.caller ticket))
      else
        match b.answerFor? ticket with
        | some a => (some a, { b with answers := b.answers.filter (·.1 ≠ ticket) })
        | none =>
          match b.nextEvent? with
          | some t =>
            if isOver limit t then
              (none, { b.abandon ticket with clock := limit.getD t })
            else awaitEvents ticket limit n { b with clock := t }
          | none => (none, { b.abandon ticket with clock := limit.getD b.clock })

/-- How many events can come before an answer: each request before it can be followed by one
programming of the forwarding table, and no two events are at one moment. -/
def eventBudget (b : Bench) (limit : Option Nat) : Nat :=
  (b.queue.length + b.line.length + b.promised.length + 4) *
      (b.device.settings.programmingDelay + 2)
    + (b.busyUntil.getD b.clock - b.clock) + (limit.getD b.clock - b.clock)

/-- Waits for an answer. -/
def await (b : Bench) (ticket : Nat) (limit : Option Nat) : Option Answer × Bench :=
  awaitEvents ticket limit (b.eventBudget limit) b

/-- Sends a request and waits for the answer.  Without a testbed there is none. -/
def exchange (b : Bench) (limit : Option Nat) (r : Request) :
    Option (Except CallError Answer) × Bench :=
  if b.up then
    let ticket := b.tickets
    let sent := { b with tickets := ticket + 1 }.send { origin := .caller ticket, request := r }
    let (a, b) := sent.await ticket limit
    (a.map .ok, b)
  else (some (.error .unavailable), b)

/-! ### Calls -/

/-- The word of the testbed, as the caller sees it. -/
def wordOf : Answer → Except CallError Unit
  | .done r => r.mapError Refusal.callError
  | _ => .error .unavailable

/-- The number of a new session. -/
def sessionOf : Answer → Except CallError Nat
  | .session client => .ok client
  | _ => .error .unavailable

/-- The results of operations, as the caller sees them. -/
def resultsOf : Answer → Except CallError (List OperationResult)
  | .results r => r.mapError Refusal.callError
  | _ => .error .unavailable

/-- The value of a leaf. -/
def leafOf : Answer → Except CallError (Option String)
  | .leaf value => .ok value
  | _ => .error .unavailable

/-- The counters of a flow, as the caller sees them. -/
def countersOf : Answer → Except CallError FlowCounters
  | .counters r => r.mapError Refusal.callError
  | _ => .error .unavailable

/-- Sends a request and reads the answer. -/
def request {α : Type} (b : Bench) (limit : Option Nat) (r : Request)
    (read : Answer → Except CallError α) : Option (Except CallError α) × Bench :=
  let (a, b) := b.exchange limit r
  (a.map (·.bind read), b)

/-- Whether the caller's end of a session is closed. -/
def isClosed (b : Bench) (session : Nat) : Bool :=
  match b.handles.get? session with
  | some h => h.closed
  | none => true

/-- Closes the caller's end of a session. -/
def markClosed (b : Bench) (session : Nat) : Bench :=
  match b.handles.get? session with
  | some h => { b with handles := b.handles.insert session { h with closed := true } }
  | none => b

/-- Makes a call to the testbed.  A session that was closed takes no further requests, and
closing it again does nothing. -/
def answer (c : Call) (limit : Option Nat) (b : Bench) : Option c.Reply × Bench :=
  match c with
  | .configureDut cfg => b.request limit (.configureDut cfg) wordOf
  | .configureAte cfg => b.request limit (.configureAte cfg) wordOf
  | .startProtocols => b.request limit (.setProtocols true) wordOf
  | .stopProtocols => b.request limit (.setProtocols false) wordOf
  | .replaceInstance cfg => b.request limit (.replaceInstance cfg) wordOf
  | .deleteInstance name => b.request limit (.deleteInstance name) wordOf
  | .replaceStatic cfg => b.request limit (.replaceStatic cfg) wordOf
  | .deleteStatic inst dest => b.request limit (.deleteStatic inst dest) wordOf
  | .openSession params =>
    match b.request limit (.openSession params) sessionOf with
    | (some (.ok client), b) =>
      (some (.ok client), { b with handles := b.handles.insert client { params } })
    | (r, b) => (r, b)
  | .modify session ops =>
    if b.isClosed session then (some (.error .sessionClosed), b)
    else b.request limit (.modify session ops) resultsOf
  | .flush session inst =>
    if b.isClosed session then (some (.error .sessionClosed), b)
    else b.request limit (.flush session inst) wordOf
  | .close session =>
    if b.isClosed session then (some (.ok ()), b)
    else (b.markClosed session).request limit (.close session) wordOf
  | .read path => b.request limit (.read path) leafOf
  | .startFlow spec => b.request limit (.startFlow spec) wordOf
  | .stopFlow flow => b.request limit (.stopFlow flow) wordOf
  | .counters flow => b.request limit (.counters flow) countersOf
  | .loss flow =>
    b.request limit (.counters flow) fun a => (countersOf a).map FlowCounters.lossPercent

/-- Lets go of a session.  One that is open is closed, if there is room for the request; nobody
waits for it. -/
def release (b : Bench) (session : Nat) : Bench :=
  if b.isClosed session || !b.up then b
  else (b.markClosed session).trySend { origin := .nobody, request := .close session }

/-- Takes the testbed away, with everything that was waiting for it. -/
def shutDown (b : Bench) : Bench :=
  { b with
    up := false
    queue := []
    line := []
    promised := []
    busyUntil := none
    transmissions := [] }

/-- The testbed as surroundings of a procedure. -/
def surroundings : Surroundings Bench where
  now := clock
  passUntil := passUntil
  answer := answer

end Bench

end RoutePreference
