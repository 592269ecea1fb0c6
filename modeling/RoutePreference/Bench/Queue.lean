import RoutePreference.Bench.Interval
import RoutePreference.Device.Serving

/-!
# The testbed's queue

* `Parcel`: a request with its origin;
* `Transmission`: the task that sends the ticks of a running flow;
* `Bench`: the testbed on a clock, with the queue of its requests and all who send to it;
* `Bench.send`, `Bench.fill`: putting requests into the queue, which has room for sixteen;
* `Bench.work`: what the testbed does until it has nothing to do or has to wait;
* `Bench.transmitAll`, `Bench.settle`: what happens at one moment.

The testbed serves one request at a time, in the order of arrival.  As soon as a token calls for
it, it serves nothing for the time that programming takes, then makes the choice of routes anew
and goes on.  Who finds the queue full waits in a line; room that becomes free is promised to the
first in line, who fills it when the testbed has stopped working.
-/

namespace RoutePreference

/-- Who sent a request. -/
inductive Origin where
  /-- A caller that waits for the answer under its ticket. -/
  | caller (ticket : Nat)
  /-- The transmission with the given number. -/
  | transmission (number : Nat)
  /-- Someone who doesn't wait for an answer. -/
  | nobody
deriving DecidableEq, Inhabited

/-- A request on its way. -/
structure Parcel where
  origin : Origin
  request : Request
deriving DecidableEq, Inhabited

/-- The task that sends the ticks of a flow. -/
structure Transmission where
  number : Nat
  flow : String
  /-- When the next tick is due. -/
  due : Nat
  /-- Whether a tick is waiting for room in the queue. -/
  blocked : Bool := false
deriving DecidableEq, Inhabited

/-- A caller's end of a session. -/
structure Handle where
  params : SessionParams
  closed : Bool := false
deriving DecidableEq, Inhabited

/-- The testbed on a clock. -/
structure Bench where
  device : Device
  /-- The time, in milliseconds. -/
  clock : Nat := 0
  /-- Whether the testbed is there at all. -/
  up : Bool := true
  /-- The requests that wait to be served, first one first. -/
  queue : List Parcel := []
  /-- Those who wait for room in the queue. -/
  line : List Parcel := []
  /-- Those who were promised room and have not filled it yet. -/
  promised : List Parcel := []
  /-- Until when the forwarding table is being programmed, if it is. -/
  busyUntil : Option Nat := none
  /-- The running transmissions, the one that sent last at the end. -/
  transmissions : List Transmission := []
  /-- The answers not yet picked up, by ticket. -/
  answers : List (Nat × Answer) := []
  /-- How many tickets were given out. -/
  tickets : Nat := 0
  /-- The callers' ends of the sessions, by number. -/
  handles : Table Nat Handle := ∅

namespace Bench

/-- A testbed at the beginning of time. -/
def start (settings : Settings) : Bench := { device := .start settings }

instance : Inhabited Bench := ⟨start default⟩

/-! ### Room in the queue -/

/-- How many requests the queue holds. -/
def capacity : Nat := 16

/-- How much room there is that isn't promised to anyone. -/
def room (b : Bench) : Nat := capacity - b.queue.length - b.promised.length

/-- Promises free room to the first in line. -/
def promise (b : Bench) : Bench :=
  { b with promised := b.promised ++ b.line.take b.room, line := b.line.drop b.room }

/-- Puts a request into the queue or, if it is full, into the line. -/
def send (b : Bench) (p : Parcel) : Bench :=
  if 0 < b.room then { b with queue := b.queue ++ [p] } else { b with line := b.line ++ [p] }

/-- Puts a request into the queue unless it is full. -/
def trySend (b : Bench) (p : Parcel) : Bench :=
  if 0 < b.room then { b with queue := b.queue ++ [p] } else b

/-- Whether someone was promised room. -/
def isPromised (b : Bench) (o : Origin) : Bool := b.promised.any (·.origin = o)

/-- Lets someone fill the room that was promised. -/
def fill (b : Bench) (o : Origin) : Bench :=
  { b with
    queue := b.queue ++ b.promised.filter (·.origin = o)
    promised := b.promised.filter (·.origin ≠ o) }

/-- Takes someone out of the line; promised room goes to the next one. -/
def withdraw (b : Bench) (o : Origin) : Bench :=
  promise { b with
    line := b.line.filter (·.origin ≠ o)
    promised := b.promised.filter (·.origin ≠ o) }

/-! ### Serving -/

/-- Whether the transmission is the one that the flow has under way. -/
def isCurrent (d : Device) (t : Transmission) : Bool :=
  (d.generator.flows.get? t.flow).bind (·.transmission) = some t.number

/-- Ends the transmissions whose flows have stopped. -/
def endTransmissions (b : Bench) : Bench :=
  let (kept, ended) := b.transmissions.partition (isCurrent b.device)
  ended.foldl (fun b t => b.withdraw (.transmission t.number)) { b with transmissions := kept }

/-- Starts the transmission of a flow, if the last request has started the flow.  Without a
positive interval between its ticks nothing is ever sent. -/
def beginTransmission (before : Device) (request : Request) (b : Bench) : Bench :=
  match request with
  | .startFlow spec =>
    if before.generator.started < b.device.generator.started && 0 < b.device.settings.tick then
      let t := { number := before.generator.started, flow := spec.name, due := b.clock }
      { b with transmissions := b.transmissions ++ [t] }
    else b
  | _ => b

/-- Notes an answer for the caller who waits for it. -/
def deliver (b : Bench) : Origin → Option Answer → Bench
  | .caller ticket, some a => { b with answers := b.answers ++ [(ticket, a)] }
  | _, _ => b

/-- The ticket of an origin; nobody waits for the answer to any other. -/
def ticketOf : Origin → Nat
  | .caller ticket => ticket
  | _ => 0

/-- Serves a request that was taken from the queue. -/
def serve (b : Bench) (p : Parcel) : Bench :=
  let (device, answer) := b.device.serve (ticketOf p.origin) p.request
  let served := { b with device }.deliver p.origin answer
  (beginTransmission b.device p.request served).endTransmissions.promise

/-- Makes the choice of routes anew and sends the withheld results. -/
def program (b : Bench) : Bench :=
  let (device, paid) := b.device.process
  { b with device, busyUntil := none, answers := b.answers ++ paid }

/-- Whether the testbed has something to do now. -/
def hasWork (b : Bench) : Bool :=
  b.up &&
    match b.busyUntil with
    | some t => t ≤ b.clock
    | none => 0 < b.device.tokens || !b.queue.isEmpty

/-- The next thing that the testbed does: it finishes programming, begins it, or serves the
first request. -/
def workOnce (b : Bench) : Bench :=
  match b.busyUntil with
  | some _ => b.program
  | none =>
    if 0 < b.device.tokens then
      { b with busyUntil := some (b.clock + b.device.settings.programmingDelay) }
    else
      match b.queue with
      | [] => b
      | p :: rest => { b with queue := rest }.serve p

/-- Works until there is nothing to do at the moment. -/
def work : Nat → Bench → Bench
  | 0, b => b
  | n + 1, b => if b.hasWork then work n b.workOnce else b

/-! ### Transmissions -/

/-- Changes a transmission, which goes behind all others. -/
def setTransmission (b : Bench) (t : Transmission) : Bench :=
  { b with transmissions := b.transmissions.filter (·.number ≠ t.number) ++ [t] }

/-- Whether the transmission can send now. -/
def canSend (b : Bench) (t : Transmission) : Bool :=
  if t.blocked then b.isPromised (.transmission t.number) else t.due ≤ b.clock

/-- Sends a tick, or what was waiting for room. -/
def sendTick (b : Bench) (t : Transmission) : Bench :=
  let origin := Origin.transmission t.number
  if t.blocked then (b.fill origin).setTransmission { t with blocked := false }
  else
    let due := Interval.nextDue b.device.settings.tick t.due b.clock
    let sent := b.send { origin, request := .tick t.flow }
    sent.setTransmission { t with due, blocked := b.room = 0 }

/-- Lets a transmission send for as long as it can. -/
def transmit (number : Nat) : Nat → Bench → Bench
  | 0, b => b
  | n + 1, b =>
    match b.transmissions.find? (·.number = number) with
    | none => b
    | some t => if b.canSend t then transmit number n (b.sendTick t) else b

/-- The most that a transmission sends at one moment, late ticks included. -/
def burst : Nat := 16

/-- Lets every transmission send, the one that has waited longest first. -/
def transmitAll (b : Bench) : Bench :=
  (b.transmissions.map (·.number)).foldl (fun b n => transmit n burst b) b

/-! ### One moment -/

/-- Whether nothing can happen without time passing or a caller doing something. -/
def isQuiet (b : Bench) : Bool := !b.hasWork && !b.transmissions.any b.canSend

/-- Lets everything happen that can happen now, in rounds of transmitting and working. -/
def settleRounds : Nat → Bench → Bench
  | 0, b => b
  | n + 1, b =>
    if b.isQuiet then b
    else
      let b := b.transmitAll
      settleRounds n (b.work (3 * b.queue.length + 4))

/-- Lets everything happen that can happen now. -/
def settle (b : Bench) : Bench :=
  settleRounds (burst * (b.transmissions.length + b.queue.length + b.line.length + 4)) b

end Bench

end RoutePreference
