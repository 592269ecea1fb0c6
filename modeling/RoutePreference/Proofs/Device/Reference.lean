import Mathlib.Data.List.Dedup
import RoutePreference.Proofs.Device.Mirror
import RoutePreference.Proofs.Device.Soundness
import RoutePreference.Proofs.LongestMatch
import RoutePreference.Proofs.Rib.Shares

/-!
# Telemetry and forwarding by the configuration alone

* `Configuration`: what is configured and programmed, without any routing table;
* `Configuration.candidates`, `Configuration.best?`: the routes that the configuration gives for a
  destination, and the first one with a next-hop that resolves;
* `Configuration.read?`, `Configuration.forward?`: the leaves of the state and the way of a packet
  as they follow from that;
* `choose_eq_best?`, `pick?_eq_select?`: the choices made along the list of channels and along the
  weights are those of the reference;
* `settled_device_follows_configuration`: a reachable device without waiting destinations shows
  and does the same, whatever requests led to it.

The reference takes nothing from the routing and forwarding tables but their vocabulary: it says on
its own which weight each address has, which next-hops resolve, which candidate comes first and
which next-hop a packet is handed to.  Weights are numbers here; `memberHopsWord?_eq` and
`FibEntry.selectWord?_eq` say that words of 64 bits do the same as long as the sums fit.
-/

namespace RoutePreference

/-- What is configured and programmed in a testbed. -/
structure Configuration where
  settings : Settings
  interfaces : Interfaces
  instances : Table String ConfiguredInstance
  /-- The programmed entries, by network instance. -/
  aft : Table String AftTables
  /-- The interfaces of the test equipment. -/
  endpoints : Table String Endpoint
  /-- Whether the test equipment answers address resolution. -/
  protocolsRunning : Bool
deriving DecidableEq

/-- The configuration of a device. -/
def Device.configuration (d : Device) : Configuration where
  settings := d.settings
  interfaces := d.interfaces
  instances := d.configured
  aft := d.aft
  endpoints := d.generator.endpoints
  protocolsRunning := d.generator.protocolsRunning

namespace Configuration

variable (cfg : Configuration)

/-! ### Routes -/

/-- The entries programmed in a network instance. -/
def tables (inst : String) : AftTables := (cfg.aft.get? inst).getD {}

/-- The listed addresses, each once and with its weight. -/
def weighing (addresses : List Addr) (weight : Addr → Nat) : Table Addr Nat :=
  .ofList (addresses.dedup.map fun a => (a, weight a))

/-- The route that a configured one stands for: each distinct address weighs one. -/
def staticRoute (s : StaticRoute) : Route :=
  { tag := none, group := none, hops := weighing s.nextHops.values fun _ => 1 }

/-- The route of a programmed entry whose group is in the same tables: each address of a member
has the weights of the members with this address added up. -/
def entryRoute? (t : AftTables) (e : Ipv4Entry) : Option Route :=
  (t.groups.get? e.group).map fun g =>
    { tag := e.tag
      group := some e.group
      hops := weighing (g.members.entries.filterMap fun m => (t.nextHops.get? m.1).map (·.address))
        fun a => Device.total (Device.shares t.nextHops g.members.entries a) }

/-- The configured route and the programmed entry for a destination. -/
def candidates (inst : String) (dest : Network) : Candidates :=
  match cfg.instances.get? inst with
  | none => {}
  | some i =>
    { static := (i.statics.get? dest).map staticRoute
      gribi := ((cfg.tables inst).ipv4.get? dest).bind (entryRoute? (cfg.tables inst)) }

/-! ### Resolving -/

/-- The port through which an address is reached directly: the first one, by name, whose interface
is enabled and has the address in its network, unless it is the interface's own. -/
def port? (a : Addr) : Option String :=
  (cfg.interfaces.entries.find? fun e =>
    e.2.enabled && e.2.addr.contains a && e.2.addr.addr ≠ a).map (·.1)

/-- Whether some next-hop of a route is connected to an enabled interface. -/
def Resolves (r : Route) : Prop :=
  ∃ a ∈ r.hops.keys, ∃ e ∈ cfg.interfaces.entries,
    e.2.enabled = true ∧ e.2.addr.contains a = true ∧ e.2.addr.addr ≠ a

instance (r : Route) : Decidable (cfg.Resolves r) :=
  inferInstanceAs (Decidable (∃ a ∈ r.hops.keys, ∃ e ∈ cfg.interfaces.entries, _))

/-- The next-hops of a route that are reached directly, by address. -/
def resolved (r : Route) : List Hop :=
  r.hops.entries.filterMap fun e =>
    (cfg.port? e.1).map fun port => { addr := e.1, port, weight := e.2 }

/-- The candidate of a channel, if some next-hop of it resolves. -/
def usable? (inst : String) (dest : Network) (c : Channel) : Option (Channel × Route) :=
  (((cfg.candidates inst dest).get c).filter fun r => cfg.Resolves r).map fun r => (c, r)

/-- The first such candidate: the one of the smaller distance, and at equal distances the
configured route. -/
def best? (inst : String) (dest : Network) : Option (Channel × Route) :=
  if cfg.settings.gribiDistance < cfg.settings.staticDistance then
    (cfg.usable? inst dest .gribi).or (cfg.usable? inst dest .static)
  else (cfg.usable? inst dest .static).or (cfg.usable? inst dest .gribi)

/-- Whether a route is the candidate that the others come after. -/
structure IsFirst (inst : String) (dest : Network) (c : Channel) (r : Route) : Prop where
  held : (cfg.candidates inst dest).get c = some r
  resolves : cfg.Resolves r
  first : ∀ x r', cfg.settings.Prefers x c → (cfg.candidates inst dest).get x = some r' →
    ¬ cfg.Resolves r'

/-! ### Telemetry -/

/-- The value of a leaf, if it is there. -/
def read? (path : StatePath) : Option String :=
  (cfg.instances.get? path.inst).bind fun i =>
    match path with
    | .instanceType _ => some i.type.text
    | .staticRoute _ name dest =>
      (i.statics.get? dest.masked).bind fun r =>
        if r.protocolName = name then some dest.masked.text else none
    | .aftPrefix inst dest => (cfg.best? inst dest.masked).map fun _ => dest.masked.text
    | .aftOrigin inst dest => (cfg.best? inst dest.masked).map fun x => x.1.protocol.text

/-! ### Forwarding -/

/-- The name of the default network instance. -/
def defaultName? : Option String :=
  (cfg.instances.entries.find? fun e => e.2.type = .default).map (·.1)

/-- The next-hop of a route for an address: where the hash of the address points to on the line of
weights, and the first one if nothing has any weight. -/
def pick? (r : Route) (dst : Addr) : Option Hop :=
  let row := FibEntry.line (cfg.resolved r)
  row[(flowHash dst).toNat % row.length]?.or (cfg.resolved r).head?

/-- The port and the neighbour that a packet is handed to: the destination itself if an interface
reaches it, else the next-hop picked for the longest network that has a route. -/
def nextHop? (dst : Addr) : Option (String × Addr) :=
  match cfg.port? dst with
  | some port => some (port, dst)
  | none =>
    cfg.defaultName?.bind fun inst =>
      (Network.longest? (cfg.best? inst) dst 32).bind fun x =>
        (cfg.pick? x.2 dst).map fun hop => (hop.port, hop.addr)

/-- Whether packets of the named interface get into the device. -/
def admits (source : String) : Bool :=
  cfg.protocolsRunning &&
    ((cfg.endpoints.get? source).bind fun e => (cfg.interfaces.get? e.port).filter fun ingress =>
      ingress.enabled && ingress.addr.addr = e.gateway).isSome

/-- The interface of the test equipment that answers for the address at the port. -/
def neighbour? (port : String) (a : Addr) : Option String :=
  (cfg.endpoints.entries.find? fun e => e.2.port = port && e.2.addr.addr = a).map (·.1)

/-- The interface of the test equipment at which a packet arrives, if it does. -/
def forward? (source : String) (dst : Addr) : Option String :=
  if cfg.admits source then
    (cfg.nextHop? dst).bind fun (port, hop) => cfg.neighbour? port hop
  else none

variable {cfg} {inst : String} {dest : Network} {v : String}

theorem get?_weighing (addresses : List Addr) (weight : Addr → Nat) (a : Addr) :
    (weighing addresses weight).get? a = if a ∈ addresses then some (weight a) else none := by
  rw [weighing, Table.get?_ofList_map]
  simp only [List.mem_dedup]

/-- Nothing is a candidate in a network instance that isn't configured. -/
theorem best?_of_unknown (h : cfg.instances.get? inst = none) : cfg.best? inst dest = none := by
  have hnone : ∀ c, cfg.usable? inst dest c = none := by
    intro c
    rw [usable?, candidates, h]
    cases c <;> rfl
  rw [best?, hnone, hnone, Option.none_or, ite_self]

/-! ### The reference and the tables -/

theorem resolves_iff {r : Route} : cfg.Resolves r ↔ r.Usable cfg.interfaces := by
  have hport : ∀ a, (∃ port, cfg.interfaces.connected? a = some port) ↔
      ∃ e ∈ cfg.interfaces.entries,
        e.2.enabled = true ∧ e.2.addr.contains a = true ∧ e.2.addr.addr ≠ a := by
    intro a
    rw [← Option.isSome_iff_exists, Interfaces.connected?, Option.isSome_map, List.find?_isSome]
    simp [Interface.reaches, and_assoc]
  simp only [Resolves, Table.mem_keys_iff, Table.contains, Option.isSome_iff_exists, ← hport]
  constructor
  · rintro ⟨a, ⟨w, hw⟩, port, hreached⟩
    exact ⟨a, w, port, hw, hreached⟩
  · rintro ⟨a, w, port, hw, hreached⟩
    exact ⟨a, ⟨w, hw⟩, port, hreached⟩

theorem isFirst_iff {c : Channel} {r : Route} : cfg.IsFirst inst dest c r ↔
    (cfg.candidates inst dest).IsBest cfg.settings cfg.interfaces c r := by
  constructor
  · rintro ⟨hheld, hresolves, hfirst⟩
    exact ⟨hheld, resolves_iff.1 hresolves, fun x r' hp hr' hu =>
      hfirst x r' hp hr' (resolves_iff.2 hu)⟩
  · rintro ⟨hheld, husable, hfirst⟩
    exact ⟨hheld, resolves_iff.2 husable, fun x r' hp hr' hu =>
      hfirst x r' hp hr' (resolves_iff.1 hu)⟩

/-- The forwarding entry of a candidate. -/
def entry (x : Channel × Route) : FibEntry := Candidates.entryFor cfg.interfaces x.1 x.2

theorem usable?_eq_some_iff {c : Channel} {x : Channel × Route} :
    cfg.usable? inst dest c = some x ↔ ∃ r, (cfg.candidates inst dest).get c = some r ∧
      r.Usable cfg.interfaces ∧ x = (c, r) := by
  simp only [usable?, Option.map_eq_some_iff, Option.filter_eq_some_iff, decide_eq_true_eq,
    resolves_iff, and_assoc, @eq_comm _ x]

theorem entryOf_eq (c : Channel) :
    (cfg.candidates inst dest).entryOf cfg.interfaces c =
      (cfg.usable? inst dest c).map cfg.entry := by
  refine Option.ext fun e => ?_
  rw [Candidates.entryOf_eq_some_iff, Option.map_eq_some_iff]
  constructor
  · rintro ⟨r, hr, hu, rfl⟩
    exact ⟨(c, r), usable?_eq_some_iff.2 ⟨r, hr, hu, rfl⟩, rfl⟩
  · rintro ⟨x, hx, rfl⟩
    obtain ⟨r, hr, hu, rfl⟩ := usable?_eq_some_iff.1 hx
    exact ⟨r, hr, hu, rfl⟩

/-- The choice made along the list of channels is the first candidate that resolves. -/
theorem choose_eq_best? (inst : String) (dest : Network) :
    (cfg.candidates inst dest).choose cfg.settings.preference cfg.interfaces =
      (cfg.best? inst dest).map cfg.entry := by
  have htwo : ∀ x y, [x, y].findSome? ((cfg.candidates inst dest).entryOf cfg.interfaces) =
      ((cfg.usable? inst dest x).or (cfg.usable? inst dest y)).map cfg.entry := by
    intro x y
    simp only [List.findSome?_cons, List.findSome?_nil, entryOf_eq]
    cases cfg.usable? inst dest x <;> cases cfg.usable? inst dest y <;> rfl
  rw [Candidates.choose, Settings.preference, best?]
  by_cases h : cfg.settings.staticDistance ≤ cfg.settings.gribiDistance
  · rw [if_pos h, if_neg (Nat.not_lt.2 h), htwo]
  · rw [if_neg h, if_pos (Nat.not_le.1 h), htwo]

theorem best?_eq_none_iff : cfg.best? inst dest = none ↔
    ∀ c r, (cfg.candidates inst dest).get c = some r → ¬ cfg.Resolves r := by
  simp only [resolves_iff]
  rw [← Candidates.choose_eq_none_iff, choose_eq_best?, Option.map_eq_none_iff]

/-- The first candidate is one that resolves, before any other that does. -/
theorem isFirst_of_best? {x : Channel × Route} (h : cfg.best? inst dest = some x) :
    cfg.IsFirst inst dest x.1 x.2 := by
  have hchosen := cfg.choose_eq_best? inst dest
  rw [h, Option.map_some] at hchosen
  obtain ⟨c, hc⟩ : ∃ c, cfg.usable? inst dest c = some x := by
    rw [best?] at h
    split at h <;> obtain h | ⟨-, h⟩ := Option.or_eq_some_iff.1 h <;> exact ⟨_, h⟩
  obtain ⟨r, hr, -, rfl⟩ := usable?_eq_some_iff.1 hc
  refine isFirst_iff.2 ((Candidates.choose_channel_iff hr).1 ?_)
  rw [hchosen]
  rfl

/-- **There is one such candidate at most**, and it is found. -/
theorem best?_eq_some_iff {c : Channel} {r : Route} :
    cfg.best? inst dest = some (c, r) ↔ cfg.IsFirst inst dest c r := by
  constructor
  · exact fun h => isFirst_of_best? h
  · intro h
    cases hb : cfg.best? inst dest with
    | none => exact absurd h.resolves (best?_eq_none_iff.1 hb c r h.held)
    | some x =>
      obtain ⟨hc, hr⟩ := (isFirst_iff.1 (isFirst_of_best? hb)).eq (isFirst_iff.1 h)
      exact congrArg some (Prod.ext hc hr)

/-- The choice made along the weights of a candidate is the place on the line of weights. -/
theorem pick?_eq_select? (x : Channel × Route) (dst : Addr) :
    cfg.pick? x.2 dst = (cfg.entry x).select? dst :=
  (FibEntry.select?_eq_line (cfg.entry x) dst).symm

/-! ### What the reference says -/

/-- A network instance that isn't configured has no first candidate anyway. -/
theorem bind_best? (inst : String) (p : Network) (f : Channel × Route → String) :
    (cfg.instances.get? inst).bind (fun _ => (cfg.best? inst p).map f) =
      (cfg.best? inst p).map f := by
  cases hi : cfg.instances.get? inst with
  | none => rw [best?_of_unknown hi]; rfl
  | some i => rfl

theorem read?_aftPrefix : cfg.read? (.aftPrefix inst dest) =
    (cfg.best? inst dest.masked).map fun _ => dest.masked.text := bind_best? ..

theorem read?_aftOrigin : cfg.read? (.aftOrigin inst dest) =
    (cfg.best? inst dest.masked).map fun x => x.1.protocol.text := bind_best? ..

/-- The prefix leaf is there if some candidate resolves. -/
theorem read?_aftPrefix_iff : cfg.read? (.aftPrefix inst dest) = some v ↔
    v = dest.masked.text ∧
      ∃ c r, (cfg.candidates inst dest.masked).get c = some r ∧ cfg.Resolves r := by
  rw [read?_aftPrefix]
  cases hb : cfg.best? inst dest.masked with
  | none =>
    constructor
    · intro h
      cases h
    · rintro ⟨-, c, r, hr, hresolves⟩
      exact absurd hresolves (best?_eq_none_iff.1 hb c r hr)
  | some x =>
    have hfirst := isFirst_of_best? hb
    constructor
    · intro h
      exact ⟨(Option.some.inj h).symm, x.1, x.2, hfirst.held, hfirst.resolves⟩
    · rintro ⟨rfl, -⟩
      rfl

/-- The origin leaf names the channel of the first candidate. -/
theorem read?_aftOrigin_iff : cfg.read? (.aftOrigin inst dest) = some v ↔
    ∃ c r, cfg.IsFirst inst dest.masked c r ∧ v = c.protocol.text := by
  rw [read?_aftOrigin, Option.map_eq_some_iff]
  constructor
  · rintro ⟨x, hx, rfl⟩
    exact ⟨x.1, x.2, isFirst_of_best? hx, rfl⟩
  · rintro ⟨c, r, hfirst, rfl⟩
    exact ⟨(c, r), best?_eq_some_iff.2 hfirst, rfl⟩

/-- What keeps the packets of an interface out. -/
theorem admits_eq_false_iff {source : String} : cfg.admits source = false ↔
    cfg.protocolsRunning = false ∨ cfg.endpoints.get? source = none ∨
      ∃ e, cfg.endpoints.get? source = some e ∧ ∀ ingress,
        cfg.interfaces.get? e.port = some ingress →
        ingress.enabled = false ∨ ingress.addr.addr ≠ e.gateway := by
  rw [admits, Bool.and_eq_false_iff]
  refine or_congr_right ?_
  cases he : cfg.endpoints.get? source with
  | none => simp
  | some e =>
    cases hi : cfg.interfaces.get? e.port with
    | none => simp [hi]
    | some ingress => cases hb : ingress.enabled <;> simp [hi, hb, Option.filter]

end Configuration

namespace Device

variable {d : Device}

/-! ### Routes of the device and of its configuration -/

/-- The route that is installed for a configured one. -/
theorem staticRoute_eq (s : StaticRoute) : s.route = Configuration.staticRoute s := by
  have hhops : s.route.hops = Configuration.weighing s.nextHops.values fun _ => 1 := by
    refine Table.ext_get? fun a => ?_
    rw [Configuration.get?_weighing]
    exact Table.get?_ofList_map _ _ _
  rw [Configuration.staticRoute, ← hhops]
  rfl

/-- The next-hops that a group leads to. -/
theorem hops_eq_weighing {nextHops : Table Nat NextHop} {members : List (Nat × Nat)}
    {hops : Table Addr Nat} (h : memberHops? nextHops members = some hops) :
    hops = Configuration.weighing
      (members.filterMap fun m => (nextHops.get? m.1).map (·.address))
      fun a => total (shares nextHops members a) := by
  refine Table.ext_get? fun a => ?_
  rw [(memberHops?_eq_some_iff.1 h).2, Configuration.get?_weighing]
  have hmem : a ∈ members.filterMap (fun m => (nextHops.get? m.1).map (·.address)) ↔
      shares nextHops members a ≠ [] := by
    simp [shares, List.filter_eq_nil_iff]
  by_cases hs : shares nextHops members a = []
  · rw [if_pos hs, if_neg fun hx => hmem.1 hx hs]
  · rw [if_neg hs, if_pos (hmem.2 hs)]

theorem WellFormed.entryRoute?_eq (hw : d.WellFormed) {n : String} {p : Network} {e : Ipv4Entry}
    (he : (d.aftOf n).ipv4.get? p = some e) (hl : e.groupHome = n) :
    d.entryRoute? e = Configuration.entryRoute? (d.aftOf n) e := by
  obtain ⟨r, hr⟩ := hw.entryRoute?_local he hl
  rw [hr]
  obtain ⟨g, hops, hg, hh, rfl⟩ := entryRoute?_eq_some_iff.1 hr
  rw [hl] at hg hh
  obtain ⟨hid, -, -⟩ := (hw.tables n).group _ g hg
  rw [Configuration.entryRoute?, hg, Option.map_some, hid, hops_eq_weighing hh]

/-- The routes for a settled destination are, marks apart, those that the configuration gives. -/
theorem candidates_configuration (hw : d.WellFormed) {n : String} {i : Instance}
    (hi : d.instances.get? n = some i) (hm : d.MirrorsAt [] n i)
    (hl : ∀ e ∈ d.ipv4Entries, e.groupHome = e.inst) {dest : Network}
    (hs : i.rib.SettledAt d.settings.preference d.interfaces dest) :
    d.configuration.candidates n dest =
      (i.rib.candidates dest).mapRoutes fun _ => Route.plain := by
  have hc : d.configuration.instances.get? n = some i.configured := by
    rw [configuration, get?_configured, hi]
    rfl
  have ht : d.configuration.tables n = d.aftOf n := rfl
  refine Candidates.ext_get fun c => ?_
  have hlive := Rib.live?_of_kept (hs.kept c)
  rw [Rib.route?] at hlive
  rw [Candidates.get_mapRoutes, ← hlive, Configuration.candidates, hc, ht]
  cases c with
  | static =>
    rw [hm.static dest, funext staticRoute_eq]
    rfl
  | gribi =>
    show ((d.aftOf n).ipv4.get? dest).bind _ = _
    cases he : (d.aftOf n).ipv4.get? dest with
    | none => rw [hm.absent dest he, Option.bind_none]
    | some e =>
      have hg : e.groupHome = n := by
        rw [hl e (mem_ipv4Entries_iff.2 ⟨n, dest, he⟩), (hw.entry_place he).2]
      rw [Option.bind_some, hm.current dest e he hg List.not_mem_nil, hw.entryRoute?_eq he hg]

/-- The forwarding entry of a settled destination is that of the first candidate. -/
theorem best_configuration (hw : d.WellFormed) {n : String} {i : Instance}
    (hi : d.instances.get? n = some i) (hm : d.MirrorsAt [] n i)
    (hl : ∀ e ∈ d.ipv4Entries, e.groupHome = e.inst) {dest : Network}
    (hs : i.rib.SettledAt d.settings.preference d.interfaces dest) :
    i.rib.fib.get? dest = (d.configuration.best? n dest).map d.configuration.entry := by
  have hplain : (d.configuration.candidates n dest).choose d.settings.preference d.interfaces =
      (i.rib.candidates dest).choose d.settings.preference d.interfaces := by
    rw [candidates_configuration hw hi hm hl hs]
    exact Candidates.choose_mapRoutes _ _ _ fun _ _ => ⟨rfl, rfl⟩
  rw [hs.fib, ← hplain]
  exact Configuration.choose_eq_best? n dest

/-! ### Settled devices -/

/-- A reachable device without waiting destinations whose entries all resolve within their own
network instance. -/
structure Settled (settings : Settings) (d : Device) : Prop where
  reachable : Reachable settings d
  unqueued : ∀ n i, d.instances.get? n = some i → i.rib.queue = ∅
  localGroups : ∀ e ∈ d.ipv4Entries, e.groupHome = e.inst

namespace Settled

variable {settings : Settings}

theorem fib_eq (h : Settled settings d) {n : String} {i : Instance}
    (hi : d.instances.get? n = some i) (dest : Network) :
    i.rib.fib.get? dest = (d.configuration.best? n dest).map d.configuration.entry := by
  refine best_configuration h.reachable.wellFormed hi (h.reachable.mirrors n i hi)
    h.localGroups ?_
  refine h.reachable.sound n i hi dest ?_
  rw [h.unqueued n i hi, Table.contains_empty]

/-- Only destinations of configured routes and programmed entries are forwarded. -/
theorem isMasked_of_fib (h : Settled settings d) {n : String} {i : Instance}
    (hi : d.instances.get? n = some i) {p : Network} {e : FibEntry}
    (he : i.rib.fib.get? p = some e) : p.isMasked = true := by
  have hw := h.reachable.wellFormed
  rw [h.fib_eq hi, ← Configuration.choose_eq_best?, Candidates.choose_eq_some_iff] at he
  obtain ⟨c, r, hbest, -⟩ := he
  have hc : d.configuration.instances.get? n = some i.configured := by
    rw [configuration, get?_configured, hi]
    rfl
  have hheld := hbest.held
  rw [Configuration.candidates, hc] at hheld
  cases c with
  | static =>
    obtain ⟨s, hs, -⟩ := Option.map_eq_some_iff.1 hheld
    exact (hw.statics hi hs).2
  | gribi =>
    obtain ⟨x, hx, -⟩ := Option.bind_eq_some_iff.1 hheld
    exact ((hw.tables n).entry p x hx).2.2

theorem lookup?_eq (h : Settled settings d) {n : String} {i : Instance}
    (hi : d.instances.get? n = some i) (a : Addr) :
    i.rib.lookup? a =
      (Network.longest? (d.configuration.best? n) a 32).map d.configuration.entry := by
  rw [Rib.lookup?, longestMatch?_eq_longest? fun _ _ => h.isMasked_of_fib hi,
    funext fun p => h.fib_eq hi p, Network.longest?_map]

theorem read?_eq (h : Settled settings d) (path : StatePath) :
    d.read? path = d.configuration.read? path := by
  rw [read?, Configuration.read?]
  have hc : d.configuration.instances.get? path.inst =
      (d.instances.get? path.inst).map Instance.configured := get?_configured _ _
  rw [hc]
  cases hi : d.instances.get? path.inst with
  | none => rfl
  | some i =>
    cases path with
    | instanceType inst => rfl
    | staticRoute inst name dest => rfl
    | aftPrefix inst dest =>
      exact (congrArg (Option.map _) (h.fib_eq hi dest.masked)).trans (Option.map_map ..)
    | aftOrigin inst dest =>
      exact (congrArg (Option.map _) (h.fib_eq hi dest.masked)).trans (Option.map_map ..)

theorem defaultName?_eq (d : Device) :
    d.configuration.defaultName? = d.defaultInstance?.map (·.1) := by
  have hentries : d.configuration.instances.entries =
      d.instances.entries.map fun e => (e.1, e.2.configured) := rfl
  rw [Configuration.defaultName?, hentries, List.find?_map, Option.map_map]
  rfl

theorem route?_eq (h : Settled settings d) (dst : Addr) :
    d.route? dst = d.configuration.nextHop? dst := by
  rw [route?, Configuration.nextHop?, defaultName?_eq]
  have hport : d.interfaces.connected? dst = d.configuration.port? dst := rfl
  rw [hport]
  cases d.configuration.port? dst with
  | some port => rfl
  | none =>
    cases hd : d.defaultInstance? with
    | none => rfl
    | some e =>
      have hi := (defaultInstance?_spec hd).1
      simp only [Option.bind_some, Option.map_some, h.lookup?_eq hi, Option.bind_map,
        Function.comp_def, Configuration.pick?_eq_select?]

theorem admits_eq (d : Device) (source : String) :
    d.admits source = d.configuration.admits source := by
  rw [admits, Configuration.admits]
  show _ = (d.generator.protocolsRunning && ((d.generator.endpoints.get? source).bind _).isSome)
  cases he : d.generator.endpoints.get? source with
  | none => simp
  | some e =>
    show _ = (_ && ((d.interfaces.get? e.port).filter _).isSome)
    cases hi : d.interfaces.get? e.port with
    | none => simp [hi]
    | some ingress => cases hb : ingress.enabled <;> simp [hi, hb]

theorem forward?_eq (h : Settled settings d) (source : String) (dst : Addr) :
    d.forward? source dst = d.configuration.forward? source dst := by
  rw [forward?, Configuration.forward?, admits_eq, h.route?_eq]
  split
  · next hadmits =>
    -- a packet gets in only while the protocols run
    have hrunning : d.generator.protocolsRunning = true := by
      rw [Configuration.admits, Bool.and_eq_true] at hadmits
      exact hadmits.1
    simp only [Generator.neighbour?, hrunning, if_true]
    rfl
  · rfl

end Settled

/-- **What a settled device shows and forwards follows from its configuration alone.**  There is
one default network instance at most; every leaf and the way of every packet are those of the
reference; a destination has a forwarding entry exactly if one of the configured candidates has a
reachable next-hop, and its origin is the first such candidate; packets of an unknown interface,
of a stopped test equipment, or handed to anything but the enabled interface at their port are
dropped. -/
theorem settled_device_follows_configuration {settings : Settings} (h : Reachable settings d)
    (hq : ∀ n i, d.instances.get? n = some i → i.rib.queue = ∅)
    (hl : ∀ e ∈ d.ipv4Entries, e.groupHome = e.inst) :
    (∀ n m i j, d.instances.get? n = some i → d.instances.get? m = some j →
      i.type = .default → j.type = .default → n = m) ∧
    (∀ path, d.read? path = d.configuration.read? path) ∧
    (∀ source dst, d.forward? source dst = d.configuration.forward? source dst) ∧
    (∀ inst dest v, d.read? (.aftPrefix inst dest) = some v ↔ v = dest.masked.text ∧
      ∃ c r, (d.configuration.candidates inst dest.masked).get c = some r ∧
        d.configuration.Resolves r) ∧
    (∀ inst dest v, d.read? (.aftOrigin inst dest) = some v ↔
      ∃ c r, d.configuration.IsFirst inst dest.masked c r ∧ v = c.protocol.text) ∧
    ∀ source dst, (d.generator.protocolsRunning = false ∨
        d.generator.endpoints.get? source = none ∨
        ∃ e, d.generator.endpoints.get? source = some e ∧ ∀ ingress,
          d.interfaces.get? e.port = some ingress →
          ingress.enabled = false ∨ ingress.addr.addr ≠ e.gateway) →
      d.forward? source dst = none := by
  have hset : Settled settings d := ⟨h, hq, hl⟩
  refine ⟨fun n m i j hi hj hti htj => ?_, hset.read?_eq, hset.forward?_eq, fun inst dest v => ?_,
    fun inst dest v => ?_, fun source dst hdrop => ?_⟩
  · have hfst := h.wellFormed.defaultInstance? hi hti
    rw [h.wellFormed.defaultInstance? hj htj] at hfst
    exact (congrArg Prod.fst (Option.some.inj hfst)).symm
  · rw [hset.read?_eq]
    exact Configuration.read?_aftPrefix_iff
  · rw [hset.read?_eq]
    exact Configuration.read?_aftOrigin_iff
  · have hno : d.configuration.admits source = false :=
      Configuration.admits_eq_false_iff.2 hdrop
    rw [hset.forward?_eq, Configuration.forward?, hno]
    rfl

/-- The upper half of the destination of the entry of `programmed`. -/
def upperHalf : Network := .ofInterface (.ofOctets 203 0 113 128) 25

/-- The testbed of `programmed` with a second link.  Its entry resolves through a group with
next-hops over both links now, one of them three times as heavy as the other, and for the upper half
of its destination there is a configured route over both links that names one address twice. -/
def mixed : Device := programmed.serveAll [
  .configureDut { attrs := (Link.numbered 2).dut, enabled := none },
  .configureAte { attrs := (Link.numbered 2).ate, gateway := (Link.numbered 2).dut.ipv4 },
  .modify 1 [
    ⟨5, .add, .nextHop ⟨3, (Link.numbered 2).ate.ipv4, defaultInstanceName⟩⟩,
    ⟨6, .add, .nextHopGroup ⟨2, .ofList [(1, 1), (3, 3)], defaultInstanceName⟩⟩,
    ⟨7, .replace, .ipv4 ⟨.ofInterface (.ofOctets 203 0 113 0) 24, 2, defaultInstanceName, none,
      some "blue"⟩⟩],
  .replaceStatic
    { inst := defaultInstanceName
      protocolName := "static-1"
      dest := upperHalf
      nextHops := .ofList [("a", (Link.numbered 2).ate.ipv4), ("b", (Link.numbered 1).ate.ipv4),
        ("c", (Link.numbered 2).ate.ipv4)]
      description := none }]

/-- The configured route is shown and used for its half of the addresses, the programmed entry for
the other half, and each spreads them over both links. -/
theorem settled_device_follows_configuration_mixed :
    mixed.process.1.read? (.staticRoute defaultInstanceName "static-1" upperHalf) =
        some "203.0.113.128/25" ∧
      mixed.process.1.read? (.aftPrefix defaultInstanceName upperHalf) = some "203.0.113.128/25" ∧
      mixed.process.1.read? (.aftOrigin defaultInstanceName upperHalf) = some "STATIC" ∧
      mixed.process.1.read? (.aftOrigin defaultInstanceName crossedDest) = some "GRIBI" ∧
      ([129, 130, 131, 132].map fun host =>
        mixed.process.1.forward? "atePort1" (.ofOctets 203 0 113 host)) =
        [some "atePort2", some "atePort2", some "atePort1", some "atePort1"] ∧
      ([1, 2, 3, 4].map fun host =>
        mixed.process.1.forward? "atePort1" (.ofOctets 203 0 113 host)) =
        [some "atePort2", some "atePort1", some "atePort2", some "atePort2"] := by
  have hr : Reachable .standard mixed.process.1 :=
    ((reachable_linked.serveAll _).serveAll _).process
  have hq : ∀ e ∈ mixed.process.1.instances.entries, e.2.rib.queue = ∅ := by decide +kernel
  have hl : ∀ e ∈ mixed.process.1.ipv4Entries, e.groupHome = e.inst := by decide +kernel
  obtain ⟨-, hread, hforward, -, -, -⟩ := settled_device_follows_configuration hr
    (fun n i hi => hq (n, i) (Table.get?_eq_some_iff.1 hi)) hl
  -- what is evaluated is the reference
  simp only [hread, hforward]
  decide +kernel

end Device

end RoutePreference
