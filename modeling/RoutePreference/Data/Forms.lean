import RoutePreference.Aft.Session
import RoutePreference.Data.Codec
import RoutePreference.Harness.Report
import RoutePreference.Protocol
import RoutePreference.Telemetry.Path
import RoutePreference.Topology.Config
import RoutePreference.Traffic.Flow

/-!
# The data forms of the domain

Every type that is exchanged with a device or a traffic generator has a form as data, in which it
is both written and read: records by the names of their fields, alternatives by their own names.
-/

namespace RoutePreference

open Decode (nat8 nat32 nat64)

/-! ### Sessions -/

/-- The name of an acknowledgment mode. -/
def AckMode.label : AckMode → String
  | rib => "rib-ack"
  | ribAndFib => "rib-and-fib-ack"

instance : Encode AckMode := ⟨fun m => .string m.label⟩
instance : Decode AckMode := ⟨Decode.choice [.rib, .ribAndFib] AckMode.label⟩

instance : Encode ElectionId := ⟨fun e => .table [("high", .nat e.high), ("low", .nat e.low)]⟩

instance : Decode ElectionId where
  decode v := do
    let fs ← Fields.of? false ["high", "low"] v
    return { high := ← fs.required "high" nat64, low := ← fs.required "low" nat64 }

instance : Encode SessionParams where
  encode p := .table [("persistence", .bool p.persistence), ("ack_mode", encode p.ackMode),
    ("election_id", encode p.electionId)]

instance : Decode SessionParams where
  decode v := do
    let fs ← Fields.of? false ["persistence", "ack_mode", "election_id"] v
    return {
      persistence := ← fs.required "persistence" decode
      ackMode := ← fs.required "ack_mode" decode
      electionId := ← fs.required "election_id" decode }

/-! ### Entries and operations -/

instance : Encode NextHop where
  encode h := .table [("index", .nat h.index), ("ip_address", encode h.address),
    ("instance", .string h.inst)]

instance : Decode NextHop where
  decode v := do
    let fs ← Fields.of? false ["index", "ip_address", "instance"] v
    return {
      index := ← fs.required "index" nat64
      address := ← fs.required "ip_address" decode
      inst := ← fs.required "instance" decode }

instance : Encode NextHopGroup where
  encode g := .table [("id", .nat g.id), ("next_hops", encode g.members),
    ("instance", .string g.inst)]

/-- The weights of a group's members. -/
def decodeMembers (v : Value) : Option (Table Nat Nat) :=
  (Decode.tableOf Decode.numericKey? nat64 v).map Table.ofList

instance : Decode NextHopGroup where
  decode v := do
    let fs ← Fields.of? false ["id", "next_hops", "instance"] v
    return {
      id := ← fs.required "id" nat64
      members := ← fs.required "next_hops" decodeMembers
      inst := ← fs.required "instance" decode }

instance : Encode Ipv4Entry where
  encode e := .table [("prefix", encode e.dest), ("next_hop_group", .nat e.group),
    ("instance", .string e.inst), ("nhg_instance", encode e.groupInst), ("tag", encode e.tag)]

instance : Decode Ipv4Entry where
  decode v := do
    let fs ← Fields.of? false ["prefix", "next_hop_group", "instance", "nhg_instance", "tag"] v
    return {
      dest := ← fs.required "prefix" decode
      group := ← fs.required "next_hop_group" nat64
      inst := ← fs.required "instance" decode
      groupInst := ← fs.optional "nhg_instance" decode
      tag := ← fs.optional "tag" decode }

instance : Encode AftEntry where
  encode
    | .nextHop e => .variant "NextHop" (encode e)
    | .nextHopGroup e => .variant "NextHopGroup" (encode e)
    | .ipv4 e => .variant "Ipv4" (encode e)

instance : Decode AftEntry where
  decode v := do
    match ← Decode.variant? v with
    | ("NextHop", e) => return .nextHop (← decode e)
    | ("NextHopGroup", e) => return .nextHopGroup (← decode e)
    | ("Ipv4", e) => return .ipv4 (← decode e)
    | _ => none

/-- The name of a verb. -/
def Verb.label : Verb → String
  | add => "Add"
  | replace => "Replace"
  | delete => "Delete"

instance : Encode Verb := ⟨fun k => .string k.label⟩
instance : Decode Verb := ⟨Decode.choice [.add, .replace, .delete] Verb.label⟩

instance : Encode Operation where
  encode op := .table [("id", .nat op.id), ("op", encode op.verb), ("entry", encode op.entry)]

instance : Decode Operation where
  decode v := do
    let fs ← Fields.of? false ["id", "op", "entry"] v
    return {
      id := ← fs.required "id" nat64
      verb := ← fs.required "op" decode
      entry := ← fs.required "entry" decode }

/-- The name of a reason. -/
def Failure.label : Failure → String
  | notPrimary => "NotPrimary"
  | unknownInstance => "UnknownInstance"
  | missingReference => "MissingReference"
  | inUse => "InUse"
  | invalidEntry => "InvalidEntry"

instance : Encode Failure := ⟨fun r => .string r.label⟩

instance : Decode Failure :=
  ⟨Decode.choice [.notPrimary, .unknownInstance, .missingReference, .inUse, .invalidEntry]
    Failure.label⟩

instance : Encode Status where
  encode
    | .ribProgrammed => .string "RibProgrammed"
    | .fibProgrammed => .string "FibProgrammed"
    | .failed reason => .variant "Failed" (encode reason)

instance : Decode Status where
  decode v :=
    match Decode.name? v, Decode.variant? v with
    | some "RibProgrammed", _ => some .ribProgrammed
    | some "FibProgrammed", _ => some .fibProgrammed
    | _, some ("Failed", reason) => (decode reason).map .failed
    | _, _ => none

instance : Encode OperationResult where
  encode r := .table [("id", .nat r.id), ("status", encode r.status)]

instance : Decode OperationResult where
  decode v := do
    let fs ← Fields.of? false ["id", "status"] v
    return { id := ← fs.required "id" nat64, status := ← fs.required "status" decode }

/-! ### Channels and telemetry -/

instance : Encode Protocol := ⟨fun p => .string p.label⟩
instance : Decode Protocol := ⟨Decode.choice Protocol.all Protocol.label⟩

instance : Encode StatePath where
  encode
    | .instanceType i => .variant "InstanceType" (.table [("instance", .string i)])
    | .staticRoute i name dest =>
      .variant "StaticRoutePrefix" (.table [("instance", .string i),
        ("protocol_name", .string name), ("prefix", encode dest)])
    | .aftPrefix i dest =>
      .variant "AftIpv4EntryPrefix" (.table [("instance", .string i), ("prefix", encode dest)])
    | .aftOrigin i dest =>
      .variant "AftIpv4EntryOriginProtocol"
        (.table [("instance", .string i), ("prefix", encode dest)])

instance : Decode StatePath where
  decode v := do
    match ← Decode.variant? v with
    | ("InstanceType", c) =>
      let fs ← Fields.of? false ["instance"] c
      return .instanceType (← fs.required "instance" decode)
    | ("StaticRoutePrefix", c) =>
      let fs ← Fields.of? false ["instance", "protocol_name", "prefix"] c
      return .staticRoute (← fs.required "instance" decode)
        (← fs.required "protocol_name" decode) (← fs.required "prefix" decode)
    | ("AftIpv4EntryPrefix", c) =>
      let fs ← Fields.of? false ["instance", "prefix"] c
      return .aftPrefix (← fs.required "instance" decode) (← fs.required "prefix" decode)
    | ("AftIpv4EntryOriginProtocol", c) =>
      let fs ← Fields.of? false ["instance", "prefix"] c
      return .aftOrigin (← fs.required "instance" decode) (← fs.required "prefix" decode)
    | _ => none

/-! ### Topology -/

instance : Encode PortAttrs where
  encode a := .table [("port", .string a.port), ("name", .string a.name),
    ("desc", .string a.desc), ("ipv4", encode a.ipv4), ("prefix_len", .nat a.length)]

instance : Decode PortAttrs where
  decode v := do
    let fs ← Fields.of? false ["port", "name", "desc", "ipv4", "prefix_len"] v
    return {
      port := ← fs.required "port" decode
      name := ← fs.required "name" decode
      desc := ← fs.required "desc" decode
      ipv4 := ← fs.required "ipv4" decode
      length := ← fs.required "prefix_len" nat8 }

instance : Encode DutInterface where
  encode c := .table [("attrs", encode c.attrs), ("enabled", encode c.enabled)]

instance : Decode DutInterface where
  decode v := do
    let fs ← Fields.of? false ["attrs", "enabled"] v
    return { attrs := ← fs.required "attrs" decode, enabled := ← fs.optional "enabled" decode }

instance : Encode AteInterface where
  encode c := .table [("attrs", encode c.attrs), ("gateway", encode c.gateway)]

instance : Decode AteInterface where
  decode v := do
    let fs ← Fields.of? false ["attrs", "gateway"] v
    return { attrs := ← fs.required "attrs" decode, gateway := ← fs.required "gateway" decode }

instance : Encode InstanceType := ⟨fun t => .string t.text⟩
instance : Decode InstanceType := ⟨Decode.choice [.default, .l3vrf] InstanceType.text⟩

instance : Encode InstanceConfig where
  encode c := .table [("name", .string c.name), ("instance_type", encode c.type),
    ("description", encode c.description)]

instance : Decode InstanceConfig where
  decode v := do
    let fs ← Fields.of? false ["name", "instance_type", "description"] v
    return {
      name := ← fs.required "name" decode
      type := ← fs.required "instance_type" decode
      description := ← fs.optional "description" decode }

instance : Encode StaticRoute where
  encode r := .table [("instance", .string r.inst), ("protocol_name", .string r.protocolName),
    ("prefix", encode r.dest), ("next_hops", encode r.nextHops),
    ("description", encode r.description)]

instance : Decode StaticRoute where
  decode v := do
    let fs ← Fields.of? false ["instance", "protocol_name", "prefix", "next_hops", "description"] v
    return {
      inst := ← fs.required "instance" decode
      protocolName := ← fs.required "protocol_name" decode
      dest := ← fs.required "prefix" decode
      nextHops := ← fs.required "next_hops" decode
      description := ← fs.optional "description" decode }

instance : Encode Link where
  encode l := .table [("dut", encode l.dut), ("ate", encode l.ate)]

/-! ### Traffic -/

instance : Encode AddrRange where
  encode r := .table [("min", encode r.min), ("max", encode r.max), ("count", .nat r.count)]

instance : Decode AddrRange where
  decode v := do
    let fs ← Fields.of? false ["min", "max", "count"] v
    return {
      min := ← fs.required "min" decode
      max := ← fs.required "max" decode
      count := ← fs.required "count" nat32 }

instance : Encode FlowSpec where
  encode f := .table [("name", .string f.name), ("src_endpoint", .string f.source),
    ("dst_endpoints", encode f.receivers), ("dst_range", encode f.range),
    ("packet_count", .nat f.packetCount), ("rate_pps", .nat f.rate)]

instance : Decode FlowSpec where
  decode v := do
    let fs ← Fields.of? false ["name", "src_endpoint", "dst_endpoints", "dst_range",
      "packet_count", "rate_pps"] v
    return {
      name := ← fs.required "name" decode
      source := ← fs.required "src_endpoint" decode
      receivers := ← fs.required "dst_endpoints" decode
      range := ← fs.required "dst_range" decode
      packetCount := ← fs.required "packet_count" nat64
      rate := ← fs.required "rate_pps" nat64 }

instance : Encode FlowCounters where
  encode c := .table [("tx_pkts", .nat c.tx), ("rx_pkts", .nat c.rx)]

instance : Decode FlowCounters where
  decode v := do
    let fs ← Fields.of? false ["tx_pkts", "rx_pkts"] v
    return { tx := ← fs.required "tx_pkts" nat64, rx := ← fs.required "rx_pkts" nat64 }

/-! ### Runs -/

/-- Every state of a run, in order. -/
def RunState.all : List RunState :=
  [.unconfigured, .provisioned, .staticInstalled, .staticVerified, .dynamicInstalled,
    .dynamicVerified, .trafficValidated, .tornDown]

/-- Every category of failures. -/
def ErrorKind.all : List ErrorKind :=
  [.setup, .programming, .convergence, .traffic, .teardown, .interrupted]

instance : Decode RunState := ⟨Decode.choice RunState.all RunState.text⟩
instance : Decode ErrorKind := ⟨Decode.choice ErrorKind.all ErrorKind.label⟩
instance : Encode RunState := ⟨fun s => .string s.text⟩
instance : Encode RunReport := ⟨RunReport.toValue⟩

end RoutePreference
