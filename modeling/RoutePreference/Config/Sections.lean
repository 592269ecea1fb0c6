import RoutePreference.Data.Forms
import RoutePreference.Device.Interfaces
import RoutePreference.Harness.Scenario

/-!
# The testbed and the scenario in a configuration

The sections of a configuration that describe the testbed and the scenario.  Every field may be
left out, and then has its standard value, except in the description of a link and in an election
id.  Fields of any other name are refused.
-/

namespace RoutePreference

open Decode (nat32 nat64)

instance : Decode Settings where
  decode v := do
    let fs ← Fields.of? true ["ports", "static_distance", "gribi_distance",
      "fib_programming_delay_ms", "traffic_tick_ms"] v
    let standard := Settings.standard
    return {
      ports := ← fs.defaulting "ports" standard.ports decode
      staticDistance := ← fs.defaulting "static_distance" standard.staticDistance nat32
      gribiDistance := ← fs.defaulting "gribi_distance" standard.gribiDistance nat32
      programmingDelay :=
        ← fs.defaulting "fib_programming_delay_ms" standard.programmingDelay nat64
      tick := ← fs.defaulting "traffic_tick_ms" standard.tick nat64 }

instance : Decode Link where
  decode v := do
    let fs ← Fields.of? true ["dut", "ate"] v
    return { dut := ← fs.required "dut" decode, ate := ← fs.required "ate" decode }

instance : Decode SessionSettings where
  decode v := do
    let fs ← Fields.of? true ["persistence", "fib_ack", "election_id", "flush_on_teardown",
      "ack_timeout_ms"] v
    let standard := SessionSettings.standard
    return {
      persistence := ← fs.defaulting "persistence" standard.persistence decode
      fibAck := ← fs.defaulting "fib_ack" standard.fibAck decode
      electionId := ← fs.defaulting "election_id" standard.electionId decode
      flushOnTeardown := ← fs.defaulting "flush_on_teardown" standard.flushOnTeardown decode
      ackTimeout := ← fs.defaulting "ack_timeout_ms" standard.ackTimeout nat64 }

instance : Decode Convergence where
  decode v := do
    let fs ← Fields.of? true ["timeout_ms", "poll_interval_ms"] v
    let standard := Convergence.standard
    return {
      timeout := ← fs.defaulting "timeout_ms" standard.timeout nat64
      interval := ← fs.defaulting "poll_interval_ms" standard.interval nat64 }

instance : Decode TrafficSettings where
  decode v := do
    let fs ← Fields.of? true ["flow_name", "src_endpoint", "dst_endpoint", "dst_min", "dst_max",
      "dst_count", "packet_count", "rate_pps", "duration_secs", "poll_interval_ms",
      "stable_polls"] v
    let standard := TrafficSettings.standard
    return {
      flowName := ← fs.defaulting "flow_name" standard.flowName decode
      source := ← fs.defaulting "src_endpoint" standard.source decode
      receiver := ← fs.defaulting "dst_endpoint" standard.receiver decode
      range := {
        min := ← fs.defaulting "dst_min" standard.range.min decode
        max := ← fs.defaulting "dst_max" standard.range.max decode
        count := ← fs.defaulting "dst_count" standard.range.count nat32 }
      packetCount := ← fs.defaulting "packet_count" standard.packetCount nat64
      rate := ← fs.defaulting "rate_pps" standard.rate nat64
      durationSecs := ← fs.defaulting "duration_secs" standard.durationSecs nat64
      pollInterval := ← fs.defaulting "poll_interval_ms" standard.pollInterval nat64
      stablePolls := ← fs.defaulting "stable_polls" standard.stablePolls nat32 }

/-- What the device under test needs beyond the usual: whether its interfaces have to be enabled
explicitly. -/
def decodeDeviations (v : Value) : Option Bool := do
  let fs ← Fields.of? true ["interface_enabled"] v
  fs.defaulting "interface_enabled" false decode

/-- A text that may be missing, with a standard value where the field itself is. -/
def optionalText (fs : Fields) (name : String) (fallback : Option String) :
    Option (Option String) :=
  fs.defaulting name fallback decode

instance : Decode Scenario where
  decode v := do
    let fs ← Fields.of? true ["instance", "instance_type", "instance_description", "links",
      "prefix", "static_protocol", "static_nexthop", "static_nh_key", "static_description",
      "nh_index", "nhg_id", "gribi_nexthop", "ipv4_entry_tag", "expected_origin", "gribi",
      "convergence", "traffic", "deviations"] v
    let standard := Scenario.standard
    return {
      inst := ← fs.defaulting "instance" standard.inst decode
      instanceType := ← fs.defaulting "instance_type" standard.instanceType decode
      instanceDescription :=
        ← optionalText fs "instance_description" standard.instanceDescription
      links := ← fs.defaulting "links" standard.links decode
      dest := ← fs.defaulting "prefix" standard.dest decode
      staticProtocol := ← fs.defaulting "static_protocol" standard.staticProtocol decode
      staticNextHop := ← fs.defaulting "static_nexthop" standard.staticNextHop decode
      staticKey := ← fs.defaulting "static_nh_key" standard.staticKey decode
      staticDescription := ← optionalText fs "static_description" standard.staticDescription
      nextHopIndex := ← fs.defaulting "nh_index" standard.nextHopIndex nat64
      groupId := ← fs.defaulting "nhg_id" standard.groupId nat64
      gribiNextHop := ← fs.defaulting "gribi_nexthop" standard.gribiNextHop decode
      entryTag := ← optionalText fs "ipv4_entry_tag" standard.entryTag
      expectedOrigin := ← fs.defaulting "expected_origin" standard.expectedOrigin decode
      session := ← fs.defaulting "gribi" standard.session decode
      convergence := ← fs.defaulting "convergence" standard.convergence decode
      traffic := ← fs.defaulting "traffic" standard.traffic decode
      enableInterfaces := ← fs.defaulting "deviations" standard.enableInterfaces decodeDeviations }

end RoutePreference
