/-!
# Route installation channels

* `Protocol`: the channels through which a device learns routes;
* `Protocol.text`: the name that telemetry reports for a channel;
* `Protocol.label`: its name in configuration files.
-/

namespace RoutePreference

/-- A channel that installs routes. -/
inductive Protocol where
  /-- Routes of the device's own links. -/
  | direct
  /-- Routes of the configuration. -/
  | static
  /-- Routes programmed through a routing-control session. -/
  | gribi
deriving DecidableEq, Inhabited, Ord

namespace Protocol

/-- Every channel, in order. -/
def all : List Protocol := [direct, static, gribi]

/-- The name reported by telemetry. -/
def text : Protocol → String
  | direct => "DIRECTLY_CONNECTED"
  | static => "STATIC"
  | gribi => "GRIBI"

/-- The name in configuration files. -/
def label : Protocol → String
  | direct => "DIRECT"
  | static => "STATIC"
  | gribi => "GRIBI"

end Protocol

end RoutePreference
