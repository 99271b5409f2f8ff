import PrintProxy.Config
import PrintProxy.Json

/-!
# Configurations as JSON

How the settings of a proxy are stored.  Addresses and targets are texts, a span
of time is its parts.
-/

namespace PrintProxy

namespace Duration

def fieldNames : List String := ["secs", "nanos"]

def toJson (duration : Duration) : Json :=
  .object
    [("secs", .integer duration.seconds.toNat), ("nanos", .integer duration.nanoseconds.toNat)]

/-- A span of time; nanoseconds beyond a second are carried over. -/
def ofJson? (json : Json) : Option Duration := do
  let [seconds, nanoseconds] ← json.onlyFields? fieldNames | none
  ofParts? (← seconds.uInt64?) (← nanoseconds.uInt32?)

end Duration

namespace IpAddress

def toJson (address : IpAddress) : Json := .string address.render

def ofJson? (json : Json) : Option IpAddress := json.string? >>= parse?

end IpAddress

namespace ForwardTarget

def toJson (target : ForwardTarget) : Json := .string target.render

def ofJson? (json : Json) : Option ForwardTarget := do
  let text ← json.string?
  (parse text).toOption

end ForwardTarget

namespace Config

def fieldNames : List String := ["bind", "port", "target", "printer_name", "timeout", "record"]

def toJson (config : Config) : Json :=
  .object
    [("bind", config.bind.toJson),
      ("port", .integer config.port.toNat),
      ("target", config.target.toJson),
      ("printer_name", .string config.printerName),
      ("timeout", config.timeout.toJson),
      ("record", .boolean config.recording)]

def ofJson? (json : Json) : Option Config := do
  let [bind, port, target, printerName, timeout, recording] ← json.fields? fieldNames | none
  return {
    bind := ← IpAddress.ofJson? bind
    port := ← port.uInt16?
    target := ← ForwardTarget.ofJson? target
    printerName := ← printerName.string?
    timeout := ← Duration.ofJson? timeout
    recording := ← recording.boolean? }

end Config

end PrintProxy
