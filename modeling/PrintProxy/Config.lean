import PrintProxy.ForwardTarget
import PrintProxy.IpAddress

/-!
# Configurations

The settings of a proxy, and the URI under which its printer is advertised.
-/

namespace PrintProxy

/-- A span of time: whole seconds and nanoseconds below one second. -/
structure Duration where
  seconds : UInt64
  nanoseconds : UInt32
  /-- The nanoseconds are less than a second. -/
  isNormal : nanoseconds < 1000000000 := by decide
deriving DecidableEq, Repr

/-- Carries nanoseconds over into seconds, if these can hold them. -/
def Duration.ofParts? (seconds : UInt64) (nanoseconds : UInt32) : Option Duration :=
  let carried := seconds.toNat + nanoseconds.toNat / 1000000000
  if carried < UInt64.size then
    some
      { seconds := UInt64.ofNat carried
        nanoseconds := nanoseconds % 1000000000
        isNormal := by
          apply UInt32.lt_iff_toNat_lt.mpr
          simp only [UInt32.toNat_mod]
          exact Nat.mod_lt _ (by decide) }
  else none

structure Config where
  bind : IpAddress
  port : UInt16
  target : ForwardTarget
  printerName : String
  /-- How long a server may take to answer. -/
  timeout : Duration
  /-- Whether requests and responses are kept in the target's directory. -/
  recording : Bool
deriving DecidableEq, Repr

/-- How long a server may take to answer unless it is said otherwise. -/
def Duration.standard : Duration := { seconds := 30, nanoseconds := 0 }

/-- The name of the advertised printer unless it is said otherwise. -/
def standardPrinterName : String := "test-printer"

namespace Config

/-- The settings of a proxy that is told none. -/
def standard : Config :=
  { bind := .v4 ⟨0, 0, 0, 0⟩
    port := 631
    target := .standard
    printerName := standardPrinterName
    timeout := .standard
    recording := false }

/-- The server's name for a client that reaches the proxy under a host.  A host with a colon has its
port already. -/
def authorityFor (config : Config) (host : String) : String :=
  if host.toList.contains ':' then host
  else host ++ ":" ++ Numeral.decimal config.port.toNat

/-- The URI under which the printer is advertised to a client that reaches the proxy under a host,
`localhost` if it is not known. -/
def printerUri (config : Config) (host : Option String) : Except UriFault Uri :=
  let authority := config.authorityFor (host.getD "localhost")
  let name := config.printerName
  Uri.parse s!"ipp://{authority}/printers/{name}"

end Config

end PrintProxy
