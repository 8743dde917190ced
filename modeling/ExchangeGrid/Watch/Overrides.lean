import ExchangeGrid.Config
import ExchangeGrid.Watch.Arguments

namespace ExchangeGrid
namespace Watch

/-!
# Options over settings

What the command line says goes before what the settings file says.  Hosts on the command line
stand in place of all hosts of the file; trusted certificates are added to those of the file.
-/

/-- Why a host on the command line is not taken. -/
inductive HostFlaw
  | unterminated (raw : String)
  | badPort (raw : String) (flaw : Decimal.Flaw)
  deriving DecidableEq, Repr

def HostFlaw.chain : HostFlaw → List String
  | unterminated raw => ["unterminated IPv6 literal in " ++ Quoted.text raw]
  | badPort raw flaw => ["invalid port in " ++ Quoted.text raw, flaw.message]

def readPort (raw : String) (text : List Char) : Except HostFlaw Nat :=
  match Decimal.natural Decimal.portBound text with
  | .ok port => .ok port
  | .error flaw => .error (.badPort raw flaw)

/-- Read a host and its port, which is zero when none is named.  An address of groups stands in
brackets if it has a port; a text with several colons and no brackets has none. -/
def parseHost (raw : String) : Except HostFlaw (String × Nat) :=
  match raw.toList with
  | '[' :: rest =>
    match splitOnce? ']' rest with
    | none => .error (.unterminated raw)
    | some (host, ':' :: port) => (readPort raw port).map (String.ofList host, ·)
    | some (host, _) => .ok (String.ofList host, 0)
  | text =>
    match splitLast? ':' text with
    | none => .ok (raw, 0)
    | some (host, port) =>
      if host.contains ':' then .ok (raw, 0)
      else (readPort raw port).map (String.ofList host, ·)

/-- Add hosts in order, up to the first that is wrong.  Those before it have been added. -/
def addHosts (config : Config) : List String → Config × Option HostFlaw
  | [] => (config, none)
  | raw :: rest =>
    match parseHost raw with
    | .error flaw => (config, some flaw)
    | .ok (host, port) => addHosts (config.addHost host port) rest

/-- Put the hosts of the command line in place of those of the settings. -/
def overrideHosts (config : Config) (hosts : List String) : Config × Option HostFlaw :=
  if hosts.isEmpty then (config, none) else addHosts { config with hosts := [] } hosts

/-- Apply the options to settings.  With a wrong host nothing but the hosts is changed. -/
def applyOverrides (config : Config) (arguments : Arguments) : Config × Option HostFlaw :=
  match overrideHosts config arguments.hosts with
  | (config, some flaw) => (config, some flaw)
  | (config, none) =>
    ({ config with
        nodeName := arguments.nodeName.getD config.nodeName
        description := arguments.description.or config.description
        auth := { config.auth with password := arguments.password.or config.auth.password }
        tls :=
          { insecure := config.tls.insecure || arguments.insecure
            authorities := config.tls.authorities ++ arguments.authorities
            certificate := arguments.certificate.or config.tls.certificate
            key := arguments.key.or config.tls.key }
        dns := { config.dns with server := arguments.dns.or config.dns.server } },
      none)

end Watch
end ExchangeGrid
