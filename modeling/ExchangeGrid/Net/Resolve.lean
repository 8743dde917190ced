import ExchangeGrid.Error
import ExchangeGrid.Net.Address
import ExchangeGrid.Text.Blank
import ExchangeGrid.Text.Quoted

namespace ExchangeGrid
namespace Net

/-!
# Choosing an address

A host name stands for several addresses, and a connection goes to exactly one of them.  Which one
is a matter of families: some connections want one family only, others merely prefer it.
-/

/-- Which family of addresses connections are made over. -/
inductive Family
  | onlyV4
  | onlyV6
  | preferV4
  | preferV6
  deriving DecidableEq, Repr

def Family.name : Family → String
  | onlyV4 => "ipv4"
  | onlyV6 => "ipv6"
  | preferV4 => "prefer_ipv4"
  | preferV6 => "prefer_ipv6"

def Family.all : List Family :=
  [.onlyV4, .onlyV6, .preferV4, .preferV6]

def Family.ofName? (name : String) : Option Family :=
  Family.all.find? (·.name == name)

/-- Choose exactly one address: the first of the family that is wanted, or of the other family
where it is only preferred. -/
def Family.select (family : Family) (addresses : List Address) : Except Error Address :=
  let v4 := addresses.find? Address.isV4
  let v6 := addresses.find? fun address => !address.isV4
  let chosen := match family with
    | onlyV4 => v4
    | onlyV6 => v6
    | preferV4 => v4.or v6
    | preferV6 => v6.or v4
  match chosen with
  | some address => .ok address
  | none =>
    .error (.resolve (match family with
      | onlyV4 => "no IPv4 address found"
      | onlyV6 => "no IPv6 address found"
      | preferV4 | preferV6 => "no IPv4 or IPv6 address found"))

def nameServerPort : Nat := 53

/-- A name server: an address, or a name that has to be looked up first. -/
inductive NameServer
  | at (endpoint : Endpoint)
  | named (host : String) (port : Nat)
  deriving DecidableEq, Repr

/-- The text between brackets, when a text is in brackets. -/
def unbracketed (text : List Char) : List Char :=
  match text, text.getLast? with
  | '[' :: rest, some ']' => if rest.isEmpty then text else rest.dropLast
  | _, _ => text

/-- Read a name server: an address or a name, either of them with a port or without. -/
def NameServer.parse (raw : String) : Except Error NameServer :=
  let text := Blank.strip raw.toList
  if text.isEmpty then .error (.config "dns.server must not be empty")
  else
    match Endpoint.parse? text with
    | some endpoint => .ok (.at endpoint)
    | none =>
      match Address.parse? (unbracketed text) with
      | some address => .ok (.at ⟨address, nameServerPort, 0⟩)
      | none =>
        match splitLast? ':' text with
        | none => .ok (.named (String.ofList text) nameServerPort)
        | some (host, port) =>
          match Decimal.natural? Decimal.portBound port with
          | some port => .ok (.named (String.ofList host) port)
          | none =>
            .error (.config ("invalid DNS server port in " ++ Quoted.text (String.ofList text)))

/-- How host names are turned into addresses. -/
structure Resolver where
  family : Family := .preferV4
  server : Option NameServer := none
  deriving Repr

def Resolver.make (family : Family) (server : Option String) : Except Error Resolver :=
  match server with
  | none => .ok { family }
  | some raw => (NameServer.parse raw).map fun server => { family, server := some server }

/-- Addresses of a host name as some name server, or the system, gives them. -/
abbrev Lookup := Option NameServer → String → Except Error (List Address)

/-- The address of a host.  A text that is an address is not looked up; brackets around it do not
count. -/
def Resolver.resolve (resolver : Resolver) (lookUp : Lookup) (host : String) :
    Except Error Address :=
  let text := host.toList.dropWhile (· == '[')
  let text := (text.reverse.dropWhile (· == ']')).reverse
  match Address.parse? text with
  | some address => resolver.family.select [address]
  | none =>
    match lookUp resolver.server (String.ofList text) with
    | .error error => .error error
    | .ok addresses => resolver.family.select addresses

end Net
end ExchangeGrid
