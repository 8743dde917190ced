import ExchangeGrid.Config

namespace ExchangeGrid
namespace Net

/-!
# Certificates

Loads the certificates that a client trusts and the one that it shows.  Files are read when the
client is built; whether certificate and key belong together is only found out when the first
encrypted connection is set up.
-/

/-- One block of a certificate file.  A certificate that can be read is known by the number of its
key; the content of a broken block cannot be decoded. -/
inductive PemBlock
  | certificate (key : Option Nat)
  | privateKey (number : Nat)
  | broken
  deriving DecidableEq, Repr

/-- The files of a machine: what a path holds, when there is a file. -/
abbrev PemFiles := String → Option (List PemBlock)

def PemFiles.blocks (files : PemFiles) (path : String) : Except Error (List PemBlock) :=
  match files path with
  | some blocks => .ok blocks
  | none => .error (.config (path ++ ": No such file or directory (os error 2)"))

/-- The certificates of a file, of which there must be one. -/
def PemFiles.certificates (files : PemFiles) (path : String) : Except Error (List (Option Nat)) :=
  do
    let blocks ← files.blocks path
    if blocks.contains .broken then
      .error (.tls (path ++ ": failed to parse certificates"))
    else
      let found := blocks.filterMap fun
        | .certificate key => some key
        | _ => none
      if found.isEmpty then .error (.tls (path ++ ": no certificates found")) else .ok found

/-- The first private key of a file. -/
def PemFiles.privateKey (files : PemFiles) (path : String) : Except Error Nat := do
  let blocks ← files.blocks path
  let found := blocks.find? fun
    | .certificate _ => false
    | _ => true
  match found with
  | some (.privateKey number) => .ok number
  | _ => .error (.tls (path ++ ": failed to parse private key"))

/-- What a client shows: its certificates, and the number of its key. -/
structure Identity where
  chain : List (Option Nat)
  key : Nat
  deriving DecidableEq, Repr

/-- What a client trusts and shows. -/
structure Trust where
  policy : Config.TrustPolicy
  identity : Option Identity
  deriving DecidableEq, Repr

/-- Check one file of trusted certificates: all of them must be certificates. -/
def checkAuthority (files : PemFiles) (path : String) : Except Error Unit := do
  let found ← files.certificates path
  if found.contains none then .error (.tls (path ++ ": invalid certificate")) else .ok ()

def Trust.load (files : PemFiles) (config : Config) : Except Error Trust := do
  let policy := config.trustPolicy
  if policy = .authorities then
    config.tls.authorities.forM (checkAuthority files)
  match config.tls.certificate, config.tls.key with
  | none, none => .ok ⟨policy, none⟩
  | some certificate, some key =>
    let chain ← files.certificates certificate
    let key ← files.privateKey key
    .ok ⟨policy, some ⟨chain, key⟩⟩
  | _, _ => .error (.config "client_cert and client_key must be set together")

/-- Whether encrypted connections can be set up: the key is that of the first certificate. -/
def Trust.check (trust : Trust) : Except Error Unit :=
  match trust.identity with
  | none => .ok ()
  | some identity =>
    if identity.chain.head? = some (some identity.key) then .ok ()
    else .error (.tls "client certificate: keys do not match")

end Net
end ExchangeGrid
