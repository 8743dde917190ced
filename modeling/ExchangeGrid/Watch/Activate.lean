import ExchangeGrid.Service.Control
import ExchangeGrid.Watch.Halt

namespace ExchangeGrid
namespace Watch

/-!
# Activating an account

A client without credentials first asks for an account.  Then it asks for activation, again and
again, until the account is enabled or the work is called off.
-/

/-- A program that may end before its account is enabled. -/
abbrev Attempt := ExceptT Halt Program

/-- Name what was attempted when it fails. -/
def inContext {α : Type} (context : Option String) (action : Action α) : Attempt α :=
  ExceptT.mk do
    match ← action.run with
    | .ok value => pure (.ok value)
    | .error error => pure (.error (.failed context error))

/-- Send requests from here on as some settings say. -/
def equip (config : Config) : Attempt Unit :=
  inContext none (Action.attempt (Program.question (.equip config)))

/-- Whether an account has to be asked for: there is neither a password nor a certificate. -/
def needsAccount (config : Config) : Bool :=
  !config.hasPassword && config.tls.certificate.isNone

/-- Ask for an account, if there are no credentials, and keep its password. -/
def provideAccount (config : Config) : Attempt Config := do
  if needsAccount config then
    equip config
    let created ← inContext (some "AccountCreate") (Controller.ofConfig config).createAccount
    let password := ((created.get? "password").bind Json.Value.string?).getD ""
    pure { config with auth := { config.auth with password := some password } }
  else pure config

/-- Ask for activation until the account is enabled, at most so many times. -/
def poll (control : Controller) (interval : Nat) : (times : Nat) → Attempt Unit
  | 0 => throw .stillPending
  | times + 1 => do
    let activation ← inContext (some "AccountActivate") control.activateAccount
    if isEnabled activation then pure ()
    else
      let calledOff ← ExceptT.lift (Program.question (.pause interval))
      if calledOff then throw .calledOff
      poll control interval times

def awaitEnabled (config : Config) (interval times : Nat) : Attempt Unit := do
  equip config
  poll (Controller.ofConfig config) interval times

/-- Activate an account: the outcome, and the settings with the credentials that it has. -/
def activate (config : Config) (interval times : Nat) : Program (Except Halt Unit × Config) := do
  match ← (provideAccount config).run with
  | .error halt => pure (.error halt, config)
  | .ok config => do
    let result ← (awaitEnabled config interval times).run
    pure (result, config)

end Watch
end ExchangeGrid
