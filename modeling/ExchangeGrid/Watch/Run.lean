import ExchangeGrid.Facade.Sessions
import ExchangeGrid.PubSub.Subscribe
import ExchangeGrid.Rehearsal.World
import ExchangeGrid.Watch.Activate
import ExchangeGrid.Watch.Usage

namespace ExchangeGrid
namespace Watch

/-!
# Watching sessions

The work of the watching program up to the moment in which it watches: it gathers its settings, has
its account activated, and subscribes to sessions and groups.  What it writes of the messages that
come in from then on is not told here.
-/

/-- The machine that the program runs on. -/
structure Machine where
  environment : String → Option String
  settingsText : String → Option String
  network : Net.Network

/-- How the program ended: the status that it leaves, and its last words. -/
structure Ending where
  status : Nat
  output : String := ""
  complaint : String := ""
  deriving DecidableEq, Repr

/-- Where settings are looked for, unless the environment says otherwise. -/
def defaultPath : String := "pxgrid.toml"

/-- The settings of the file; without a file all settings have their defaults. -/
def loadConfig (machine : Machine) : Except Halt Config :=
  let path := (machine.environment "PXGRID_CONFIG").getD defaultPath
  match machine.settingsText path with
  | none => .ok {}
  | some text =>
    match Config.parseFile? text with
    | some config => .ok config
    | none => .error (.wrongSettings path)

def gatherConfig (machine : Machine) (arguments : Arguments) : Except Halt Config := do
  let config ← loadConfig machine
  match applyOverrides config arguments with
  | (config, none) => .ok config
  | (_, some flaw) => .error (.wrongHost flaw)

/-- Subscribe to a topic of the session directory, on carriers in their order. -/
def subscribeTo (service : Dispatcher) (what : String) (topic : Facade.Topic) :
    Attempt PubSub.Subscribed :=
  inContext (some ("subscribing to " ++ what ++ " topic"))
    ((PubSub.Subscriber.mk service topic.property none).subscribe .ordered [])

/-- Have the account activated and subscribe to sessions and groups. -/
def begin (files : Net.PemFiles) (config : Config) (interval times : Nat) :
    Attempt (PubSub.Subscribed × PubSub.Subscribed) := do
  let (result, config) ← ExceptT.lift (activate config interval times)
  ExceptT.mk (pure result)
  inContext none (Action.ofExcept (do
    let _ ← Net.Transport.makeChecked files config))
  let service ← inContext none
    (Dispatcher.get (Controller.ofConfig config) Facade.Sessions.name)
  let sessions ← subscribeTo service "session" Facade.Sessions.sessionTopic
  let groups ← subscribeTo service "group" Facade.Sessions.groupTopic
  pure (sessions, groups)

def worldOf (machine : Machine) (config : Config) : Except Halt Rehearsal.World :=
  match Net.Transport.make machine.network.files config with
  | .error error => .error (.failed none error)
  | .ok transport => .ok {
      control := Controller.ofConfig config
      transport
      network := machine.network
      peers := .network }

/-- How often activation is asked for at most. -/
def patience : Nat := 1000000

/-- The seconds between two requests for activation, unless an option says otherwise. -/
def defaultInterval : Nat := 60

/-- How the program ends when the command line asks for something else, or is not taken. -/
def usageEnding (environment : String → Option String) : UsageKind → Ending
  | .displayHelp => { status := 0, output := helpText environment }
  | .displayVersion => { status := 0, output := versionText }
  | _ => { status := 2, complaint := refusalText }

/-- Run until the subscriptions are made, or until what goes wrong before. -/
def runWith (machine : Machine) (arguments : Arguments) : Except Halt Unit := do
  let config ← gatherConfig machine arguments
  let world ← worldOf machine config
  let interval := (arguments.activateInterval.getD defaultInterval) * 1000
  let steps := begin machine.network.files config interval patience
  let (result, _) := Rehearsal.World.runIn
    (Rehearsal.World.answer Rehearsal.World.depthLimit) world steps.run
  result.map fun _ => ()

def run (machine : Machine) (words : List String) : Ending :=
  match Arguments.parse machine.environment words with
  | .error kind => usageEnding machine.environment kind
  | .ok arguments =>
    match runWith machine arguments with
    | .ok () => { status := 0 }
    | .error halt => { status := 1, complaint := halt.report ++ "\n" }

end Watch
end ExchangeGrid
