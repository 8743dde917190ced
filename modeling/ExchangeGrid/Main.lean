import ExchangeGrid.Net.Armor
import ExchangeGrid.Watch.Run

namespace ExchangeGrid
namespace Watch

/-!
# The watching program

Reads the environment, the settings and the certificate files, and runs the program on them.
There is no network below this program, so it ends where the first connection is needed.
-/

def fileText? (path : String) : IO (Option String) :=
  try some <$> IO.FS.readFile path
  catch _ => pure none

/-- The files that settings name, with their blocks. -/
def readArmored (config : Config) : IO (List (String × List Net.PemBlock)) := do
  let paths := config.tls.authorities ++ config.tls.certificate.toList ++ config.tls.key.toList
  let read ← paths.mapM fun path => do
    return (← fileText? path).toList.map fun text => (path, Net.Armor.blocks text)
  return read.flatten

def readEnvironment : IO (List (String × String)) := do
  let read ← ["PXGRID_CONFIG", "PXGRID_NODE_NAME", "PXGRID_PASSWORD"].mapM fun name => do
    return (← IO.getEnv name).toList.map fun value => (name, value)
  return read.flatten

def runOnFiles (words : List String) : IO Ending := do
  let environment ← readEnvironment
  let valueOf := fun name => (environment.find? fun entry => entry.1 == name).map Prod.snd
  let path := (valueOf "PXGRID_CONFIG").getD defaultPath
  let settings ← fileText? path
  let machine := fun files =>
    { environment := valueOf, settingsText := fun _ => settings,
      network := Net.Network.unreachable files : Machine }
  let files ← match Arguments.parse valueOf words with
    | .error _ => pure []
    | .ok arguments =>
      match gatherConfig (machine fun _ => none) arguments with
      | .error _ => pure []
      | .ok config => readArmored config
  let blocksOf := fun path => (files.find? fun file => file.1 == path).map Prod.snd
  return run (machine blocksOf) words

end Watch
end ExchangeGrid

/-- The watching program on a command line. -/
def main (words : List String) : IO UInt32 := do
  let ending ← ExchangeGrid.Watch.runOnFiles words
  IO.print ending.output
  IO.eprint ending.complaint
  return UInt32.ofNat ending.status
