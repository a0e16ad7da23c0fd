import Cadence.Engine.Basic
import Cadence.Json.Printer

/-!
# The command line

The first argument is the path of the configuration; the override of the tick limit and the filter
come from the environment. Events are written one to a line; a failure is told on the error stream,
and the exit code is then not zero.
-/

namespace Cadence.Engine

/-- What is found at a path. -/
def readConfig (path : String) : IO Config.File := do
  match ← (IO.FS.readBinFile path).toBaseIO with
  | .ok bytes => return .content bytes
  | .error (.noFileOrDirectory ..) => return .missing
  | .error e => return .unreadable (toString e)

/-- Identifiers that follow each other from random ones on. -/
def drawIdentifiers : IO Scenario.Identifiers := do
  let first ← IO.rand 0 0xffffffffffffffff
  let second ← IO.rand 0 0xffffffffffffffff
  return ⟨fun n => ⟨BitVec.ofNat 128 (first + n)⟩, fun n => ⟨BitVec.ofNat 128 (second + n)⟩⟩

end Cadence.Engine

open Cadence in
/-- Run the engine once. -/
def main (arguments : List String) : IO UInt32 := do
  let start : Engine.Start :=
    { arguments := arguments
      maxTicks := ← IO.getEnv Config.maxTicksVariable
      filter := ← IO.getEnv "RUST_LOG" }
  let ended := Engine.run start (← Engine.readConfig start.path) (← Engine.drawIdentifiers)
  for event in ended.events do
    IO.println event.encode.render
  if let some message := ended.stop.message? then
    IO.eprintln message
  return ended.stop.code.toUInt32
