/-
**The program.**

Reads the environment, runs the command and writes its lines. The program has no network of its
own, so a run that needs a server ends at its connection and tells no time. It understands the names
of no filters.
-/
import Seeding.CommandLine
import Seeding.Postgres.Offline

open Seeding

/-- The environment variables that the command looks up. -/
def environment : IO (List (String × String)) := do
  let settings : List Setting :=
    [.databaseUrl, .maxConnections, .failurePolicy, .progressInterval, .seed, .dryRun]
  let found ← settings.mapM fun setting => do
    return (← IO.getEnv setting.name).map fun text => (setting.name, text)
  return found.filterMap id

/-- A source with a seed that differs from run to run. -/
def entropy : IO KeyStream := do
  let bytes ← IO.getRandomBytes 8
  return KeyStream.ofSeed (bytes.foldl (fun seed byte => seed * 256 + byte.toUInt64) 0)

/-- Runs the command on the environment of the process. -/
def main : IO UInt32 := do
  let given ← environment
  let dial address : Postgres.ScriptedServer := { link := .offline address }
  let output := (CommandLine.run (fun name => given.lookup name) (← entropy) (← entropy) dial).1
  output.lines.forM fun line => IO.println line.text
  output.errors.forM fun line => IO.eprintln line
  return output.status
