/-
**The command line.**

The command seeds the demonstration table as the environment asks for. It first shows a sample
of each generator, drawn apart from the rows. A dry run fills a store in memory and writes each
committed row as a line of JSON; any other run reads the address of the server, connects to it,
makes the table and fills it there. The command answers with the lines it writes and its exit
status. A filter holds back notes; the environment may name it.
-/
import Seeding.Settings
import Seeding.Demo
import Seeding.Postgres.Address
import Seeding.Postgres.Client
import Seeding.Store.Basic

namespace Seeding.CommandLine

/-! ### Output -/

/-- Something that the command itself notes. -/
inductive Notice where
  | sample (column : String) (kind : GeneratorKind) (value : Value)
  | dryRunDone (rows : Nat)
  | connected
  | seedDone (elapsed : UInt64)
  | tableRows (table : String) (rows : Nat)

/-- The text of a notice. -/
def Notice.message : Notice → String
  | .sample column kind value => s!"Sample {column} ({kind.label}): {value.describe}"
  | .dryRunDone rows => s!"Dry run completed: {rows} rows"
  | .connected => "Connected to database"
  | .seedDone elapsed => s!"Seed completed in {elapsed} ms"
  | .tableRows table rows => s!"  {table}: {rows} rows"

/-- The target of all notices. -/
def Notice.target : String := "seed"

/-- A line of output. -/
inductive Line where
  | notice (notice : Notice)
  | event (target : String) (event : Event)
  | row (table : String) (record : Record)

/-- A row in JSON, with its table; both objects are sorted. -/
def rowJson (table : String) (record : Record) : Json :=
  Json.sorted (.object [("table", .string table), ("row", record.toJson.sorted)])

namespace Line

/-- The text of a line: a note has its level and its target in front. -/
def text : Line → String
  | .notice noted => s!"{Level.info.label} {Notice.target}: {noted.message}"
  | .event target noted => s!"{noted.level.label} {target}: {noted.message}"
  | .row table record => (rowJson table record).render

/-- Whether a line is written; rows are written in any case. -/
def passes (filter : Filter) : Line → Bool
  | .notice _ => filter .info Notice.target
  | .event target noted => filter noted.level target
  | .row _ _ => true

end Line

/-- What the command writes, and its exit status. -/
structure Output where
  lines : List Line
  errors : List String := []
  status : UInt32 := 0

/-- The output without the lines that a filter holds back. -/
def Output.filtered (filter : Filter) (output : Output) : Output :=
  { output with lines := output.lines.filter (Line.passes filter) }

/-- The lines on what lies behind an error; several causes are numbered. -/
def causeLines : List String → List String
  | [] => []
  | [cause] => ["", "Caused by:", s!"    {cause}"]
  | causes => ["", "Caused by:"] ++ causes.mapIdx fun number cause => s!"    {number}: {cause}"

/-- The output of a command that fails after some lines. -/
def failed (lines : List Line) (message : String) (causes : List String := []) : Output where
  lines
  errors := s!"Error: {message}" :: causeLines causes
  status := 1

/-- The output of a command that fails with a database error. -/
def failedWith (lines : List Line) (error : DatabaseError) : Output :=
  failed lines error.message error.causes

/-- The events of a log, a line each, where the target of the store is given. -/
def logLines (store : String) (log : List Event) : List Line :=
  log.map fun event => .event (event.target store) event

/-- The rows of a store, a line each. -/
def rowLines (store : Store) : List Line :=
  store.tables.flatMap fun entry => entry.2.map (.row entry.1)

/-! ### Runs -/

/-- Draws a sample for each binding. -/
def samples : List Binding → StateM KeyStream (List Line)
  | [] => pure []
  | binding :: rest => do
    let value ← binding.generator.sample
    let lines ← samples rest
    return .notice (.sample binding.column.name binding.generator.kind value) :: lines

/-- Seeds a store in memory and writes its rows. -/
def dryRun (settings : Settings) (unseeded : KeyStream) (session : Session) (before : List Line) :
    Output :=
  let finished := (Seeder.ofSettings ({} : Store) unseeded settings).run session
  let lines := before ++ logLines "dbgen::db::memory" finished.log ++
    rowLines finished.seeder.backend
  match finished.result with
  | .error error => failed lines error.message
  | .ok report => { lines := lines ++ [.notice (.dryRunDone report.stored)] }

variable {ς : Type} [Postgres.Server ς]

/-- Seeds a table on the server that is connected and has it; `elapsed` is the time it takes, in
milliseconds. -/
def fill (settings : Settings) (unseeded : KeyStream) (session : Session) (elapsed : UInt64)
    (server : ς) (before : List Line) : Output × ς :=
  let client : Postgres.Client ς := { server }
  let finished := (Seeder.ofSettings client unseeded settings).run session
  let lines := before ++ logLines "dbgen::db::postgres" finished.log
  let server := finished.seeder.backend.server
  match finished.result with
  | .error error => (failed lines error.message, server)
  | .ok report =>
    let summary := report.tables.map fun table =>
      Line.notice (.tableRows table.table table.outcome.stored)
    ({ lines := lines ++ .notice (.seedDone elapsed) :: summary }, server)

/-- Connects to the server, makes the table and fills it. -/
def seed (settings : Settings) (unseeded : KeyStream) (session : Session) (elapsed : UInt64)
    (server : ς) (before : List Line) : Output × ς :=
  match Postgres.Server.connect server with
  | (.error error, server) => (failedWith before error, server)
  | (.ok (), server) =>
    let lines := before ++ [.notice .connected]
    match Postgres.Server.execute { text := Demo.creation } server with
    | (.error error, server) => (failedWith lines error, server)
    | (.ok (), server) => fill settings unseeded session elapsed server lines

/-- Reads the address of the server and seeds there; without a single connection to use, none ever
becomes free. -/
def liveRun (settings : Settings) (unseeded : KeyStream) (session : Session) (elapsed : UInt64)
    (dial : Postgres.Address → ς) (before : List Line) : Output × Option ς :=
  match Postgres.Address.ofText settings.databaseUrl with
  | .error fault => (failedWith before fault.error, none)
  | .ok address =>
    if settings.maxConnections = 0 then (failedWith before .poolTimedOut, none)
    else
      let (output, server) := seed settings unseeded session elapsed (dial address) before
      (output, some server)

/-- The bindings of a session's plans, in order. -/
def bindings (session : Session) : List Binding :=
  session.plans.flatMap fun plan => plan.bound.toOption.getD []

/-- All that the command has to write. It reads the environment through `lookup`, draws samples from
`preview` and, where no seed is set, rows from `unseeded`. `dial` gives the server at an address;
the server is part of the answer if it was dialled. -/
def answer (lookup : String → Option String) (preview unseeded : KeyStream)
    (dial : Postgres.Address → ς) (elapsed : UInt64) : Output × Option ς :=
  match Settings.ofEnvironment lookup with
  | .error error => (failed [] error.message, none)
  | .ok settings =>
    match Session.ofDeclarations Demo.declare with
    | .error error => (failed [] error.message, none)
    | .ok session =>
      let before := (samples (bindings session) preview).1
      if settings.dryRun then (dryRun settings unseeded session before, none)
      else liveRun settings unseeded session elapsed dial before

/-- The variable that names the filter. -/
def filterVariable : String := "RUST_LOG"

/-- The filter that the environment names, if `filters` understands its name; else all is written
but what is for debugging. -/
def filterOf (lookup : String → Option String) (filters : String → Option Filter) : Filter :=
  ((lookup filterVariable).bind filters).getD .informing

/-- The command. The reader of filters and the time that a run takes are given from outside. -/
def run (lookup : String → Option String) (preview unseeded : KeyStream)
    (dial : Postgres.Address → ς) (filters : String → Option Filter := fun _ => none)
    (elapsed : UInt64 := 0) : Output × Option ς :=
  let answered := answer lookup preview unseeded dial elapsed
  (answered.1.filtered (filterOf lookup filters), answered.2)

end Seeding.CommandLine
