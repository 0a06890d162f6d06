/-
**Dry runs.**

A dry run seeds a new store in memory, where nothing is declared to fail, so the one job of the
demonstration is stored as a whole (`run_one`). What is written besides the rows are notes: the
samples, the log and the summary (`rows_dryRun`). A filter may hold back notes, but no row
(`rows_filtered`). The rows are therefore those that the job draws from the start of the words of
the seed; nothing else that the environment sets and no sample changes them. The line of a row is a
JSON object with the fields of the row in ascending order (`read_text_row`).

Main statement: `dry_run_seeded`, for every environment that asks for a dry run with a seed.
-/
import Seeding.CommandLine
import Seeding.Postgres.Offline
import Seeding.Proofs.Demo
import Seeding.Proofs.Engine.Report
import Seeding.Proofs.Json.Records
import Seeding.Proofs.Json.Sorted
import Seeding.Proofs.Store.Alike
import Seeding.Proofs.Store.History

namespace Seeding

/-! ### One table in a new store -/

namespace Store

/-- A store with the rows of one table lists this table alone. -/
theorem tables_eq_singleton {store : Store} {name : String} {records : List Record}
    (rows : store.rows name = records) (filled : records ≠ [])
    (others : ∀ other, other ≠ name → store.rows other = []) :
    store.tables = [(name, records)] := by
  have here : (name, records) ∈ store.tables := store.mem_tables_iff.mpr ⟨rows, filled⟩
  have only : ∀ entry ∈ store.tables, entry = (name, records) := by
    rintro ⟨other, found⟩ member
    obtain ⟨listed, given⟩ := store.mem_tables_iff.mp member
    by_cases same : other = name
    · rw [← listed, same, rows]
    · exact absurd (listed.symm.trans (others other same)) given
  have ordered := store.tables_ordered
  cases listed : store.tables with
  | nil =>
    rw [listed] at here
    cases here
  | cons first rest =>
    rw [listed] at only ordered
    obtain rfl := only first List.mem_cons_self
    cases rest with
    | nil => rfl
    | cons second rest =>
      -- two entries of one name would not ascend
      obtain rfl := only second (List.mem_cons_of_mem _ List.mem_cons_self)
      have above := (List.pairwise_cons.mp ordered).1 name List.mem_cons_self
      exact absurd above (String.lt_irrefl name)

end Store

/-- Where nothing is declared to fail, every table is committed. -/
theorem Filled.committed {σ : Type} [WordSource σ] {store last : Store}
    {attempts : List (Attempt σ)} (filled : Filled store attempts last)
    (clean : store.faults = {}) :
    ∀ attempt ∈ attempts, attempt.outcome = .committed attempt.job.rows := by
  intro attempt member
  obtain ⟨place, here⟩ := List.getElem?_of_mem member
  rw [filled.outcomes place attempt here, clean,
    Faults.outcome_of_rows List.not_mem_nil fun _ _ _ => List.not_mem_nil,
    if_neg List.not_mem_nil]

/-- **One job in a new store.** The run succeeds and the store has the records of the job. -/
theorem Seeder.run_one {σ : Type} [WordSource σ] {session : Session} {job : Job}
    (ready : session.jobs = .ok [job]) (seeder : Seeder Store σ) (new : seeder.backend = {}) :
    (∃ report, (seeder.run session).result = .ok report) ∧
      (seeder.run session).seeder.backend.tables =
        [(job.table.name, (job.records job.rows seeder.source).1)] := by
  obtain ⟨attempts, later, split, halting, chained, result, filled⟩ :=
    run_filled ready seeder (by rw [new])
  have committed := filled.committed (by rw [new])
  have success : ∀ attempt ∈ attempts, attempt.outcome.isFailure = false := by
    intro attempt member
    rw [committed attempt member]
    rfl
  obtain rfl := halting.later_eq_nil_of_success success
  rw [List.append_nil] at split
  obtain ⟨attempt, rfl, rfl⟩ := List.map_eq_singleton_iff.mp split.symm
  have start : attempt.source = seeder.source := chained.1
  have kept : attempt.kept = (attempt.job.records attempt.job.rows seeder.source).1 := by
    rw [attempt.kept_eq, success attempt (List.mem_singleton_self attempt), start]
    rfl
  constructor
  · rw [result]
    refine Report.exists_result_eq_ok_iff.mpr fun entry member => ?_
    obtain rfl := List.mem_singleton.mp member
    exact success attempt (List.mem_singleton_self attempt)
  · have rows := filled.rows
    have none (name : String) : seeder.backend.rows name = [] := by
      rw [new]
      rfl
    refine Store.tables_eq_singleton ?_ (attempt.job.records_ne_nil seeder.source) ?_
    · rw [rows, none, kept.symm]
      simp
    · intro other different
      rw [rows, none]
      simp [Ne.symm different]

namespace CommandLine

/-! ### What is written -/

/-- Whether a line is a row. -/
def Line.isRow : Line → Bool
  | .row _ _ => true
  | _ => false

/-- The rows that are written, in order. -/
def Output.rows (output : Output) : List Line := output.lines.filter Line.isRow

theorem samples_quiet (list : List Binding) (source : KeyStream) :
    (samples list source).1.filter Line.isRow = [] := by
  induction list generalizing source with
  | nil => rfl
  | cons binding rest ih =>
    simp only [samples, State.bind_apply, State.pure_apply]
    exact ih _

theorem logLines_quiet (store : String) (log : List Event) :
    (logLines store log).filter Line.isRow = [] := by
  unfold logLines
  rw [List.filter_map]
  exact List.map_eq_nil_iff.mpr (List.filter_eq_nil_iff.mpr fun _ _ => Bool.false_ne_true)

@[simp] theorem filtered_status (filter : Filter) (output : Output) :
    (output.filtered filter).status = output.status := rfl

@[simp] theorem filtered_errors (filter : Filter) (output : Output) :
    (output.filtered filter).errors = output.errors := rfl

/-- No filter holds back a row. -/
theorem rows_filtered (filter : Filter) (output : Output) :
    (output.filtered filter).rows = output.rows := by
  unfold Output.rows Output.filtered
  rw [List.filter_filter]
  refine List.filter_congr fun line _ => ?_
  cases line with
  | row table record => rfl
  | notice noted => rfl
  | event target noted => rfl

theorem filter_rowLines (store : Store) : (rowLines store).filter Line.isRow = rowLines store := by
  refine List.filter_eq_self.mpr fun line member => ?_
  obtain ⟨entry, _, inside⟩ := List.mem_flatMap.mp member
  obtain ⟨record, _, rfl⟩ := List.mem_map.mp inside
  rfl

/-- A dry run of one job succeeds, and its rows are the records of that job, whatever was written
before. -/
theorem rows_dryRun {session : Session} {job : Job} (ready : session.jobs = .ok [job])
    (settings : Settings) (unseeded : KeyStream) {before : List Line}
    (quiet : before.filter Line.isRow = []) :
    (dryRun settings unseeded session before).status = 0 ∧
    (dryRun settings unseeded session before).errors = [] ∧
    (dryRun settings unseeded session before).rows =
      (job.records job.rows (Seeder.ofSettings ({} : Store) unseeded settings).source).1.map
        (.row job.table.name) := by
  obtain ⟨⟨report, result⟩, tables⟩ :=
    Seeder.run_one ready (Seeder.ofSettings ({} : Store) unseeded settings) rfl
  have rows := filter_rowLines
    ((Seeder.ofSettings ({} : Store) unseeded settings).run session).seeder.backend
  unfold dryRun
  dsimp only
  rw [result]
  refine ⟨rfl, rfl, ?_⟩
  unfold Output.rows
  rw [List.filter_append, List.filter_append, List.filter_append, quiet, logLines_quiet, rows,
    rowLines, tables]
  simp [Line.isRow]

/-! ### Rows in JSON -/

/-- **The line of a row** is an object of the row and its table. The fields of the row are those of
the record in ascending order of their names. -/
theorem read_text_row (table : String) (record : Record) :
    ∃ fields, Json.read? (Line.row table record).text =
        some (.object [("row", .object fields), ("table", .string table)]) ∧
      Json.Ordered fields ∧ fields.Perm record.jsonFields := by
  have distinct : (record.jsonFields.map Prod.fst).Nodup :=
    record.names_jsonFields ▸ record.distinct
  refine ⟨record.jsonFields.mergeSort Json.precedes, ?_, Json.ordered_mergeSort distinct,
    List.mergeSort_perm _ _⟩
  have names : "row" < "table" := by decide
  have fields : rowJson table record =
      .object [("row", record.toJson.sorted), ("table", .string table)] :=
    Json.sorted_object (List.pairwise_pair.mpr names) (List.Perm.swap _ _ _)
  show Json.read? (rowJson table record).render = _
  rw [Json.read_render, fields]
  rfl

/-- The line of a pet is its name and its type in JSON, with the table. -/
theorem read_text_pet {record : Record} {name type : String}
    (pet : Demo.IsPet record name type) :
    Json.read? (Line.row "pets" record).text = some (.object [
      ("row", .object [("name", .string name), ("type", .string type)]),
      ("table", .string "pets")]) := by
  obtain ⟨fields, read, ordered, same⟩ := read_text_row "pets" record
  have pair : record.jsonFields = [("name", .string name), ("type", .string type)] := by
    unfold Record.jsonFields
    rw [pet.fields]
    rfl
  have names : "name" < "type" := by decide
  have sorted : Json.Ordered [("name", .string name), ("type", .string type)] :=
    List.pairwise_pair.mpr names
  have unique : Json.object fields = .object [("name", .string name), ("type", .string type)] := by
    rw [pair] at same
    rw [← Json.sorted_object ordered same, Json.sorted_object sorted (List.Perm.refl _)]
  rw [read, unique]

/-! ### Seeds -/

/-- What a dry run with a seed answers: it succeeds without a server and writes the rows that the
plan of the demonstration draws from the start of the words of the seed. They are 25 rows for pets,
each a JSON object in one line with its table. -/
structure Reproduced {ς : Type} (seed : UInt64) (answer : Output × Option ς) : Prop where
  status : answer.1.status = 0
  errors : answer.1.errors = []
  offline : answer.2 = none
  rows : ∃ plan job, Session.ofDeclarations Demo.declare = .ok { plans := [plan] } ∧
    plan.ready = .ok job ∧
    answer.1.rows = (job.records 25 (KeyStream.ofSeed seed)).1.map (.row "pets")
  count : answer.1.rows.length = 25
  pets : ∀ line ∈ answer.1.rows, ∃ record name type,
    line = .row "pets" record ∧ Demo.IsPet record name type ∧
    Json.read? line.text = some (.object [
      ("row", .object [("name", .string name), ("type", .string type)]),
      ("table", .string "pets")]) ∧
    Json.Printable line.text.toList

theorem Reproduced.of_rows {ς : Type} {seed : UInt64} {answer : Output × Option ς}
    (status : answer.1.status = 0) (errors : answer.1.errors = []) (offline : answer.2 = none)
    (rows : answer.1.rows = (Demo.job.records 25 (KeyStream.ofSeed seed)).1.map (.row "pets")) :
    Reproduced seed answer := by
  obtain ⟨length, pets⟩ := Demo.records_pets 25 (KeyStream.ofSeed seed)
  refine ⟨status, errors, offline, ⟨_, _, Demo.declared, Demo.plan_ready, rows⟩, ?_, ?_⟩
  · rw [rows, List.length_map, length]
  · intro line member
    rw [rows] at member
    obtain ⟨record, inside, rfl⟩ := List.mem_map.mp member
    obtain ⟨name, type, pet⟩ := pets record inside
    exact ⟨record, name, type, rfl, pet, read_text_pet pet, Json.printable_render _⟩

variable {ς : Type} [Postgres.Server ς] {lookup : String → Option String} {settings : Settings}
  {seed : UInt64}

/-- A dry run with a seed writes the rows of that seed, whatever filter is named. -/
theorem rows_run (read : Settings.ofEnvironment lookup = .ok settings)
    (dry : settings.dryRun = true) (seeded : settings.seed = some seed)
    (preview unseeded : KeyStream) (dial : Postgres.Address → ς)
    (filters : String → Option Filter) (elapsed : UInt64) :
    (run lookup preview unseeded dial filters elapsed).1.status = 0 ∧
    (run lookup preview unseeded dial filters elapsed).1.errors = [] ∧
    (run lookup preview unseeded dial filters elapsed).2 = none ∧
    (run lookup preview unseeded dial filters elapsed).1.rows =
      (Demo.job.records 25 (KeyStream.ofSeed seed)).1.map (.row "pets") := by
  have ready : Session.jobs { plans := [Demo.plan] } = .ok [Demo.job] := rfl
  have answered : answer lookup preview unseeded dial elapsed =
      (dryRun settings unseeded { plans := [Demo.plan] }
        (samples (bindings { plans := [Demo.plan] }) preview).1, none) := by
    unfold answer
    rw [read, Demo.declared]
    exact if_pos dry
  have start : (Seeder.ofSettings ({} : Store) unseeded settings).source =
      KeyStream.ofSeed seed := by
    unfold Seeder.ofSettings
    rw [seeded]
    rfl
  obtain ⟨status, errors, rows⟩ := rows_dryRun ready settings unseeded
    (samples_quiet (bindings { plans := [Demo.plan] }) preview)
  have name : Demo.job.table.name = "pets" := rfl
  have count : Demo.job.rows = 25 := rfl
  rw [start, name, count] at rows
  unfold run
  rw [answered]
  dsimp only
  rw [filtered_status, filtered_errors, rows_filtered]
  exact ⟨status, errors, rfl, rows⟩

/-- **The rows of a dry run depend only on the seed.** Whatever else the environment sets, whatever
filters are understood and whatever the samples draw, a dry run with a seed succeeds and writes just
the 25 rows of that seed. Any other environment that asks for a dry run with this seed gives the same
rows. -/
theorem dry_run_seeded (read : Settings.ofEnvironment lookup = .ok settings)
    (dry : settings.dryRun = true) (seeded : settings.seed = some seed)
    (preview unseeded : KeyStream) (dial : Postgres.Address → ς)
    (filters : String → Option Filter) (elapsed : UInt64) :
    Reproduced seed (run lookup preview unseeded dial filters elapsed) ∧
    ∀ (lookup' : String → Option String) (settings' : Settings),
      Settings.ofEnvironment lookup' = .ok settings' → settings'.dryRun = true →
      settings'.seed = some seed →
      ∀ (preview' unseeded' : KeyStream) (dial' : Postgres.Address → ς)
        (filters' : String → Option Filter) (elapsed' : UInt64),
        (run lookup' preview' unseeded' dial' filters' elapsed').1.rows =
          (run lookup preview unseeded dial filters elapsed).1.rows := by
  obtain ⟨status, errors, offline, rows⟩ :=
    rows_run read dry seeded preview unseeded dial filters elapsed
  refine ⟨.of_rows status errors offline rows, ?_⟩
  intro lookup' settings' read' dry' seeded' preview' unseeded' dial' filters' elapsed'
  obtain ⟨-, -, -, rows'⟩ :=
    rows_run read' dry' seeded' preview' unseeded' dial' filters' elapsed'
  exact rows'.trans rows.symm

/-- An environment that asks for a dry run with the seed 7. -/
def frugal : String → Option String
  | "DBGEN_DRY_RUN" => some "yes"
  | "DBGEN_SEED" => some "7"
  | _ => none

/-- An environment that asks for the same, sets all else and names a filter. -/
def lavish : String → Option String
  | "RUST_LOG" => some "off"
  | "DATABASE_URL" => some "postgres://kennel/dogs"
  | "DBGEN_MAX_CONNECTIONS" => some "0"
  | "DBGEN_FAILURE_POLICY" => some "stop"
  | "DBGEN_PROGRESS_INTERVAL" => some "0"
  | "DBGEN_SEED" => some " +7"
  | "DBGEN_DRY_RUN" => some "1"
  | _ => none

theorem frugal_read : Settings.ofEnvironment frugal = .ok { seed := some 7, dryRun := true } := rfl

theorem lavish_read : Settings.ofEnvironment lavish = .ok {
    databaseUrl := "postgres://kennel/dogs", maxConnections := 0, failurePolicy := .stopOnFirst
    progressInterval := 0, seed := some 7, dryRun := true } := rfl

/-- A server that is never reached. -/
def nowhere (address : Postgres.Address) : Postgres.ScriptedServer := { link := .offline address }

/-- A reader that understands the name of one filter, which holds back everything. -/
def silencer : String → Option Filter
  | "off" => some fun _ _ => false
  | _ => none

/-- The two environments give the rows of the seed 7. -/
theorem dry_run_seeded_seven :
    Settings.ofEnvironment frugal = .ok { seed := some 7, dryRun := true } ∧
    Reproduced 7 (run frugal (KeyStream.ofSeed 1) (KeyStream.ofSeed 2) nowhere silencer 0) ∧
    (run lavish (KeyStream.ofSeed 3) (KeyStream.ofSeed 4) nowhere silencer 1).1.rows =
      (run frugal (KeyStream.ofSeed 1) (KeyStream.ofSeed 2) nowhere silencer 0).1.rows := by
  obtain ⟨reproduced, same⟩ := dry_run_seeded frugal_read rfl rfl (KeyStream.ofSeed 1)
    (KeyStream.ofSeed 2) nowhere silencer 0
  exact ⟨frugal_read, reproduced, same lavish _ lavish_read rfl rfl (KeyStream.ofSeed 3)
    (KeyStream.ofSeed 4) nowhere silencer 1⟩

end CommandLine

end Seeding
