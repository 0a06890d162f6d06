/-
**The log of a run.**

A run and the store that it fills note what they do as events. An event knows its level, whether it
is the run or the store that speaks, and its text. A filter lets an event through by its level and
its target, the name of the part of the program that speaks.
-/
import Seeding.Backend.Error

namespace Seeding

/-- How much an event matters. -/
inductive Level where
  | debug
  | info
  | warn
  deriving DecidableEq, Repr

/-- The word for a level. -/
def Level.label : Level → String
  | .debug => "DEBUG"
  | .info => "INFO"
  | .warn => "WARN"

/-- Which events are let through, by level and target. -/
abbrev Filter := Level → String → Bool

/-- The filter that holds back nothing but what is for debugging. -/
def Filter.informing : Filter := fun level _ => level != .debug

/-- Something that a store notes. -/
inductive StoreEvent where
  | committing (rows : Nat)
  | discarding (rows : Nat)
  /-- The rows are lost because their commit fails. -/
  | discardingOnCommit (rows : Nat)
  /-- A statement is about to be sent. -/
  | sending (statement : String)
  deriving DecidableEq, Repr

/-- The text of a store's event. -/
def StoreEvent.message : StoreEvent → String
  | .committing rows => s!"Committing {rows} staged rows"
  | .discarding rows => s!"Discarding {rows} staged rows"
  | .discardingOnCommit rows => s!"Discarding {rows} staged rows on failed commit"
  | .sending statement => statement

/-- Something that a run notes. -/
inductive RunEvent where
  | started (tables : Nat)
  | tableStarted (rows : Nat) (table : String)
  | beginFailed (table : String) (error : StoreError)
  | progress (row rows : Nat) (table : String)
  | rowFailed (row rows : Nat) (table : String) (error : StoreError)
  | rollbackFailed (table : String) (error : StoreError)
  | commitFailed (table : String) (error : StoreError)
  | tableDone (rows : Nat) (table : String)
  | skipped (table : String)
  | notSeeded (table : String)
  | done (rows tables : Nat)
  deriving DecidableEq, Repr

namespace RunEvent

/-- The level of a run's event: a failure warns, all else informs. -/
def level : RunEvent → Level
  | .beginFailed _ _ => .warn
  | .rowFailed _ _ _ _ => .warn
  | .rollbackFailed _ _ => .warn
  | .commitFailed _ _ => .warn
  | .notSeeded _ => .warn
  | _ => .info

/-- The text of a run's event. -/
def message : RunEvent → String
  | .started tables => s!"Seeding {tables} tables..."
  | .tableStarted rows table => s!"Seeding {rows} rows into {table}..."
  | .beginFailed table error => s!"Could not open transaction for {table}: {error.message}"
  | .progress row rows table => s!"  Seeded {row}/{rows} rows into {table}"
  | .rowFailed row rows table error =>
    s!"Row {row}/{rows} of {table} failed, rolling back: {error.message}"
  | .rollbackFailed table error => s!"Rollback of {table} failed: {error.message}"
  | .commitFailed table error => s!"Commit of {table} failed: {error.message}"
  | .tableDone rows table => s!"Seeded {rows} rows into {table}"
  | .skipped table => s!"Skipping {table} after earlier failure"
  | .notSeeded table => s!"Table {table} was not seeded"
  | .done rows tables => s!"Seeded {rows} rows across {tables} tables"

end RunEvent

/-- An event of the log. -/
inductive Event where
  | store (event : StoreEvent)
  | run (event : RunEvent)
  deriving DecidableEq, Repr

namespace Event

/-- The level of an event; what a store notes is for debugging. -/
def level : Event → Level
  | .store _ => .debug
  | .run event => event.level

/-- The target of an event, where the target of the store is given. -/
def target (store : String) : Event → String
  | .store _ => store
  | .run _ => "dbgen::db::seeder"

/-- The text of an event. -/
def message : Event → String
  | .store event => event.message
  | .run event => event.message

/-- An event as a line: its level and its text. -/
def line (event : Event) : String := s!"{event.level.label} {event.message}"

end Event

end Seeding
