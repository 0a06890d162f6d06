/-
**Settings from JSON texts.**

Settings are written as an object with six fields in any order, or as a list of their values in
order. Every field is needed, except that a missing seed is none; no field may occur twice
and fields of other names are passed over. A policy is its name, or an object whose only field has
that name and the value null; where the field's name should start, anything but a string is
malformed, as in any object.
-/
import Seeding.Settings
import Seeding.Json.Reader

namespace Seeding.Settings

open Json Json.Reader

/-- A field that is read at most once. -/
abbrev Slot (α : Type) := Option α

/-- The fields read so far. -/
structure Draft where
  databaseUrl : Slot String := none
  maxConnections : Slot UInt32 := none
  failurePolicy : Slot FailurePolicy := none
  progressInterval : Slot UInt64 := none
  seed : Slot (Option UInt64) := none
  dryRun : Slot Bool := none

/-- Reads a number of 32 bits. -/
def number32 : Reader UInt32 := UInt32.ofNat <$> naturalBelow UInt32.size

/-- Reads a number of 64 bits. -/
def number64 : Reader UInt64 := UInt64.ofNat <$> naturalBelow UInt64.size

/-- Reads the name of a policy. -/
def policyName : Reader FailurePolicy := do
  match FailurePolicy.ofName? (← string) with
  | some policy => pure policy
  | none => throw .unsuitable

/-- Reads a policy in either form. -/
def policy : Reader FailurePolicy := do
  match ← peek with
  | none => throw .ended
  | some '"' => policyName
  | some '\x7b' =>
    advance
    match ← peek with
    | none => throw .ended
    | some '"' =>
      let found ← policyName
      expect ':'
      null
      expect '\x7d'
      pure found
    | some _ => throw .malformed
  | some _ => throw .malformed

/-- Reads a value into a slot that has to be empty. -/
def once {α : Type} (slot : Slot α) (value : Reader α) : Reader (Slot α) := do
  if slot.isSome then throw .unsuitable
  expect ':'
  some <$> value

/-- Reads the field of a name, after that name. -/
def field (name : String) (draft : Draft) : Reader Draft := do
  if name = "database_url" then
    return { draft with databaseUrl := ← once draft.databaseUrl string }
  else if name = "max_connections" then
    return { draft with maxConnections := ← once draft.maxConnections number32 }
  else if name = "failure_policy" then
    return { draft with failurePolicy := ← once draft.failurePolicy policy }
  else if name = "progress_interval" then
    return { draft with progressInterval := ← once draft.progressInterval number64 }
  else if name = "seed" then
    return { draft with seed := ← once draft.seed (nullable number64) }
  else if name = "dry_run" then
    return { draft with dryRun := ← once draft.dryRun boolean }
  else
    expect ':'
    pass
    return draft

/-- Reads the fields of an object. The fuel bounds their number. -/
def fields : (fuel : Nat) → (first : Bool) → Draft → Reader Draft
  | 0, _, _ => throw .malformed
  | fuel + 1, first, draft => do
    match ← nextField first with
    | none => pure draft
    | some name => fields fuel false (← field name draft)

/-- The settings of a draft in which only the seed may be missing. -/
def Draft.complete? (draft : Draft) : Option Settings := do
  return {
    databaseUrl := ← draft.databaseUrl
    maxConnections := ← draft.maxConnections
    failurePolicy := ← draft.failurePolicy
    progressInterval := ← draft.progressInterval
    seed := draft.seed.join
    dryRun := ← draft.dryRun }

/-- Reads settings written as an object, after its opening bracket. -/
def object : Reader Settings := do
  let draft ← fields ((← get).length + 1) true {}
  match draft.complete? with
  | none => throw .unsuitable
  | some settings =>
    expect '\x7d'
    pure settings

/-- Reads settings written as a list, after its opening bracket. -/
def list : Reader Settings := do
  let databaseUrl ← element true string
  let maxConnections ← element false number32
  let failurePolicy ← element false policy
  let progressInterval ← element false number64
  let seed ← element false (nullable number64)
  let dryRun ← element false boolean
  expect ']'
  pure { databaseUrl, maxConnections, failurePolicy, progressInterval, seed, dryRun }

/-- Reads settings in either form. -/
def value : Reader Settings := do
  match ← peek with
  | none => throw .ended
  | some '[' => advance; list
  | some '\x7b' => advance; object
  | some character => refuse character

/-- The settings that a text writes, with nothing but spaces around it. -/
def ofText (text : String) : Except Fault Settings :=
  (do let settings ← value; finish; pure settings : Reader Settings).run' text.toList

end Seeding.Settings
