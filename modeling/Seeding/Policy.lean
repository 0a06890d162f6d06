/-
**Failure policies.**

A policy says what a run does with the tables after one that failed. It is read from one of a few
words, in letters of any case and with blanks around it.
-/
import Seeding.Text.Blank
import Seeding.Text.Quoted

namespace Seeding

/-- What follows a table that failed. -/
inductive FailurePolicy where
  /-- Seed the other tables and report all failures. -/
  | collectAll
  /-- Skip the other tables. -/
  | stopOnFirst
  deriving DecidableEq, Repr

/-- A text that names no policy. -/
structure UnknownPolicy where
  text : String
  deriving DecidableEq, Repr

/-- The text of the error. -/
def UnknownPolicy.message (unknown : UnknownPolicy) : String :=
  s!"Unknown failure policy {Text.quoted unknown.text}, expected collect_all or stop_on_first"

namespace FailurePolicy

/-- The name of a policy. -/
def name : FailurePolicy → String
  | .collectAll => "collect_all"
  | .stopOnFirst => "stop_on_first"

/-- The policy of a name, written exactly. -/
def ofName? (name : String) : Option FailurePolicy :=
  if name = "collect_all" then some .collectAll
  else if name = "stop_on_first" then some .stopOnFirst
  else none

/-- Reads a policy from its name or its short name. -/
def parse (text : String) : Except UnknownPolicy FailurePolicy :=
  let word := Text.folded text
  if word = "collect" ∨ word = "collect_all" then .ok .collectAll
  else if word = "stop" ∨ word = "stop_on_first" then .ok .stopOnFirst
  else .error { text }

end FailurePolicy

end Seeding
