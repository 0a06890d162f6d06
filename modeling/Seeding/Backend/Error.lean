/-
**Why a store refuses a call.**

Some refusals come from the order of the calls, some from the record, and some from the store
itself or the database behind it. A store may word a reason of its own (`stated`).
-/

namespace Seeding

/-- What went wrong between a client and its database. -/
inductive DatabaseError where
  /-- No connection became free in time. -/
  | poolTimedOut
  /-- The server answered with an error. -/
  | reported (message : String)
  /-- The address of the server or another option is wrong. -/
  | configuration (cause : String)
  /-- An option is wrong, as another error says. -/
  | nested (error : DatabaseError)
  /-- The server could not be talked to. -/
  | communication (cause : String)
  deriving DecidableEq, Repr

namespace DatabaseError

/-- The text of a database error. -/
def message : DatabaseError → String
  | .poolTimedOut => "pool timed out while waiting for an open connection"
  | .reported message => s!"error returned from database: {message}"
  | .configuration cause => s!"error with configuration: {cause}"
  | .nested error => s!"error with configuration: {error.message}"
  | .communication cause => s!"error communicating with database: {cause}"

/-- The texts of what lies behind the error, the nearest cause first. -/
def causes : DatabaseError → List String
  | .poolTimedOut => []
  | .reported message => [message]
  | .configuration cause => [cause]
  | .nested error => error.message :: error.causes
  | .communication cause => [cause]

end DatabaseError

/-- How a field of a record breaks a rule of its column. -/
inductive Violation where
  | noSuchColumn
  | nullValue
  /-- The value has more characters than the column's limit. -/
  | tooLong (limit : Nat)
  /-- The value does not belong to the column's domain. -/
  | notEnumerant (name : String)
  | stated (reason : String)
  deriving DecidableEq, Repr

/-- The text of a violation. -/
def Violation.message : Violation → String
  | .noSuchColumn => "no such column"
  | .nullValue => "null value violates not-null constraint"
  | .tooLong limit => s!"value too long for varchar({limit})"
  | .notEnumerant name => s!"{name} is not a valid enumerant"
  | .stated reason => reason

/-- Why a store rejects rows that break no rule. -/
inductive Rejection where
  /-- The attempt with this number was declared to fail. -/
  | injectedRow (row : Nat)
  /-- The commit was declared to fail. -/
  | injectedCommit
  | stated (reason : String)
  deriving DecidableEq, Repr

/-- The text of a rejection. -/
def Rejection.message : Rejection → String
  | .injectedRow row => s!"injected failure on row {row}"
  | .injectedCommit => "injected failure on commit"
  | .stated reason => reason

/-- Why a call to a store failed. -/
inductive StoreError where
  | database (error : DatabaseError)
  | noTransaction
  | transactionAlreadyOpen
  | typeMismatch (table column expected actual : String)
  | constraintViolation (table column : String) (violation : Violation)
  | rejected (table : String) (rejection : Rejection)
  deriving DecidableEq, Repr

/-- The text of a store error. -/
def StoreError.message : StoreError → String
  | .database error => s!"Database error: {error.message}"
  | .noTransaction => "No transaction is open"
  | .transactionAlreadyOpen => "A transaction is already open"
  | .typeMismatch table column expected actual =>
    s!"Type mismatch for {table}.{column}: expected {expected}, got {actual}"
  | .constraintViolation table column violation =>
    s!"Constraint violation on {table}.{column}: {violation.message}"
  | .rejected table rejection => s!"Insert into {table} rejected: {rejection.message}"

end Seeding
