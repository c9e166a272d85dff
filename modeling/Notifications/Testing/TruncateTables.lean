import Notifications.Go.Values
import Notifications.Interaction.Program

/-!
# Truncating the test database

`testing.TruncateTables` migrates the database to the environment's model
migrations, sets the models up, asserts the database's connection to a
`*db.Connection` and truncates its tables, panicking when the assertion or the
truncation fails.  The environment, the migrator, the model setup and the
database are collaborators.
-/

namespace Notifications.Testing

open Notifications.Go Notifications.Interaction

/-- The database types `TruncateTables` passes along: `*db.DB`, its raw
`*sql.DB` and `*db.Connection`. -/
structure DatabaseTypes where
  DB : Type
  RawConnection : Type
  Connection : Type

variable {T : DatabaseTypes}

/-- `application.Environment`, as far as `TruncateTables` reads it. -/
structure Environment where
  modelMigrationsPath : String

/-- A value of the interface type `database.Connection()` returns: a
`*db.Connection`, or a value of another dynamic type (`nil` included). -/
inductive ConnectionValue (T : DatabaseTypes)
  | dbConnection (connection : T.Connection)
  | other (dynamicType : String)

/-- The type assertion `.(*db.Connection)`. -/
def ConnectionValue.asDBConnection : ConnectionValue T → Except GoPanic T.Connection
  | .dbConnection connection => .ok connection
  | .other dynamicType => .error (.interfaceConversion dynamicType "*db.Connection")

/-- The calls `TruncateTables` makes. -/
inductive TruncateCall (T : DatabaseTypes)
  /-- `application.NewEnvironment()`. -/
  | newEnvironment
  /-- `database.RawConnection()`. -/
  | rawConnection (database : T.DB)
  /-- `dbMigrator.Migrate(rawConnection, migrationsPath)`. -/
  | migrate (raw : T.RawConnection) (migrationsPath : String)
  /-- `models.Setup(database)`. -/
  | setup (database : T.DB)
  /-- `database.Connection()`. -/
  | connection (database : T.DB)
  /-- `connection.TruncateTables()`. -/
  | truncateTables (connection : T.Connection)

/-- The Go result type of each call. -/
def TruncateCall.Answer : TruncateCall T → Type
  | .newEnvironment => Environment
  | .rawConnection _ => T.RawConnection
  | .migrate .. => Unit
  | .setup _ => Unit
  | .connection _ => ConnectionValue T
  | .truncateTables _ => Option GoError

abbrev TruncateProgram (T : DatabaseTypes) := Program (TruncateCall T) TruncateCall.Answer

/-- `TruncateTables(database)`; a panic ends it. -/
def truncateTables (database : T.DB) : TruncateProgram T (Except GoPanic Unit) := do
  let env ← Program.perform (TruncateCall.newEnvironment : TruncateCall T)
  let raw ← Program.perform (TruncateCall.rawConnection database)
  let _ ← Program.perform (TruncateCall.migrate raw env.modelMigrationsPath : TruncateCall T)
  let _ ← Program.perform (TruncateCall.setup database)
  match (← Program.perform (TruncateCall.connection database)).asDBConnection with
  | .error panic => return .error panic
  | .ok connection =>
      if let some err ← Program.perform (TruncateCall.truncateTables connection) then
        return .error (.error err)
      return .ok ()

end Notifications.Testing
