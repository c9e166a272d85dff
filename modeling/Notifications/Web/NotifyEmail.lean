import Notifications.Go.Values
import Notifications.Interaction.Program

/-!
# The email notification handler

`NotifyEmail.ServeHTTP` takes a database connection, runs `Execute`, and
either hands the error to its error writer or logs the emails counter.
`Execute` asks the notify service to send under a fresh email id and, on
success, writes status 200 and the service's output.  The error writer writes
the error's response or panics, as the repository's `ErrorWriter` does on an
error it does not recognise.
-/

namespace Notifications.Web

open Notifications.Go Notifications.Interaction

/-- The types the handler passes along without looking inside. -/
structure HandlerTypes where
  Connection : Type
  Request : Type
  Context : Type
  Recipe : Type
  EmailID : Type

/-- `NotifyEmail`, as far as its methods read it: the recipe handed to `notify.Execute`. -/
structure NotifyEmail (T : HandlerTypes) where
  recipe : T.Recipe

/-- The calls `ServeHTTP` and `Execute` make. -/
inductive NotifyEmailCall (T : HandlerTypes)
  /-- `handler.database.Connection()`. -/
  | connection
  /-- `postal.NewEmailID()`. -/
  | newEmailID
  /-- `handler.notify.Execute(connection, req, context, id, handler.recipe)`. -/
  | notifyExecute (connection : T.Connection) (request : T.Request) (context : T.Context)
      (emailID : T.EmailID) (recipe : T.Recipe)
  /-- `w.WriteHeader(status)`. -/
  | writeHeader (status : Nat)
  /-- `w.Write(output)`. -/
  | write (body : List UInt8)
  /-- `handler.errorWriter.Write(w, err)`. -/
  | writeError (err : GoError)
  /-- `metrics.NewMetric(kind, data).Log()`. -/
  | logMetric (kind : String) (data : List (String × String))

variable {T : HandlerTypes}

/-- The Go result type of each call; the error writer answers the panic it raised, if any. -/
def NotifyEmailCall.Answer : NotifyEmailCall T → Type
  | .connection => T.Connection
  | .newEmailID => T.EmailID
  | .notifyExecute .. => List UInt8 × Option GoError
  | .writeHeader _ => Unit
  | .write _ => Nat × Option GoError
  | .writeError _ => Option GoPanic
  | .logMetric .. => Unit

abbrev NotifyEmailProgram (T : HandlerTypes) := Program (NotifyEmailCall T) NotifyEmailCall.Answer

/-- `http.StatusOK`. -/
def statusOK : Nat := 200

/-- The data of the counter `ServeHTTP` logs after a successful send. -/
def emailsMetric : List (String × String) := [("name", "notifications.web.emails")]

namespace NotifyEmail

/-- `NotifyEmail.Execute(w, req, connection, context)`. -/
def execute (handler : NotifyEmail T) (request : T.Request) (connection : T.Connection)
    (context : T.Context) : NotifyEmailProgram T (Option GoError) := do
  let emailID ← Program.perform (NotifyEmailCall.newEmailID : NotifyEmailCall T)
  let (output, err) ← Program.perform
    (NotifyEmailCall.notifyExecute connection request context emailID handler.recipe)
  if let some err := err then return some err
  let _ ← Program.perform (NotifyEmailCall.writeHeader statusOK : NotifyEmailCall T)
  let _ ← Program.perform (NotifyEmailCall.write output : NotifyEmailCall T)
  return none

/-- `NotifyEmail.ServeHTTP(w, req, context)`; a panic ends the handler. -/
def serveHTTP (handler : NotifyEmail T) (request : T.Request) (context : T.Context) :
    NotifyEmailProgram T (Except GoPanic Unit) := do
  let connection ← Program.perform (NotifyEmailCall.connection : NotifyEmailCall T)
  if let some err ← handler.execute request connection context then
    if let some panic ← Program.perform (NotifyEmailCall.writeError err : NotifyEmailCall T) then
      return .error panic
    return .ok ()
  let _ ← Program.perform (NotifyEmailCall.logMetric "counter" emailsMetric : NotifyEmailCall T)
  return .ok ()

end NotifyEmail

end Notifications.Web
