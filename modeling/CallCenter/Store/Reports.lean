import CallCenter.Store.Attempts

/-!
# Reports and what is saved of them

An agent reports on an attempt with a callback, and the program passes it to the database in one
of two ways. `CallbackReporting` ends the processing through `cc_attempt_end_reporting`, and then
adds the callback's new numbers to the member; `SchemaResult` saves the result of a schema, or a
draft of a report, through `cc_attempt_schema_result`. Both pass the callback's fields on one by
one, with numbers that the database's `int` holds.
-/

namespace CallCenter.Store

open Lib

/-- `model.AttemptCallback`, with the fields that reach the two functions. A time is an instant; of
a number to be added, the type. -/
structure AttemptCallback where
  status : String
  nextCallAt : Option Int
  expireAt : Option Int
  description : String
  vars : Vars
  stickyAgentId : Option Int
  excludeCurrentCommunication : Option Bool
  waitBetweenRetries : Option Int
  onlyCurrentCommunication : Option Bool
  addCommunications : List Int := []

/-- `JsonVariables`: no variables are `NULL`. -/
def AttemptCallback.jsonVariables (callback : AttemptCallback) : Option Vars :=
  if callback.vars.isEmpty then none else some callback.vars

structure ReportingConfig where
  waitBetween : Int
  maxAttempts : Int
  perNumbers : Bool

/-- What `CallbackReporting` passes. The callback's own wait is converted to an `uint64`, and a time
in UTC loses its zone. -/
def callbackReportingArgs (id : Int) (callback : AttemptCallback) (cfg : ReportingConfig) :
    ReportArgs where
  id := id
  status := some callback.status
  description := some callback.description
  expireAt := callback.expireAt
  nextOfferingAt := callback.nextCallAt
  stickyAgentId := callback.stickyAgentId
  vars := callback.jsonVariables
  maxAttempts := cfg.maxAttempts
  waitBetweenRetries := (callback.waitBetweenRetries.map (· % 2 ^ 64)).getD cfg.waitBetween
  excludeDest := callback.excludeCurrentCommunication.getD false
  perNumber := cfg.perNumbers
  onlyCurrentCommunication := callback.onlyCurrentCommunication.getD false

def addCommunications (now : Int) (memberId : Option Int) (types : List Int) (db : Db) : Db :=
  db.updateMember now memberId fun m => { m with
    communications := m.communications.map (· ++ types.map fun t =>
      ⟨some t, none, none, none, none⟩) }

/-- `CallbackReporting`; `none` is its error, after which nothing is written. It finds no attempt
when there is none or when it has left. -/
def callbackReporting (now id : Int) (callback : AttemptCallback) (cfg : ReportingConfig)
    (db : Db) :
    Option Db :=
  match db.attempts.get? id, ccAttemptEndReporting now (callbackReportingArgs id callback cfg) db
    with
  | some a, .ok db' =>
    if a.state = .leaving then none
    else if callback.addCommunications = [] then some db'
    else some (addCommunications now a.memberId callback.addCommunications db')
  | _, _ => none

def schemaResultArgs (id : Int) (callback : AttemptCallback) (cfg : ReportingConfig) :
    ReportArgs where
  id := id
  status := some callback.status
  description := some callback.description
  expireAt := callback.expireAt
  nextOfferingAt := callback.nextCallAt
  stickyAgentId := callback.stickyAgentId
  vars := callback.jsonVariables
  maxAttempts := cfg.maxAttempts
  waitBetweenRetries := cfg.waitBetween
  excludeDest := callback.excludeCurrentCommunication.getD false
  perNumber := cfg.perNumbers
  onlyCurrentCommunication := false

def schemaResult (now id : Int) (callback : AttemptCallback) (cfg : ReportingConfig) (db : Db) :
    Option Db :=
  if (db.attempts.get? id).isSome then
    some (ccAttemptSchemaResult now (schemaResultArgs id callback cfg) db)
  else none

def setTimeoutError (id : Int) (db : Db) : Db :=
  db.onAttempt id (fun _ => true)
    (fun a => { a with schemaProcessing := false, result := some "timeout error" })
    fun _ _ db => db

end CallCenter.Store
