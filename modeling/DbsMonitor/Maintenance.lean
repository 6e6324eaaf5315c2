import DbsMonitor.AlertRules
import DbsMonitor.Machine

/-!
# Maintenance windows

Whether a window is in effect is decided in three places: the status that the API reports, the match
that suppresses notifications, and the guard of the statement that ends it, which sets the end of
the window to the time of the request. A request is served in one piece.
-/

namespace DbsMonitor

open Accounts (UserId)

structure MaintenanceWindowColumns where
  startsAt : ℤ
  endsAt : ℤ
  reason : String
  createdBy : UserId
  createdAt : ℤ
  updatedAt : ℤ
  updatedBy : UserId
  endedBy : Option UserId := none
  deletedAt : Option ℤ := none
  deletedBy : Option UserId := none
  deriving DecidableEq, Repr

namespace MaintenanceWindowColumns

def stored (columns : MaintenanceWindowColumns) : MaintenanceWindowColumns :=
  { columns with
    startsAt := timestamptz columns.startsAt
    endsAt := timestamptz columns.endsAt
    createdAt := timestamptz columns.createdAt
    updatedAt := timestamptz columns.updatedAt
    deletedAt := columns.deletedAt.map timestamptz }

/-- The constraints of `maintenance_window`: `btrim` takes blanks off both ends. -/
def Checks (columns : MaintenanceWindowColumns) : Prop :=
  columns.startsAt < columns.endsAt ∧ columns.reason.toList.any (· ≠ ' ')
    ∧ columns.deletedBy.isNone = columns.deletedAt.isNone

instance (columns : MaintenanceWindowColumns) : Decidable columns.Checks :=
  inferInstanceAs (Decidable (_ ∧ _))

end MaintenanceWindowColumns

structure MaintenanceWindowRow extends MaintenanceWindowColumns where
  checks : toMaintenanceWindowColumns.Checks
  startsAt_stored : timestamptz startsAt = startsAt
  endsAt_stored : timestamptz endsAt = endsAt

/-- What an `INSERT` or an `UPDATE` leaves of the columns; `none` when a constraint is violated. -/
def MaintenanceWindowColumns.write (columns : MaintenanceWindowColumns) :
    Option MaintenanceWindowRow :=
  if h : columns.stored.Checks then
    some ⟨columns.stored, h, timestamptz_timestamptz _, timestamptz_timestamptz _⟩
  else none

structure MaintenanceTables where
  instances : List InstanceId := []
  windows : AList fun _ : String => MaintenanceWindowRow := ∅
  scopes : List (String × InstanceId) := []

structure MaintenanceWindowInput where
  instanceIds : List InstanceId
  startsAt : ℤ
  endsAt : ℤ
  reason : String
  deriving DecidableEq, Repr

/-- `id` of a window that is created is the identifier that is drawn for it. -/
inductive MaintenanceRequest
  | createMaintenanceWindow (id : String) (input : Option MaintenanceWindowInput)
  | updateMaintenanceWindow (id : String) (input : Option MaintenanceWindowInput)
  | endMaintenanceWindow (id : String)
  | deleteMaintenanceWindow (id : String)
  deriving DecidableEq, Repr

inductive MaintenanceStatus
  | scheduled
  | active
  | ended
  deriving DecidableEq, Repr

structure ApiMaintenanceWindow where
  id : String
  instanceIds : List InstanceId
  startsAt : ℤ
  endsAt : ℤ
  reason : String
  createdBy : UserId
  status : MaintenanceStatus
  createdAt : ℤ
  updatedAt : ℤ
  deriving DecidableEq, Repr

inductive MaintenanceResponse
  | created (window : ApiMaintenanceWindow)
  | ok (window : ApiMaintenanceWindow)
  | noContent
  | validationFailed (message : String)
  | conflict (message : String)
  | notFound (message : String)
  | failed
  deriving DecidableEq, Repr

def MaintenanceResponse.succeeded : MaintenanceResponse → Bool
  | created _ | ok _ | noContent => true
  | validationFailed _ | conflict _ | notFound _ | failed => false

def invalidMaintenanceWindowMessage : String :=
  "instances, a future end time, ordered bounds, and a reason are required"

/-- The values are those of the input, with the blanks around the reason taken off. -/
def parseMaintenanceWindowInput (input : Option MaintenanceWindowInput) (now : ℤ) :
    Option MaintenanceWindowInput :=
  input.bind fun input =>
    if input.instanceIds.isEmpty || !(input.startsAt < input.endsAt) || !(now < input.endsAt) then
      none
    else if trimSpace input.reason = "" then none
    else if !decide input.instanceIds.Nodup then none
    else some { input with reason := trimSpace input.reason }

namespace MaintenanceTables

variable (tables : MaintenanceTables)

def getMaintenanceWindow (id : String) : Option MaintenanceWindowRow :=
  (tables.windows.lookup id).filter fun row => row.deletedAt.isNone

def listMaintenanceWindows : List (String × MaintenanceWindowRow) :=
  ((tables.windows.entries.filter fun entry => entry.2.deletedAt.isNone).map
    fun entry => (entry.1, entry.2)).insertionSort fun window window' =>
      window'.2.startsAt < window.2.startsAt
        ∨ window.2.startsAt = window'.2.startsAt ∧ window.1 ≤ window'.1

def listMaintenanceWindowInstances (id : String) : List InstanceId :=
  ((tables.scopes.filter fun scope => scope.1 = id).map Prod.snd).insertionSort (· ≤ ·)

def listMaintenanceWindowsForInstance (instanceId : InstanceId) :
    List (String × MaintenanceWindowRow) :=
  ((tables.windows.entries.filter fun entry =>
    (entry.1, instanceId) ∈ tables.scopes && entry.2.deletedAt.isNone).map
      fun entry => (entry.1, entry.2)).insertionSort fun window window' =>
        window.2.endsAt < window'.2.endsAt
          ∨ window.2.endsAt = window'.2.endsAt ∧ window.1 ≤ window'.1

def maintenanceWindowInstancesExist (instanceIds : List InstanceId) : Bool :=
  instanceIds.all (· ∈ tables.instances)

def toAPIMaintenanceWindow (id : String) (row : MaintenanceWindowRow) (now : ℤ) :
    ApiMaintenanceWindow where
  id := id
  instanceIds := tables.listMaintenanceWindowInstances id
  startsAt := row.startsAt
  endsAt := row.endsAt
  reason := row.reason
  createdBy := row.createdBy
  status :=
    if now < row.startsAt then .scheduled else if now < row.endsAt then .active else .ended
  createdAt := row.createdAt
  updatedAt := row.updatedAt

def reported (now : ℤ) : List ApiMaintenanceWindow :=
  tables.listMaintenanceWindows.map fun window =>
    tables.toAPIMaintenanceWindow window.1 window.2 now

def maintenanceWindowScopes (instanceId : InstanceId)
    (rows : List (String × MaintenanceWindowRow)) : List MaintenanceWindow :=
  rows.map fun row =>
    { id := row.1, instanceIds := [instanceId], startsAt := row.2.startsAt, endsAt := row.2.endsAt
      deleted := row.2.deletedAt.isSome }

def scopesOf (instanceId : InstanceId) : List MaintenanceWindow :=
  maintenanceWindowScopes instanceId (tables.listMaintenanceWindowsForInstance instanceId)

variable (now : ℤ) (actor : UserId)

def createMaintenanceWindow (id : String) (input : Option MaintenanceWindowInput) :
    MaintenanceTables × MaintenanceResponse :=
  match parseMaintenanceWindowInput input now with
  | none => (tables, .validationFailed invalidMaintenanceWindowMessage)
  | some values =>
    if !tables.maintenanceWindowInstancesExist values.instanceIds then
      (tables, .validationFailed "all instances must exist")
    else if id ∈ tables.windows then (tables, .failed)
    else
      match MaintenanceWindowColumns.write
          { startsAt := values.startsAt, endsAt := values.endsAt, reason := values.reason
            createdBy := actor, createdAt := now, updatedAt := now, updatedBy := actor } with
      | none => (tables, .failed)
      | some row =>
        let created : MaintenanceTables :=
          { tables with
            windows := tables.windows.insert id row
            scopes := tables.scopes ++ values.instanceIds.map (id, ·) }
        (created, .created (created.toAPIMaintenanceWindow id row now))

/-- The statement matches a window that is not deleted and has not ended. -/
def updateMaintenanceWindow (id : String) (input : Option MaintenanceWindowInput) :
    MaintenanceTables × MaintenanceResponse :=
  match parseMaintenanceWindowInput input now with
  | none => (tables, .validationFailed invalidMaintenanceWindowMessage)
  | some values =>
    if !tables.maintenanceWindowInstancesExist values.instanceIds then
      (tables, .validationFailed "all instances must exist")
    else
      match tables.getMaintenanceWindow id with
      | none => (tables, .notFound "maintenance window not found")
      | some row =>
        if !(timestamptz now < row.endsAt) then
          (tables, .conflict "ended maintenance windows cannot be edited")
        else
          match MaintenanceWindowColumns.write
              { row.toMaintenanceWindowColumns with
                startsAt := values.startsAt, endsAt := values.endsAt, reason := values.reason
                updatedAt := now, updatedBy := actor } with
          | none => (tables, .failed)
          | some row' =>
            let updated : MaintenanceTables :=
              { tables with
                windows := tables.windows.insert id row'
                scopes := (tables.scopes.filter fun scope => scope.1 ≠ id)
                  ++ values.instanceIds.map (id, ·) }
            (updated, .ok (updated.toAPIMaintenanceWindow id row' now))

/-- The statement matches a window that is not deleted, has started and has not ended. -/
def endMaintenanceWindow (id : String) : MaintenanceTables × MaintenanceResponse :=
  match tables.getMaintenanceWindow id with
  | none => (tables, .notFound "maintenance window not found")
  | some row =>
    if !(row.startsAt ≤ timestamptz now && timestamptz now < row.endsAt) then
      (tables, .conflict "maintenance window is not active")
    else
      match MaintenanceWindowColumns.write
          { row.toMaintenanceWindowColumns with
            endsAt := now, updatedAt := now, updatedBy := actor, endedBy := some actor } with
      | none => (tables, .failed)
      | some row' =>
        let ended := { tables with windows := tables.windows.insert id row' }
        (ended, .ok (ended.toAPIMaintenanceWindow id row' now))

def deleteMaintenanceWindow (id : String) : MaintenanceTables × MaintenanceResponse :=
  match tables.getMaintenanceWindow id with
  | none => (tables, .notFound "maintenance window not found")
  | some row =>
    match MaintenanceWindowColumns.write
        { row.toMaintenanceWindowColumns with
          deletedAt := some now, updatedAt := now, updatedBy := actor
          deletedBy := some actor } with
    | none => (tables, .failed)
    | some row' => ({ tables with windows := tables.windows.insert id row' }, .noContent)

def serve : MaintenanceRequest → MaintenanceTables × MaintenanceResponse
  | .createMaintenanceWindow id input => tables.createMaintenanceWindow now actor id input
  | .updateMaintenanceWindow id input => tables.updateMaintenanceWindow now actor id input
  | .endMaintenanceWindow id => tables.endMaintenanceWindow now actor id
  | .deleteMaintenanceWindow id => tables.deleteMaintenanceWindow now actor id

end MaintenanceTables

inductive MaintenanceAction
  | serve (now : ℤ) (actor : UserId) (request : MaintenanceRequest)
  | createInstance (id : InstanceId)
  | deleteInstance (id : InstanceId)
  deriving DecidableEq, Repr

def MaintenanceTables.step (tables : MaintenanceTables) :
    MaintenanceAction → Option MaintenanceTables
  | .serve now actor request => some (tables.serve now actor request).1
  | .createInstance id => some { tables with instances := id :: tables.instances }
  | .deleteInstance id =>
    some { tables with
      instances := tables.instances.filter (· ≠ id)
      scopes := tables.scopes.filter fun scope => scope.2 ≠ id }

end DbsMonitor
