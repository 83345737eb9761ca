import HeyKevin.L1Encoding.Iso
import HeyKevin.L2Domain.History
/-!
# Storing an aggregate

`to_dict` and `from_dict` of the aggregate, its records and its outcomes. A
constructor has checked every timestamp, so `_serialize_datetime` cannot fail
here and `toDict` is total.

* `Outcome.fromDict_toDict`, `Record.fromDict_toDict`: exact round trips.
* `ServiceRequest.fromDict_toDict`: `to_dict` sorts the records, so the round
  trip is exact for an aggregate that keeps them in revision order. Commands
  do (`InOrder`).

Line numbers are those of app/services/service_request.py.
-/
namespace HeyKevin.L2

open HeyKevin.Core L1 L1.Text L1.Datetime

variable {P : Python}

def textList (xs : List Str) : Value := .list (xs.map .str)

/-! ## Writing -/

/-- mirrors 98-108 -/
def Outcome.toDict (o : Outcome P) : Dict :=
  [("request_id", .str o.data.request_id),
    ("operation", .text o.data.operation.value),
    ("revision", .int o.data.revision),
    ("status", .text o.data.status.value),
    ("services", textList o.data.services),
    ("scheduled_start", .str (zuluText o.data.scheduled_start)),
    ("scheduled_end", .str (zuluText o.data.scheduled_end)),
    ("applied_at", .str (zuluText o.data.applied_at))]

/-- mirrors 169-174 -/
def Record.toDict (r : Record P) : Dict :=
  [("idempotency_key", .str r.data.idempotency_key),
    ("command_fingerprint", .str r.data.command_fingerprint),
    ("outcome", .dict r.data.outcome.toDict)]

/-- mirrors 439-460 -/
def ServiceRequest.toDict (r : ServiceRequest P) : Dict :=
  [("schema_version", .int r.data.schema_version),
    ("request_id", .str r.data.request_id),
    ("status", .text r.data.status.value),
    ("revision", .int r.data.revision),
    ("services", textList r.data.services),
    ("scheduled_start", .str (zuluText r.data.scheduled_start)),
    ("scheduled_end", .str (zuluText r.data.scheduled_end)),
    ("created_at", .str (zuluText r.data.created_at)),
    ("updated_at", .str (zuluText r.data.updated_at)),
    ("idempotency_records", .list
      ((RequestData.sortedRecords r.data.idempotency_records).map fun x => .dict x.toDict))]

/-! ## Reading -/

/-- mirrors 851-860 -/
def requireExactKeys (data : Value) (expected : List String) (field_name : String) :
    Except Err Dict :=
  match data with
  | .dict data => do
    ensure (Dict.keysAre data expected) (.validation s!"{field_name} has an unexpected schema")
    return data
  | _ => .error (.validation s!"{field_name} must be an object")

/-- mirrors 863-866 -/
def requireText (value : Value) (field_name : String) : Except Err Str :=
  match value with
  | .str s => .ok s
  | _ => .error (.validation s!"{field_name} must be a string")

/-- mirrors 869-872 -/
def requireInteger (value : Value) (field_name : String) : Except Err ℤ :=
  match value with
  | .number (.int z) => .ok z
  | _ => .error (.validation s!"{field_name} must be an integer")

/-- mirrors 875-881 -/
def parseOperation (value : Value) : Except Err Operation :=
  match value with
  | .str s => require
      ([Operation.CREATE, .CANCEL, .RESCHEDULE, .ADD_SERVICE].find? fun o => py o.value = s)
      (.validation "operation is unsupported")
  | _ => .error (.validation "operation must be a string")

/-- mirrors 884-890 -/
def parseStatus (value : Value) : Except Err Status :=
  match value with
  | .str s => require ([Status.OPEN, .CANCELLED].find? fun o => py o.value = s)
      (.validation "status is unsupported")
  | _ => .error (.validation "status must be a string")

variable (P)

/-- mirrors 791-802 -/
def parseDatetime (value : Value) (field_name : String) : Except Err DateTime :=
  match value with
  | .str s => do
    let parsed ← require (fromisoformat P s)
      (.validation s!"{field_name} must be a valid ISO-8601 datetime")
    normalizeUtc parsed field_name
  | _ => .error (.validation s!"{field_name} must be an ISO-8601 string")

def normalizeStoredLabel : Value → Except Err Str
  | .str s => normalizeServiceLabel P s
  | _ => .error (.typeError "service label must be a string")

/-- mirrors 734-737 -/
def restoreServices (value : Value) : Except Err (List Str) :=
  match value with
  | .list xs => normalizeServicesWith P (normalizeStoredLabel P) xs
  | _ => .error (.validation "services must be a list")

/-- mirrors 110-135 -/
def Outcome.fromDict (value : Value) : Except Err (Outcome P) := do
  let data ← requireExactKeys value ["request_id", "operation", "revision", "status", "services",
    "scheduled_start", "scheduled_end", "applied_at"] "command outcome"
  let request_id ← requireText (data.get "request_id") "request_id"
  let operation ← parseOperation (data.get "operation")
  let revision ← requireInteger (data.get "revision") "revision"
  let status ← parseStatus (data.get "status")
  let services ← restoreServices P (data.get "services")
  let scheduled_start ← parseDatetime P (data.get "scheduled_start") "scheduled_start"
  let scheduled_end ← parseDatetime P (data.get "scheduled_end") "scheduled_end"
  let applied_at ← parseDatetime P (data.get "applied_at") "applied_at"
  Outcome.make P ⟨request_id, operation, revision, status, services, scheduled_start,
    scheduled_end, applied_at⟩

def Value.isDict : Value → Bool
  | .dict _ => true
  | _ => false

/-- mirrors 176-193 -/
def Record.fromDict (value : Value) : Except Err (Record P) := do
  let data ← requireExactKeys value ["idempotency_key", "command_fingerprint", "outcome"]
    "idempotency record"
  ensure (Value.isDict (data.get "outcome"))
    (.validation "idempotency record outcome must be an object")
  let idempotency_key ← requireText (data.get "idempotency_key") "idempotency_key"
  let command_fingerprint ← requireText (data.get "command_fingerprint") "command_fingerprint"
  let outcome ← Outcome.fromDict P (data.get "outcome")
  Record.make P ⟨idempotency_key, command_fingerprint, outcome⟩

/-- The list of objects under `idempotency_records`. -/
def requireRecords (value : Value) : Except Err (List Value) :=
  match value with
  | .list xs => do
    ensure (xs.all Value.isDict) (.validation "idempotency_records must be a list of objects")
    return xs
  | _ => .error (.validation "idempotency_records must be a list of objects")

/-- mirrors 472-503 -/
def ServiceRequest.fromDict (value : Value) : Except Err (ServiceRequest P) := do
  let data ← requireExactKeys value ["schema_version", "request_id", "status", "revision",
    "services", "scheduled_start", "scheduled_end", "created_at", "updated_at",
    "idempotency_records"] "service request"
  let records ← requireRecords (data.get "idempotency_records")
  let schema_version ← requireInteger (data.get "schema_version") "schema_version"
  let request_id ← requireText (data.get "request_id") "request_id"
  let status ← parseStatus (data.get "status")
  let revision ← requireInteger (data.get "revision") "revision"
  let services ← restoreServices P (data.get "services")
  let scheduled_start ← parseDatetime P (data.get "scheduled_start") "scheduled_start"
  let scheduled_end ← parseDatetime P (data.get "scheduled_end") "scheduled_end"
  let created_at ← parseDatetime P (data.get "created_at") "created_at"
  let updated_at ← parseDatetime P (data.get "updated_at") "updated_at"
  let idempotency_records ← records.mapM (Record.fromDict P)
  ServiceRequest.make P ⟨request_id, status, revision, services, scheduled_start, scheduled_end,
    created_at, updated_at, idempotency_records, schema_version⟩

variable {P}

/-! ## Round trips -/

@[simp] theorem parseOperation_value (o : Operation) :
    parseOperation (.text o.value) = .ok o := by
  cases o <;> decide

@[simp] theorem parseStatus_value (s : Status) : parseStatus (.text s.value) = .ok s := by
  cases s <;> decide

@[simp] theorem parseDatetime_zuluText {t : DateTime} (h : t.IsUtc) (field_name : String) :
    parseDatetime P (.str (zuluText t)) field_name = .ok t := by
  simp only [parseDatetime, fromisoformat_zuluText h, require, ok_bind, normalizeUtc_of_isUtc h]

@[simp] theorem restoreServices_textList {values : List Str} (h : CanonicalServices P values) :
    restoreServices P (textList values) = .ok values :=
  normalizeServicesWith_of_canonical h fun _ => rfl

theorem Outcome.make_data (o : Outcome P) : Outcome.make P o.data = .ok o :=
  Outcome.make_eq_ok.mpr rfl

theorem Record.make_data (r : Record P) : Record.make P r.data = .ok r :=
  Record.make_eq_ok.mpr rfl

theorem ServiceRequest.make_data (r : ServiceRequest P) : ServiceRequest.make P r.data = .ok r :=
  ServiceRequest.make_eq_ok.mpr rfl

@[simp] theorem Outcome.fromDict_toDict (o : Outcome P) :
    Outcome.fromDict P (.dict o.toDict) = .ok o := by
  obtain ⟨-, -, hservices, hsched, happlied⟩ := o.isValid
  obtain ⟨hstart, hend, -⟩ := validateCanonicalSchedule_eq_ok.mp hsched
  have hkeys : requireExactKeys (.dict o.toDict) ["request_id", "operation", "revision", "status",
      "services", "scheduled_start", "scheduled_end", "applied_at"] "command outcome" =
      .ok o.toDict := rfl
  rw [fromDict, hkeys]
  simp only [toDict, Dict.get_cons, String.reduceEq, if_true, if_false, ok_bind, requireText,
    requireInteger, Value.int, parseOperation_value, parseStatus_value,
    restoreServices_textList hservices, parseDatetime_zuluText hstart, parseDatetime_zuluText hend,
    parseDatetime_zuluText happlied]
  exact o.make_data

@[simp] theorem Record.fromDict_toDict (r : Record P) :
    Record.fromDict P (.dict r.toDict) = .ok r := by
  have hkeys : requireExactKeys (.dict r.toDict) ["idempotency_key", "command_fingerprint",
      "outcome"] "idempotency record" = .ok r.toDict := rfl
  rw [fromDict, hkeys]
  simp only [toDict, Dict.get_cons, String.reduceEq, if_true, if_false, ok_bind, requireText,
    Value.isDict, ensure, Outcome.fromDict_toDict]
  exact r.make_data

def ServiceRequest.InOrder (r : ServiceRequest P) : Prop :=
  RequestData.sortedRecords r.data.idempotency_records = r.data.idempotency_records

/-- **An aggregate is read back from what it stores.** -/
theorem ServiceRequest.fromDict_toDict {r : ServiceRequest P} (h : r.InOrder) :
    ServiceRequest.fromDict P (.dict r.toDict) = .ok r := by
  have hv := r.isValid
  obtain ⟨hstart, hend, -⟩ := validateCanonicalSchedule_eq_ok.mp hv.schedule
  have hkeys : requireExactKeys (.dict r.toDict) ["schema_version", "request_id", "status",
      "revision", "services", "scheduled_start", "scheduled_end", "created_at", "updated_at",
      "idempotency_records"] "service request" = .ok r.toDict := rfl
  have hlist : requireRecords (.list (r.data.idempotency_records.map fun x => .dict x.toDict)) =
      .ok (r.data.idempotency_records.map fun x => .dict x.toDict) := by
    simp [requireRecords, Value.isDict, ensure]
  have hsorted : RequestData.sortedRecords r.data.idempotency_records =
      r.data.idempotency_records := h
  have hrecords : (r.data.idempotency_records.map fun x => Value.dict x.toDict).mapM
      (Record.fromDict P) = .ok r.data.idempotency_records := by
    rw [List.mapM_map]
    exact mapM_eq_self.mpr fun x _ => Record.fromDict_toDict x
  rw [fromDict, hkeys]
  simp only [toDict, hsorted, Dict.get_cons, String.reduceEq, if_true, if_false, ok_bind, requireText,
    requireInteger, Value.int, parseStatus_value, restoreServices_textList hv.services,
    parseDatetime_zuluText hstart, parseDatetime_zuluText hend,
    parseDatetime_zuluText hv.created_at, parseDatetime_zuluText hv.updated_at, hlist, hrecords]
  exact r.make_data

theorem Command.Applied.inOrder {s : Option (ServiceRequest P)} {n : Normalized}
    {result : CommandResult P} (h : Command.Applied s n result) (hs : ∀ r, s = some r → r.InOrder) :
    result.request.InOrder := by
  obtain ⟨record, hrecord, hrecords⟩ := h.records
  have hsorted : RequestData.sortedRecords (recordsOf s) = recordsOf s := by
    cases s with
    | none => rfl
    | some r => exact hs r rfl
  have hlast : ∀ x ∈ recordsOf s,
      x.data.outcome.data.revision ≤ record.data.outcome.data.revision := by
    intro x hx
    cases s with
    | none => cases hx
    | some r =>
      have hle := (r.isValid.record_revisions.2 x hx).2
      have hrev : n.revision = r.data.revision := h.revision
      have := h.outcome_revision
      rw [hrecord]
      simp only
      omega
  rw [ServiceRequest.InOrder, hrecords, RequestData.sortedRecords_append hlast, hsorted]

end HeyKevin.L2
