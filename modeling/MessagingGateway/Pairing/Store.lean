import MessagingGateway.Relational.Runs
import MessagingGateway.Store.Leases

/-!
# Pairing and the connections table

A connection is created unpaired, is paired by an attempt that any replica may
start, take over when it is stale, commit or give up, and is marked, quarantined
and suspended by the operations of `Store.Leases`. Those operations read the
columns of `ConnectionRow`; the remaining columns of the row are kept beside it
here. The `CHECK` constraints and the unique key of the table are fields of
`PhoneDatabase`, and every statement that would break one is rejected.
-/

namespace MessagingGateway.Pairing

open Relational Store

def errInvalidTenantID : Err := ⟨"invalid tenant ID", []⟩

def errInvalidFingerprint : Err := ⟨"invalid provider device fingerprint", []⟩

def errConnectionQuotaExceeded : Err := ⟨"tenant connection quota exceeded", []⟩

def errTenantSuspended : Err := ⟨"tenant is suspended", []⟩

def errAttemptActive : Err := ⟨"a pairing attempt is already active", []⟩

def errAttemptSuperseded : Err := ⟨"pairing attempt no longer owns the connection", []⟩

def pairingIDMinLength : Nat := 8

def pairingIDMaxLength : Nat := 128

def maxAttemptTTL : Nat := 86400000000

def defaultMaxConnectionsPerTenant : Nat := 128

def validAttemptTTL (ttl : Nat) : Bool := 0 < ttl && ttl ≤ maxAttemptTTL

def pairingChar (c : Char) : Bool := c.isAlpha || c.isDigit || c == '-' || c == '_'

def validPairingID (value : String) : Bool :=
  pairingIDMinLength ≤ value.utf8ByteSize && value.utf8ByteSize ≤ pairingIDMaxLength &&
    value.toList.all pairingChar

/-- The columns of `connections` that `ConnectionRow` leaves out. -/
structure PairingColumns where
  connectionId : String
  name : String
  providerDeviceFingerprint : Option Bytes := none
  pairingPriorState : Option ConnectionState := none
  pairingStartedAt : Option Time := none
  pairingAttemptId : Option String := none
  deriving DecidableEq

/-- Both halves of a row of `connections`. -/
abbrev Phone := ConnectionRow × PairingColumns

/-! ### The constraints of the table -/

def PairingColumns.fingerprinted (k : PairingColumns) : Bool :=
  k.providerDeviceFingerprint.any fun fingerprint => fingerprint.length == 32

def fingerprintMatchesState (r : ConnectionRow) (k : PairingColumns) : Bool :=
  match r.state with
  | .unpaired => k.providerDeviceFingerprint.isNone
  | .pairing => k.providerDeviceFingerprint.isNone || k.fingerprinted
  | .suspended =>
    k.fingerprinted ||
      (r.tenantSuspendPriorState == some .unpaired && k.providerDeviceFingerprint.isNone)
  | .connected | .degraded | .reauthorizationRequired | .disconnected => k.fingerprinted

def notBlank (value : String) : Bool := value.toList.any (· != ' ')

def reauthorizationEventRequired (r : ConnectionRow) : Bool :=
  r.state != .reauthorizationRequired || r.reauthorizationEventId.any notBlank

def pairable (state : ConnectionState) : Bool :=
  state == .unpaired || state == .reauthorizationRequired

def pairingMetadataRequired (r : ConnectionRow) (k : PairingColumns) : Bool :=
  if r.state = .pairing then
    k.pairingAttemptId.any validPairingID && k.pairingPriorState.any pairable &&
      k.pairingStartedAt.isSome
  else k.pairingAttemptId.isNone && k.pairingPriorState.isNone && k.pairingStartedAt.isNone

def suspendPriorState (r : ConnectionRow) : Bool := r.tenantSuspendPriorState != some .pairing

def rowChecked (r : ConnectionRow) (k : PairingColumns) : Bool :=
  fingerprintMatchesState r k && reauthorizationEventRequired r && pairingMetadataRequired r k &&
    suspendPriorState r

/-- Each row is there with both halves and passes its checks. -/
def rowsChecked (connections : Table ConnectionRow.connectionId)
    (columns : Table PairingColumns.connectionId) : Bool :=
  (connections.rows.all fun r => (columns.find? r.connectionId).any (rowChecked r)) &&
    columns.rows.all fun k => (connections.find? k.connectionId).isSome

def fingerprintsUnique (columns : Table PairingColumns.connectionId) : Bool :=
  columns.rows.all fun k => columns.rows.all fun l =>
    k.providerDeviceFingerprint.isNone ||
      k.providerDeviceFingerprint != l.providerDeviceFingerprint ||
      k.connectionId == l.connectionId

structure PhoneDatabase where
  gateway : Database
  maxConnections : Nat := defaultMaxConnectionsPerTenant
  columns : Table PairingColumns.connectionId := ∅
  checked : rowsChecked gateway.fleet.connections columns = true := by decide
  unique : fingerprintsUnique columns = true := by decide
  deriving DecidableEq

def newTenant (tenantId : String) : PhoneDatabase where
  gateway := { tenantId := tenantId }
  checked := rfl

namespace PhoneDatabase

abbrev connections (db : PhoneDatabase) : Table ConnectionRow.connectionId :=
  db.gateway.fleet.connections

def phone (db : PhoneDatabase) (connectionId : String) : Option Phone :=
  (db.connections.find? connectionId).bind fun r =>
    (db.columns.find? connectionId).map fun k => (r, k)

/-- What a statement leaves, unless it violates a constraint of the table. -/
def store (db : PhoneDatabase) (operation : String) (gateway : Database)
    (columns : Table PairingColumns.connectionId) : Tx PhoneDatabase :=
  if hunique : fingerprintsUnique columns = true then
    if hchecked : rowsChecked gateway.fleet.connections columns = true then
      .ok
        { gateway := gateway
          maxConnections := db.maxConnections
          columns := columns
          checked := hchecked
          unique := hunique }
    else .error (checkViolation operation)
  else .error (uniqueViolation operation)

end PhoneDatabase

/-- An `UPDATE connections` statement: the rows it selects and what it makes of
both halves of them. -/
structure ConnectionUpdate where
  selects : ConnectionRow → PairingColumns → Bool
  row : ConnectionRow → PairingColumns → ConnectionRow
  columns : ConnectionRow → PairingColumns → PairingColumns
  row_connectionId : ∀ r k, (row r k).connectionId = r.connectionId
  columns_connectionId : ∀ r k, (columns r k).connectionId = k.connectionId

namespace PhoneDatabase

def update (db : PhoneDatabase) (operation : String) (statement : ConnectionUpdate) :
    Tx PhoneDatabase :=
  let connections := db.connections.update
    (fun r => (db.columns.find? r.connectionId).any (statement.selects r))
    (fun r => ((db.columns.find? r.connectionId).map (statement.row r)).getD r)
    (fun r => by cases db.columns.find? r.connectionId <;> simp [statement.row_connectionId])
  let columns := db.columns.update
    (fun k => (db.connections.find? k.connectionId).any (statement.selects · k))
    (fun k => ((db.connections.find? k.connectionId).map (statement.columns · k)).getD k)
    (fun k => by
      cases db.connections.find? k.connectionId <;> simp [statement.columns_connectionId])
  db.store operation (db.gateway.setConnections connections) columns

def affected (db : PhoneDatabase) (statement : ConnectionUpdate) : Nat :=
  (db.connections.select fun r =>
    (db.columns.find? r.connectionId).any (statement.selects r)).length

end PhoneDatabase

/-- `SET state = ...`; no statement below meets a row that the tenant's suspension
holds, on which the schema would reject it. -/
def setState (r : ConnectionRow) (state : ConnectionState) : ConnectionRow :=
  if h : r.tenantSuspendPriorState = none then
    { r with state := state, suspensionState := .inl h }
  else r

@[simp] theorem setState_connectionId (r : ConnectionRow) (state : ConnectionState) :
    (setState r state).connectionId = r.connectionId := by
  unfold setState
  split <;> rfl

/-! ### Creating a connection -/

def validFingerprintForState (state : ConnectionState) (fingerprint : Bytes) : Bool :=
  match state with
  | .unpaired => fingerprint.length == 0
  | .pairing => fingerprint.length == 0 || fingerprint.length == 32
  | _ => fingerprint.length == 32

/-- The argument of `SaveConnection`, of the tenant it is called for. -/
structure ConnectionRecord where
  connectionId : String
  name : String
  state : ConnectionState := .unpaired
  providerDeviceFingerprint : Bytes := []
  deriving DecidableEq

theorem ConnectionRecord.unsuspended (record : ConnectionRecord) :
    (none : Option ConnectionState) = none ∨ record.state = .suspended := .inl rfl

def ConnectionRecord.overwrite (record : ConnectionRecord) : ConnectionUpdate where
  selects r _ := r.connectionId == record.connectionId
  row r _ := setState r record.state
  columns _ k :=
    { k with
      name := record.name
      providerDeviceFingerprint :=
        if record.providerDeviceFingerprint = [] then none
        else some record.providerDeviceFingerprint }
  row_connectionId r _ := setState_connectionId r record.state
  columns_connectionId _ _ := rfl

def ConnectionRecord.insert (record : ConnectionRecord) (db : PhoneDatabase) :
    Tx PhoneDatabase := do
  let connections ← orFail
    (db.connections.insert { connectionId := record.connectionId, state := record.state
                             suspensionState := record.unsuspended })
    (uniqueViolation "save connection")
  let columns ← orFail
    (db.columns.insert
      { connectionId := record.connectionId
        name := record.name
        providerDeviceFingerprint :=
          if record.providerDeviceFingerprint = [] then none
          else some record.providerDeviceFingerprint })
    (uniqueViolation "save connection")
  db.store "save connection" (db.gateway.setConnections connections) columns

def saveConnection (record : ConnectionRecord) (db : PhoneDatabase) : Tx PhoneDatabase := do
  require (db.gateway.tenantId != "") errInvalidTenantID
  require (record.connectionId != "") Sentinel.invalidIdentifier.err
  require (record.state != .pairing && record.state != .reauthorizationRequired)
    Sentinel.invalidConnectionState.err
  require (validFingerprintForState record.state record.providerDeviceFingerprint)
    errInvalidFingerprint
  let existing := (db.connections.find? record.connectionId).isSome
  require (db.gateway.fleet.tenantStatus != .suspended) errTenantSuspended
  require (1 ≤ db.maxConnections && db.maxConnections ≤ defaultMaxConnectionsPerTenant)
    ⟨"stored tenant connection quota is invalid", []⟩
  require (existing || db.connections.rows.length < db.maxConnections) errConnectionQuotaExceeded
  if existing && record.state != .unpaired then db.update "save connection" record.overwrite
  else record.insert db

/-! ### Attempts -/

/-- `pairing_started_at < clock_timestamp() - ttl`, of a row that can be restored. -/
def stale (now : Time) (ttl : Nat) (r : ConnectionRow) (k : PairingColumns) : Bool :=
  r.state == .pairing && k.pairingStartedAt.any (fun started => started + ttl < now) &&
    k.pairingPriorState.any pairable

/-- `CASE WHEN state = 'pairing' THEN pairing_prior_state ELSE state END`. -/
def priorState (r : ConnectionRow) (k : PairingColumns) : Option ConnectionState :=
  if r.state = .pairing then k.pairingPriorState else some r.state

def beginPairingSQL (now : Time) (connectionId attemptId : String) (ttl : Nat) :
    ConnectionUpdate where
  selects r k := r.connectionId == connectionId && (pairable r.state || stale now ttl r k)
  row r _ := setState r .pairing
  columns r k :=
    { k with
      pairingPriorState := priorState r k
      pairingAttemptId := some attemptId
      pairingStartedAt := some now }
  row_connectionId r _ := setState_connectionId r .pairing
  columns_connectionId _ _ := rfl

def beginPairing (now : Time) (connectionId attemptId : String) (ttl : Nat) (db : PhoneDatabase) :
    Tx (Option ConnectionState × PhoneDatabase) := do
  require (db.gateway.tenantId != "" && connectionId != "" && validPairingID attemptId &&
    validAttemptTTL ttl) Sentinel.invalidConnectionState.err
  require (db.gateway.fleet.tenantStatus == .active) errTenantSuspended
  let (r, k) ← orFail (db.phone connectionId) Sentinel.invalidConnectionState.err
  if (beginPairingSQL now connectionId attemptId ttl).selects r k then
    let db ← db.update "begin pairing" (beginPairingSQL now connectionId attemptId ttl)
    pure (priorState r k, db)
  else if r.state = .pairing then .error errAttemptActive
  else .error Sentinel.invalidConnectionState.err

/-- The row a pairing attempt leaves behind when it is given up. -/
def restoredRow (r : ConnectionRow) (k : PairingColumns) : ConnectionRow :=
  setState r (k.pairingPriorState.getD r.state)

def PairingColumns.clear (k : PairingColumns) : PairingColumns :=
  { k with pairingPriorState := none, pairingStartedAt := none, pairingAttemptId := none }

/-- The `SET` of `restorePairingSQL` and `reconcileStalePairingsSQL`. -/
def restoring (selects : ConnectionRow → PairingColumns → Bool) : ConnectionUpdate where
  selects := selects
  row := restoredRow
  columns _ k := k.clear
  row_connectionId r k := setState_connectionId r (k.pairingPriorState.getD r.state)
  columns_connectionId _ _ := rfl

def restorePairingSQL (connectionId attemptId : String) : ConnectionUpdate :=
  restoring fun r k => r.connectionId == connectionId && r.state == .pairing &&
    k.pairingAttemptId == some attemptId && k.pairingPriorState.any pairable

def restorePairing (connectionId attemptId : String) (db : PhoneDatabase) :
    Tx (ConnectionState × PhoneDatabase) := do
  require (db.gateway.tenantId != "" && connectionId != "" && validPairingID attemptId)
    Sentinel.invalidConnectionState.err
  let (r, k) ← orFail ((db.phone connectionId).filter fun p =>
    (restorePairingSQL connectionId attemptId).selects p.1 p.2) errAttemptSuperseded
  let db ← db.update "restore pairing" (restorePairingSQL connectionId attemptId)
  pure ((restoredRow r k).state, db)

def reconcileStalePairingsSQL (now : Time) (ttl : Nat) : ConnectionUpdate :=
  restoring (stale now ttl)

def reconcileStalePairings (now : Time) (ttl : Nat) (db : PhoneDatabase) :
    Tx (Nat × PhoneDatabase) := do
  require (db.gateway.tenantId != "" && validAttemptTTL ttl) Sentinel.invalidConnectionState.err
  let count := db.affected (reconcileStalePairingsSQL now ttl)
  let db ← db.update "reconcile stale pairings" (reconcileStalePairingsSQL now ttl)
  pure (count, db)

def commitEncryptedSession (connectionId : String) (envelope : SessionEnvelope)
    (gateway : Database) : Tx Database := do
  -- the foreign key to the connection
  require (gateway.fleet.connections.find? connectionId).isSome
    (checkViolation "commit encrypted session")
  match gateway.fleet.sessions.find? connectionId with
  | none =>
    let sessions ← orFail (gateway.fleet.sessions.insert ⟨connectionId, envelope, 1⟩)
      (uniqueViolation "commit encrypted session")
    pure (gateway.setSessions sessions)
  | some _ =>
    pure (gateway.setSessions (gateway.fleet.sessions.update
      (fun r => r.connectionId == connectionId)
      (fun r => { r with envelope := envelope, revision := r.revision + 1 })
      (SessionRow.rewrite_key envelope)))

def commitConnectionStateSQL (connectionId attemptId : String) (fingerprint : Bytes) :
    ConnectionUpdate where
  selects r k := r.connectionId == connectionId && r.state == .pairing &&
    k.pairingAttemptId == some attemptId
  row r _ := setState { r with reauthorizationEventId := none } .connected
  columns _ k := { k.clear with providerDeviceFingerprint := some fingerprint }
  row_connectionId _ _ := setState_connectionId _ .connected
  columns_connectionId _ _ := rfl

/-- `CommitPairedSession`: the session is written first, and an attempt that no
longer owns the connection rolls it back. -/
def commitPairedSession (connectionId attemptId : String) (envelope : SessionEnvelope)
    (fingerprint : Bytes) (db : PhoneDatabase) : Tx PhoneDatabase := do
  require (db.gateway.tenantId != "" && connectionId != "" && validPairingID attemptId &&
    envelope.valid && fingerprint.length == 32) Sentinel.invalidEncryptedSession.err
  let gateway ← commitEncryptedSession connectionId envelope db.gateway
  let db ← db.store "commit encrypted session" gateway db.columns
  let affected := db.affected (commitConnectionStateSQL connectionId attemptId fingerprint)
  let db ← db.update "commit connected state"
    (commitConnectionStateSQL connectionId attemptId fingerprint)
  require (affected != 0) errAttemptSuperseded
  pure db

/-! ### The operations on one tenant -/

inductive Operation
  | saveConnection (record : ConnectionRecord)
  | beginPairing (connectionId attemptId : String) (ttl : Nat)
  | restorePairing (connectionId attemptId : String)
  | reconcileStalePairings (ttl : Nat)
  | commitPairedSession (connectionId attemptId : String) (envelope : SessionEnvelope)
      (fingerprint : Bytes)
  | changeSuspension (suspend : Bool)
  | quarantineBackfillConnection (connectionId : String) (safeReason : SafeReason)
  | markReauthorizationRequired (occurredAt : Time) (connectionId newEventId : String)
  | markReauthorizationRequiredFenced (occurredAt : Time) (connectionId ownerId : String)
      (fencingToken : Nat) (newEventId : String)
  | acquireConnectionLease (connectionId ownerId : String) (ttl : Nat)
  | renewConnectionLease (connectionId ownerId : String) (fencingToken ttl : Nat)
  | releaseConnectionLease (connectionId ownerId : String) (fencingToken : Nat)

inductive Reply
  | failed (error : Err)
  | done
  | answered (yes : Bool)
  | prior (state : Option ConnectionState)
  | restored (state : ConnectionState)
  | reconciled (count : Nat)
  | transitioned (transition : AuthorizationTransition)
  | granted (lease : Option ConnectionLease)
  deriving DecidableEq

/-- An operation of `Store.Leases`, under the constraints of the whole row. -/
def onGateway {α : Type} (operation : String) (reply : α → Reply)
    (tx : Database → Tx (α × Database)) (db : PhoneDatabase) : Tx (Reply × PhoneDatabase) := do
  let (answer, gateway) ← tx db.gateway
  let db ← db.store operation gateway db.columns
  pure (reply answer, db)

def perform (rt : Runtime) (now : Time) : Operation → PhoneDatabase → Tx (Reply × PhoneDatabase)
  | .saveConnection record, db => finishing .done (saveConnection record db)
  | .beginPairing connectionId attemptId ttl, db =>
    replying .prior (beginPairing now connectionId attemptId ttl db)
  | .restorePairing connectionId attemptId, db =>
    replying .restored (restorePairing connectionId attemptId db)
  | .reconcileStalePairings ttl, db => replying .reconciled (reconcileStalePairings now ttl db)
  | .commitPairedSession connectionId attemptId envelope fingerprint, db =>
    finishing .done (commitPairedSession connectionId attemptId envelope fingerprint db)
  | .changeSuspension suspend, db =>
    onGateway (if suspend then "suspend tenant connections" else "resume tenant connections")
      (fun _ => .done) (changeSuspension now suspend) db
  | .quarantineBackfillConnection connectionId safeReason, db =>
    onGateway "quarantine backfill connection" (fun _ => .done)
      (quarantineBackfillConnection now connectionId safeReason) db
  | .markReauthorizationRequired occurredAt connectionId newEventId, db =>
    onGateway "mark reauthorization required" .transitioned
      (markReauthorizationRequired rt now occurredAt connectionId newEventId) db
  | .markReauthorizationRequiredFenced occurredAt connectionId ownerId fencingToken newEventId,
    db =>
    onGateway "mark reauthorization required with fence" .answered
      (markReauthorizationRequiredFenced rt now occurredAt connectionId ownerId fencingToken
        newEventId) db
  | .acquireConnectionLease connectionId ownerId ttl, db =>
    onGateway "acquire connection lease" .granted
      (acquireConnectionLease now connectionId ownerId ttl) db
  | .renewConnectionLease connectionId ownerId fencingToken ttl, db =>
    onGateway "renew connection lease" .answered
      (renewConnectionLease now connectionId ownerId fencingToken ttl) db
  | .releaseConnectionLease connectionId ownerId fencingToken, db =>
    onGateway "release connection lease" .answered
      (releaseConnectionLease now connectionId ownerId fencingToken) db

abbrev Call := Time × Operation

def step (rt : Runtime) (call : Call) (db : PhoneDatabase) : Reply × PhoneDatabase :=
  outcome .failed db (perform rt call.1 call.2 db)

end MessagingGateway.Pairing
