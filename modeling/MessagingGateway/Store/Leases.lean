import MessagingGateway.Store.Events

/-!
# Connection leases and the statements fenced by them

One row of `connection_leases` for each connection names its owner, a fencing
token and an expiry. Acquiring changes the token when the ownership changes;
quarantine, reauthorization and tenant suspension take the ownership away and
bump the token. Each operation reads the database clock once, as `now`.
-/

namespace MessagingGateway.Store

open Relational

def minimumLeaseTTL : Nat := 1000000

def maximumLeaseTTL : Nat := 600000000

structure ConnectionLease where
  ownerId : String
  fencingToken : Nat
  expiresAt : Time
  deriving DecidableEq

/-- `owner_id = $3 AND fencing_token = $4 AND expires_at > clock_timestamp()`. -/
def LeaseRow.heldBy (r : LeaseRow) (now : Time) (ownerId : String) (fencingToken : Nat) : Bool :=
  r.ownerId == some ownerId && r.fencingToken == fencingToken && now < r.expiresAt

def LeaseRow.fence (r : LeaseRow) (now : Time) : LeaseRow :=
  { r with
    ownerId := none
    fencingToken := r.fencingToken + 1
    expiresAt := now
    tokenPositive := Nat.succ_pos _ }

namespace Database

def ownsLease (db : Database) (now : Time) (connectionId ownerId : String)
    (fencingToken : Nat) : Bool :=
  (db.fleet.connections.find? connectionId).isSome &&
    (db.fleet.leases.find? connectionId).any fun lease => lease.heldBy now ownerId fencingToken

def setLeases (db : Database) (leases : Table LeaseRow.connectionId) : Database :=
  { db with fleet := { db.fleet with leases := leases } }

def setConnections (db : Database) (connections : Table ConnectionRow.connectionId) : Database :=
  { db with fleet := { db.fleet with connections := connections } }

def setHealth (db : Database) (health : Table HealthRow.connectionId) : Database :=
  { db with fleet := { db.fleet with health := health } }

def setSessions (db : Database) (sessions : Table SessionRow.connectionId) : Database :=
  { db with fleet := { db.fleet with sessions := sessions } }

def fenceLeases (db : Database) (now : Time) (p : LeaseRow → Bool) : Database :=
  db.setLeases (db.fleet.leases.update p (fun r => r.fence now))

end Database

def validLeaseInput (db : Database) (connectionId ownerId : String) (ttl : Nat) : Bool :=
  db.tenantId != "" && connectionId != "" && 0 < ownerId.utf8ByteSize &&
    ownerId.utf8ByteSize ≤ 256 && minimumLeaseTTL ≤ ttl && ttl ≤ maximumLeaseTTL

/-! ### Acquire, renew, release -/

/-- The row `acquireConnectionLeaseSQL` leaves for a connection that has one:
the same owner keeps its token while the lease is live. -/
def LeaseRow.acquire (r : LeaseRow) (now : Time) (ownerId : String) (ttl : Nat) : LeaseRow :=
  if r.ownerId = some ownerId ∧ now < r.expiresAt then
    { r with ownerId := some ownerId, expiresAt := now + ttl }
  else
    { r with
      ownerId := some ownerId
      fencingToken := r.fencingToken + 1
      expiresAt := now + ttl
      tokenPositive := Nat.succ_pos _ }

theorem LeaseRow.acquire_connectionId (r : LeaseRow) (now : Time) (ownerId : String) (ttl : Nat) :
    (r.acquire now ownerId ttl).connectionId = r.connectionId := by
  unfold LeaseRow.acquire
  split <;> rfl

def LeaseRow.granted (r : LeaseRow) (ownerId : String) : ConnectionLease :=
  ⟨ownerId, r.fencingToken, r.expiresAt⟩

/-- `AcquireConnectionLease`; `none` when another owner holds a live lease. -/
def acquireConnectionLease (now : Time) (connectionId ownerId : String) (ttl : Nat)
    (db : Database) : Tx (Option ConnectionLease × Database) := do
  require (validLeaseInput db connectionId ownerId ttl) Sentinel.invalidLease.err
  match db.fleet.leases.find? connectionId with
  | none =>
    -- the foreign key to the connection
    require (db.fleet.connections.find? connectionId).isSome
      (checkViolation "acquire connection lease")
    let lease : LeaseRow := ⟨connectionId, some ownerId, 1, now + ttl, Nat.one_pos⟩
    let leases ← orFail (db.fleet.leases.insert lease) (uniqueViolation "acquire connection lease")
    pure (some (lease.granted ownerId), db.setLeases leases)
  | some lease =>
    if lease.ownerId = some ownerId ∨ lease.expiresAt ≤ now then
      pure (some ((lease.acquire now ownerId ttl).granted ownerId),
        db.setLeases (db.fleet.leases.update (fun r => r.connectionId == connectionId)
          (fun r => r.acquire now ownerId ttl) fun r => r.acquire_connectionId now ownerId ttl))
    else pure (none, db)

def renewConnectionLease (now : Time) (connectionId ownerId : String) (fencingToken ttl : Nat)
    (db : Database) : Tx (Bool × Database) := do
  require (validLeaseInput db connectionId ownerId ttl && fencingToken != 0)
    Sentinel.invalidLease.err
  let held := (db.fleet.leases.find? connectionId).any fun r => r.heldBy now ownerId fencingToken
  if held then
    pure (true, db.setLeases (db.fleet.leases.update (fun r => r.connectionId == connectionId)
      (fun r => { r with expiresAt := now + ttl })))
  else pure (false, db)

/-- `ReleaseConnectionLease`: the owner goes, the token stays. -/
def releaseConnectionLease (now : Time) (connectionId ownerId : String) (fencingToken : Nat)
    (db : Database) : Tx (Bool × Database) := do
  require (db.tenantId != "" && connectionId != "" && ownerId != "" && fencingToken != 0)
    Sentinel.invalidLease.err
  let held := (db.fleet.leases.find? connectionId).any fun r => r.heldBy now ownerId fencingToken
  if held then
    pure (true, db.setLeases (db.fleet.leases.update (fun r => r.connectionId == connectionId)
      (fun r => { r with ownerId := none, expiresAt := now })))
  else pure (false, db)

/-! ### Health and session writes -/

structure ConnectionActorHealth where
  actorState : ActorState
  connectionState : ConnectionState
  connectedAt : Option Time := none
  lastFrameAt : Option Time := none
  lastPhoneResponseAt : Option Time := none
  reconnectCount : Nat := 0
  currentBackoff : Int := 0
  lastSafeReason : SafeReason := .none
  requiresReauthorization : Bool := false
  deriving DecidableEq

def validActorHealth (health : ConnectionActorHealth) : Bool :=
  health.reconnectCount ≤ 2 ^ 63 - 1 && 0 ≤ health.currentBackoff &&
    health.currentBackoff ≤ maximumLeaseTTL

/-- The row an actor reports, rejected by the table's `CHECK` for a state that
no actor may report. -/
def ConnectionActorHealth.row (health : ConnectionActorHealth) (connectionId : String)
    (fencingToken : Nat) : Option HealthRow :=
  if h : health.connectionState.reportable = true then
    some
      { connectionId := connectionId
        fencingToken := fencingToken
        actorState := health.actorState
        connectionState := health.connectionState
        connectedAt := health.connectedAt
        lastFrameAt := health.lastFrameAt
        lastPhoneResponseAt := health.lastPhoneResponseAt
        reconnectCount := health.reconnectCount
        currentBackoff := health.currentBackoff.toNat
        lastSafeReason := health.lastSafeReason
        requiresReauthorization := health.requiresReauthorization
        stateReportable := h }
  else none

/-- `ON CONFLICT DO UPDATE ... WHERE fencing_token <= EXCLUDED.fencing_token`:
the health table and the number of rows written. -/
def upsertHealth (table : Table HealthRow.connectionId) (row : HealthRow) :
    Bool × Table HealthRow.connectionId :=
  match table.find? row.connectionId with
  | none => (true, table.insertIgnore row)
  | some old =>
    if old.fencingToken ≤ row.fencingToken then
      (true, table.update (fun r => r.connectionId == row.connectionId)
        (fun r => { row with connectionId := r.connectionId }))
    else (false, table)

def writeConnectionHealthFenced (now : Time) (connectionId ownerId : String) (fencingToken : Nat)
    (health : ConnectionActorHealth) (db : Database) : Tx (Bool × Database) := do
  require (db.tenantId != "" && connectionId != "" && ownerId != "" && fencingToken != 0 &&
    validActorHealth health) Sentinel.invalidLease.err
  if db.ownsLease now connectionId ownerId fencingToken then
    let row ← orFail (health.row connectionId fencingToken)
      (checkViolation "write fenced connection health")
    let (written, table) := upsertHealth db.fleet.health row
    pure (written, db.setHealth table)
  else pure (false, db)

def SessionEnvelope.valid (envelope : SessionEnvelope) : Bool :=
  envelope.version == 1 && 0 < envelope.provider.utf8ByteSize &&
    envelope.provider.utf8ByteSize ≤ 64 && 16 ≤ envelope.ciphertext.length &&
    envelope.ciphertext.length ≤ 4 * 1024 * 1024 && 0 < envelope.wrappedDEK.length &&
    envelope.wrappedDEK.length ≤ 16 * 1024 && envelope.nonce.length == 12 &&
    0 < envelope.keyId.utf8ByteSize && envelope.keyId.utf8ByteSize ≤ 256 &&
    0 < envelope.keyVersion

theorem SessionRow.rewrite_key (envelope : SessionEnvelope) (r : SessionRow) :
    SessionRow.connectionId { r with envelope := envelope, revision := r.revision + 1 } =
      r.connectionId := rfl

def compareAndSwapEncryptedSessionFenced (now : Time) (connectionId ownerId : String)
    (fencingToken expectedRevision : Nat) (envelope : SessionEnvelope) (db : Database) :
    Tx (Bool × Database) := do
  require (db.tenantId != "" && connectionId != "" && ownerId != "" && fencingToken != 0 &&
    expectedRevision != 0 && envelope.valid) Sentinel.invalidEncryptedSession.err
  let current := (db.fleet.sessions.find? connectionId).any fun r => r.revision == expectedRevision
  if db.ownsLease now connectionId ownerId fencingToken && current then
    pure (true, db.setSessions (db.fleet.sessions.update (fun r => r.connectionId == connectionId)
      (fun r => { r with envelope := envelope, revision := r.revision + 1 })
      (SessionRow.rewrite_key envelope)))
  else pure (false, db)

/-! ### Quarantine -/

def ConnectionState.paired : ConnectionState → Bool
  | .connected | .degraded | .disconnected | .suspended => true
  | _ => false

def quarantinedHealth (connectionId : String) (fencingToken : Nat) : HealthRow :=
  { connectionId := connectionId
    fencingToken := fencingToken
    actorState := .stopped
    connectionState := .suspended
    connectedAt := none
    lastFrameAt := none
    lastPhoneResponseAt := none
    reconnectCount := 0
    currentBackoff := 0
    lastSafeReason := .providerProtocol
    requiresReauthorization := false }

/-- The `ON CONFLICT` branch of the quarantine keeps the times and the
reconnect count. -/
def HealthRow.quarantine (r : HealthRow) (fencingToken : Nat) : HealthRow :=
  { r with
    fencingToken := fencingToken
    actorState := .stopped
    connectionState := .suspended
    lastSafeReason := .providerProtocol
    currentBackoff := 0
    requiresReauthorization := false
    stateReportable := rfl }

def quarantineBackfillConnection (now : Time) (connectionId : String) (safeReason : SafeReason)
    (db : Database) : Tx (Unit × Database) := do
  require (db.tenantId != "" && connectionId != "" && safeReason == .providerProtocol)
    Sentinel.invalidIdentifier.err
  let noRows : Err := ⟨"quarantine backfill connection: sql: no rows in result set", []⟩
  let connection ← orFail (db.fleet.connections.find? connectionId) noRows
  require connection.state.paired noRows
  let lease ← orFail (db.fleet.leases.find? connectionId) noRows
  let db := db.fenceLeases now fun r => r.connectionId == connectionId
  let db := db.setConnections (db.fleet.connections.update
    (fun r => r.connectionId == connectionId)
    (fun r => { r with state := .suspended, suspensionState := .inr rfl }))
  let token := lease.fencingToken + 1
  let health := (db.fleet.health.insertIgnore (quarantinedHealth connectionId token)).update
    (fun r => r.connectionId == connectionId) (fun r => r.quarantine token)
  pure ((), db.setHealth health)

/-! ### Reauthorization -/

def insertReauthorizationEvent (rt : Runtime) (occurredAt : Time) (connectionId eventId : String)
    (db : Database) : Tx Database := do
  let body ← orFail (EventContract.marshal
    { eventId := eventId
      type := "connection.reauthorization_required"
      occurredAt := occurredAt
      tenantId := db.tenantId
      connectionId := connectionId
      status := "reauthorization-required"
      state := "reauthorization-required" })
    ⟨"encode reauthorization event: invalid event envelope", []⟩
  let event : EventRow :=
    { eventId := eventId
      eventType := "connection.reauthorization_required"
      aggregateType := "connection"
      aggregateId := connectionId
      connectionId := nullIf connectionId
      conversationId := ""
      canonicalBody := body }
  require (rt.jsonSize body ≤ maxEventBodyBytes) (checkViolation "ensure reauthorization event")
  let events := db.events.ensureEvent event
  let stored ← orFail (events.gatewayEvents.find? eventId)
    ⟨"validate reauthorization event: sql: no rows in result set", []⟩
  require (stored.eventType == event.eventType && stored.aggregateType == event.aggregateType &&
    stored.aggregateId == connectionId && stored.connectionId.getD "" == connectionId)
    ⟨"reauthorization event identity conflict", []⟩
  let outbox (destination : Destination) : OutboxRow :=
    ⟨eventId ++ ":" ++ destination.text, eventId, destination⟩
  let db := { db with events := events }
  let db ← db.ensureOutboxRow "ensure reauthorization outbox" (outbox .webhook)
  db.ensureOutboxRow "ensure reauthorization outbox" (outbox .kafka)

/-- `UPDATE connections SET state = 'reauthorization-required'`, rejected by
`connections_tenant_suspension_state` on a connection of a suspended tenant. -/
def ConnectionRow.requireReauthorization (r : ConnectionRow) (eventId : String) :
    Option ConnectionRow :=
  if h : r.tenantSuspendPriorState = none then
    some { r with
      state := .reauthorizationRequired
      reauthorizationEventId := some eventId
      suspensionState := .inl h }
  else none

theorem ConnectionRow.requireReauthorization_ok {r r' : ConnectionRow} {eventId : String}
    (h : r.requireReauthorization eventId = some r') :
    ∃ hnone : r.tenantSuspendPriorState = none, r' = { r with
      state := .reauthorizationRequired
      reauthorizationEventId := some eventId
      suspensionState := .inl hnone } := by
  obtain ⟨hnone, h⟩ := Option.dite_none_right_eq_some.1 h
  exact ⟨hnone, (Option.some.inj h).symm⟩

def Database.putConnection (db : Database) (row : ConnectionRow) : Database :=
  db.setConnections (db.fleet.connections.update (fun r => r.connectionId == row.connectionId)
    (fun r => { row with connectionId := r.connectionId }))

def ConnectionState.markable (state : ConnectionState) : Bool :=
  state.paired || state == .reauthorizationRequired

def markReauthorizationRequiredFenced (rt : Runtime) (now occurredAt : Time)
    (connectionId ownerId : String) (fencingToken : Nat) (newEventId : String) (db : Database) :
    Tx (Bool × Database) := do
  require (db.tenantId != "" && connectionId != "" && ownerId != "" && fencingToken != 0)
    Sentinel.invalidLease.err
  require (newEventId != "") ⟨"generate authorization event ID", []⟩
  match db.fleet.connections.find? connectionId with
  | none => pure (false, db)
  | some connection =>
    if connection.state.markable && db.ownsLease now connectionId ownerId fencingToken then
      let eventId := ((connection.reauthorizationEventId.bind nullIf).getD newEventId)
      let row ← orFail (connection.requireReauthorization eventId)
        (checkViolation "mark reauthorization required with fence")
      let db ← insertReauthorizationEvent rt occurredAt connectionId eventId
        (db.putConnection row)
      pure (true, db)
    else pure (false, db)

structure AuthorizationTransition where
  transitioned : Bool
  eventId : String
  deriving DecidableEq

/-- `MarkReauthorizationRequired`: not fenced, it fences the actor itself. -/
def markReauthorizationRequired (rt : Runtime) (now occurredAt : Time)
    (connectionId newEventId : String) (db : Database) :
    Tx (AuthorizationTransition × Database) := do
  require (db.tenantId != "" && connectionId != "") Sentinel.invalidIdentifier.err
  let connection ← orFail (db.fleet.connections.find? connectionId) Sentinel.connectionNotFound.err
  let owned (r : LeaseRow) : Bool := r.connectionId == connectionId && r.ownerId.isSome
  match connection.state, connection.reauthorizationEventId.bind nullIf with
  | .reauthorizationRequired, some eventId =>
    let db ← insertReauthorizationEvent rt occurredAt connectionId eventId
      (db.fenceLeases now owned)
    pure (⟨false, eventId⟩, db)
  | _, _ =>
    require connection.state.markable Sentinel.invalidConnectionState.err
    require (newEventId != "") ⟨"generate authorization event ID", []⟩
    let row ← orFail (connection.requireReauthorization newEventId)
      (checkViolation "mark reauthorization required")
    let db ← insertReauthorizationEvent rt occurredAt connectionId newEventId
      ((db.putConnection row).fenceLeases now owned)
    pure (⟨true, newEventId⟩, db)

/-! ### Tenant suspension -/

def tenantAdminID (value : String) : Bool :=
  let lower (c : Char) : Bool := c.isLower || c.isDigit
  match value.toList with
  | [] => false
  | c :: cs => lower c && cs.all (fun c => lower c || c == '_' || c == '-') && cs.length ≤ 127

/-- Enter the tenant suspension, remembering the state to come back to. -/
def ConnectionRow.suspend (r : ConnectionRow) : ConnectionRow :=
  { r with
    tenantSuspendPriorState := some r.state
    state := .suspended
    suspensionState := .inr rfl }

def ConnectionRow.resume (r : ConnectionRow) : ConnectionRow :=
  { r with
    state := r.tenantSuspendPriorState.getD r.state
    tenantSuspendPriorState := none
    suspensionState := .inl rfl }

/-- `changeSuspension`, called by `Suspend` and `Resume`. -/
def changeSuspension (now : Time) (suspend : Bool) (db : Database) : Tx (Unit × Database) := do
  require (tenantAdminID db.tenantId) Sentinel.invalidTenantAdminInput.err
  let wantStatus := if suspend then TenantStatus.suspended else TenantStatus.active
  if db.fleet.tenantStatus = wantStatus then
    pure ((), db)
  else if suspend then
    require (db.fleet.connections.rows.all fun r => r.state != .pairing)
      Sentinel.tenantPairingActive.err
    let db := db.setConnections (db.fleet.connections.update
      (fun r => r.state != .pairing && r.tenantSuspendPriorState.isNone) ConnectionRow.suspend)
    let db := db.fenceLeases now fun r => r.ownerId.isSome
    pure ((), { db with fleet := { db.fleet with tenantStatus := .suspended } })
  else
    let db := db.setConnections (db.fleet.connections.update
      (fun r => r.state == .suspended && r.tenantSuspendPriorState.isSome) ConnectionRow.resume)
    pure ((), { db with fleet := { db.fleet with tenantStatus := .active } })

/-! ### What each operation writes -/

section

variable {rt : Runtime} {now occurredAt : Time} {connectionId ownerId newEventId : String}
  {fencingToken ttl : Nat} {db db' : Database}

theorem acquireConnectionLease_ok {granted : Option ConnectionLease}
    (h : acquireConnectionLease now connectionId ownerId ttl db = .ok (granted, db')) :
    ∃ leases, db' = db.setLeases leases := by
  simp only [acquireConnectionLease, bind_ok] at h
  obtain ⟨-, -, h⟩ := h
  split at h
  · simp only [bind_ok, pure_pair] at h
    obtain ⟨-, -, leases, -, -, rfl⟩ := h
    exact ⟨leases, rfl⟩
  · split at h <;> rw [pure_pair] at h <;> obtain ⟨-, rfl⟩ := h <;>
      exact ⟨_, rfl⟩

theorem renewConnectionLease_ok {held : Bool}
    (h : renewConnectionLease now connectionId ownerId fencingToken ttl db = .ok (held, db')) :
    ∃ leases, db' = db.setLeases leases := by
  simp only [renewConnectionLease, bind_ok] at h
  obtain ⟨-, -, h⟩ := h
  split at h <;> rw [pure_pair] at h <;> obtain ⟨-, rfl⟩ := h <;>
    exact ⟨_, rfl⟩

theorem releaseConnectionLease_ok {held : Bool}
    (h : releaseConnectionLease now connectionId ownerId fencingToken db = .ok (held, db')) :
    ∃ leases, db' = db.setLeases leases := by
  simp only [releaseConnectionLease, bind_ok] at h
  obtain ⟨-, -, h⟩ := h
  split at h <;> rw [pure_pair] at h <;> obtain ⟨-, rfl⟩ := h <;>
    exact ⟨_, rfl⟩

theorem writeConnectionHealthFenced_ok {health : ConnectionActorHealth} {written : Bool}
    (h : writeConnectionHealthFenced now connectionId ownerId fencingToken health db =
      .ok (written, db')) : ∃ table, db' = db.setHealth table := by
  simp only [writeConnectionHealthFenced, bind_ok] at h
  obtain ⟨-, -, h⟩ := h
  split at h
  · simp only [bind_ok, pure_pair] at h
    obtain ⟨row, -, -, rfl⟩ := h
    exact ⟨_, rfl⟩
  · rw [pure_pair] at h
    exact ⟨db.fleet.health, h.2.symm⟩

theorem compareAndSwapEncryptedSessionFenced_ok {expectedRevision : Nat}
    {envelope : SessionEnvelope} {swapped : Bool}
    (h : compareAndSwapEncryptedSessionFenced now connectionId ownerId fencingToken
      expectedRevision envelope db = .ok (swapped, db')) :
    ∃ sessions, db' = db.setSessions sessions := by
  simp only [compareAndSwapEncryptedSessionFenced, bind_ok] at h
  obtain ⟨-, -, h⟩ := h
  split at h <;> rw [pure_pair] at h <;> obtain ⟨-, rfl⟩ := h <;>
    exact ⟨_, rfl⟩

theorem quarantineBackfillConnection_ok {safeReason : SafeReason}
    (h : quarantineBackfillConnection now connectionId safeReason db = .ok ((), db')) :
    ∃ r health, db.fleet.connections.find? connectionId = some r ∧ r.state.paired = true ∧
      db' = ((db.fenceLeases now fun r => r.connectionId == connectionId).setConnections
        (db.fleet.connections.update (fun r => r.connectionId == connectionId)
          fun r => { r with state := .suspended, suspensionState := .inr rfl })).setHealth
        health := by
  simp only [quarantineBackfillConnection, bind_ok, orFail_ok, require_ok, pure_ok,
    Prod.mk.injEq] at h
  obtain ⟨-, -, r, hrow, -, hpaired, lease, -, -, rfl⟩ := h
  exact ⟨r, _, hrow, hpaired, rfl⟩

theorem insertReauthorizationEvent_ok {eventId : String}
    (h : insertReauthorizationEvent rt occurredAt connectionId eventId db = .ok db') :
    EventsOnly db db' := by
  simp only [insertReauthorizationEvent, bind_ok] at h
  obtain ⟨body, -, -, -, stored, -, -, -, db₁, h₁, h₂⟩ := h
  obtain ⟨events, rfl⟩ := (ensureOutboxRow_ok h₁).trans (ensureOutboxRow_ok h₂)
  exact ⟨events, rfl⟩

theorem markReauthorizationRequiredFenced_ok {marked : Bool}
    (h : markReauthorizationRequiredFenced rt now occurredAt connectionId ownerId fencingToken
      newEventId db = .ok (marked, db')) :
    (marked = false ∧ db' = db) ∨
      ∃ r r', db.fleet.connections.find? connectionId = some r ∧ r.state.markable = true ∧
        r.requireReauthorization ((r.reauthorizationEventId.bind nullIf).getD newEventId) =
          some r' ∧
        insertReauthorizationEvent rt occurredAt connectionId
          ((r.reauthorizationEventId.bind nullIf).getD newEventId) (db.putConnection r') =
            .ok db' := by
  simp only [markReauthorizationRequiredFenced, bind_ok] at h
  obtain ⟨-, -, -, -, h⟩ := h
  split at h
  · rw [pure_pair] at h
    exact .inl ⟨h.1.symm, h.2.symm⟩
  · next r hrow =>
    split at h
    · next hmarkable =>
      simp only [bind_ok, orFail_ok, pure_pair] at h
      obtain ⟨r', hmark, db₁, hevent, -, rfl⟩ := h
      exact .inr ⟨r, r', hrow, (Bool.and_eq_true_iff.1 hmarkable).1, hmark, hevent⟩
    · rw [pure_pair] at h
      exact .inl ⟨h.1.symm, h.2.symm⟩

theorem markReauthorizationRequired_ok {transition : AuthorizationTransition}
    (h : markReauthorizationRequired rt now occurredAt connectionId newEventId db =
      .ok (transition, db')) :
    ∃ r, db.fleet.connections.find? connectionId = some r ∧
      ((∃ eventId, r.state = .reauthorizationRequired ∧
          r.reauthorizationEventId.bind nullIf = some eventId ∧
          insertReauthorizationEvent rt occurredAt connectionId eventId (db.fenceLeases now
            fun r => r.connectionId == connectionId && r.ownerId.isSome) = .ok db') ∨
        ∃ r', r.state.markable = true ∧
          (∀ eventId, r.state = .reauthorizationRequired →
            r.reauthorizationEventId.bind nullIf ≠ some eventId) ∧
          r.requireReauthorization newEventId = some r' ∧
          insertReauthorizationEvent rt occurredAt connectionId newEventId
            ((db.putConnection r').fenceLeases now
              fun r => r.connectionId == connectionId && r.ownerId.isSome) = .ok db') := by
  simp only [markReauthorizationRequired, bind_ok, orFail_ok] at h
  obtain ⟨-, -, r, hrow, h⟩ := h
  refine ⟨r, hrow, ?_⟩
  split at h
  · next eventId hstate hstored =>
    simp only [bind_ok, pure_pair] at h
    obtain ⟨db₁, hevent, -, rfl⟩ := h
    exact .inl ⟨eventId, hstate, hstored, hevent⟩
  · next hfirst =>
    simp only [bind_ok, orFail_ok, require_ok, pure_pair] at h
    obtain ⟨-, hmarkable, -, -, r', hmark, db₁, hevent, -, rfl⟩ := h
    exact .inr ⟨r', hmarkable, hfirst, hmark, hevent⟩

theorem changeSuspension_ok {suspend : Bool} (h : changeSuspension now suspend db = .ok ((), db')) :
    (db' = db ∧ db.fleet.tenantStatus = if suspend then .suspended else .active) ∨
      (suspend = true ∧ db.fleet.tenantStatus ≠ .suspended ∧
        (∀ r ∈ db.fleet.connections, r.state ≠ .pairing) ∧
        db' = { db with fleet := { db.fleet with
          connections := db.fleet.connections.update
            (fun r => r.state != .pairing && r.tenantSuspendPriorState.isNone) ConnectionRow.suspend
          leases := (db.fenceLeases now fun r => r.ownerId.isSome).fleet.leases
          tenantStatus := .suspended } }) ∨
      (suspend = false ∧ db.fleet.tenantStatus ≠ .active ∧
        db' = { db with fleet := { db.fleet with
          connections := db.fleet.connections.update
            (fun r => r.state == .suspended && r.tenantSuspendPriorState.isSome)
            ConnectionRow.resume
          tenantStatus := .active } }) := by
  simp only [changeSuspension, bind_ok] at h
  obtain ⟨-, -, h⟩ := h
  cases suspend <;> simp only [Bool.false_eq_true, if_false, if_true] at h <;> split at h <;>
    rename_i hstatus
  · rw [pure_pair] at h
    exact .inl ⟨h.2.symm, hstatus⟩
  · rw [pure_pair] at h
    exact .inr (.inr ⟨rfl, hstatus, h.2.symm⟩)
  · rw [pure_pair] at h
    exact .inl ⟨h.2.symm, hstatus⟩
  · simp only [bind_ok, require_ok, List.all_eq_true, bne_iff_ne, pure_pair] at h
    obtain ⟨-, hstates, -, rfl⟩ := h
    exact .inr (.inl ⟨rfl, hstatus, hstates, rfl⟩)

end

def FleetOnly (db db' : Database) : Prop :=
  ∃ fleet events, db' = { db with fleet := fleet, events := events }

end MessagingGateway.Store
