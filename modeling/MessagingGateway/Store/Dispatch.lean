import MessagingGateway.Store.Outbound

/-!
# Dispatch of outbound messages

The statements of the dispatch store. `ClaimNext` is one statement whose parts
all read the snapshot before it: it either settles what a crashed owner left on
the lane, or claims the oldest queued message, never both. The other operations
act on a claim and are guarded by the lease, the lane, the attempt and the
message together.
-/

namespace MessagingGateway.Store

open Relational Domain

def claimInterval : Nat := 30000000

structure DispatchClaim where
  message : OutboundMessage
  orderingKey : String := ""
  ownerId : String := ""
  attemptId : String
  laneToken : Nat
  fencingToken : Nat
  deriving DecidableEq

def validDispatchClaim (claim : DispatchClaim) (db : Database) : Bool :=
  db.tenantId != "" && claim.message.connectionId != "" && claim.message.id != "" &&
    claim.attemptId != "" && 0 < claim.laneToken && 0 < claim.fencingToken

def dispatchOrderingKey (claim : DispatchClaim) : String :=
  if claim.orderingKey ≠ "" then claim.orderingKey
  else if claim.message.conversationId ≠ "" then claim.message.conversationId
  else if claim.message.recipient ≠ "" then "new:" ++ claim.message.recipient
  else ""

/-! ### Lanes and attempts by key -/

namespace Database

def updateLane (db : Database) (connectionId orderingKey : String) (f : LaneRow → LaneRow)
    (hf : ∀ r, (f r).key = r.key := by exact fun _ => id rfl) : Database :=
  db.setLanes (db.dispatch.lanes.update (fun r => r.key == (connectionId, orderingKey)) f hf)

def releaseLane (db : Database) (connectionId orderingKey : String) : Database :=
  db.updateLane connectionId orderingKey
    (fun r => { r with ownerId := none, claimedMessageId := none, claimExpiresAt := none })

def updateAttempt (db : Database) (attemptId : String) (f : AttemptRow → AttemptRow)
    (hf : ∀ r, (f r).attemptId = r.attemptId := by exact fun _ => id rfl) : Database :=
  db.setAttempts (db.dispatch.attempts.update (fun r => r.attemptId == attemptId) f hf)

def completeAttempt (db : Database) (attemptId safeResult : String) (now : Time) : Database :=
  db.updateAttempt attemptId
    (fun r => { r with phase := .complete, safeResult := safeResult, completedAt := some now })

end Database

theorem mem_updateLane {db : Database} {connectionId orderingKey : String} {f : LaneRow → LaneRow}
    {hf : ∀ r, (f r).key = r.key} {lane : LaneRow} :
    lane ∈ (db.updateLane connectionId orderingKey f hf).dispatch.lanes ↔
      ∃ r ∈ db.dispatch.lanes, (if r.key = (connectionId, orderingKey) then f r else r) = lane := by
  simp only [Database.updateLane, Database.setLanes, Table.mem_update, beq_iff_eq]

/-! ### ClaimNext -/

/-- The identifiers `ClaimNext` draws before it runs its statement. -/
structure ClaimIds where
  attemptId : String
  statusId : String
  recoveryStatusId : String
  recoveryEventId : String
  recoveryWebhookOutboxId : String
  recoveryKafkaOutboxId : String
  deriving DecidableEq

def LaneRow.claimable (r : LaneRow) (now : Time) : Bool :=
  r.ownerId.isNone || r.claimExpiresAt.any fun expiry => expiry ≤ now

/-- `locked_lease`: the live lease of the caller, whatever its token. -/
def lockedLease (now : Time) (connectionId ownerId : String) (db : Database) : Option LeaseRow :=
  (db.fleet.leases.find? connectionId).filter fun r =>
    (db.fleet.connections.find? connectionId).isSome && r.ownerId == some ownerId &&
      now < r.expiresAt

def lockedLane (now : Time) (connectionId orderingKey : String) (db : Database) : Option LaneRow :=
  (db.dispatch.lanes.find? (connectionId, orderingKey)).filter fun r => r.claimable now

/-- `locked_attempt`: the open attempt of the claim the lane still records. -/
def lockedAttempt (lane : LaneRow) (db : Database) : Option AttemptRow :=
  (orderByDesc AttemptRow.createdAt AttemptRow.attemptId (db.dispatch.attempts.select fun r =>
    r.laneKey == lane.key && lane.claimedMessageId == some r.messageId &&
      r.laneToken == lane.laneToken && r.isOpen)).head?

def queuedOn (lane : String × String) (db : Database) : List MessageRow :=
  db.content.messages.select fun r =>
    (r.connectionId, r.orderingKey) == lane && r.currentState == .queued

/-- `candidate`: the oldest message queued on the lane, of those whose rows no other
transaction has `locked`. -/
def oldestQueued (locked : List String) (lane : LaneRow) (db : Database) : Option MessageRow :=
  (orderBy MessageRow.createdAt MessageRow.messageId
    ((queuedOn lane.key db).filter fun r => !locked.contains r.messageId)).head?

theorem mem_queuedOn {lane : String × String} {row : MessageRow} {db : Database} :
    row ∈ queuedOn lane db ↔
    row ∈ db.content.messages ∧ (row.connectionId, row.orderingKey) = lane ∧
      row.currentState = .queued := by
  simp only [queuedOn, Table.mem_select, Bool.and_eq_true, beq_iff_eq]

theorem oldestQueued_first {locked : List String} {lane : LaneRow} {message : MessageRow}
    {db : Database} (h : oldestQueued locked lane db = some message) :
    (message ∈ queuedOn lane.key db ∧ message.messageId ∉ locked) ∧
      ∀ row ∈ queuedOn lane.key db, row.messageId ∉ locked → message.createdAt ≤ row.createdAt := by
  obtain ⟨hmem, hfirst⟩ := orderBy_head? h
  simp only [List.mem_filter, Bool.not_eq_true', List.contains_eq_mem,
    decide_eq_false_iff_not] at hmem hfirst
  exact ⟨hmem, fun row hrow hfree => hfirst row ⟨hrow, hfree⟩⟩

/-- What a crash recovery makes of the message it interrupted. -/
def recoveryState (phase : AttemptPhase) : MessageState :=
  if phase = .claimed then .queued else .uncertain

def recoveryReason (phase : AttemptPhase) : String :=
  if phase = .claimed then "crash_before_provider_io" else "provider_io_ambiguous"

/-- The body `claimNextMessageSQL` builds for an ambiguous send. -/
def recoveryEventBody (tenantId eventId : String) (message : MessageRow) (now : Time) :
    EventContract.Envelope :=
  { eventId := eventId
    type := "message.uncertain"
    occurredAt := now
    tenantId := tenantId
    connectionId := message.connectionId
    conversationId := message.conversationId
    messageId := message.messageId
    direction := "outbound"
    status := "uncertain"
    state := "uncertain" }

def insertRecoveryEvent (rt : Runtime) (now : Time) (ids : ClaimIds) (message : MessageRow)
    (db : Database) : Tx Database := do
  let db ← db.insertGatewayEvent rt "claim next message"
    { eventId := ids.recoveryEventId
      eventType := "message.uncertain"
      aggregateType := "message"
      aggregateId := message.messageId
      connectionId := some message.connectionId
      conversationId := message.conversationId
      canonicalBody := recoveryEventBody db.tenantId ids.recoveryEventId message now }
  let db ← db.insertOutboxRow "claim next message"
    ⟨ids.recoveryWebhookOutboxId, ids.recoveryEventId, .webhook⟩
  db.insertOutboxRow "claim next message" ⟨ids.recoveryKafkaOutboxId, ids.recoveryEventId, .kafka⟩

/-- `recovered_message`, `recovered_attempt`, `recovery_status`, `recovery_event`
and `recovery_outbox`. -/
def recoverAttempt (rt : Runtime) (now : Time) (ids : ClaimIds) (attempt : AttemptRow)
    (message : MessageRow) (db : Database) : Tx Database := do
  let state := recoveryState attempt.phase
  let reason := recoveryReason attempt.phase
  let db := (db.setState message.messageId state).completeAttempt attempt.attemptId reason now
  let db ← db.insertMessageStatus "claim next message"
    { statusId := ids.recoveryStatusId
      messageId := message.messageId
      state := state
      safeReason := reason
      observedAt := now }
  if state = .uncertain then insertRecoveryEvent rt now ids message db else pure db

/-- `locked_message`: the attempt is settled only while its message is still
dispatching. -/
def settleCrash (rt : Runtime) (now : Time) (ids : ClaimIds) (attempt : AttemptRow)
    (db : Database) : Tx Database :=
  match (db.content.messages.find? attempt.messageId).filter fun r =>
      r.currentState == .dispatching with
  | some message => recoverAttempt rt now ids attempt message db
  | none => pure db

def claimOf (row : MessageRow) (providerTmpId orderingKey ownerId : String) (attempt : AttemptRow)
    (db : Database) : DispatchClaim :=
  { message :=
      { id := row.messageId
        connectionId := row.connectionId
        conversationId := row.conversationId
        recipient := row.recipient
        lineId := row.lineId.getD ""
        routeMode := row.routeMode
        text := row.bodyText
        mediaIds := db.mediaIdsOf row.messageId
        providerTmpId := providerTmpId
        state := .dispatching
        createdAt := row.createdAt }
    orderingKey := orderingKey
    ownerId := ownerId
    attemptId := attempt.attemptId
    laneToken := attempt.laneToken
    fencingToken := attempt.fencingToken }

/-- `claimed_lane`, `updated_message`, `inserted_attempt` and `inserted_status`. -/
def claimMessage (now : Time) (ids : ClaimIds) (lane : LaneRow) (ownerId : String)
    (fencingToken : Nat) (message : MessageRow) (db : Database) :
      Tx (DispatchClaim × Database) := do
  let attempt : AttemptRow :=
    { attemptId := ids.attemptId
      messageId := message.messageId
      connectionId := lane.connectionId
      orderingKey := lane.orderingKey
      ownerId := ownerId
      laneToken := lane.laneToken + 1
      fencingToken := fencingToken
      phase := .claimed
      createdAt := now }
  let db := db.updateLane lane.connectionId lane.orderingKey
    (fun r => { r with
      laneToken := r.laneToken + 1
      ownerId := some ownerId
      claimedMessageId := some message.messageId
      claimExpiresAt := some (now + claimInterval) })
  let db := db.setState message.messageId .dispatching
  let attempts ← orFail (db.dispatch.attempts.insert attempt) (uniqueViolation "claim next message")
  let db ← (db.setAttempts attempts).insertMessageStatus "claim next message"
    { statusId := ids.statusId
      messageId := message.messageId
      state := .dispatching
      observedAt := now }
  let providerTmpId ← orFail message.providerTmpId
    ⟨"claim next message: converting NULL to string is unsupported", []⟩
  require (ids.attemptId != "" && fencingToken != 0)
    ⟨"invalid dispatch claim returned by database", []⟩
  pure (claimOf message providerTmpId lane.orderingKey ownerId attempt db, db)

def validClaimRoute (connectionId orderingKey ownerId : String) (db : Database) : Bool :=
  db.tenantId != "" && connectionId != "" && orderingKey != "" && ownerId != "" &&
    ownerId.utf8ByteSize ≤ 256

/-- `ClaimNext`. A lane whose claim has expired is released whether or not its
attempt could be settled; a claim and a release of one lane exclude each other
because a lane with a claim has an open attempt. -/
def claimNext (rt : Runtime) (now : Time) (ids : ClaimIds) (locked : List String)
    (connectionId orderingKey ownerId : String) (db : Database) :
    Tx (Option DispatchClaim × Database) := do
  require (validClaimRoute connectionId orderingKey ownerId db) Sentinel.invalidRoute.err
  match lockedLease now connectionId ownerId db, lockedLane now connectionId orderingKey db with
  | some lease, some lane =>
    match lockedAttempt lane db with
    | some attempt => do
        let db ← settleCrash rt now ids attempt db
        pure (none, db.releaseLane connectionId orderingKey)
    | none =>
      match oldestQueued locked lane db with
      | some message => do
          let (claim, db) ← claimMessage now ids lane ownerId lease.fencingToken message db
          pure (some claim, db)
      | none =>
        pure (none, if lane.claimedMessageId.isSome then
          db.releaseLane connectionId orderingKey else db)
  | _, _ => pure (none, db)

/-! ### Operations on a claim -/

/-- The four rows a claim is checked against. `live` also asks that lease and
lane have not expired, which every operation but the completion does; `placed`
also asks for the attempt's own lane, which only the renewal does. -/
structure ClaimGuard where
  phase : AttemptPhase
  live : Bool
  placed : Bool

/-- The guards of `beginProviderIOSQL`, `renewProviderIOSQL`,
`lockDispatchCompletionSQL` and `releaseBeforeDispatchSQL`. -/
def ClaimGuard.holds (guard : ClaimGuard) (now : Time) (claim : DispatchClaim) (ownerId : String)
    (db : Database) : Bool :=
  let connectionId := claim.message.connectionId
  let orderingKey := dispatchOrderingKey claim
  (db.fleet.connections.find? connectionId).isSome &&
  ((db.fleet.leases.find? connectionId).any fun r =>
    r.ownerId == some ownerId && r.fencingToken == claim.fencingToken &&
      (!guard.live || now < r.expiresAt)) &&
  ((db.dispatch.lanes.find? (connectionId, orderingKey)).any fun r =>
    r.ownerId == some ownerId && r.laneToken == claim.laneToken &&
      r.claimedMessageId == some claim.message.id &&
      (!guard.live || r.claimExpiresAt.any fun expiry => now < expiry)) &&
  ((db.dispatch.attempts.find? claim.attemptId).any fun r =>
    r.messageId == claim.message.id && r.ownerId == ownerId && r.laneToken == claim.laneToken &&
      r.fencingToken == claim.fencingToken && r.phase == guard.phase &&
      (!guard.placed || r.laneKey == (connectionId, orderingKey))) &&
  (db.content.messages.find? claim.message.id).any fun r => r.currentState == .dispatching

def beginGuard : ClaimGuard := ⟨.claimed, true, false⟩

def renewGuard : ClaimGuard := ⟨.providerIoStarted, true, true⟩

def completeGuard : ClaimGuard := ⟨.providerIoStarted, false, false⟩

def releaseGuard : ClaimGuard := ⟨.claimed, true, false⟩

def validClaimCall (claim : DispatchClaim) (ownerId : String) (db : Database) : Bool :=
  validDispatchClaim claim db && dispatchOrderingKey claim != "" && ownerId != "" &&
    ownerId.utf8ByteSize ≤ 256

/-- `BeginProviderIO`: the one permission to send under a claim. -/
def beginProviderIo (now : Time) (claim : DispatchClaim) (ownerId : String) (db : Database) :
    Tx (Bool × Database) := do
  require (validClaimCall claim ownerId db) Sentinel.invalidCommand.err
  if beginGuard.holds now claim ownerId db then
    pure (true, db.updateAttempt claim.attemptId
      (fun r => { r with phase := .providerIoStarted, providerIoStartedAt := some now }))
  else pure (false, db)

def renewProviderIo (now : Time) (claim : DispatchClaim) (ownerId : String) (db : Database) :
    Tx (Bool × Database) := do
  require (validClaimCall claim ownerId db) Sentinel.invalidCommand.err
  if renewGuard.holds now claim ownerId db then
    pure (true, db.updateLane claim.message.connectionId (dispatchOrderingKey claim)
      (fun r => { r with claimExpiresAt := some (now + claimInterval) }))
  else pure (false, db)

/-- What `CompleteDispatch` draws for each status it records. -/
structure StatusIds where
  statusId : String
  eventId : String
  outboxId : String
  occurredAt : Time
  deriving DecidableEq

/-- The loop of `CompleteDispatch` over the states; each status reads the clock
after the one before. -/
def recordDispatchStates (rt : Runtime) (now : Time) (ids : Nat → StatusIds)
    (claim : DispatchClaim) (safeReason : String) :
    Nat → List MessageState → Database → Tx Database
  | _, [], db => pure db
  | index, state :: states, db => do
      let db ← db.insertMessageStatus "insert dispatch status"
        { statusId := (ids index).statusId
          messageId := claim.message.id
          state := state
          providerStatus := "gmessages"
          safeReason := safeReason
          observedAt := now + index }
      let db ← insertOutboundEvent rt (ids index).eventId (ids index).outboxId "dispatch"
        claim.message state (ids index).occurredAt now db
      recordDispatchStates rt now ids claim safeReason (index + 1) states db

def completeDispatch (rt : Runtime) (now : Time) (ids : Nat → StatusIds) (claim : DispatchClaim)
    (states : List MessageState) (safeReason : String) (db : Database) : Tx (Unit × Database) := do
  require (validClaimCall claim claim.ownerId db && states != [] && safeReason.utf8ByteSize ≤ 512)
    Sentinel.invalidCommand.err
  require (states.all fun state => state != .queued && state != .dispatching)
    ⟨"invalid message state", []⟩
  require (completeGuard.holds now claim claim.ownerId db) Sentinel.dispatchFenceLost.err
  let finalState := (deriveMessageState (.dispatching :: states)).getD .dispatching
  let db ← recordDispatchStates rt now ids claim safeReason 0 states db
  let db := db.setState claim.message.id finalState
  let db := db.completeAttempt claim.attemptId safeReason now
  pure ((), db.releaseLane claim.message.connectionId (dispatchOrderingKey claim))

def releaseBeforeDispatch (now : Time) (statusId : String) (claim : DispatchClaim)
    (safeReason : String) (db : Database) : Tx (Unit × Database) := do
  require (validClaimCall claim claim.ownerId db && safeReason.utf8ByteSize ≤ 512)
    Sentinel.invalidCommand.err
  require (releaseGuard.holds now claim claim.ownerId db) Sentinel.dispatchFenceLost.err
  let db := db.completeAttempt claim.attemptId safeReason now
  let db := db.releaseLane claim.message.connectionId (dispatchOrderingKey claim)
  let db ← (db.setState claim.message.id .queued).insertMessageStatus "release pre-dispatch claim"
    { statusId := statusId
      messageId := claim.message.id
      state := .queued
      safeReason := safeReason
      observedAt := now }
  pure ((), db)

end MessagingGateway.Store
