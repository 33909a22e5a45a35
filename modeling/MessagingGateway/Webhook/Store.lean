import MessagingGateway.Relational.Runs
import MessagingGateway.Store.Dispatch
import MessagingGateway.Webhook.Schema

/-!
# The statements of webhook delivery

Each repository operation is one transaction and reads the database clock as
`now`. A statement with several common table expressions reads the snapshot it
started from; where the source relies on that, the definitions below say which
tables they read.
-/

namespace MessagingGateway.Webhook

open Relational Domain Store

def maxEndpointsPerTenant : Nat := 128

def errInvalidEndpoint : Err := ⟨"invalid webhook endpoint", []⟩

def errEndpointQuotaExceeded : Err := ⟨"tenant webhook endpoint quota exceeded", []⟩

def errInvalidWorker : Err := ⟨"invalid webhook worker configuration", []⟩

def errWebhookClaimLost : Err := ⟨"webhook delivery claim lost", []⟩

def validOwner (ownerId : String) : Bool := ownerId != "" && ownerId.utf8ByteSize ≤ 256

/-! ### Events -/

/-- The rows a gateway operation writes for one event: the event, its outbox row
for each destination, and the publication columns of those rows. -/
def publish (rt : Runtime) (now : Time) (event : EventRow) (outboxId : String)
    (db : WebhookDatabase) : Tx WebhookDatabase := do
  let gateway : Database := { tenantId := db.tenantId, events := db.events }
  let gateway ← gateway.insertGatewayEvent rt "insert gateway event" event
  let gateway ← gateway.insertEventOutbox "insert event outbox" outboxId event.eventId
  let progress ← orFail
    (db.progress.insert ⟨outboxId ++ ":" ++ Destination.webhook.text, now, none, none, none⟩)
    (uniqueViolation "insert event outbox")
  let progress ← orFail
    (progress.insert ⟨outboxId ++ ":" ++ Destination.kafka.text, now, none, none, none⟩)
    (uniqueViolation "insert event outbox")
  pure { db with events := gateway.events, progress := progress }

/-! ### Endpoints -/

structure Endpoint where
  id : String
  destination : String
  keyId : String
  createdAt : Time
  deriving DecidableEq

/-- `record.Secret.Validate() == nil && record.Secret.Provider == "webhook"`. -/
def validSecret (secret : SessionEnvelope) : Bool :=
  SessionEnvelope.valid secret && secret.provider == "webhook"

def createEndpoint (endpoint : Endpoint) (secret : SessionEnvelope) (maxEndpoints : Nat)
    (db : WebhookDatabase) : Tx WebhookDatabase := do
  require (db.tenantId != "" && endpoint.id != "" && endpoint.destination != "" &&
    endpoint.keyId != "" && validSecret secret && 1 ≤ maxEndpoints &&
    maxEndpoints ≤ maxEndpointsPerTenant) errInvalidEndpoint
  require ((db.endpoints.select EndpointRow.active).length < maxEndpoints) errEndpointQuotaExceeded
  require (db.endpoints.rows.all fun r =>
    r.destination != endpoint.destination && r.keyId != endpoint.keyId)
    (uniqueViolation "create webhook endpoint")
  let tables ← orFail (db.insertEndpoint
    { endpointId := endpoint.id
      destination := endpoint.destination
      keyId := endpoint.keyId
      secret := secret
      createdAt := endpoint.createdAt }) (uniqueViolation "create webhook endpoint")
  pure (db.setTables tables)

def EndpointRow.rotate (r : EndpointRow) (keyId : String) (secret : SessionEnvelope)
    (previousValidUntil : Time) : EndpointRow :=
  { r with
    previousKeyId := some r.keyId
    previousSecret := some r.secret
    previousValidUntil := some previousValidUntil
    keyId := keyId
    secret := secret }

/-- `RotateEndpoint`; the zero instant is `none`. -/
def rotateEndpoint (endpointId keyId : String) (secret : SessionEnvelope)
    (previousValidUntil : Option Time) (db : WebhookDatabase) : Tx WebhookDatabase := do
  require (db.tenantId != "" && endpointId != "" && keyId != "" && validSecret secret)
    errInvalidEndpoint
  let validUntil ← orFail previousValidUntil errInvalidEndpoint
  require ((db.endpoints.find? endpointId).any EndpointRow.active) errInvalidEndpoint
  require (db.endpoints.rows.all fun r => r.endpointId == endpointId || r.keyId != keyId)
    (uniqueViolation "rotate webhook endpoint")
  pure (db.setTables (db.updateEndpoints (fun r => r.endpointId == endpointId && r.active)
    (fun r => r.rotate keyId secret validUntil)))

def EndpointRow.purge (r : EndpointRow) : EndpointRow :=
  { r with previousKeyId := none, previousSecret := none, previousValidUntil := none }

def purged (now : Time) (tables : DeliveryTables) : DeliveryTables :=
  tables.updateEndpoints (fun r => r.previousValidUntil.any (· ≤ now)) EndpointRow.purge

def purgeExpiredSecrets (now : Time) (db : WebhookDatabase) : Tx WebhookDatabase := do
  require (db.tenantId != "") errInvalidWorker
  pure (db.setTables (purged now db.toDeliveryTables))

def DeliveryTables.endpointActive (tables : DeliveryTables) (endpointId : String) : Bool :=
  (tables.endpoints.find? endpointId).any EndpointRow.active

/-! ### Claim -/

/-- `claimed_by IS NULL OR claim_expires_at <= clock_timestamp()`. -/
def claimable (now : Time) (claimedBy : Option String) (claimExpiresAt : Option Time) : Bool :=
  claimedBy.isNone || claimExpiresAt.any (· ≤ now)

/-- `locked_outbox`: the events that still have to reach the endpoints. -/
def lockedOutbox (now : Time) (limit : Nat) (db : WebhookDatabase) : List OutboxRow :=
  let ready := (db.events.eventOutbox.select fun r => r.destination == .webhook).filterMap fun r =>
    ((db.progress.find? r.outboxId).filter fun p => p.publishedAt.isNone && p.availableAt ≤ now &&
      claimable now p.claimedBy p.claimExpiresAt).map fun p => (r, p.availableAt)
  ((orderBy (fun r => r.2) (fun r => r.1.outboxId) ready).take limit).map Prod.fst

/-- `EXISTS (SELECT 1 FROM webhook_deliveries ...)` for an endpoint and an event. -/
def DeliveryTables.hasDelivery (tables : DeliveryTables) (endpointId eventId : String) : Bool :=
  tables.deliveries.rows.any fun r => r.endpointId == endpointId && r.eventId == eventId

/-- `candidate_pairs`: an event and an active endpoint it has no delivery for. -/
def candidatePairs (limit : Nat) (locked : List OutboxRow) (db : WebhookDatabase) :
    List (EventRow × EndpointRow) :=
  let pairs := locked.flatMap fun row =>
    (db.endpoints.select EndpointRow.active).filterMap fun endpoint =>
      ((db.events.gatewayEvents.find? row.eventId).filter fun event =>
        !db.hasDelivery endpoint.endpointId event.eventId).map fun event => (row, event, endpoint)
  ((orderBy (fun p => p.1.outboxId) (fun p => p.2.2.endpointId) pairs).take limit).map Prod.snd

def newDelivery (now : Time) (event : EventRow) (endpoint : EndpointRow) : DeliveryRow :=
  { deliveryId := endpoint.endpointId ++ ":" ++ event.eventId
    endpointId := endpoint.endpointId
    eventId := event.eventId
    canonicalBody := event.canonicalBody
    availableAt := now
    endpointGeneration := endpoint.generation }

def materialize (now : Time) (tables : DeliveryTables) (pair : EventRow × EndpointRow) :
    Tx DeliveryTables :=
  if tables.hasDelivery pair.2.endpointId pair.1.eventId then pure tables
  else orFail (tables.insertDelivery (newDelivery now pair.1 pair.2))
    (uniqueViolation "claim webhook deliveries")

/-- `completed_events`: the locked events that every active endpoint has a
delivery for, those of this statement included. -/
def completedEvents (locked : List OutboxRow) (tables : DeliveryTables) : List String :=
  (locked.filter fun row => (tables.endpoints.select EndpointRow.active).all fun endpoint =>
    tables.hasDelivery endpoint.endpointId row.eventId).map OutboxRow.eventId

def closedOutbox (now : Time) (events : List String) (db : WebhookDatabase) :
    Table OutboxProgress.outboxId :=
  let rows := db.events.eventOutbox.select fun r =>
    r.destination == .webhook && events.contains r.eventId
  db.progress.update (fun p => rows.any fun r => r.outboxId == p.outboxId)
    (fun p => { p with publishedAt := some now, claimedBy := none, claimExpiresAt := none })

def claimCandidate (now : Time) (tables : DeliveryTables) (r : DeliveryRow) : Bool :=
  tables.endpointActive r.endpointId && r.state.isOpen && r.availableAt ≤ now &&
    claimable now r.claimedBy r.claimExpiresAt

/-- `candidates`, of the snapshot: the deliveries that `materialized` inserts are
not among them. -/
def candidates (now : Time) (limit : Nat) (tables : DeliveryTables) : List DeliveryRow :=
  (orderBy (fun r => r.availableAt) (fun r => r.deliveryId)
    (tables.deliveries.select (claimCandidate now tables))).take limit

def DeliveryTables.generationOf (tables : DeliveryTables) (endpointId : String) : Nat :=
  ((tables.endpoints.find? endpointId).map EndpointRow.generation).getD 0

def DeliveryRow.claim (r : DeliveryRow) (now : Time) (ownerId : String) (generation : Nat) :
    DeliveryRow :=
  { r with
    state := .delivering
    claimedBy := some ownerId
    claimExpiresAt := some (now + claimInterval)
    claimToken := r.claimToken + 1
    endpointGeneration := generation
    httpStartedAt := none
    attemptCount := r.attemptCount + 1
    cycleAttemptCount := r.cycleAttemptCount + 1 }

/-- The update of `claimed`, with the generations of the endpoints. -/
def DeliveryTables.lease (tables : DeliveryTables) (now : Time) (ownerId : String)
    (generation : String → Nat) (chosen : List DeliveryRow) : DeliveryTables :=
  tables.updateDeliveries (fun r => chosen.any fun c => c.deliveryId == r.deliveryId)
    (fun r => r.claim now ownerId (generation r.endpointId))

def insertAttempt (now : Time) (attempts : Table HttpAttemptRow.key) (r : DeliveryRow) :
    Tx (Table HttpAttemptRow.key) := do
  let attemptId := r.deliveryId ++ ":" ++ toString r.attemptCount
  require (attempts.rows.all fun a => a.attemptId != attemptId)
    (uniqueViolation "claim webhook deliveries")
  orFail (attempts.insert ⟨attemptId, r.deliveryId, r.attemptCount, now, none, none, ""⟩)
    (uniqueViolation "claim webhook deliveries")

structure Delivery where
  deliveryId : String
  endpointId : String
  eventId : String
  destination : String
  keyId : String
  canonicalBody : EventContract.Envelope
  attempt : Nat
  ownerId : String
  claimToken : Nat
  endpointGeneration : Nat
  secret : SessionEnvelope
  deriving DecidableEq

def deliveryOf (ownerId : String) (tables : DeliveryTables) (r : DeliveryRow) : Option Delivery :=
  ((tables.endpoints.find? r.endpointId).filter EndpointRow.active).map fun endpoint =>
    { deliveryId := r.deliveryId
      endpointId := r.endpointId
      eventId := r.eventId
      destination := endpoint.destination
      keyId := endpoint.keyId
      canonicalBody := r.canonicalBody
      attempt := r.cycleAttemptCount
      ownerId := ownerId
      claimToken := r.claimToken
      endpointGeneration := r.endpointGeneration
      secret := { endpoint.secret with revision := 0, version := 1, provider := "webhook" } }

def claimPass (now : Time) (ownerId : String) (limit : Nat) (db : WebhookDatabase) :
    Tx (List Delivery × WebhookDatabase) := do
  let db := db.setTables (purged now db.toDeliveryTables)
  let locked := lockedOutbox now limit db
  let tables ← (candidatePairs limit locked db).foldlM (materialize now) db.toDeliveryTables
  let progress := closedOutbox now (completedEvents locked tables) db
  let chosen := candidates now limit db.toDeliveryTables
  let tables := tables.lease now ownerId db.generationOf chosen
  let claimed := chosen.map fun r => r.claim now ownerId (db.generationOf r.endpointId)
  let attempts ← claimed.foldlM (insertAttempt now) tables.attempts
  pure (claimed.filterMap (deliveryOf ownerId db.toDeliveryTables),
    { db.setTables (tables.setAttempts attempts) with progress := progress })

/-- `Claim`: a pass that leases nothing may have materialized deliveries, which a
second pass, at the instant `again`, then sees. -/
def claim (now again : Time) (ownerId : String) (limit : Nat) (db : WebhookDatabase) :
    Tx (List Delivery × WebhookDatabase) := do
  require (db.tenantId != "" && validOwner ownerId && 1 ≤ limit && limit ≤ 256) errInvalidWorker
  let (deliveries, db) ← claimPass now ownerId limit db
  if deliveries.isEmpty then claimPass again ownerId limit db
  else pure (deliveries, db)

/-! ### The life of a claim -/

/-- `admitWebhookClaimSQL`: the conditions on the delivery. -/
def DeliveryRow.admissible (r : DeliveryRow) (now : Time) (delivery : Delivery) : Bool :=
  r.endpointId == delivery.endpointId && r.claimedBy == some delivery.ownerId &&
    r.claimToken == delivery.claimToken && r.endpointGeneration == delivery.endpointGeneration &&
    r.state == .delivering && r.httpStartedAt.isNone && r.claimExpiresAt.any (now < ·)

def admitClaim (now : Time) (delivery : Delivery) (db : WebhookDatabase) :
    Tx (Bool × WebhookDatabase) := do
  require (db.tenantId != "" && delivery.deliveryId != "" && delivery.endpointId != "" &&
    validOwner delivery.ownerId && delivery.claimToken != 0 && delivery.endpointGeneration != 0)
    errInvalidWorker
  let admitted := (db.endpoints.find? delivery.endpointId).any (fun endpoint =>
      endpoint.active && endpoint.generation == delivery.endpointGeneration) &&
    (db.deliveries.find? delivery.deliveryId).any fun r => r.admissible now delivery
  if admitted then
    pure (true, db.setTables (db.updateDeliveries (fun r => r.deliveryId == delivery.deliveryId)
      (fun r => { r with httpStartedAt := some now })))
  else pure (false, db)

/-- `renewWebhookClaimSQL`: the conditions on the delivery. -/
def DeliveryRow.renewable (r : DeliveryRow) (now : Time) (ownerId : String) (claimToken : Nat) :
    Bool :=
  r.claimedBy == some ownerId && r.claimToken == claimToken && r.state == .delivering &&
    r.claimExpiresAt.any (now < ·) && r.httpStartedAt.isSome

def renewClaim (now : Time) (deliveryId ownerId : String) (claimToken : Nat)
    (db : WebhookDatabase) : Tx (Bool × WebhookDatabase) := do
  require (db.tenantId != "" && deliveryId != "" && validOwner ownerId && claimToken != 0)
    errInvalidWorker
  if (db.deliveries.find? deliveryId).any fun r => r.renewable now ownerId claimToken then
    pure (true, db.setTables (db.updateDeliveries (fun r => r.deliveryId == deliveryId)
      (fun r => { r with claimExpiresAt := some (now + claimInterval) })))
  else pure (false, db)

structure AttemptResult where
  deliveryId : String
  attempt : Nat
  ownerId : String
  claimToken : Nat
  succeeded : Bool := false
  dead : Bool := false
  statusCode : Int := 0
  safeError : String := ""
  /-- `none` for the zero instant -/
  nextAvailableAt : Option Time := none
  deriving DecidableEq

/-- `locked_delivery`: completion needs the claim, but not that it is unexpired. -/
def DeliveryRow.completable (r : DeliveryRow) (result : AttemptResult) : Bool :=
  r.state == .delivering && r.cycleAttemptCount == result.attempt &&
    r.claimedBy == some result.ownerId && r.claimToken == result.claimToken

def DeliveryRow.complete (r : DeliveryRow) (now : Time) (active : Bool) (result : AttemptResult) :
    DeliveryRow :=
  { r with
    state :=
      if !active then .dead else if result.succeeded then .succeeded
      else if result.dead then .dead else .pending
    availableAt :=
      if !active || result.succeeded || result.dead then r.availableAt
      else result.nextAvailableAt.getD now
    claimedBy := none
    claimExpiresAt := none
    completedAt := if !active || result.succeeded || result.dead then some now else none }

/-- `INSERT INTO webhook_dlq ... ON CONFLICT (tenant_id, delivery_id) DO NOTHING`. -/
def ensureLetter (operation : String) (tables : DeliveryTables) (row : DeadLetterRow) :
    Tx DeliveryTables :=
  if (tables.dlq.find? row.deliveryId).isSome then pure tables
  else orFail (tables.insertLetter row) (uniqueViolation operation)

def deadLetter (now : Time) (dlqId safeError : String) (r : DeliveryRow) : DeadLetterRow :=
  ⟨dlqId, r.deliveryId, r.eventId, r.canonicalBody, safeError, now, none⟩

def HttpAttemptRow.finish (a : HttpAttemptRow) (now : Time) (statusCode : Option Int)
    (safeError : String) : HttpAttemptRow :=
  { a with finishedAt := some now, statusCode := statusCode, safeError := safeError }

/-- `CompleteAttempt`, with the dead letter identifier that `newID()` returns. -/
def completeAttempt (now : Time) (dlqId : String) (result : AttemptResult) (db : WebhookDatabase) :
    Tx WebhookDatabase := do
  require (db.tenantId != "" && result.deliveryId != "" && 1 ≤ result.attempt &&
    validOwner result.ownerId && result.claimToken != 0 && result.safeError.utf8ByteSize ≤ 1024)
    errInvalidWorker
  let r ← orFail ((db.deliveries.find? result.deliveryId).filter (·.completable result))
    errWebhookClaimLost
  let endpoint ← orFail (db.endpoints.find? r.endpointId) errWebhookClaimLost
  let a ← orFail (db.attempts.find? (r.deliveryId, r.attemptCount)) errWebhookClaimLost
  let safeError := if endpoint.active then result.safeError else "endpoint revoked"
  let statusCode := if result.statusCode = 0 then none else some result.statusCode
  let tables := db.updateAttempts (fun b => b.key == a.key)
    (fun b => b.finish now statusCode safeError)
  let tables := tables.updateDeliveries (fun s => s.deliveryId == r.deliveryId)
    (fun s => s.complete now endpoint.active result)
  let letters := if result.dead || !endpoint.active then [deadLetter now dlqId safeError r] else []
  let tables ← letters.foldlM (ensureLetter "complete webhook attempt") tables
  pure (db.setTables tables)

/-! ### Revocation and replay -/

/-- `locked_deliveries`: the filter is a disjunction over nullable columns, and a
comparison with NULL does not hold. -/
def DeliveryRow.revocable (r : DeliveryRow) (now : Time) (endpointId : String) : Bool :=
  r.endpointId == endpointId && r.state.isOpen &&
    (r.httpStartedAt.isNone || r.claimExpiresAt.any (· ≤ now))

def DeliveryRow.revoke (r : DeliveryRow) (now : Time) : DeliveryRow :=
  { r with
    state := .dead
    claimedBy := none
    claimExpiresAt := none
    claimToken := r.claimToken + 1
    completedAt := some now }

def revokedLetter (now : Time) (r : DeliveryRow) : DeadLetterRow :=
  deadLetter now (r.deliveryId ++ ":revoked") "endpoint revoked" r

def EndpointRow.revoke (r : EndpointRow) : EndpointRow :=
  { r with
    active := false
    generation := if r.active then r.generation + 1 else r.generation }

def DeliveryRow.onWire (r : DeliveryRow) (now : Time) (endpointId : String) : Bool :=
  r.endpointId == endpointId && r.state == .delivering && r.httpStartedAt.isSome &&
    r.claimExpiresAt.any (now < ·)

/-- `DeleteEndpoint`; the answer tells whether a request is still on the wire. -/
def deleteEndpoint (now : Time) (endpointId : String) (db : WebhookDatabase) :
    Tx (Bool × WebhookDatabase) := do
  require (db.tenantId != "" && endpointId != "") errInvalidEndpoint
  require (db.endpoints.find? endpointId).isSome errInvalidEndpoint
  let locked := db.deliveries.select fun r => r.revocable now endpointId
  let tables := db.updateAttempts
    (fun a => a.finishedAt.isNone &&
      locked.any fun r => r.deliveryId == a.deliveryId && r.attemptCount == a.attemptNumber)
    (fun a => a.finish now a.statusCode "endpoint revoked")
  let tables := tables.updateDeliveries (fun r => r.revocable now endpointId)
    (fun r => r.revoke now)
  let tables ← (locked.map (revokedLetter now)).foldlM
    (ensureLetter "delete webhook endpoint") tables
  let tables := tables.updateEndpoints (fun r => r.endpointId == endpointId) EndpointRow.revoke
  pure (db.deliveries.rows.any fun r => r.onWire now endpointId, db.setTables tables)

def DeliveryRow.replay (r : DeliveryRow) (now : Time) : DeliveryRow :=
  { r with
    state := .pending
    cycleAttemptCount := 0
    availableAt := now
    claimedBy := none
    claimExpiresAt := none
    claimToken := r.claimToken + 1
    completedAt := none }

/-- `locked_dlq`: an unreplayed letter of a delivery to an active endpoint. -/
def replayable (dlqId : String) (tables : DeliveryTables) (letter : DeadLetterRow) : Bool :=
  letter.dlqId == dlqId && letter.replayedAt.isNone &&
    (tables.deliveries.find? letter.deliveryId).any fun r => tables.endpointActive r.endpointId

def replayDLQ (now : Time) (dlqId : String) (db : WebhookDatabase) : Tx WebhookDatabase := do
  require (db.tenantId != "" && dlqId != "") errInvalidEndpoint
  let letters := db.dlq.select (replayable dlqId db.toDeliveryTables)
  require (!letters.isEmpty) errInvalidEndpoint
  let tables := db.updateDeliveries (fun r => letters.any fun l => l.deliveryId == r.deliveryId)
    (fun r => r.replay now)
  pure (db.setTables (tables.markReplayed now fun l => l.dlqId == dlqId))

end MessagingGateway.Webhook
