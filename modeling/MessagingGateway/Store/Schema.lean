import MessagingGateway.Relational.Table
import MessagingGateway.Domain.Message
import MessagingGateway.EventContract

/-!
# The tables of the store

Row level security confines every transaction to the tenant it was opened for,
and every key starts with the tenant, so a `Database` here is the rows of one
tenant. Columns that no modelled statement reads (`updated_at`, names, audit
rows) are left out. A `CHECK` that a statement can violate is a field of the
row it constrains.
-/

namespace MessagingGateway.Store

open Relational Domain

abbrev Bytes := List UInt8

/-! ### Connections and their leases -/

inductive TenantStatus
  | active
  | suspended
  deriving DecidableEq

inductive ConnectionState
  | unpaired
  | pairing
  | connected
  | degraded
  | reauthorizationRequired
  | suspended
  | disconnected
  deriving DecidableEq

structure ConnectionRow where
  connectionId : String
  state : ConnectionState
  reauthorizationEventId : Option String := none
  tenantSuspendPriorState : Option ConnectionState := none
  /-- `connections_tenant_suspension_state` -/
  suspensionState : tenantSuspendPriorState = none ∨ state = .suspended := by decide
  deriving DecidableEq

def ConnectionRow.connected (connectionId : String) : ConnectionRow :=
  { connectionId := connectionId, state := .connected }

structure LeaseRow where
  connectionId : String
  ownerId : Option String
  fencingToken : Nat
  expiresAt : Time
  tokenPositive : 0 < fencingToken := by decide
  deriving DecidableEq

inductive ActorState
  | acquiring
  | connecting
  | ready
  | backoff
  | stopped
  | leaseLost
  deriving DecidableEq

inductive SafeReason
  | none
  | transientNetwork
  | providerAuth
  | providerConfig
  | providerProtocol
  | sharedInfrastructure
  | leaseLost
  | sessionConflict
  | shutdown
  deriving DecidableEq

/-- The states `connection_actor_health.connection_state` admits. -/
def ConnectionState.reportable : ConnectionState → Bool
  | .unpaired | .pairing => false
  | _ => true

structure HealthRow where
  connectionId : String
  fencingToken : Nat
  actorState : ActorState
  connectionState : ConnectionState
  connectedAt : Option Time
  lastFrameAt : Option Time
  lastPhoneResponseAt : Option Time
  reconnectCount : Nat
  currentBackoff : Nat
  lastSafeReason : SafeReason
  requiresReauthorization : Bool
  stateReportable : connectionState.reportable = true := by decide
  deriving DecidableEq

/-- `session.Envelope`: a provider secret sealed by the key service. -/
structure SessionEnvelope where
  revision : Nat := 0
  version : Nat := 0
  provider : String := ""
  ciphertext : Bytes := []
  wrappedDEK : Bytes := []
  nonce : Bytes := []
  keyId : String := ""
  keyVersion : Nat := 0
  deriving DecidableEq

structure SessionRow where
  connectionId : String
  envelope : SessionEnvelope
  revision : Nat
  deriving DecidableEq

structure ConnectionTables where
  tenantStatus : TenantStatus := .active
  connections : Table ConnectionRow.connectionId := ∅
  leases : Table LeaseRow.connectionId := ∅
  health : Table HealthRow.connectionId := ∅
  sessions : Table SessionRow.connectionId := ∅
  deriving DecidableEq

/-! ### Messages, their media and their routes -/

inductive Direction
  | inbound
  | outbound
  | unknown
  deriving DecidableEq

inductive DiscoverySource
  | legacyUnknown
  | authenticatedGoogleSettings
  deriving DecidableEq

structure LineRow where
  lineId : String
  connectionId : String
  providerParticipantId : String
  providerOutgoingId : String
  normalizedPhone : String
  displayName : String
  carrierName : String
  colorHex : String
  rcsEnabled : Bool
  providerSIMNumber : Int
  providerSIMPayloadType : Int
  discoverySource : DiscoverySource
  active : Bool := true
  deriving DecidableEq

structure ConversationRow where
  connectionId : String
  conversationId : String
  providerDefaultOutgoingId : String := ""
  isGroup : Bool := false
  orderingKey : String := ""
  committedCursor : Option Bytes := none
  deriving DecidableEq

def ConversationRow.key (r : ConversationRow) : String × String :=
  (r.connectionId, r.conversationId)

structure MessageRow where
  messageId : String
  connectionId : String
  conversationId : String := ""
  orderingKey : String
  direction : Direction
  recipient : String := ""
  lineId : Option String := none
  routeMode : String := ""
  bodyText : String := ""
  providerMessageId : Option String := none
  providerTmpId : Option String := none
  transport : String := ""
  currentState : MessageState
  createdAt : Time
  deriving DecidableEq

structure StatusRow where
  statusId : String
  messageId : String
  state : MessageState
  providerStatus : String := ""
  safeReason : String := ""
  observedAt : Time
  deriving DecidableEq

inductive MediaState
  | pending
  | ready
  | failed
  deriving DecidableEq

structure MediaObjectRow where
  mediaId : String
  messageId : Option String := none
  state : MediaState
  mimeType : String := ""
  displayFilename : String := ""
  byteSize : Int := 0
  deriving DecidableEq

structure MessageMediaRow where
  messageId : String
  mediaId : String
  position : Int
  providerIdentityDigest : Option Bytes := none
  deriving DecidableEq

/-- `UNIQUE (tenant_id, message_id, position)`; the primary key
`(message_id, media_id)` is checked on insertion. -/
def MessageMediaRow.key (r : MessageMediaRow) : String × Int := (r.messageId, r.position)

structure FetchJobRow where
  jobId : String
  mediaId : String
  connectionId : String
  providerMessageId : String
  providerLocator : String
  declaredMimeType : String
  declaredSize : Int
  displayFilename : String
  keyEnvelope : SessionEnvelope
  thumbnailKeyEnvelope : SessionEnvelope
  attachmentIdentityDigest : Option Bytes
  deriving DecidableEq

structure MessageLog where
  messages : Table MessageRow.messageId := ∅
  statusHistory : Table StatusRow.statusId := ∅
  /-- the foreign key from a status to its message -/
  statusLinked : ∀ r ∈ statusHistory, (messages.find? r.messageId).isSome := by simp
  deriving DecidableEq

structure ContentTables extends MessageLog where
  lines : Table LineRow.lineId := ∅
  conversations : Table ConversationRow.key := ∅
  mediaObjects : Table MediaObjectRow.mediaId := ∅
  messageMedia : Table MessageMediaRow.key := ∅
  fetchJobs : Table FetchJobRow.jobId := ∅
  deriving DecidableEq

/-! ### Outbound dispatch -/

inductive AttemptPhase
  | claimed
  | providerIoStarted
  | complete
  deriving DecidableEq

structure LaneRow where
  connectionId : String
  orderingKey : String
  laneToken : Nat := 0
  ownerId : Option String := none
  claimedMessageId : Option String := none
  claimExpiresAt : Option Time := none
  deriving DecidableEq

def LaneRow.key (r : LaneRow) : String × String := (r.connectionId, r.orderingKey)

structure AttemptRow where
  attemptId : String
  messageId : String
  connectionId : String
  orderingKey : String
  ownerId : String
  laneToken : Nat
  fencingToken : Nat
  phase : AttemptPhase
  safeResult : String := ""
  createdAt : Time
  providerIoStartedAt : Option Time := none
  completedAt : Option Time := none
  deriving DecidableEq

def AttemptRow.laneKey (r : AttemptRow) : String × String := (r.connectionId, r.orderingKey)

def AttemptRow.isOpen (r : AttemptRow) : Bool :=
  r.phase == .claimed || r.phase == .providerIoStarted

structure IdempotencyRow where
  idempotencyKey : String
  requestDigest : Bytes
  messageId : String
  deriving DecidableEq

structure KafkaCommandRow where
  commandId : String
  topic : String
  partitionId : Int
  offsetId : Int
  producerIdentity : String
  idempotencyKey : String
  correlationId : String
  payloadDigest : Bytes
  messageId : String
  deriving DecidableEq

/-- The table is keyed by `UNIQUE (tenant_id, topic, partition_id, offset_id)`;
the primary key `command_id` is checked on insertion. -/
def KafkaCommandRow.key (r : KafkaCommandRow) : String × Int × Int :=
  (r.topic, r.partitionId, r.offsetId)

structure DispatchTables where
  lanes : Table LaneRow.key := ∅
  attempts : Table AttemptRow.attemptId := ∅
  idempotency : Table IdempotencyRow.idempotencyKey := ∅
  kafkaCommands : Table KafkaCommandRow.key := ∅
  deriving DecidableEq

/-! ### Evidence of provider responses -/

/-- Why an envelope was quarantined; `none` is the empty text. -/
inductive PoisonReason
  | none
  | decodeFailed
  | projectionInvalid
  | invalidSettingsSnapshot
  | providerCursorCycle
  | providerCursorBudgetExhausted
  | mediaIdentityConflict
  | responseIdDigestConflict
  deriving DecidableEq

def PoisonReason.text : PoisonReason → String
  | .none => ""
  | .decodeFailed => "decode_failed"
  | .projectionInvalid => "projection_invalid"
  | .invalidSettingsSnapshot => "invalid_settings_snapshot"
  | .providerCursorCycle => "provider_cursor_cycle"
  | .providerCursorBudgetExhausted => "provider_cursor_budget_exhausted"
  | .mediaIdentityConflict => "media_identity_conflict"
  | .responseIdDigestConflict => "response_id_digest_conflict"

inductive Disposition
  | inbox
  | rejected
  deriving DecidableEq

abbrev ResponseKey := String × String

structure ReservationRow where
  connectionId : String
  providerResponseId : String
  envelopeDigest : Bytes
  disposition : Disposition
  conflicted : Bool := false
  occurrenceCount : Nat := 1
  deriving DecidableEq

def ReservationRow.key (r : ReservationRow) : ResponseKey :=
  (r.connectionId, r.providerResponseId)

/-- The table is keyed by `UNIQUE (tenant_id, connection_id,
provider_response_id)`; the primary key `inbox_id` is checked on insertion. -/
structure InboxRow where
  inboxId : String
  connectionId : String
  providerResponseId : String
  envelopeDigest : Bytes
  rawEnvelope : Bytes
  poisoned : Bool
  poisonReason : PoisonReason
  ackPending : Bool
  ackedAt : Option Time := none
  ownerId : String
  fencingToken : Nat
  receivedAt : Time
  deriving DecidableEq

def InboxRow.key (r : InboxRow) : ResponseKey := (r.connectionId, r.providerResponseId)

structure RejectedRow where
  connectionId : String
  providerResponseId : String
  envelopeDigest : Bytes
  reason : PoisonReason
  ackPending : Bool := true
  ackedAt : Option Time := none
  conflicted : Bool := false
  occurrenceCount : Nat := 1
  firstSeenAt : Time
  deriving DecidableEq

def RejectedRow.key (r : RejectedRow) : ResponseKey := (r.connectionId, r.providerResponseId)

structure ConflictRow where
  conflictId : String
  connectionId : String
  providerResponseId : String
  conflictingDigest : Bytes
  conflictingRawEnvelope : Bytes
  conflictingEnvelopeSize : Nat
  occurrenceCount : Nat := 1
  deriving DecidableEq

def ConflictRow.key (r : ConflictRow) : ResponseKey := (r.connectionId, r.providerResponseId)

structure CursorBudgetRow where
  connectionId : String
  cursorScope : String
  acceptedAdvances : Nat := 0
  exhausted : Bool := false
  deriving DecidableEq

def CursorBudgetRow.key (r : CursorBudgetRow) : String × String :=
  (r.connectionId, r.cursorScope)

structure CursorHistoryRow where
  connectionId : String
  cursorScope : String
  cursorDigest : Bytes
  baseCursorDigest : Option Bytes
  providerResponseId : Option String
  observedAt : Time
  deriving DecidableEq

def CursorHistoryRow.key (r : CursorHistoryRow) : String × String × Bytes :=
  (r.connectionId, r.cursorScope, r.cursorDigest)

structure EvidenceTables where
  reservations : Table ReservationRow.key := ∅
  inbox : Table InboxRow.key := ∅
  rejected : Table RejectedRow.key := ∅
  conflicts : Table ConflictRow.key := ∅
  cursorBudgets : Table CursorBudgetRow.key := ∅
  cursorHistory : Table CursorHistoryRow.key := ∅
  deriving DecidableEq

/-! ### Events and the outbox -/

structure EventRow where
  eventId : String
  eventType : String
  aggregateType : String
  aggregateId : String
  connectionId : Option String
  conversationId : String
  canonicalBody : EventContract.Envelope
  deriving DecidableEq

inductive Destination
  | webhook
  | kafka
  deriving DecidableEq

def Destination.text : Destination → String
  | .webhook => "webhook"
  | .kafka => "kafka"

/-- The table is keyed by `UNIQUE (tenant_id, event_id, destination)`; the
primary key `outbox_id` is checked on insertion. -/
structure OutboxRow where
  outboxId : String
  eventId : String
  destination : Destination
  deriving DecidableEq

def OutboxRow.key (r : OutboxRow) : String × Destination := (r.eventId, r.destination)

structure EventTables where
  gatewayEvents : Table EventRow.eventId := ∅
  eventOutbox : Table OutboxRow.key := ∅
  /-- the foreign key from an outbox row to its event -/
  outboxLinked : ∀ r ∈ eventOutbox, (gatewayEvents.find? r.eventId).isSome := by simp
  deriving DecidableEq

abbrev ContentTables.empty : ContentTables := {}

abbrev EventTables.empty : EventTables := {}

structure Database where
  tenantId : String
  fleet : ConnectionTables := {}
  content : ContentTables := .empty
  dispatch : DispatchTables := {}
  evidence : EvidenceTables := {}
  events : EventTables := .empty
  deriving DecidableEq

end MessagingGateway.Store
