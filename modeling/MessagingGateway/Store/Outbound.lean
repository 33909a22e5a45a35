import MessagingGateway.Store.Leases
import MessagingGateway.Store.Messages

/-!
# Outbound messages

`CreateOutbound` queues a message on the lane of its conversation, or on the
lane of its recipient while the provider has not assigned a conversation, and
records it under its idempotency key. `RecordCreatedConversationFenced` gives a
message in flight the conversation the provider created for it.
-/

namespace MessagingGateway.Store

open Relational Domain

structure OutboundMessage where
  id : String
  connectionId : String
  conversationId : String := ""
  recipient : String := ""
  lineId : String := ""
  routeMode : String := ""
  text : String := ""
  mediaIds : List String := []
  providerTmpId : String := ""
  providerMessageId : String := ""
  direction : Option Direction := none
  transport : String := ""
  state : MessageState
  createdAt : Time
  deriving DecidableEq

structure CommandAudit where
  topic : String
  partition : Int
  offset : Int
  producerIdentity : String
  correlationId : String
  payloadDigest : Bytes
  deriving DecidableEq

structure CreateOutbound where
  idempotencyKey : String
  requestDigest : Bytes
  message : OutboundMessage
  commandAudit : Option CommandAudit := none
  deriving DecidableEq

inductive CreateOutcome
  | inserted
  | duplicate
  | conflict
  deriving DecidableEq

structure CreateResult where
  outcome : CreateOutcome
  message : Option OutboundMessage
  deriving DecidableEq

/-! ### Rows by key -/

namespace Database

@[simp] def setMessageMedia (db : Database) (media : Table MessageMediaRow.key) : Database :=
  { db with content := { db.content with messageMedia := media } }

@[simp] def setConversations (db : Database) (conversations : Table ConversationRow.key) :
    Database :=
  { db with content := { db.content with conversations := conversations } }

@[simp] def setLanes (db : Database) (lanes : Table LaneRow.key) : Database :=
  { db with dispatch := { db.dispatch with lanes := lanes } }

@[simp] def setAttempts (db : Database) (attempts : Table AttemptRow.attemptId) : Database :=
  { db with dispatch := { db.dispatch with attempts := attempts } }

def mediaIdsOf (db : Database) (messageId : String) : List String :=
  ((db.content.messageMedia.select fun r => r.messageId == messageId).insertionSort
    fun a b => a.position ≤ b.position).map (·.mediaId)

end Database

/-! ### Event bodies -/

/-- `outboundMessageEventBody`; `now` stands in for a zero instant. -/
def outboundMessageEventBody (tenantId eventId eventType : String) (message : OutboundMessage)
    (state : MessageState) (occurredAt now : Time) : Option EventContract.Envelope :=
  EventContract.marshal
    { eventId := eventId
      type := eventType
      occurredAt := if occurredAt = 0 then now else occurredAt
      tenantId := tenantId
      connectionId := message.connectionId
      conversationId := message.conversationId
      messageId := message.id
      providerMessageId := message.providerMessageId
      providerTmpId := message.providerTmpId
      direction := "outbound"
      recipients := (parseE164 message.recipient).toList
      text := message.text
      transport := message.transport
      status := state.text
      state := state.text
      media := message.mediaIds.mapIdx fun position mediaId =>
        { id := mediaId
          position := position
          status := .ready
          contentPath := "/v1/media/" ++ mediaId ++ "/content" } }

def insertOutboundEvent (rt : Runtime) (eventId outboxId : String) (operation : String)
    (message : OutboundMessage) (state : MessageState) (occurredAt now : Time) (db : Database) :
    Tx Database := do
  let eventType := "message." ++ state.text
  let body ← orFail
    (outboundMessageEventBody db.tenantId eventId eventType message state occurredAt now)
    ⟨"encode " ++ operation ++ " event: invalid event envelope", []⟩
  let db ← db.insertGatewayEvent rt ("insert " ++ operation ++ " event")
    { eventId := eventId
      eventType := eventType
      aggregateType := "message"
      aggregateId := message.id
      connectionId := nullIf message.connectionId
      conversationId := message.conversationId
      canonicalBody := body }
  db.insertEventOutbox ("insert " ++ operation ++ " outbox") outboxId eventId

theorem insertOutboundEvent_ok {rt : Runtime} {eventId outboxId operation : String}
    {message : OutboundMessage} {state : MessageState} {occurredAt now : Time} {db db' : Database}
    (h : insertOutboundEvent rt eventId outboxId operation message state occurredAt now db =
      .ok db') : EventsOnly db db' := by
  simp only [insertOutboundEvent, bind_ok] at h
  obtain ⟨body, -, db₁, h₁, h₂⟩ := h
  exact (insertGatewayEvent_ok h₁).trans (insertEventOutbox_ok h₂)

/-! ### CreateOutbound -/

structure CreateIds where
  statusId : String
  eventId : String
  outboxId : String
  commandId : String
  deriving DecidableEq

/-- `loadOutboundMessage`; a `NULL` provider tmp ID does not scan. -/
def loadOutboundMessage (messageId : String) (db : Database) : Tx OutboundMessage := do
  let row ← orFail (db.content.messages.find? messageId) ⟨"message not found", []⟩
  let providerTmpId ← orFail row.providerTmpId
    ⟨"get outbound message: converting NULL to string is unsupported", []⟩
  pure
    { id := row.messageId
      connectionId := row.connectionId
      conversationId := row.conversationId
      recipient := row.recipient
      lineId := row.lineId.getD ""
      routeMode := row.routeMode
      text := row.bodyText
      mediaIds := db.mediaIdsOf messageId
      providerTmpId := providerTmpId
      providerMessageId := row.providerMessageId.getD ""
      direction := some row.direction
      transport := row.transport
      state := row.currentState
      createdAt := row.createdAt }

/-- `recordKafkaCommand`: a command consumed again must be the same command. -/
def recordKafkaCommand (commandId : String) (command : CreateOutbound) (messageId : String)
    (db : Database) : Tx Database :=
  match command.commandAudit with
  | none => pure db
  | some audit => do
      let row : KafkaCommandRow :=
        { commandId := commandId
          topic := audit.topic
          partitionId := audit.partition
          offsetId := audit.offset
          producerIdentity := audit.producerIdentity
          idempotencyKey := command.idempotencyKey
          correlationId := audit.correlationId
          payloadDigest := audit.payloadDigest
          messageId := messageId }
      match db.dispatch.kafkaCommands.find? row.key with
      | some stored =>
        require (stored.commandId != "" && { row with commandId := stored.commandId } == stored)
          Sentinel.idempotencyConflict.err
        pure db
      | none =>
        require (db.dispatch.kafkaCommands.rows.all fun r => r.commandId != commandId)
          (uniqueViolation "record Kafka command")
        require (commandId != "") Sentinel.idempotencyConflict.err
        let kafkaCommands ← orFail (db.dispatch.kafkaCommands.insert row)
          (uniqueViolation "record Kafka command")
        pure { db with dispatch := { db.dispatch with kafkaCommands := kafkaCommands } }

/-- `validateMessageRouteSQL` and the checks on its row: the lane of an existing
conversation. -/
def conversationLane (message : OutboundMessage) (db : Database) : Tx String := do
  let conversation ← orFail
    (db.content.conversations.find? (message.connectionId, message.conversationId))
    Sentinel.invalidRoute.err
  let requested := ((db.content.lines.find? message.lineId).filter fun line =>
    message.lineId != "" && line.connectionId == message.connectionId && line.active)
  let outgoing := (requested.map (·.providerOutgoingId)).getD ""
  require (conversation.providerDefaultOutgoingId != "" &&
    (message.lineId == "" || outgoing == conversation.providerDefaultOutgoingId))
    Sentinel.invalidRoute.err
  pure (if conversation.orderingKey = "" then conversation.conversationId
    else conversation.orderingKey)

def outboundLane (message : OutboundMessage) (db : Database) : Tx String := do
  let orderingKey ←
    if message.conversationId = "" then pure "" else conversationLane message db
  pure (if orderingKey = "" then "new:" ++ message.recipient else orderingKey)

def outboundRow (message : OutboundMessage) (orderingKey : String) : MessageRow :=
  { messageId := message.id
    connectionId := message.connectionId
    conversationId := message.conversationId
    orderingKey := orderingKey
    direction := .outbound
    recipient := message.recipient
    lineId := nullIf message.lineId
    routeMode := message.routeMode
    bodyText := message.text
    providerTmpId := some message.providerTmpId
    currentState := .queued
    createdAt := message.createdAt }

/-- `insertOutboundMessageSQL` with the constraints of `messages`. -/
def insertOutboundMessage (row : MessageRow) (db : Database) : Tx Database := do
  let operation := "insert outbound message"
  require (row.bodyText.utf8ByteSize ≤ 65536) (checkViolation operation)
  require (db.fleet.connections.find? row.connectionId).isSome (checkViolation operation)
  require (row.lineId.all fun lineId => (db.content.lines.find? lineId).isSome)
    (checkViolation operation)
  require (db.content.messages.rows.all fun r =>
    !(r.connectionId == row.connectionId && r.providerTmpId == row.providerTmpId))
    (uniqueViolation operation)
  orFail (db.insertMessage row) (uniqueViolation operation)

theorem insertOutboundMessage_ok {row : MessageRow} {db db' : Database}
    (h : insertOutboundMessage row db = .ok db') : db.insertMessage row = some db' := by
  simp only [insertOutboundMessage, bind_ok, orFail_ok] at h
  obtain ⟨-, -, -, -, -, -, -, -, h⟩ := h
  exact h

/-- `insertOutboundMediaSQL`, position by position: every medium must be ready. -/
def insertOutboundMedia (messageId : String) : List (Nat × String) → Database → Tx Database
  | [], db => pure db
  | (position, mediaId) :: rest, db => do
      require ((db.content.mediaObjects.find? mediaId).any fun r => r.state == .ready)
        ⟨"attach outbound media: " ++ Sentinel.invalidCommand.text, [.invalidCommand]⟩
      require (db.content.messageMedia.rows.all fun r =>
        !(r.messageId == messageId && r.mediaId == mediaId))
        (uniqueViolation "attach outbound media")
      let media ← orFail (db.content.messageMedia.insert ⟨messageId, mediaId, position, none⟩)
        (uniqueViolation "attach outbound media")
      insertOutboundMedia messageId rest (db.setMessageMedia media)

def createOutbound (rt : Runtime) (now : Time) (ids : CreateIds) (command : CreateOutbound)
    (db : Database) : Tx (CreateResult × Database) := do
  let message := command.message
  require (db.tenantId != "" && message.id != "" && message.connectionId != "" &&
    command.idempotencyKey != "" && message.state == .queued) Sentinel.invalidCommand.err
  require (message.conversationId == "" || validProviderConversationID message.conversationId)
    Sentinel.invalidRoute.err
  match db.dispatch.idempotency.find? command.idempotencyKey with
  | some stored =>
    if stored.requestDigest = command.requestDigest ∧ stored.requestDigest.length = 32 then
      let message ← loadOutboundMessage stored.messageId db
      let db ← recordKafkaCommand ids.commandId command message.id db
      pure (⟨.duplicate, some message⟩, db)
    else pure (⟨.conflict, none⟩, db)
  | none =>
    let orderingKey ← outboundLane message db
    let db ← insertOutboundMessage (outboundRow message orderingKey) db
    let db := db.setLanes (db.dispatch.lanes.insertIgnore
      { connectionId := message.connectionId, orderingKey := orderingKey })
    let db ← insertOutboundMedia message.id (message.mediaIds.mapIdx Prod.mk) db
    let idempotency ← orFail (db.dispatch.idempotency.insert
      ⟨command.idempotencyKey, command.requestDigest, message.id⟩)
      (uniqueViolation "insert message idempotency")
    let db := { db with dispatch := { db.dispatch with idempotency := idempotency } }
    let db ← recordKafkaCommand ids.commandId command message.id db
    let db ← db.insertMessageStatus "insert queued status"
      { statusId := ids.statusId, messageId := message.id, state := .queued, observedAt := now }
    let db ← insertOutboundEvent rt ids.eventId ids.outboxId "queued" message .queued
      message.createdAt now db
    pure (⟨.inserted, some message⟩, db)

/-! ### RecordCreatedConversationFenced -/

/-- `COALESCE(NULLIF(conversation.ordering_key, ''), conversation.conversation_id,
message.ordering_key)`: the lane the conversation already has, if any. -/
def existingLane (message : MessageRow) (conversationId : String) (db : Database) : String :=
  match db.content.conversations.find? (message.connectionId, conversationId) with
  | none => message.orderingKey
  | some conversation =>
    if conversation.orderingKey = "" then conversation.conversationId
    else conversation.orderingKey

def laneBusy (connectionId orderingKey messageId : String) (db : Database) : Bool :=
  ((db.dispatch.lanes.find? (connectionId, orderingKey)).any fun r => r.claimedMessageId.isSome) ||
    (db.dispatch.attempts.rows.any fun r =>
      r.connectionId == connectionId && r.orderingKey == orderingKey && r.isOpen) ||
    db.content.messages.rows.any fun r =>
      r.messageId != messageId && r.connectionId == connectionId &&
        r.orderingKey == orderingKey &&
        (r.currentState == .queued || r.currentState == .dispatching)

def inFlight (message : MessageRow) (ownerId : String) (fencingToken : Nat) (db : Database) :
    Bool :=
  (db.dispatch.attempts.rows.any fun r =>
    r.connectionId == message.connectionId && r.orderingKey == message.orderingKey &&
      r.messageId == message.messageId && r.ownerId == ownerId &&
      r.fencingToken == fencingToken && r.phase == .providerIoStarted) &&
  (db.dispatch.lanes.find? (message.connectionId, message.orderingKey)).any fun r =>
    r.ownerId == some ownerId && r.claimedMessageId == some message.messageId

def upsertRoute (conversations : Table ConversationRow.key) (row : ConversationRow) :
    Table ConversationRow.key :=
  (conversations.insertIgnore row).update (fun r => r.key == row.key)
    (fun r => { r with
      providerDefaultOutgoingId := row.providerDefaultOutgoingId
      isGroup := row.isGroup
      orderingKey := row.orderingKey })

def recordCreatedConversationFenced (now : Time) (connectionId messageId conversationId
    defaultOutgoingId : String) (isGroup : Bool) (ownerId : String) (fencingToken : Nat)
    (db : Database) : Tx (Unit × Database) := do
  require (db.tenantId != "" && connectionId != "" && messageId != "" &&
    validProviderConversationID conversationId && validProviderIdentifier defaultOutgoingId &&
    ownerId != "" && ownerId.utf8ByteSize ≤ 256 && fencingToken != 0 && !isGroup)
    Sentinel.invalidRoute.err
  require (db.ownsLease now connectionId ownerId fencingToken) Sentinel.connectionLeaseLost.err
  let message ← orFail ((db.content.messages.find? messageId).filter fun r =>
    r.connectionId == connectionId && r.currentState == .dispatching)
    Sentinel.connectionLeaseLost.err
  require (inFlight message ownerId fencingToken db) Sentinel.connectionLeaseLost.err
  let existing := existingLane message conversationId db
  require (existing == message.orderingKey || !laneBusy connectionId existing messageId db)
    Sentinel.canonicalLaneBusy.err
  let db := db.setConversations (upsertRoute db.content.conversations
    { connectionId := connectionId
      conversationId := conversationId
      providerDefaultOutgoingId := defaultOutgoingId
      isGroup := isGroup
      orderingKey := message.orderingKey })
  pure ((), db.updateMessage messageId
    (fun r => { r with conversationId := conversationId }))

end MessagingGateway.Store
