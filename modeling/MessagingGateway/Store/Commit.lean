import MessagingGateway.Store.Projection

/-!
# CommitEnvelope

One transaction stores the evidence of a provider response and everything it
projects. A response seen before, a cursor breaker that has tripped, a cursor
cycle and an attachment that changed its identity all end the transaction
early, with a result and not with an error, so what was written up to that
point stays.
-/

namespace MessagingGateway.Store

open Relational Domain Ingress

/-! ### Identifiers -/

structure MessageIds where
  messageId : String
  statusId : String
  outboxId : String
  deriving DecidableEq

structure MediaIds where
  mediaId : String
  jobId : String
  deriving DecidableEq

/-- The identifiers one `CommitEnvelope` draws, by the position of what they
are drawn for. -/
structure CommitIds where
  inboxId : String
  conflictId : String
  poisonOutboxId : String
  message : Nat → MessageIds
  media : Nat → MediaIds
  eventOutboxId : Nat → String

/-! ### Conversations -/

def upsertConversation (connectionId : String) (conversation : ProjectedConversation)
    (conversations : Table ConversationRow.key) : Table ConversationRow.key :=
  upsert conversations
    { connectionId := connectionId
      conversationId := conversation.conversationId
      providerDefaultOutgoingId := conversation.defaultOutgoingId
      isGroup := conversation.isGroup
      orderingKey := conversation.conversationId }
    (fun r => { r with
      providerDefaultOutgoingId := conversation.defaultOutgoingId
      isGroup := conversation.isGroup
      orderingKey := if r.orderingKey = "" then conversation.conversationId else r.orderingKey })

def projectConversations (connectionId : String) :
    List ProjectedConversation → Database → Tx Database
  | [], db => pure db
  | conversation :: conversations, db => do
      require (validProviderConversationID conversation.conversationId &&
        (conversation.defaultOutgoingId == "" ||
          validProviderIdentifier conversation.defaultOutgoingId))
        ⟨"invalid provider conversation projection", []⟩
      projectConversations connectionId conversations
        (db.setConversations (upsertConversation connectionId conversation
          db.content.conversations))

/-! ### Messages -/

structure Projected where
  providerMessageId : String
  messageId : String
  state : MessageState
  direction : Direction
  inserted : Bool
  deriving DecidableEq

/-- The row of a provider message seen for the first time. A status without a
normalised final state is uncertain. -/
def projectedRow (connectionId messageId : String) (projected : ProjectedMessage) (now : Time) :
    MessageRow :=
  { messageId := messageId
    connectionId := connectionId
    conversationId := projected.conversationId
    orderingKey := projected.conversationId
    direction := projected.direction.getD .inbound
    bodyText := projected.text
    providerMessageId := some projected.providerMessageId
    providerTmpId := nullIf projected.providerTmpId
    transport := projected.transport
    currentState := projected.state.getD .uncertain
    createdAt := now }

/-- A row that shares a unique key with another. -/
def MessageRow.clashes (row other : MessageRow) : Bool :=
  other.messageId == row.messageId ||
    (other.connectionId == row.connectionId &&
      ((row.providerMessageId.isSome && other.providerMessageId == row.providerMessageId) ||
        (row.providerTmpId.isSome && other.providerTmpId == row.providerTmpId)))

/-- `insertProjectedMessageSQL`. A conflict leaves the second lookup without a
winner, since the first found none in the same snapshot. -/
def insertProjected (row : MessageRow) (db : Database) : Tx Database := do
  require (!db.content.messages.rows.any row.clashes)
    ⟨"load concurrent projected message winner: sql: no rows in result set", []⟩
  orFail (db.insertMessage row)
    ⟨"load concurrent projected message winner: sql: no rows in result set", []⟩

def resolveDirection (stored : Direction) (projected : Option Direction) : Tx Direction :=
  match projected with
  | none | some .unknown => pure stored
  | some direction =>
    if stored = .unknown then pure direction
    else if stored = direction then pure stored
    else .error ⟨"provider message direction conflicts with durable identity", []⟩

def reconciledState (row : MessageRow) (observed : Option MessageState) (db : Database) :
    MessageState :=
  let history := messageHistory db row.messageId
  let history := if history = [] then [row.currentState] else history
  (deriveMessageState (history ++ observed.toList)).getD row.currentState

/-- The columns `updateProjectedMessageSQL` sets. -/
def MessageRow.reconcile (row : MessageRow) (projected : ProjectedMessage)
    (direction : Direction) (state : MessageState) : MessageRow :=
  { row with
    conversationId :=
      if projected.conversationId = "" then row.conversationId else projected.conversationId
    providerMessageId := nullIf projected.providerMessageId <|> row.providerMessageId
    transport := if projected.transport = "" then row.transport else projected.transport
    currentState := state
    bodyText := if row.bodyText = "" then projected.text else row.bodyText
    direction :=
      if row.direction = .unknown ∧ direction ≠ .unknown then direction else row.direction }

/-- `updateProjectedMessageSQL` with `UNIQUE (connection_id, provider_message_id)`. -/
def updateProjected (row : MessageRow) (projected : ProjectedMessage) (direction : Direction)
    (state : MessageState) (db : Database) : Tx Database := do
  require (!db.content.messages.rows.any fun r => r.messageId != row.messageId &&
    r.connectionId == row.connectionId && projected.providerMessageId != "" &&
    r.providerMessageId == some projected.providerMessageId)
    (uniqueViolation "reconcile provider message")
  pure (db.updateMessage row.messageId (fun r => r.reconcile projected direction state))

def receiptTransitionEventID (rt : Runtime) (tenantId messageId : String) (state : MessageState)
    (projected : ProjectedMessage) : String :=
  eventIdOf rt (joined
    [tenantId, messageId, state.text, projected.providerMessageId, projected.providerTmpId])

def occurredAt (record : EnvelopeRecord) (projected : ProjectedMessage) : Time :=
  if projected.providerOccurredAt = 0 then record.receivedAt else projected.providerOccurredAt

def insertTransitionEvent (rt : Runtime) (outboxId : String) (record : EnvelopeRecord)
    (projected : ProjectedMessage) (messageId : String) (state : MessageState) (db : Database) :
    Tx Database := do
  let eventType := "message." ++ state.text
  let eventId := receiptTransitionEventID rt db.tenantId messageId state projected
  let body ← orFail (EventContract.marshal
    { eventId := eventId
      type := eventType
      occurredAt := occurredAt record projected
      ingestedAt := record.receivedAt
      tenantId := db.tenantId
      connectionId := record.connectionId
      conversationId := projected.conversationId
      messageId := messageId
      providerMessageId := projected.providerMessageId
      providerTmpId := projected.providerTmpId
      direction := "outbound"
      provenance := provenanceText projected.provenance
      providerStatus := projected.providerStatus
      sender := projected.sender
      recipients := projected.recipients
      text := projected.text
      transport := projected.transport
      status := state.text
      state := state.text })
    ⟨"encode receipt transition event: invalid event envelope", []⟩
  let db ← db.insertGatewayEvent rt "insert receipt transition event"
    { eventId := eventId
      eventType := eventType
      aggregateType := "message"
      aggregateId := messageId
      connectionId := nullIf record.connectionId
      conversationId := projected.conversationId
      canonicalBody := body }
  db.insertEventOutbox "insert receipt transition outbox" outboxId eventId

def announceTransition (rt : Runtime) (outboxId : String) (record : EnvelopeRecord)
    (projected : ProjectedMessage) (row : MessageRow) (direction : Direction)
    (state : MessageState) (db : Database) : Tx Database :=
  if direction = .outbound ∧ state ≠ row.currentState then
    insertTransitionEvent rt outboxId record projected row.messageId state db
  else pure db

/-- `insertInboundStatusSQL`, for a projection that names a state. -/
def insertInboundStatus (now : Time) (statusId messageId : String) (projected : ProjectedMessage)
    (db : Database) : Tx Database :=
  match projected.state with
  | none => pure db
  | some state => db.insertMessageStatus "insert inbound status"
      { statusId := statusId
        messageId := messageId
        state := state
        providerStatus :=
          if projected.providerStatus = "" then "gmessages" else projected.providerStatus
        observedAt := now }

def projectMessage (rt : Runtime) (now : Time) (ids : MessageIds) (record : EnvelopeRecord)
    (projected : ProjectedMessage) (db : Database) : Tx (Projected × Database) :=
  match lockProjectedMessage record.connectionId projected.providerMessageId
      projected.providerTmpId db with
  | none => do
      let row := projectedRow record.connectionId ids.messageId projected now
      let db ← insertProjected row db
      let db ← insertInboundStatus now ids.statusId row.messageId projected db
      pure (⟨projected.providerMessageId, row.messageId, row.currentState, row.direction, true⟩, db)
  | some row => do
      let direction ← resolveDirection row.direction projected.direction
      let state := reconciledState row projected.state db
      let db ← updateProjected row projected direction state db
      let db ← insertInboundStatus now ids.statusId row.messageId projected db
      let db ← announceTransition rt ids.outboxId record projected row direction state db
      pure (⟨projected.providerMessageId, row.messageId, state, direction, false⟩, db)

/-- The loop over the projected messages; each reads the clock after the one
before. -/
def projectMessages (rt : Runtime) (now : Time) (ids : Nat → MessageIds) (record : EnvelopeRecord) :
    Nat → List ProjectedMessage → List Projected → Database → Tx (List Projected × Database)
  | _, [], done, db => pure (done, db)
  | index, projected :: rest, done, db => do
      let (result, db) ← projectMessage rt (now + index) (ids index) record projected db
      projectMessages rt now ids record (index + 1) rest (result :: done) db

/-! ### New media -/

def storedKey (envelope : SessionEnvelope) : SessionEnvelope :=
  if envelope.ciphertext = [] then {}
  else
    { ciphertext := envelope.ciphertext
      wrappedDEK := envelope.wrappedDEK
      nonce := envelope.nonce
      keyId := envelope.keyId
      keyVersion := envelope.keyVersion }

/-- `insertMediaObjectSQL`, `insertInboundMediaLinkSQL` with its foreign key to
`messages`, and `insertMediaFetchJobSQL`. -/
def insertMedia (rt : Runtime) (ids : MediaIds) (record : EnvelopeRecord) (messageId : String)
    (locator : MediaLocator) (db : Database) : Tx Database := do
  let identity := attachmentIdentityDigest rt locator
  let mediaObjects ← orFail (db.content.mediaObjects.insert
    { mediaId := ids.mediaId
      messageId := nullIf messageId
      state := .pending
      mimeType := locator.mimeType
      displayFilename := locator.displayFilename
      byteSize := max locator.declaredSize 0 }) (uniqueViolation "insert pending media")
  require (db.content.messages.find? messageId).isSome (checkViolation "associate inbound media")
  let messageMedia ← orFail (db.content.messageMedia.insert
    ⟨messageId, ids.mediaId, locator.position, some identity⟩)
    (uniqueViolation "associate inbound media")
  let fetchJobs ← orFail (db.content.fetchJobs.insert
    { jobId := ids.jobId
      mediaId := ids.mediaId
      connectionId := record.connectionId
      providerMessageId := locator.providerMessageId
      providerLocator := locator.locator
      declaredMimeType := locator.mimeType
      declaredSize := max locator.declaredSize 0
      displayFilename := locator.displayFilename
      keyEnvelope := storedKey locator.keyEnvelope
      thumbnailKeyEnvelope := storedKey locator.thumbnailKeyEnvelope
      attachmentIdentityDigest := some identity }) (uniqueViolation "insert media fetch job")
  pure { db with content := { db.content with
    mediaObjects := mediaObjects, messageMedia := messageMedia, fetchJobs := fetchJobs } }

def projectedResult (done : List Projected) (providerMessageId : String) : Option Projected :=
  done.find? fun p => p.providerMessageId == providerMessageId

def projectMedia (rt : Runtime) (ids : Nat → MediaIds) (record : EnvelopeRecord)
    (done : List Projected) :
    Nat → List MediaLocator → Attachments → Database → Tx (Attachments × Database)
  | _, [], attachments, db => pure (attachments, db)
  | index, locator :: locators, attachments, db =>
    let aggregateId := attachmentAggregateID rt locator
    if attachments.reused.contains aggregateId then
      projectMedia rt ids record done (index + 1) locators attachments db
    else do
      let result ← orFail ((projectedResult done locator.providerMessageId).filter fun p =>
        p.messageId != "") ⟨"provider media has no projected message", []⟩
      let db ← insertMedia rt (ids index) record result.messageId locator db
      projectMedia rt ids record done (index + 1) locators
        { attachments with
          media := (aggregateId, contractMedia (ids index).mediaId .pending locator) ::
            attachments.media } db

/-! ### Events -/

def actionableProviderMessage (projected : ProjectedMessage) : Bool :=
  projected.actionable && projected.direction == some .inbound &&
    projected.provenance == some .live && projected.providerStatus == "INCOMING_COMPLETE"

def semanticType (projected : ProjectedMessage) (inserted : Bool) : EventType :=
  if actionableProviderMessage projected then .messageReceived
  else if inserted ∧ (projected.provenance = some .history ∨ projected.provenance = some .replay)
  then .messageImported
  else .messageUpdated

def mediaEntryIdentity (item : EventContract.Media) : Bytes :=
  ([item.id, toString item.position, item.status.text, item.mimeType, toString item.size,
    item.displayFilename, item.metadataPath, item.contentPath]).flatMap fun value =>
      identityField (utf8 value)

/-- `semanticMessageEventID`: an update is identified by all it says, any other
message event by its message. -/
def semanticMessageEventID (rt : Runtime) (tenantId messageId : String) (type : EventType)
    (projected : ProjectedMessage) (direction : Direction) (state : MessageState)
    (media : List EventContract.Media) : String :=
  if type ≠ .messageUpdated then eventIdOf rt (joined [tenantId, messageId, type.text])
  else
    eventIdOf rt ((([tenantId, messageId, type.text, projected.providerMessageId,
        projected.providerTmpId, projected.conversationId, directionText (some direction),
        provenanceText projected.provenance, projected.providerStatus,
        toString projected.providerOccurredAt, projected.sender] ++
        projected.recipients.insertionSort (· ≤ ·) ++
        [projected.text, projected.transport, state.text]).flatMap fun value =>
          identityField (utf8 value)) ++
      (media.insertionSort fun a b => a.before b).flatMap mediaEntryIdentity)

def messageEvent (rt : Runtime) (record : EnvelopeRecord) (done : List Projected)
    (attachments : Attachments) (event : OutboxEvent) (db : Database) : Tx EventRow := do
  let missing : Err := ⟨"message event has no projected message", []⟩
  let projected ← orFail (projectedMessageOf record.projection event.aggregateId) missing
  let result ← orFail ((projectedResult done event.aggregateId).filter fun p => p.messageId != "")
    missing
  let media := (record.media.filter fun l =>
    l.providerMessageId == projected.providerMessageId).filterMap fun l =>
      attachments.media.lookup (attachmentAggregateID rt l)
  let type := semanticType projected result.inserted
  let eventId := semanticMessageEventID rt db.tenantId result.messageId type projected
    result.direction result.state media
  let body ← orFail (EventContract.marshal
    { eventId := eventId
      type := type.text
      occurredAt := occurredAt record projected
      ingestedAt := record.receivedAt
      tenantId := db.tenantId
      connectionId := record.connectionId
      conversationId := projected.conversationId
      messageId := result.messageId
      providerMessageId := projected.providerMessageId
      providerTmpId := projected.providerTmpId
      direction := directionText (some result.direction)
      provenance := provenanceText projected.provenance
      providerStatus := projected.providerStatus
      actionable := type == .messageReceived
      sender := projected.sender
      recipients := projected.recipients
      text := projected.text
      transport := projected.transport
      status := result.state.text
      state := result.state.text
      media := media
      data := [("provider_message_id", projected.providerMessageId),
        ("conversation_id", projected.conversationId)] })
    ⟨"encode message event contract: invalid event envelope", []⟩
  pure
    { eventId := eventId
      eventType := type.text
      aggregateType := "message"
      aggregateId := result.messageId
      connectionId := nullIf record.connectionId
      conversationId := event.partitionConversation
      canonicalBody := body }

def mediaEvent (rt : Runtime) (record : EnvelopeRecord) (done : List Projected)
    (attachments : Attachments) (event : OutboxEvent) (db : Database) : Tx EventRow := do
  let missing : Err := ⟨"pending media event has no allocated media object", []⟩
  let media ← orFail ((attachments.media.lookup event.aggregateId).filter fun m => m.id != "")
    missing
  let locator ← orFail (record.media.reverse.find? fun l =>
    attachmentAggregateID rt l == event.aggregateId) missing
  let projected ← orFail (projectedMessageOf record.projection locator.providerMessageId) missing
  let result ← orFail ((projectedResult done locator.providerMessageId).filter fun p =>
    p.messageId != "") missing
  let body ← orFail (EventContract.marshal
    { eventId := event.id
      type := event.type.text
      occurredAt := record.receivedAt
      tenantId := db.tenantId
      connectionId := record.connectionId
      conversationId := projected.conversationId
      messageId := result.messageId
      providerMessageId := locator.providerMessageId
      mediaId := media.id
      metadataPath := media.metadataPath
      status := media.status.text
      state := media.status.text
      media := [media]
      data := [("provider_message_id", locator.providerMessageId),
        ("message_id", result.messageId), ("conversation_id", projected.conversationId),
        ("attachment_index", toString locator.position), ("media_id", media.id),
        ("status", media.status.text), ("metadata_path", media.metadataPath)] })
    ⟨"encode pending media event contract: invalid event envelope", []⟩
  pure
    { eventId := event.id
      eventType := event.type.text
      aggregateType := "media"
      aggregateId := media.id
      connectionId := nullIf record.connectionId
      conversationId := projected.conversationId
      canonicalBody := body }

def eventRow (rt : Runtime) (record : EnvelopeRecord) (done : List Projected)
    (attachments : Attachments) (event : OutboxEvent) (db : Database) : Tx EventRow := do
  let announced ← orFail (event.canonicalBody.filter fun body =>
    event.id != "" && rt.jsonSize body ≤ maxEventBodyBytes) ⟨"invalid durable event", []⟩
  if event.type.semantic then messageEvent rt record done attachments event db
  else if event.type = .mediaPending then mediaEvent rt record done attachments event db
  else
    pure
      { eventId := event.id
        eventType := event.type.text
        aggregateType := "provider_envelope"
        aggregateId := event.aggregateId
        connectionId := nullIf record.connectionId
        conversationId := event.partitionConversation
        canonicalBody := announced }

/-- The loop over the events of a record. A message event already published is
skipped, and so is the event of an attachment found in place. -/
def projectEvents (rt : Runtime) (outboxIds : Nat → String) (record : EnvelopeRecord)
    (done : List Projected) (attachments : Attachments) :
    Nat → List OutboxEvent → Database → Tx Database
  | _, [], db => pure db
  | index, event :: events, db =>
    if event.type = .mediaPending ∧ attachments.reused.contains event.aggregateId then
      projectEvents rt outboxIds record done attachments (index + 1) events db
    else do
      let row ← eventRow rt record done attachments event db
      require (rt.jsonSize row.canonicalBody ≤ maxEventBodyBytes)
        (checkViolation "insert ingress event")
      if event.type.semantic ∧ (db.events.gatewayEvents.find? row.eventId).isSome then
        projectEvents rt outboxIds record done attachments (index + 1) events db
      else
        let db ← db.insertGatewayEvent rt "insert ingress event" row
        let db ← db.insertEventOutbox "insert ingress outbox" (outboxIds index) row.eventId
        projectEvents rt outboxIds record done attachments (index + 1) events db

/-! ### The end of the projection -/

def advanceCommittedCursor (record : EnvelopeRecord) (db : Database) : Tx Database :=
  if record.projection.cursor = [] then pure db
  else do
    require (record.projection.cursorSource == some .listMessages &&
      validProviderConversationID record.projection.cursorConversationId)
      ⟨"invalid committed cursor source or target", []⟩
    pure (db.setConversations (upsert db.content.conversations
      { connectionId := record.connectionId
        conversationId := record.projection.cursorConversationId
        committedCursor := some record.projection.cursor }
      (fun r => { r with committedCursor := some record.projection.cursor })))

def projectEnvelope (rt : Runtime) (now : Time) (ids : CommitIds) (record : EnvelopeRecord)
    (attachments : Attachments) (db : Database) : Tx (CommitResult × Database) := do
  let db ← projectConversations record.connectionId record.projection.conversations db
  let (done, db) ← projectMessages rt now ids.message record 0 record.projection.messages [] db
  let (attachments, db) ← projectMedia rt ids.media record done 0 record.media attachments db
  let db ← projectEvents rt ids.eventOutboxId record done attachments 0 record.events db
  let db ← advanceCommittedCursor record db
  pure (if record.poisoned then .poisoned else .inserted, db)

/-! ### Poison -/

structure PoisonLabels where
  envelope : String
  event : String

def cursorPoison : PoisonLabels := ⟨"provider cursor", "provider cursor poison"⟩

def attachmentPoison : PoisonLabels := ⟨"conflicting attachment", "attachment conflict"⟩

def stableInboxEventID (rt : Runtime) (tenantId : String) (record : EnvelopeRecord)
    (reason : PoisonReason) : String :=
  eventIdOf rt (joined [tenantId, record.connectionId, record.providerResponseId, reason.text])

def providerPoisonEventBody (tenantId eventId : String) (record : EnvelopeRecord)
    (reason : PoisonReason) (now : Time) : Option EventContract.Envelope :=
  EventContract.marshal
    { eventId := eventId
      type := "inbox.poisoned"
      occurredAt := if record.receivedAt = 0 then now else record.receivedAt
      tenantId := tenantId
      connectionId := record.connectionId
      providerResponseId := record.providerResponseId
      reason := reason.text }

/-- `poisonCursorEnvelope`, and the same steps for an attachment conflict: the
evidence becomes poison and the poison is published. -/
def poisonEnvelope (rt : Runtime) (now : Time) (labels : PoisonLabels) (ids : CommitIds)
    (record : EnvelopeRecord) (reason : PoisonReason) (db : Database) :
    Tx (CommitResult × Database) := do
  let evidence ← (finalizeProviderPoison (responseKey record) reason db.evidence).mapError fun e =>
    ⟨"poison " ++ labels.envelope ++ " envelope: " ++ e.text, e.is⟩
  let db := { db with evidence := evidence }
  let eventId := stableInboxEventID rt db.tenantId record reason
  let body ← orFail (providerPoisonEventBody db.tenantId eventId record reason now)
    ⟨"encode " ++ labels.event ++ " event: invalid event envelope", []⟩
  let db ← db.insertGatewayEvent rt ("insert " ++ labels.event ++ " event")
    { eventId := eventId
      eventType := "inbox.poisoned"
      aggregateType := "provider_envelope"
      aggregateId := record.providerResponseId
      connectionId := nullIf record.connectionId
      conversationId := ""
      canonicalBody := body }
  let db ← db.insertEventOutbox ("insert " ++ labels.event ++ " outbox") ids.poisonOutboxId eventId
  pure (.poisoned, db)

/-! ### CommitEnvelope -/

def canonicalizeProjectionCursors (rt : Runtime) (projection : Projection) : Tx Projection := do
  let canonical (cursor : Bytes) : Tx Bytes :=
    if cursor = [] then pure [] else canonicalProviderCursor rt cursor
  let cursor ← canonical projection.cursor
  let cursorBase ← canonical projection.cursorBase
  let cursorCandidate ← canonical projection.cursorCandidate
  pure { projection with
    cursor := cursor, cursorBase := cursorBase, cursorCandidate := cursorCandidate }

def wellFormedRecord (record : EnvelopeRecord) (db : Database) : Bool :=
  db.tenantId != "" && record.connectionId != "" &&
    validProviderResponseID record.providerResponseId && record.ownerId != "" &&
    record.fencingToken != 0 && record.raw.length != 0 && record.raw.length ≤ 4 * 1024 * 1024 &&
    record.ackPending && !(record.ackWithheld && !record.poisoned)

/-- A response ID that is already reserved: an exact redelivery, or a conflict. -/
def seenAgain (ids : CommitIds) (record : EnvelopeRecord) (stored : StoredResponse)
    (db : Database) : Tx (CommitResult × Database) :=
  if stored.digest = record.digest then
    if stored.disposition = .inbox ∧ stored.poisoned ∧
        stored.poisonReason = .invalidSettingsSnapshot then
      pure (.duplicateACKWithheld, db)
    else
      let db := if !stored.ackPending && !record.ackWithheld then
        { db with evidence := reopenProviderACK (responseKey record) db.evidence } else db
      pure (if stored.poisoned then .duplicatePoisoned else .duplicate, db)
  else do
    let evidence ← insertProviderInboxConflict ids.conflictId record db.evidence
    if stored.disposition = .inbox ∧ !stored.poisoned then
      match finalizeProviderPoison (responseKey record) .responseIdDigestConflict evidence with
      | .ok evidence => pure (.conflict, { db with evidence := evidence })
      | .error e =>
        -- the fence of the conflict must not be rolled back for lack of room
        require (e.isSentinel .providerResponseCapacity)
          ⟨"bound conflicting envelope evidence: " ++ e.text, e.is⟩
        pure (.conflict, { db with evidence := evidence })
    else pure (.conflict, { db with evidence := evidence })

def rejectExhausted (record : EnvelopeRecord) (db : Database) : Tx (CommitResult × Database) := do
  let (row, evidence) ← orFail (upsertRejectedProviderResponse record db.evidence)
    ⟨Sentinel.providerResponseCapacity.text, [.providerResponseCapacity, .conflictingEnvelope]⟩
  let db := { db with evidence := evidence }
  if row.conflicted ∨ row.envelopeDigest ≠ record.digest then pure (.conflict, db)
  else if 1 < row.occurrenceCount then pure (.duplicatePoisoned, db)
  else pure (.poisoned, db)

def insertInbox (inboxId : String) (record : EnvelopeRecord) (db : Database) : Tx Database := do
  let inserted ← insertProviderInbox inboxId record db.evidence
  let evidence ← orFail inserted
    (if record.poisoned then
      ⟨Sentinel.providerResponseCapacity.text, [.providerResponseCapacity, .conflictingEnvelope]⟩
    else Sentinel.conflictingEnvelope.err)
  pure { db with evidence := evidence }

/-- The stages after the evidence is stored. -/
def commitFresh (rt : Runtime) (now : Time) (ids : CommitIds) (record : EnvelopeRecord)
    (budget : Option CursorBudgetRow) (db : Database) : Tx (CommitResult × Database) := do
  let db ← replaceLines record db
  let (verdict, db) ← advanceCursor rt now record budget db
  match verdict with
  | .poisoned reason => poisonEnvelope rt now cursorPoison ids record reason db
  | .accepted =>
    let (attachments, db) ← matchAttachments rt record record.media {} db
    match attachments with
    | none => poisonEnvelope rt now attachmentPoison ids record .mediaIdentityConflict db
    | some attachments => projectEnvelope rt now ids record attachments db

/-- The transaction of `CommitEnvelope`, for a record with canonical cursors. -/
def commitCanonical (rt : Runtime) (now : Time) (ids : CommitIds) (record : EnvelopeRecord)
    (db : Database) : Tx (CommitResult × Database) := do
  require (db.ownsLease now record.connectionId record.ownerId record.fencingToken)
    Sentinel.connectionLeaseLost.err
  let (budget, db) ← lockCursorBudget record db
  match getProviderInbox (responseKey record) db.evidence with
  | some stored => seenAgain ids record stored db
  | none =>
    if budget.any fun r => r.exhausted then rejectExhausted record db
    else
      let db ← insertInbox ids.inboxId record db
      commitFresh rt now ids record budget db

def commitEnvelope (rt : Runtime) (now : Time) (ids : CommitIds) (record : EnvelopeRecord)
    (db : Database) : Tx (CommitResult × Database) := do
  require (wellFormedRecord record db) Sentinel.invalidIdentifier.err
  let projection ← (canonicalizeProjectionCursors rt record.projection).mapError fun _ =>
    Sentinel.invalidIdentifier.err
  let record := { record with projection := projection }
  (validateProjection rt record.projection record.media).mapError fun _ =>
    Sentinel.invalidIdentifier.err
  commitCanonical rt now ids record db

/-- `Process`: a conflict is an error to the caller and a committed fact in the
store. -/
def process (rt : Runtime) (receivedAt now : Time) (ids : CommitIds) (envelope : Envelope)
    (db : Database) : Except Err ProcessResult × Database :=
  match envelope.admissible db.tenantId with
  | .error e => (.error e, db)
  | .ok _ =>
    let record := envelope.record rt db.tenantId receivedAt
    match commitEnvelope rt now ids record db with
    | .error e => (.error e, db)
    | .ok (result, db') => (result.processed record, db')

end MessagingGateway.Store
