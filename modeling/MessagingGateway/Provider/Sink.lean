import MessagingGateway.Store.Commit

/-!
# The durable sink

`DurableSink.project` turns a decoded provider response into the projection that
`Process` commits. Only the two page responses of the backfill are modelled, a
list of conversations and a list of messages, both from an authenticated payload.
A response is malformed, and then poison, or it fails for a reason of the gateway
itself, and then nothing is stored. Protobuf lists may hold nil elements; strings
are valid UTF-8 by type, and the name of a status is that of its enumeration.
-/

namespace MessagingGateway.Provider

open Domain Store Ingress

/-! ### Provider messages -/

structure MediaContent where
  mediaId : String
  mimeType : String := ""
  mediaName : String := ""
  size : Int := 0
  decryptionKey : Bytes := []
  thumbnailDecryptionKey : Bytes := []
  deriving DecidableEq

structure MessageInfo where
  messageContent : Option String := none
  mediaContent : Option MediaContent := none
  deriving DecidableEq

structure Participant where
  formattedNumber : String := ""
  number : String := ""
  deriving DecidableEq

/-- `gmproto.MessageStatusType`, with the name `String` prints. -/
structure MessageStatus where
  code : Int := 0
  name : String := "STATUS_UNKNOWN"
  deriving DecidableEq

structure Message where
  messageId : String
  tmpId : String := ""
  conversationId : String
  messageInfo : List (Option MessageInfo) := []
  status : MessageStatus := {}
  timestamp : Int := 0
  senderParticipant : Option Participant := none
  type : Int := 0
  deriving DecidableEq

structure Conversation where
  conversationId : String
  defaultOutgoingId : String := ""
  isGroupChat : Bool := false
  deriving DecidableEq

inductive SinkError
  | malformed (text : String)
  | operational (e : Err)
  deriving DecidableEq

abbrev SinkM := Except SinkError

def demand (condition : Bool) (text : String) : SinkM Unit :=
  if condition then .ok () else .error (.malformed text)

/-! ### Message fields -/

def mapProviderMessageState (status : MessageStatus) : Option MessageState :=
  if status.code = 1 then some .sent
  else if status.code = 2 then some .delivered
  else if status.code = 11 then some .read
  else if status.code = 100 ∨ status.code = 108 then some .delivered
  else if status.code = 109 then some .read
  else if [8, 9, 12, 13, 17, 18, 19, 21, 22, 24, 25, 26, 27].contains status.code then
    some .failed
  else none

def providerMessageDirection (status : MessageStatus) : Direction :=
  if 1 ≤ status.code ∧ status.code ≤ 27 then .outbound
  else if 100 ≤ status.code ∧ status.code ≤ 118 then .inbound
  else .unknown

def providerInboundReady (status : MessageStatus) : Bool := status.code == 100

/-- Between the years 2000 and 2200; zero stands for the zero time. -/
def trustedProviderMessageTime (microseconds : Int) : Time :=
  if microseconds < 946684800000000 ∨ 7258118400000000 ≤ microseconds then 0
  else microseconds.toNat

def mapProviderTransport (providerType : Int) : String :=
  if providerType = 1 then "sms"
  else if providerType = 2 ∨ providerType = 3 then "mms"
  else if providerType = 4 then "rcs"
  else ""

def exactParticipantE164 (participant : Option Participant) : String :=
  (participant.bind fun p => (parseE164 p.formattedNumber) <|> parseE164 p.number).getD ""

def boundedProviderID (value : String) (optional : Bool) : Bool :=
  if value = "" then optional else validProviderIdentifier value

def boundedProviderMetadata (value : String) : Bool :=
  value.utf8ByteSize ≤ maxMediaMetadataBytes && !EventContract.containsAny value ['\x00']

def validProviderText (value : String) : Bool :=
  value.utf8ByteSize ≤ maxMessageTextBytes && !EventContract.containsAny value ['\x00']

/-! ### Checks of a message event -/

structure EventTotals where
  infos : Nat := 0
  media : Nat := 0
  text : Nat := 0
  seenMessages : List String := []

def validMediaFields (media : MediaContent) : Bool :=
  boundedProviderID media.mediaId false && boundedProviderMetadata media.mimeType &&
    boundedProviderMetadata media.mediaName && 0 ≤ media.size &&
    media.size ≤ maxDeclaredMediaBytes && media.decryptionKey.length ≤ 4096 &&
    media.thumbnailDecryptionKey.length ≤ 4096

/-- The loop over the infos of one message, with its attachments so far. -/
def validateInfos : Nat → EventTotals → List (Option MessageInfo) → SinkM EventTotals
  | _, totals, [] => pure totals
  | _, _, none :: _ => .error (.malformed "provider message info is absent")
  | messageMedia, totals, some info :: infos => do
      let content := info.messageContent.getD ""
      demand (validProviderText content) "provider message text exceeds limit"
      let totals := { totals with text := totals.text + content.utf8ByteSize }
      demand (totals.text ≤ maxProjectionTextBytes) "aggregate provider text exceeds limit"
      match info.mediaContent with
      | none => validateInfos messageMedia totals infos
      | some media =>
        demand (messageMedia + 1 ≤ maxAttachmentsPerMessage &&
          totals.media + 1 ≤ maxProjectedAttachments && validMediaFields media)
          "provider media fields exceed limit"
        validateInfos (messageMedia + 1) { totals with media := totals.media + 1 } infos

def validateEventMessages : EventTotals → List (Option Message) → SinkM Unit
  | _, [] => pure ()
  | _, none :: _ => .error (.malformed "provider message identity is incomplete or excessive")
  | totals, some message :: messages => do
      demand (boundedProviderID message.messageId false &&
        boundedProviderID message.conversationId false && boundedProviderID message.tmpId true)
        "provider message identity is incomplete or excessive"
      demand (!totals.seenMessages.contains message.messageId)
        "provider message identity is duplicated"
      let totals := { totals with
        seenMessages := message.messageId :: totals.seenMessages
        infos := totals.infos + message.messageInfo.length }
      demand (message.messageInfo.length ≤ 256 && totals.infos ≤ 1024)
        "provider message info cardinality exceeds limit"
      let totals ← validateInfos 0 totals message.messageInfo
      validateEventMessages totals messages

def validateMessageEvent (messages : List (Option Message)) : SinkM Unit := do
  demand (messages.length ≤ maxProjectedMessages) "too many provider messages"
  validateEventMessages {} messages

/-! ### Projections of messages and conversations -/

/-- A key sealed for storage and its digest; an absent key has neither. -/
def sealKey (rt : Runtime) (sealer : Bytes → Tx SessionEnvelope) (key : Bytes) :
    SinkM (SessionEnvelope × Bytes) :=
  if key = [] then pure ({}, zeroDigest)
  else do
    let envelope ← (sealer key).mapError .operational
    pure (envelope, rt.sha256 key)

def mediaJob (rt : Runtime) (sealer : Bytes → Tx SessionEnvelope) (message : Message)
    (content : MediaContent) (position : Nat) : SinkM MediaLocator := do
  demand (content.mediaId != "") "provider media locator is missing"
  let (keyEnvelope, keyDigest) ← sealKey rt sealer content.decryptionKey
  let (thumbnailEnvelope, thumbnailDigest) ← sealKey rt sealer content.thumbnailDecryptionKey
  pure
    { providerMessageId := message.messageId
      locator := "gmessages:" ++ String.ofList (base64RawURL (utf8 content.mediaId))
      position := position
      mimeType := content.mimeType
      declaredSize := content.size
      displayFilename := content.mediaName
      keyEnvelope := keyEnvelope
      thumbnailKeyEnvelope := thumbnailEnvelope
      keyDigest := keyDigest
      thumbnailKeyDigest := thumbnailDigest }

def mediaJobs (rt : Runtime) (sealer : Bytes → Tx SessionEnvelope) (message : Message) :
    SinkM (List MediaLocator) :=
  (message.messageInfo.filterMap fun info => info.bind MessageInfo.mediaContent).zipIdx.mapM
    fun (content, position) => mediaJob rt sealer message content position

def projectMessage (message : Message) (provenance : MessageProvenance) : ProjectedMessage :=
  let direction := providerMessageDirection message.status
  { providerMessageId := message.messageId
    providerTmpId := message.tmpId
    conversationId := message.conversationId
    direction := some direction
    provenance := some provenance
    providerStatus := message.status.name
    providerOccurredAt := trustedProviderMessageTime message.timestamp
    actionable := provenance == .live && direction == .inbound &&
      providerInboundReady message.status
    sender := exactParticipantE164 message.senderParticipant
    text := String.join (message.messageInfo.map fun info =>
      (info.bind MessageInfo.messageContent).getD "")
    transport := mapProviderTransport message.type
    state := mapProviderMessageState message.status }

def projectEach (rt : Runtime) (sealer : Bytes → Tx SessionEnvelope)
    (provenance : MessageProvenance) :
    List (Option Message) → SinkM (List ProjectedMessage × List MediaLocator)
  | [] => pure ([], [])
  | none :: _ => .error (.malformed "provider message identity is incomplete")
  | some message :: messages => do
      demand (validProviderIdentifier message.messageId &&
        validProviderConversationID message.conversationId)
        "provider message identity is incomplete"
      let jobs ← mediaJobs rt sealer message
      let (projected, laterJobs) ← projectEach rt sealer provenance messages
      pure (projectMessage message provenance :: projected, jobs ++ laterJobs)

def projectMessages (rt : Runtime) (sealer : Bytes → Tx SessionEnvelope)
    (provenance : MessageProvenance) (messages : List (Option Message)) :
    SinkM (Projection × List MediaLocator) := do
  validateMessageEvent messages
  let (projected, jobs) ← projectEach rt sealer provenance messages
  pure ({ messages := projected }, jobs)

def trimText (value : String) : String := String.ofList (trimSpace value.toList)

def projectConversation (conversation : Conversation) : ProjectedConversation :=
  { conversationId := conversation.conversationId
    defaultOutgoingId := trimText conversation.defaultOutgoingId
    isGroup := conversation.isGroupChat }

def projectEachConversation : List (Option Conversation) → SinkM (List ProjectedConversation)
  | [] => pure []
  | none :: _ =>
    .error (.malformed "provider conversation identity is incomplete or excessive")
  | some conversation :: conversations => do
      demand (validProviderConversationID conversation.conversationId &&
        boundedProviderID (trimText conversation.defaultOutgoingId) true)
        "provider conversation identity is incomplete or excessive"
      let projected ← projectEachConversation conversations
      pure (projectConversation conversation :: projected)

def projectConversations (conversations : List (Option Conversation)) : SinkM Projection := do
  demand (conversations.length ≤ maxProjectedConversations) "too many provider conversations"
  let projected ← projectEachConversation conversations
  pure { conversations := projected }

/-! ### Cursors of a page -/

/-- `backfillCursor`; every error of it is the same malformed envelope. -/
def backfillCursor (rt : Runtime) (opaqueBytes : Bytes) (cursor : Option ProviderCursor) :
    Option Bytes :=
  match cursor with
  | some cursor => (canonicalProviderCursor rt (rt.cursorMarshal cursor)).toOption
  | none => (canonicalProviderCursor rt opaqueBytes).toOption

/-- `decodeBackfillCursor`; `none` for `ErrInvalidBackfillCursor`. -/
def decodeBackfillCursor (rt : Runtime) (encoded : Bytes) : Option (Option ProviderCursor) :=
  if encoded = [] then some none
  else do
    let canonical ← (canonicalProviderCursor rt encoded).toOption
    let cursor ← rt.cursorUnmarshal canonical
    some (some cursor)

/-- `responseBackfillCursor`: the next cursor and whether the page is the last. -/
def responseBackfillCursor (rt : Runtime) (opaqueBytes : Bytes) (cursor : Option ProviderCursor) :
    Option (Bytes × Bool) :=
  if cursor ≠ none ∧ opaqueBytes ≠ [] then none
  else if cursor = none ∧ opaqueBytes = [] then some ([], true)
  else do
    let encoded ← backfillCursor rt opaqueBytes cursor
    let _ ← decodeBackfillCursor rt encoded
    some (encoded, false)

/-! ### The projection of a page -/

structure ListConversationsResponse where
  conversations : List (Option Conversation) := []
  cursorBytes : Bytes := []
  cursor : Option ProviderCursor := none
  deriving DecidableEq

structure ListMessagesResponse where
  messages : List (Option Message) := []
  cursor : Option ProviderCursor := none
  deriving DecidableEq

inductive PageResponse
  | conversations (response : ListConversationsResponse)
  | messages (response : ListMessagesResponse)
  deriving DecidableEq

inductive Action
  | unspecified
  | listConversations
  | listMessages
  deriving DecidableEq

/-- `libgm.DurableRequest`: the request a response answers. -/
structure DurableRequest where
  action : Action := .unspecified
  conversationId : String := ""
  cursor : Bytes := []
  deriving DecidableEq

/-- The page branches of `project`. -/
def project (rt : Runtime) (sealer : Bytes → Tx SessionEnvelope) (request : DurableRequest) :
    PageResponse → SinkM (Projection × List MediaLocator)
  | .conversations response => do
      demand (request.action == .listConversations)
        "list-conversations request action is absent or mismatched"
      match responseBackfillCursor rt response.cursorBytes response.cursor with
      | none => .error (.malformed "provider conversation cursor is invalid")
      | some (next, terminal) =>
        let projection ← projectConversations response.conversations
        pure (if terminal then projection else
          { projection with
            cursorBase := request.cursor
            cursorCandidate := next
            cursorSource := some .listConversations
            cursorConversationId := providerPageCursorID }, [])
  | .messages response => do
      demand (request.action == .listMessages &&
        validProviderConversationID request.conversationId)
        "list-messages request target is absent or invalid"
      demand (response.messages.all fun message =>
        message.any fun m => m.conversationId == request.conversationId)
        "list-messages response crossed its requested conversation"
      let (projection, jobs) ← projectMessages rt sealer .history response.messages
      match backfillCursor rt [] response.cursor with
      | none => .error (.malformed "provider cursor is invalid or excessive")
      | some cursor =>
        pure (if cursor = [] then projection else
          { projection with
            cursor := cursor
            cursorBase := request.cursor
            cursorCandidate := cursor
            cursorSource := some .listMessages
            cursorConversationId := request.conversationId }, jobs)

/-! ### Persisting a response -/

inductive DurableOutcome
  | committed
  | poisoned
  | duplicatePoisoned
  deriving DecidableEq

inductive DurableFailure
  | fenceLost
  | durablePoisoned
  | provider (e : Err)
  | infrastructure (e : Err)
  deriving DecidableEq

def classifyDurablePersistenceError (e : Err) : DurableFailure :=
  if e.isSentinel .connectionLeaseLost then .fenceLost
  else if e.isSentinel .conflictingEnvelope || e.isSentinel .invalidProviderResponseID ||
      e.isSentinel .providerResponseCapacity then .provider e
  else .infrastructure e

structure Ownership where
  connectionId : String
  ownerId : String
  fencingToken : Nat
  deriving DecidableEq

/-- A provider frame that answers a request; `none` when it does not decode. -/
structure Response where
  responseId : String
  raw : Bytes
  page : Option PageResponse
  deriving DecidableEq

def envelopeOf (ownership : Ownership) (response : Response)
    (projected : Option (Projection × List MediaLocator)) : Envelope :=
  { connectionId := ownership.connectionId
    ownerId := ownership.ownerId
    fencingToken := ownership.fencingToken
    providerResponseId := response.responseId
    raw := response.raw
    projection := (projected.map Prod.fst).getD {}
    media := (projected.map Prod.snd).getD []
    decodeError := projected.isNone }

def outcomeOf (result : ProcessResult) : Except DurableFailure DurableOutcome :=
  if !result.ackEligible then
    .error (if result.ackWithheld && result.poisoned then .durablePoisoned else .fenceLost)
  else if result.poisoned then .ok (if result.duplicate then .duplicatePoisoned else .poisoned)
  else .ok .committed

/-- `Process`, with its errors classified. -/
def processEnvelope (rt : Runtime) (receivedAt now : Time) (ids : CommitIds) (envelope : Envelope)
    (db : Database) : Except DurableFailure DurableOutcome × Database :=
  match process rt receivedAt now ids envelope db with
  | (.error e, db) => (.error (classifyDurablePersistenceError e), db)
  | (.ok result, db) => (outcomeOf result, db)

/-- `PersistEnvelopeOutcome`, with the sink's projection of pages as a
parameter. -/
def persistEnvelopeOutcome (sink : DurableRequest → PageResponse →
      SinkM (Projection × List MediaLocator))
    (rt : Runtime) (receivedAt now : Time) (ids : CommitIds) (ownership : Ownership)
    (request : DurableRequest) (response : Response) (db : Database) :
    Except DurableFailure DurableOutcome × Database :=
  if db.tenantId = "" ∨ ownership.connectionId = "" ∨ ownership.ownerId = "" ∨
      ownership.fencingToken = 0 then (.error .fenceLost, db)
  else if !validProviderResponseID response.responseId then
    (.error (.provider
      ⟨Sentinel.invalidProviderResponseID.text, [.invalidProviderResponseID, .invalidIdentifier]⟩),
      db)
  else
    match response.page.map (sink request) with
    | some (.error (.operational e)) => (.error (classifyDurablePersistenceError e), db)
    | some (.ok projected) =>
      processEnvelope rt receivedAt now ids (envelopeOf ownership response (some projected)) db
    | some (.error (.malformed _)) | none =>
      processEnvelope rt receivedAt now ids (envelopeOf ownership response none) db

end MessagingGateway.Provider
