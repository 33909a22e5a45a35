import MessagingGateway.Store.Leases

/-!
# Provider projections

What a decoded provider response asks the gateway to store, and the checks of
`ValidateProjection` that every projection passes before a statement is built.
Enumerated strings of the source are inductive types here, with `none` for the
empty string, so their checks need no counterpart.
-/

namespace MessagingGateway.Ingress

open Domain Store

def maxRawEnvelopeBytes : Nat := 4 * 1024 * 1024

def maxCursorBytes : Nat := 4 * 1024

def maxProviderCursorAdvances : Nat := 256

def maxRejectedProviderResponses : Nat := 256

def maxPoisonedProviderInboxEntries : Nat := 256

def maxPoisonedProviderInboxBytes : Nat := 32 * 1024 * 1024

def maxProjectedConversations : Nat := 256

def maxProjectedMessages : Nat := 256

def maxProjectedLines : Nat := 16

def maxAttachmentsPerMessage : Nat := 16

def maxProjectedAttachments : Nat := 256

def maxMessageTextBytes : Nat := 64 * 1024

def maxProjectionTextBytes : Nat := 4 * 1024 * 1024

def maxMediaLocatorBytes : Nat := 2 * 1024

def maxMediaMetadataBytes : Nat := 255

def maxDeclaredMediaBytes : Int := 25 * 1024 * 1024

inductive MessageProvenance
  | live
  | history
  | replay
  deriving DecidableEq

def MessageProvenance.text : MessageProvenance → String
  | .live => "provider_live"
  | .history => "provider_history"
  | .replay => "provider_replay"

structure ProjectedMessage where
  providerMessageId : String
  providerTmpId : String := ""
  conversationId : String
  direction : Option Direction := none
  provenance : Option MessageProvenance := none
  providerStatus : String := ""
  providerOccurredAt : Time := 0
  actionable : Bool := false
  sender : String := ""
  recipients : List String := []
  text : String := ""
  transport : String := ""
  state : Option MessageState := none
  deriving DecidableEq

structure ProjectedConversation where
  conversationId : String
  defaultOutgoingId : String := ""
  isGroup : Bool := false
  deriving DecidableEq

structure ProjectedLine where
  id : String
  tenantId : String
  connectionId : String
  providerParticipantId : String
  providerOutgoingId : String
  phone : String
  displayName : String := ""
  carrierName : String := ""
  colorHex : String := ""
  rcsEnabled : Bool := false
  providerSIMNumber : Int := 0
  providerSIMPayloadType : Int := 0
  discoverySource : DiscoverySource
  deriving DecidableEq

inductive CursorSource
  | listMessages
  | listConversations
  deriving DecidableEq

structure Projection where
  conversations : List ProjectedConversation := []
  messages : List ProjectedMessage := []
  lines : List ProjectedLine := []
  lineSnapshot : Bool := false
  cursor : Bytes := []
  cursorBase : Bytes := []
  cursorCandidate : Bytes := []
  cursorSource : Option CursorSource := none
  cursorConversationId : String := ""
  deriving DecidableEq

def zeroDigest : Bytes := List.replicate 32 0

structure MediaLocator where
  providerMessageId : String
  locator : String
  position : Int
  mimeType : String := ""
  declaredSize : Int := 0
  displayFilename : String := ""
  keyEnvelope : SessionEnvelope := {}
  thumbnailKeyEnvelope : SessionEnvelope := {}
  keyDigest : Bytes := zeroDigest
  thumbnailKeyDigest : Bytes := zeroDigest
  deriving DecidableEq

/-! ### Cursors -/

def canonicalProviderCursor (rt : Runtime) (encoded : Bytes) : Tx Bytes := do
  require (encoded.length != 0 && encoded.length ≤ maxCursorBytes)
    ⟨"provider cursor is absent or excessive", []⟩
  let invalid : Err := ⟨"provider cursor semantic tuple is invalid", []⟩
  let cursor ← orFail (rt.cursorUnmarshal encoded) invalid
  require (validProviderIdentifier cursor.lastItemId && 0 < cursor.lastItemTimestamp) invalid
  let canonical := rt.cursorMarshal cursor
  require (canonical.length != 0 && canonical.length ≤ maxCursorBytes)
    ⟨"provider cursor canonical encoding is invalid", []⟩
  pure canonical

def Projection.candidate (projection : Projection) : Bytes :=
  if projection.cursorCandidate = [] then projection.cursor else projection.cursorCandidate

def validateCursor (rt : Runtime) (projection : Projection) : Tx Unit := do
  if projection.candidate = [] then
    require (projection.cursor == [] && projection.cursorBase == [] &&
      projection.cursorSource == none && projection.cursorConversationId == "")
      ⟨"provider cursor metadata without a cursor is invalid", []⟩
  else
    let candidate ← (canonicalProviderCursor rt projection.candidate).mapError fun _ =>
      ⟨"provider cursor candidate is invalid", []⟩
    let base ← if projection.cursorBase = [] then pure [] else
      (canonicalProviderCursor rt projection.cursorBase).mapError fun _ =>
        ⟨"provider cursor base is invalid", []⟩
    require (base == [] || base != candidate) ⟨"provider cursor did not advance", []⟩
    match projection.cursorSource with
    | some .listMessages =>
      let invalid : Err := ⟨"provider message cursor source or target is invalid", []⟩
      require (validProviderConversationID projection.cursorConversationId) invalid
      let cursor ← (canonicalProviderCursor rt projection.cursor).mapError fun _ => invalid
      require (cursor == candidate) invalid
    | some .listConversations =>
      require (projection.cursorConversationId == providerPageCursorID && projection.cursor == [])
        ⟨"provider conversation cursor source or target is invalid", []⟩
    | none => .error ⟨"provider cursor source or target is invalid", []⟩

/-! ### Lines, conversations, messages and media -/

def validProviderString (value : String) (limit : Nat) (optional : Bool) : Bool :=
  if value = "" then optional
  else value.utf8ByteSize ≤ limit && !EventContract.containsAny value ['\x00'] &&
    trimSpace value.toList != []

def validOptionalProviderIdentifier (value : String) : Bool :=
  value == "" || validProviderIdentifier value

def ProjectedLine.fieldsValid (line : ProjectedLine) : Bool :=
  line.id != "" && line.tenantId != "" && line.connectionId != "" &&
    validProviderIdentifier line.id && validProviderIdentifier line.providerParticipantId &&
    validProviderIdentifier line.providerOutgoingId && 0 ≤ line.providerSIMNumber &&
    0 ≤ line.providerSIMPayloadType && line.discoverySource == .authenticatedGoogleSettings &&
    validProviderString line.displayName 255 true &&
    validProviderString line.carrierName 255 true && validProviderString line.colorHex 64 true

def validateLines : List String → List String → List ProjectedLine → Tx Unit
  | _, _, [] => pure ()
  | lineIds, participantIds, line :: lines => do
      require line.fieldsValid ⟨"provider line fields are invalid", []⟩
      require (parseE164 line.phone == some line.phone) ⟨"provider line phone is invalid", []⟩
      require (!lineIds.contains line.id) ⟨"provider line identity is duplicated", []⟩
      require (!participantIds.contains line.providerParticipantId)
        ⟨"provider line participant is duplicated", []⟩
      validateLines (line.id :: lineIds) (line.providerParticipantId :: participantIds) lines

def validateConversations : List String → List ProjectedConversation → Tx Unit
  | _, [] => pure ()
  | seen, conversation :: conversations => do
      require (validProviderConversationID conversation.conversationId &&
        validOptionalProviderIdentifier conversation.defaultOutgoingId)
        ⟨"provider conversation identity is invalid", []⟩
      require (!seen.contains conversation.conversationId)
        ⟨"provider conversation is duplicated", []⟩
      validateConversations (conversation.conversationId :: seen) conversations

def plausibleInstant (t : Time) : Bool :=
  t == 0 || (946684800000000 ≤ t && t < 7289654400000000)

def validateMessage (message : ProjectedMessage) : Tx Unit := do
  require (validProviderIdentifier message.providerMessageId &&
    validOptionalProviderIdentifier message.providerTmpId &&
    validProviderConversationID message.conversationId &&
    !EventContract.containsAny message.text ['\x00'] &&
    message.text.utf8ByteSize ≤ maxMessageTextBytes) ⟨"provider message fields are invalid", []⟩
  require (["", "sms", "mms", "rcs"].contains message.transport)
    ⟨"provider transport is invalid", []⟩
  require (!message.actionable ||
    (message.direction == some .inbound && message.provenance == some .live))
    ⟨"only live inbound messages may be actionable", []⟩
  require (message.providerStatus.utf8ByteSize ≤ 128 &&
    !EventContract.containsAny message.providerStatus ['\x00', '\r', '\n'])
    ⟨"provider message status is invalid", []⟩
  require (plausibleInstant message.providerOccurredAt)
    ⟨"provider message timestamp is invalid", []⟩
  require (message.sender == "" || (parseE164 message.sender).isSome)
    ⟨"provider message sender is invalid", []⟩
  require (message.recipients.all fun recipient => (parseE164 recipient).isSome)
    ⟨"provider message recipient is invalid", []⟩

def validateMessages : List String → Nat → List ProjectedMessage → Tx Unit
  | _, _, [] => pure ()
  | seen, totalText, message :: messages => do
      validateMessage message
      require (!seen.contains message.providerMessageId) ⟨"provider message is duplicated", []⟩
      require (totalText + message.text.utf8ByteSize ≤ maxProjectionTextBytes)
        ⟨"provider projection text exceeds aggregate limit", []⟩
      validateMessages (message.providerMessageId :: seen)
        (totalText + message.text.utf8ByteSize) messages

def validAttachmentKeyIdentity (envelope : SessionEnvelope) (fingerprint : Bytes) : Bool :=
  if envelope = {} then fingerprint == zeroDigest else SessionEnvelope.valid envelope

def validateMedia (messageIds : List String) : List (String × Int) → List MediaLocator → Tx Unit
  | _, [] => pure ()
  | taken, attachment :: media => do
      require (messageIds.contains attachment.providerMessageId && 0 ≤ attachment.position &&
        attachment.position < maxAttachmentsPerMessage &&
        validProviderString attachment.locator maxMediaLocatorBytes false &&
        validProviderString attachment.mimeType maxMediaMetadataBytes true &&
        validProviderString attachment.displayFilename maxMediaMetadataBytes true &&
        0 ≤ attachment.declaredSize && attachment.declaredSize ≤ maxDeclaredMediaBytes)
        ⟨"provider media fields are invalid", []⟩
      require (validAttachmentKeyIdentity attachment.keyEnvelope attachment.keyDigest &&
        validAttachmentKeyIdentity attachment.thumbnailKeyEnvelope attachment.thumbnailKeyDigest)
        ⟨"provider media key identity is invalid", []⟩
      require (!taken.contains (attachment.providerMessageId, attachment.position) &&
        taken.countP (fun p => p.1 == attachment.providerMessageId) < maxAttachmentsPerMessage)
        ⟨"provider media position is duplicated or excessive", []⟩
      validateMedia messageIds ((attachment.providerMessageId, attachment.position) :: taken) media

def validateProjection (rt : Runtime) (projection : Projection) (media : List MediaLocator) :
    Tx Unit := do
  require (projection.conversations.length ≤ maxProjectedConversations &&
    projection.messages.length ≤ maxProjectedMessages &&
    projection.lines.length ≤ maxProjectedLines && media.length ≤ maxProjectedAttachments &&
    projection.cursor.length ≤ maxCursorBytes && projection.cursorBase.length ≤ maxCursorBytes &&
    projection.cursorCandidate.length ≤ maxCursorBytes)
    ⟨"provider projection cardinality exceeds limit", []⟩
  require (projection.lineSnapshot == !projection.lines.isEmpty)
    ⟨"provider line snapshot is empty or ambiguous", []⟩
  validateLines [] [] projection.lines
  validateCursor rt projection
  validateConversations [] projection.conversations
  validateMessages [] 0 projection.messages
  validateMedia (projection.messages.map (·.providerMessageId)) [] media

end MessagingGateway.Ingress
