import MessagingGateway.Ingress.Projection

/-!
# Envelope records

`Process` turns a decoded provider response into one record for the store: the
raw bytes and their digest, the projection or the reason it is quarantined for,
and the events the commit publishes. Event identities are hashes of the fields
they name, so a redelivered response names the same events.
-/

namespace MessagingGateway.Ingress

open Domain Store

/-! ### Digests and identities -/

def utf8 (value : String) : Bytes := value.toUTF8.data.toList

def base64Char (n : Nat) : Char :=
  "ABCDEFGHIJKLMNOPQRSTUVWXYZabcdefghijklmnopqrstuvwxyz0123456789-_".toList.getD n 'A'

def base64RawURL : Bytes → List Char
  | a :: b :: c :: rest =>
    let n := a.toNat * 65536 + b.toNat * 256 + c.toNat
    base64Char (n / 262144) :: base64Char (n / 4096 % 64) :: base64Char (n / 64 % 64) ::
      base64Char (n % 64) :: base64RawURL rest
  | [a, b] =>
    let n := a.toNat * 1024 + b.toNat * 4
    [base64Char (n / 4096), base64Char (n / 64 % 64), base64Char (n % 64)]
  | [a] => [base64Char (a.toNat / 4), base64Char (a.toNat % 4 * 16)]
  | [] => []

def hexDigit (n : Nat) : Char := if n < 10 then Char.ofNat (48 + n) else Char.ofNat (87 + n)

def stringHex (bytes : Bytes) : String :=
  String.ofList (bytes.flatMap fun b => [hexDigit (b.toNat / 16), hexDigit (b.toNat % 16)])

def putUint64 (n : Nat) : Bytes :=
  (List.range 8).map fun i => UInt8.ofNat (n / 256 ^ (7 - i) % 256)

/-- `writeIdentityField`: a length and the bytes, so that fields cannot run
into each other. -/
def identityField (value : Bytes) : Bytes := putUint64 value.length ++ value

def eventIdOf (rt : Runtime) (identity : Bytes) : String :=
  "evt_" ++ stringHex ((rt.sha256 identity).take 16)

/-- The parts of an identity, separated by zero bytes. -/
def joined (parts : List String) : Bytes := utf8 ("\x00".intercalate parts)

def keyIdentity (fingerprint : Bytes) (envelope : SessionEnvelope) : Bytes :=
  if fingerprint ≠ zeroDigest then identityField [1] ++ identityField fingerprint
  else
    identityField [0] ++ identityField (utf8 (toString envelope.revision)) ++
      identityField (utf8 (toString envelope.version)) ++ identityField (utf8 envelope.provider) ++
      identityField envelope.ciphertext ++ identityField envelope.wrappedDEK ++
      identityField envelope.nonce ++ identityField (utf8 envelope.keyId) ++
      identityField (utf8 (toString envelope.keyVersion))

def attachmentIdentityDigest (rt : Runtime) (locator : MediaLocator) : Bytes :=
  rt.sha256 (identityField (utf8 locator.locator) ++ identityField (utf8 locator.mimeType) ++
    identityField (putUint64 locator.declaredSize.toNat) ++
    identityField (utf8 locator.displayFilename) ++
    keyIdentity locator.keyDigest locator.keyEnvelope ++
    keyIdentity locator.thumbnailKeyDigest locator.thumbnailKeyEnvelope)

def attachmentAggregateID (rt : Runtime) (locator : MediaLocator) : String :=
  "attachment_" ++ stringHex ((rt.sha256 (identityField (utf8 locator.providerMessageId) ++
    identityField (putUint64 locator.position.toNat) ++
    identityField (attachmentIdentityDigest rt locator))).take 16)

/-! ### Records and their events -/

inductive EventType
  | conversationUpdated
  | messageUpdated
  | messageReceived
  | messageImported
  | mediaPending
  | inboxReceived
  | inboxPoisoned
  deriving DecidableEq

def EventType.text : EventType → String
  | .conversationUpdated => "conversation.updated"
  | .messageUpdated => "message.updated"
  | .messageReceived => "message.received"
  | .messageImported => "message.imported"
  | .mediaPending => "media.pending"
  | .inboxReceived => "inbox.received"
  | .inboxPoisoned => "inbox.poisoned"

/-- The events whose body the commit rewrites from the stored message. -/
def EventType.semantic : EventType → Bool
  | .messageReceived | .messageImported | .messageUpdated => true
  | _ => false

structure OutboxEvent where
  id : String
  type : EventType
  aggregateId : String
  /-- `none` where `Marshal` failed and left no bytes -/
  canonicalBody : Option EventContract.Envelope
  partitionConversation : String := ""
  deriving DecidableEq

/-- A decoded provider response. The tenant is that of the database the record
is committed to. -/
structure Envelope where
  connectionId : String
  ownerId : String
  fencingToken : Nat
  providerResponseId : String
  raw : Bytes
  projection : Projection := {}
  media : List MediaLocator := []
  decodeError : Bool := false
  ackWithheld : Bool := false
  poisonReason : PoisonReason := .none
  deriving DecidableEq

structure EnvelopeRecord where
  connectionId : String
  ownerId : String
  fencingToken : Nat
  providerResponseId : String
  raw : Bytes
  digest : Bytes
  projection : Projection := {}
  media : List MediaLocator := []
  events : List OutboxEvent := []
  poisoned : Bool := false
  poisonReason : PoisonReason := .none
  ackPending : Bool := true
  ackWithheld : Bool := false
  receivedAt : Time
  /-- the digest is a `[32]byte` -/
  digestLength : digest.length = 32 := by decide
  deriving DecidableEq

def directionText : Option Direction → String
  | none => ""
  | some .inbound => "inbound"
  | some .outbound => "outbound"
  | some .unknown => "unknown"

def provenanceText (provenance : Option MessageProvenance) : String :=
  (provenance.map MessageProvenance.text).getD ""

def stateText (state : Option MessageState) : String := (state.map MessageState.text).getD ""

def dataValue (data : List (String × String)) (key : String) : String := (data.lookup key).getD ""

def describeMessage (body : EventContract.Envelope) (message : ProjectedMessage)
    (receivedAt : Time) : EventContract.Envelope :=
  { body with
    direction := directionText message.direction
    sender := message.sender
    recipients := message.recipients
    text := message.text
    transport := message.transport
    status := stateText message.state
    state := stateText message.state
    provenance := provenanceText message.provenance
    providerStatus := message.providerStatus
    actionable := message.actionable
    ingestedAt := receivedAt
    occurredAt :=
      if message.providerOccurredAt = 0 then body.occurredAt else message.providerOccurredAt }

def contractEvent (tenantId : String) (record : EnvelopeRecord) (eventId : String)
    (type : EventType) (aggregateId : String) (data : List (String × String)) : OutboxEvent :=
  let body : EventContract.Envelope :=
    { eventId := eventId
      type := type.text
      occurredAt := record.receivedAt
      tenantId := tenantId
      connectionId := record.connectionId
      conversationId := dataValue data "conversation_id"
      providerMessageId := dataValue data "provider_message_id"
      providerResponseId := dataValue data "provider_response_id"
      reason := dataValue data "reason"
      data := data }
  let named := record.projection.messages.find? fun m => m.providerMessageId = aggregateId
  let body := match type.semantic, named with
    | true, some message => describeMessage body message record.receivedAt
    | _, _ => body
  { id := eventId
    type := type
    aggregateId := aggregateId
    canonicalBody := EventContract.marshal body
    partitionConversation := body.conversationId }

def buildEvent (rt : Runtime) (tenantId : String) (record : EnvelopeRecord) (type : EventType)
    (aggregateId : String) (data : List (String × String)) : OutboxEvent :=
  contractEvent tenantId record (eventIdOf rt (joined
    [tenantId, record.connectionId, record.providerResponseId, type.text, aggregateId]))
    type aggregateId data

def buildStableAggregateEvent (rt : Runtime) (tenantId : String) (record : EnvelopeRecord)
    (type : EventType) (aggregateId : String) (data : List (String × String)) : OutboxEvent :=
  contractEvent tenantId record (eventIdOf rt (joined
    [tenantId, record.connectionId, type.text, aggregateId])) type aggregateId data

def announcedType (message : ProjectedMessage) : EventType :=
  if message.actionable then .messageReceived
  else if message.provenance = some .history ∨ message.provenance = some .replay then
    .messageImported
  else .messageUpdated

def projectionEvents (rt : Runtime) (tenantId : String) (record : EnvelopeRecord) :
    List OutboxEvent :=
  let events :=
    (record.projection.conversations.map fun conversation =>
      buildEvent rt tenantId record .conversationUpdated conversation.conversationId
        [("conversation_id", conversation.conversationId)]) ++
    (record.projection.messages.map fun message =>
      buildEvent rt tenantId record (announcedType message) message.providerMessageId
        [("provider_message_id", message.providerMessageId),
          ("conversation_id", message.conversationId)]) ++
    record.media.map fun media =>
      buildStableAggregateEvent rt tenantId record .mediaPending (attachmentAggregateID rt media)
        [("provider_message_id", media.providerMessageId),
          ("attachment_index", toString media.position)]
  if events = [] then
    [buildEvent rt tenantId record .inboxReceived record.providerResponseId
      [("provider_response_id", record.providerResponseId)]]
  else events

/-! ### The checks and the record of `Process` -/

def Envelope.admissible (envelope : Envelope) (tenantId : String) : Tx Unit := do
  require (tenantId != "" && envelope.connectionId != "" && envelope.ownerId != "" &&
    envelope.fencingToken != 0 && envelope.raw.length != 0 &&
    envelope.raw.length ≤ maxRawEnvelopeBytes) Sentinel.invalidIdentifier.err
  require (validProviderResponseID envelope.providerResponseId)
    ⟨Sentinel.invalidProviderResponseID.text, [.invalidProviderResponseID, .invalidIdentifier]⟩
  require (!envelope.ackWithheld ||
    (envelope.decodeError && envelope.poisonReason == .invalidSettingsSnapshot))
    Sentinel.invalidIdentifier.err

/-- The envelope carries no projection the store may use. -/
def Envelope.poison (rt : Runtime) (envelope : Envelope) : Bool :=
  envelope.decodeError ||
    match validateProjection rt envelope.projection envelope.media with
    | .ok _ => false
    | .error _ => true

def Envelope.recordedReason (envelope : Envelope) : PoisonReason :=
  if envelope.ackWithheld then envelope.poisonReason
  else if envelope.decodeError then .decodeFailed
  else .projectionInvalid

/-- The record `Process` commits for an admissible envelope. -/
def Envelope.record (rt : Runtime) (tenantId : String) (now : Time) (envelope : Envelope) :
    EnvelopeRecord :=
  let record : EnvelopeRecord :=
    { connectionId := envelope.connectionId
      ownerId := envelope.ownerId
      fencingToken := envelope.fencingToken
      providerResponseId := envelope.providerResponseId
      raw := envelope.raw
      digest := rt.sha256 envelope.raw
      projection := envelope.projection
      media := envelope.media
      ackWithheld := envelope.ackWithheld
      receivedAt := now
      digestLength := rt.sha256_length envelope.raw }
  if envelope.poison rt then
    let record := { record with
      poisoned := true, poisonReason := envelope.recordedReason, projection := {}, media := [] }
    { record with
      events := [buildEvent rt tenantId record .inboxPoisoned envelope.providerResponseId
        [("reason", envelope.recordedReason.text)]] }
  else { record with events := projectionEvents rt tenantId record }

/-! ### Results -/

inductive CommitResult
  | inserted
  | duplicate
  | conflict
  | poisoned
  | duplicatePoisoned
  | duplicateACKWithheld
  deriving DecidableEq

structure ProcessResult where
  ackEligible : Bool := false
  ackWithheld : Bool := false
  duplicate : Bool := false
  poisoned : Bool := false
  deriving DecidableEq

def CommitResult.processed (result : CommitResult) (record : EnvelopeRecord) :
    Except Err ProcessResult :=
  let eligible : ProcessResult :=
    { ackEligible := !record.ackWithheld, ackWithheld := record.ackWithheld }
  match result with
  | .inserted => .ok { eligible with poisoned := record.poisoned }
  | .duplicate => .ok { eligible with duplicate := true, poisoned := record.poisoned }
  | .poisoned => .ok { eligible with poisoned := true }
  | .duplicatePoisoned => .ok { eligible with duplicate := true, poisoned := true }
  | .duplicateACKWithheld => .ok { ackWithheld := true, duplicate := true, poisoned := true }
  | .conflict => .error Sentinel.conflictingEnvelope.err

end MessagingGateway.Ingress
