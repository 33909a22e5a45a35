import MessagingGateway.Encoding.Frames
import MessagingGateway.Gateway.Operations

/-!
# Submitting messages

The command path of HTTP and Kafka: a request is validated, turned into a
message with fresh identity, and handed to `CreateOutbound` together with a
digest of what was requested. The digest is taken over a canonical encoding of
the request, which `canonicalEncoding_inj` shows to lose nothing.
-/

namespace MessagingGateway.Messaging

open Relational Domain Store Ingress Gateway

def routeModePhoneDefault : String := "phone_default"

def maxTextBytes : Nat := 64 * 1024

def maxIdempotencyBytes : Nat := 200

/-- What a caller asks for. The length of a Go string fits in an `int`. -/
structure SendInput where
  connectionId : String
  conversationId : String := ""
  recipient : String := ""
  lineId : String := ""
  routeMode : String := ""
  text : String := ""
  mediaIds : List String := []
  sized : ∀ value ∈ [connectionId, conversationId, recipient, lineId, routeMode, text] ++ mediaIds,
    value.utf8ByteSize < 2 ^ 63 := by decide
  deriving DecidableEq

def trim (value : String) : String := String.ofList (trimSpace value.toList)

/-! ### Validation -/

def validIdempotencyKey (key : String) : Bool :=
  key != "" && key.utf8ByteSize ≤ maxIdempotencyBytes && trimmed key &&
    key.toList.all fun c => inRange c 0x21 0x7e

def validContent (input : SendInput) : Bool :=
  input.text.utf8ByteSize ≤ maxTextBytes && !(trim input.text == "" && input.mediaIds.isEmpty) &&
    input.mediaIds.length ≤ 16 && input.mediaIds.all (· != "") && decide input.mediaIds.Nodup

def validateRoute (input : SendInput) : Bool :=
  let conversationId := trim input.conversationId
  let recipient := trim input.recipient
  if conversationId ≠ "" then
    validProviderConversationID conversationId && recipient == "" && input.routeMode == ""
  else
    input.routeMode == routeModePhoneDefault && input.lineId == "" && recipient != "" &&
      !EventContract.containsAny recipient [',', ';'] && (parseE164 recipient).isSome

def validAudit (audit : CommandAudit) : Bool :=
  audit.topic != "" && audit.topic.utf8ByteSize ≤ 249 && 0 ≤ audit.partition && 0 ≤ audit.offset &&
    audit.producerIdentity != "" && audit.producerIdentity.utf8ByteSize ≤ 512 &&
    audit.correlationId.utf8ByteSize ≤ 512 && audit.payloadDigest != zeroDigest

/-! ### Identity -/

def providerTemporaryID (rt : Runtime) (tenantId messageId : String) : String :=
  "sx-" ++ String.ofList (base64RawURL
    ((rt.sha256 (utf8 (tenantId ++ "\x00" ++ messageId))).take 18))

/-- What a request amounts to, field by field: the fields that are hashed. -/
def canonicalRequest (input : SendInput) : List String :=
  [input.connectionId, trim input.conversationId, trim input.recipient, input.lineId,
    input.routeMode, input.text] ++ input.mediaIds

/-- The bytes `CanonicalRequestDigest` hashes. -/
def canonicalEncoding (input : SendInput) : Bytes :=
  (canonicalRequest input).flatMap fun value => identityField (utf8 value)

def canonicalRequestDigest (rt : Runtime) (input : SendInput) : Bytes :=
  rt.sha256 (canonicalEncoding input)

/-! ### Submit -/

/-- One call of `Submit` or `SubmitAuthenticatedCommand`, with the message ID that
`newID()` returns and the instant of the service's clock. -/
structure Submission where
  idempotencyKey : String
  input : SendInput
  audit : Option CommandAudit := none
  messageId : String
  createdAt : Time
  deriving DecidableEq

def Submission.message (rt : Runtime) (tenantId : String) (submission : Submission) :
    OutboundMessage where
  id := submission.messageId
  connectionId := submission.input.connectionId
  conversationId := trim submission.input.conversationId
  recipient := trim submission.input.recipient
  lineId := submission.input.lineId
  routeMode := submission.input.routeMode
  text := submission.input.text
  mediaIds := submission.input.mediaIds
  direction := some .outbound
  providerTmpId := providerTemporaryID rt tenantId submission.messageId
  state := .queued
  createdAt := submission.createdAt

def Submission.command (rt : Runtime) (tenantId : String) (submission : Submission) :
    CreateOutbound where
  idempotencyKey := submission.idempotencyKey
  requestDigest := canonicalRequestDigest rt submission.input
  message := submission.message rt tenantId
  commandAudit := submission.audit

def Submission.validate (tenantId : String) (submission : Submission) : Tx Unit := do
  require (submission.audit.all validAudit) Sentinel.invalidCommand.err
  require (tenantId != "" && validIdempotencyKey submission.idempotencyKey &&
    submission.input.connectionId != "" && validContent submission.input)
    Sentinel.invalidCommand.err
  require (validateRoute submission.input) Sentinel.invalidRoute.err
  require (submission.messageId != "") Sentinel.invalidCommand.err

def submit (rt : Runtime) (now : Time) (ids : CreateIds) (submission : Submission)
    (db : Database) : Tx (OutboundMessage × Database) := do
  submission.validate db.tenantId
  let (result, db) ← createOutbound rt now ids (submission.command rt db.tenantId) db
  match result.outcome with
  | .inserted | .duplicate =>
    let message ← orFail result.message ⟨"invalid message store result", []⟩
    pure (message, db)
  | .conflict => .error Sentinel.idempotencyConflict.err

/-! ### The canonical encoding -/

theorem utf8_injective : Function.Injective utf8 := by
  intro a b h
  have hdata : a.toUTF8.data = b.toUTF8.data := Array.toList_inj.1 h
  have hbytes : a.toUTF8 = b.toUTF8 := by
    cases ha : a.toUTF8
    cases hb : b.toUTF8
    rw [ha, hb] at hdata
    simpa using hdata
  exact String.toByteArray_inj.1 hbytes

theorem utf8_length (value : String) : (utf8 value).length = value.utf8ByteSize := by
  rw [utf8, Array.length_toList]
  rfl

theorem putUint64_eq (n : Nat) : putUint64 n = Encoding.bytesOf 8 n := by
  rw [putUint64, Encoding.bytesOf, Encoding.digits, List.map_map]
  rfl

theorem putUint64_isHeader : Encoding.IsHeader putUint64 8 (2 ^ 64) :=
  (funext putUint64_eq : putUint64 = Encoding.bytesOf 8) ▸ Encoding.bytesOf_isHeader (by decide)

theorem canonicalEncoding_eq (input : SendInput) :
    canonicalEncoding input = Encoding.frames putUint64 ((canonicalRequest input).map utf8) := by
  rw [Encoding.frames, List.flatMap_map]
  rfl

theorem trimSpace_sublist (value : List Char) : (trimSpace value).Sublist value := by
  have hback := (List.dropWhile_sublist isSpace (l := (value.dropWhile isSpace).reverse)).reverse
  rw [List.reverse_reverse] at hback
  exact hback.trans (List.dropWhile_sublist isSpace)

theorem trim_size_le (value : String) : (trim value).utf8ByteSize ≤ value.utf8ByteSize := by
  conv_rhs => rw [← String.ofList_toList (s := value)]
  rw [trim, utf8ByteSize_ofChars, utf8ByteSize_ofChars]
  exact ((trimSpace_sublist value.toList).map Char.utf8Size).sum_le_sum fun _ _ => Nat.zero_le _

theorem canonicalRequest_sized (input : SendInput) :
    ∀ bytes ∈ (canonicalRequest input).map utf8, bytes.length < 2 ^ 64 := by
  have hsized := input.sized
  intro bytes hbytes
  obtain ⟨value, hvalue, rfl⟩ := List.mem_map.1 hbytes
  rw [utf8_length]
  have hconversation := trim_size_le input.conversationId
  have hrecipient := trim_size_le input.recipient
  simp only [canonicalRequest, List.cons_append, List.nil_append, List.mem_cons,
    forall_eq_or_imp] at hvalue hsized
  obtain ⟨h₁, h₂, h₃, h₄, h₅, h₆, hmedia⟩ := hsized
  rcases hvalue with rfl | rfl | rfl | rfl | rfl | rfl | hvalue
  · omega
  · omega
  · omega
  · omega
  · omega
  · omega
  · have hsize := hmedia value hvalue
    omega

theorem canonicalEncoding_inj {input input' : SendInput}
    (h : canonicalEncoding input = canonicalEncoding input') :
    canonicalRequest input = canonicalRequest input' := by
  rw [canonicalEncoding_eq, canonicalEncoding_eq] at h
  exact List.map_injective_iff.2 utf8_injective (Encoding.frames_inj putUint64_isHeader
    (canonicalRequest_sized input) (canonicalRequest_sized input') h)

end MessagingGateway.Messaging
