import MessagingGateway.Domain.Identifiers

/-!
# The public event body

`eventcontract.Envelope` and the checks of `Marshal`. The JSON text is not
modelled: a stored body is the normalised envelope, and the length of its
encoding is left to the runtime the gateway is built with. The version and the
formatted copies of the instants, which `Marshal` fills in itself, are left
out, and the legacy `data` map holds its numbers as text.
-/

namespace MessagingGateway

/-- Instants in microseconds; `0` is Go's zero time. -/
abbrev Time := Nat

namespace EventContract

open Domain

inductive MediaStatus
  | pending
  | ready
  | failed
  deriving DecidableEq

structure Media where
  id : String
  position : Int
  status : MediaStatus
  mimeType : String := ""
  size : Int := 0
  displayFilename : String := ""
  metadataPath : String := ""
  contentPath : String := ""
  deriving DecidableEq

def MediaStatus.text : MediaStatus → String
  | .pending => "pending"
  | .ready => "ready"
  | .failed => "failed"

structure Envelope where
  eventId : String := ""
  type : String := ""
  occurredAt : Time := 0
  ingestedAt : Time := 0
  tenantId : String := ""
  connectionId : String := ""
  conversationId : String := ""
  messageId : String := ""
  providerMessageId : String := ""
  providerTmpId : String := ""
  direction : String := ""
  provenance : String := ""
  providerStatus : String := ""
  actionable : Bool := false
  sender : String := ""
  recipients : List String := []
  text : String := ""
  transport : String := ""
  status : String := ""
  state : String := ""
  mediaId : String := ""
  metadataPath : String := ""
  contentPath : String := ""
  media : List Media := []
  providerResponseId : String := ""
  reason : String := ""
  data : List (String × String) := []
  deriving DecidableEq

def containsAny (value : String) (chars : List Char) : Bool := value.toList.any chars.contains

def validToken (value : String) (limit : Nat) : Bool :=
  0 < value.utf8ByteSize && value.utf8ByteSize ≤ limit && trimmed value &&
    !containsAny value ['\x00', '\r', '\n']

def validOptionalToken (value : String) (limit : Nat) : Bool :=
  value == "" || validToken value limit

def validOptionalText (value : String) (limit : Nat) : Bool :=
  value.utf8ByteSize ≤ limit && !containsAny value ['\x00']

/-- The field checks of `Marshal` before it normalises phone numbers. -/
def Envelope.fieldsValid (input : Envelope) : Bool :=
  validToken input.eventId 256 && validToken input.type 128 && input.occurredAt != 0 &&
    validToken input.tenantId 256 && validOptionalToken input.connectionId 256 &&
    validOptionalToken input.conversationId maxProviderConversationIDBytes &&
    validOptionalToken input.messageId 256 &&
    validOptionalToken input.providerMessageId maxProviderConversationIDBytes &&
    validOptionalToken input.providerTmpId maxProviderConversationIDBytes &&
    validOptionalToken input.mediaId 256 && validOptionalText input.metadataPath 1024 &&
    validOptionalText input.contentPath 1024 && validOptionalToken input.reason 128 &&
    validOptionalText input.text (4 * 1024 * 1024) &&
    ["", "inbound", "outbound", "unknown"].contains input.direction &&
    validOptionalToken input.provenance 128 && validOptionalToken input.providerStatus 128

/-- An actionable event is a live inbound message, and conversely. -/
def Envelope.actionableValid (input : Envelope) : Bool :=
  (!input.actionable || input.type == "message.received") &&
    (input.type != "message.received" ||
      (input.actionable && input.ingestedAt != 0 && input.connectionId != "" &&
        input.conversationId != "" && input.providerMessageId != "" &&
        input.direction == "inbound" && input.provenance == "provider_live"))

def canonicalSender (sender : String) : Option String :=
  if sender = "" then some "" else parseE164 sender

def canonicalRecipients (recipients : List String) : Option (List String) :=
  (recipients.mapM parseE164).map fun phones => phones.dedup.insertionSort (· ≤ ·)

def Media.valid (item : Media) : Bool :=
  validToken item.id 256 && 0 ≤ item.position && item.position ≤ 255 && 0 ≤ item.size &&
    validOptionalText item.mimeType 255 && validOptionalText item.displayFilename 255 &&
    validOptionalText item.metadataPath 1024 && validOptionalText item.contentPath 1024

def Media.before (a b : Media) : Bool :=
  a.position < b.position || (a.position == b.position && decide (a.id ≤ b.id))

/-- `Marshal` up to the JSON text; `none` is `ErrInvalidEnvelope`. -/
def marshal (input : Envelope) : Option Envelope :=
  if input.fieldsValid && input.actionableValid && input.media.all Media.valid then do
    let sender ← canonicalSender input.sender
    let recipients ← canonicalRecipients input.recipients
    some { input with
      sender := sender
      recipients := recipients
      media := input.media.insertionSort fun a b => a.before b }
  else none

end EventContract

end MessagingGateway
