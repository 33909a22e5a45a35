import MessagingGateway.Store.Evidence
import MessagingGateway.Store.Dispatch

/-!
# Projecting a provider response

The stages of `CommitEnvelope` that store what an envelope projects, in the
order of the transaction: the line snapshot, the cursor history, the identities
of attachments at positions already taken, conversations, messages with their
status history, new media and their fetch jobs, and the events. A loop of the
source is a recursion over the list it runs through.
-/

namespace MessagingGateway.Store

open Relational Domain Ingress

/-! ### Lines -/

def maxAuthenticatedLineSnapshot : Nat := 16

def validLineMetadata (value : String) (limit : Nat) : Bool :=
  value.utf8ByteSize ≤ limit && !EventContract.containsAny value ['\x00', '\r', '\n']

def lineRecord (connectionId : String) (db : Database) (line : ProjectedLine) : Tx LineRow := do
  require (line.tenantId == db.tenantId && line.connectionId == connectionId &&
    line.discoverySource == .authenticatedGoogleSettings)
    ⟨"provider line snapshot crossed its durable scope", []⟩
  let phone ← orFail (parseE164 line.phone) ⟨"parse projected line phone: invalid phone number", []⟩
  pure
    { lineId := line.id
      connectionId := line.connectionId
      providerParticipantId := line.providerParticipantId
      providerOutgoingId := line.providerOutgoingId
      normalizedPhone := phone
      displayName := line.displayName
      carrierName := line.carrierName
      colorHex := line.colorHex
      rcsEnabled := line.rcsEnabled
      providerSIMNumber := line.providerSIMNumber
      providerSIMPayloadType := line.providerSIMPayloadType
      discoverySource := line.discoverySource }

def LineRow.replaceable (row : LineRow) : Bool :=
  row.lineId != "" && row.providerParticipantId != "" && row.providerOutgoingId != "" &&
    row.normalizedPhone != "" && validLineMetadata row.displayName 255 &&
    validLineMetadata row.carrierName 255 && validLineMetadata row.colorHex 64 &&
    row.discoverySource == .authenticatedGoogleSettings

/-- `validateLineReplacement`; the scope of each record was checked before. -/
def validateLineReplacement (connectionId : String) (records : List LineRow) (db : Database) :
    Tx Unit :=
  require (db.tenantId != "" && connectionId != "" &&
    records.length ≤ maxAuthenticatedLineSnapshot && records.all LineRow.replaceable)
    ⟨"validate durable line snapshot: " ++ Sentinel.invalidIdentifier.text, [.invalidIdentifier]⟩

def LineRow.collides (row other : LineRow) : Bool :=
  other.lineId != row.lineId && other.connectionId == row.connectionId &&
    other.providerParticipantId == row.providerParticipantId &&
    other.providerOutgoingId == row.providerOutgoingId

/-- `upsertLineSQL` and the check of its count. -/
def upsertLine (row : LineRow) (lines : Table LineRow.lineId) : Tx (Table LineRow.lineId) := do
  require ((lines.find? row.lineId).all fun r => r.connectionId == row.connectionId)
    ⟨"replace durable line snapshot: line " ++ row.lineId ++ " belongs to another connection", []⟩
  require (!lines.rows.any row.collides) (uniqueViolation "replace durable line snapshot")
  pure (upsert lines row (fun r => { row with lineId := r.lineId }))

def upsertLines : List LineRow → Table LineRow.lineId → Tx (Table LineRow.lineId)
  | [], lines => pure lines
  | row :: rows, lines => do
      let lines ← upsertLine row lines
      upsertLines rows lines

def retireLines (connectionId : String) (current : List String) (lines : Table LineRow.lineId) :
    Table LineRow.lineId :=
  lines.update
    (fun r => r.connectionId == connectionId && r.active && !current.contains r.lineId)
    (fun r => { r with active := false })

def Database.setLines (db : Database) (lines : Table LineRow.lineId) : Database :=
  { db with content := { db.content with lines := lines } }

def replaceLines (record : EnvelopeRecord) (db : Database) : Tx Database :=
  if record.projection.lineSnapshot then do
    let rows ← record.projection.lines.mapM (lineRecord record.connectionId db)
    validateLineReplacement record.connectionId rows db
    let lines ← upsertLines rows db.content.lines
    pure (db.setLines (retireLines record.connectionId (rows.map (·.lineId)) lines))
  else pure db

/-! ### The cursor breaker -/

def Database.setBudgets (db : Database) (budgets : Table CursorBudgetRow.key) : Database :=
  { db with evidence := { db.evidence with cursorBudgets := budgets } }

def Database.setCursorHistory (db : Database) (history : Table CursorHistoryRow.key) : Database :=
  { db with evidence := { db.evidence with cursorHistory := history } }

/-- `ensureProviderCursorBudgetSQL` and `lockProviderCursorBudgetSQL`, for an
envelope that carries a cursor. -/
def lockCursorBudget (record : EnvelopeRecord) (db : Database) :
    Tx (Option CursorBudgetRow × Database) :=
  if record.projection.candidate = [] then pure (none, db)
  else do
    let row : CursorBudgetRow :=
      { connectionId := record.connectionId
        cursorScope := record.projection.cursorConversationId }
    let db := db.setBudgets (db.evidence.cursorBudgets.insertIgnore row)
    let budget ← orFail (db.evidence.cursorBudgets.find? row.key)
      ⟨"lock provider cursor budget: sql: no rows in result set", []⟩
    require (budget.acceptedAdvances ≤ maxProviderCursorAdvances)
      ⟨"provider cursor budget is corrupt", []⟩
    pure (some budget, db)

inductive Verdict
  | accepted
  | poisoned (reason : PoisonReason)
  deriving DecidableEq

def cursorHistoryWindow : Nat := 64

/-- `pruneProviderCursorHistorySQL`: the newest fingerprints of a scope stay. -/
def pruneCursorHistory (connectionId scope : String) (history : Table CursorHistoryRow.key) :
    Table CursorHistoryRow.key :=
  let inScope (r : CursorHistoryRow) : Bool :=
    r.connectionId == connectionId && r.cursorScope == scope
  let kept := (orderByDesc CursorHistoryRow.observedAt CursorHistoryRow.cursorDigest
    (history.select inScope)).take cursorHistoryWindow
  history.delete fun r => inScope r && !kept.contains r

def Database.updateBudget (db : Database) (connectionId scope : String)
    (f : CursorBudgetRow → CursorBudgetRow)
    (hf : ∀ r, (f r).key = r.key := by exact fun _ => id rfl) : Database :=
  db.setBudgets (db.evidence.cursorBudgets.update (fun r => r.key == (connectionId, scope)) f hf)

def baseDigest (rt : Runtime) (projection : Projection) : Option Bytes :=
  if projection.cursorBase = [] then none else some (rt.sha256 projection.cursorBase)

/-- `seedProviderCursorHistorySQL`, `insertProviderCursorHistorySQL` and
`incrementProviderCursorBudgetSQL`: a cursor not seen before. -/
def recordCursor (rt : Runtime) (now : Time) (record : EnvelopeRecord) (db : Database) :
    Tx Database := do
  let scope := record.projection.cursorConversationId
  let base := baseDigest rt record.projection
  let seeded := match base with
    | none => db.evidence.cursorHistory
    | some digest => db.evidence.cursorHistory.insertIgnore
        ⟨record.connectionId, scope, digest, none, none, now⟩
  let history ← orFail (seeded.insert
    ⟨record.connectionId, scope, rt.sha256 record.projection.candidate, base,
      some record.providerResponseId, now + 1⟩)
    ⟨"insert provider cursor history: sql: no rows in result set", []⟩
  pure ((db.setCursorHistory history).updateBudget record.connectionId scope
    (fun r => { r with acceptedAdvances := r.acceptedAdvances + 1 }))

/-- The cursor stage: a fingerprint already met with another base is a cycle, a
new one needs budget. -/
def advanceCursor (rt : Runtime) (now : Time) (record : EnvelopeRecord)
    (budget : Option CursorBudgetRow) (db : Database) : Tx (Verdict × Database) :=
  match budget with
  | none => pure (.accepted, db)
  | some budget => do
      let scope := record.projection.cursorConversationId
      let prune (db : Database) : Database :=
        db.setCursorHistory (pruneCursorHistory record.connectionId scope db.evidence.cursorHistory)
      match db.evidence.cursorHistory.find?
          (record.connectionId, scope, rt.sha256 record.projection.candidate) with
      | some stored =>
        if stored.baseCursorDigest = baseDigest rt record.projection then
          pure (.accepted, prune db)
        else pure (.poisoned .providerCursorCycle, db)
      | none =>
        if maxProviderCursorAdvances ≤ budget.acceptedAdvances then
          pure (.poisoned .providerCursorBudgetExhausted,
            db.updateBudget record.connectionId scope (fun r => { r with exhausted := true }))
        else
          let db ← recordCursor rt now record db
          pure (.accepted, prune db)

/-! ### Attachments at positions already taken -/

/-- The durable message a provider message names, by its tmp ID or by its
provider ID. -/
def MessageRow.named (row : MessageRow) (connectionId providerMessageId providerTmpId : String) :
    Bool :=
  row.connectionId == connectionId &&
    ((providerTmpId != "" && row.providerTmpId == some providerTmpId) ||
      row.providerMessageId == some providerMessageId)

/-- `lockProjectedMessageSQL`: the row with the tmp ID goes before the row with
the provider ID. -/
def lockProjectedMessage (connectionId providerMessageId providerTmpId : String)
    (db : Database) : Option MessageRow :=
  (db.content.messages.rows.find? fun r => r.connectionId == connectionId &&
      providerTmpId != "" && r.providerTmpId == some providerTmpId) <|>
    db.content.messages.rows.find? fun r => r.connectionId == connectionId &&
      r.providerMessageId == some providerMessageId

structure ExistingAttachment where
  mediaId : String
  state : MediaState
  direction : Direction
  identity : Bytes
  deriving DecidableEq

/-- The identity of an association: its own, or that of its first fetch job. -/
def attachmentIdentity (association : MessageMediaRow) (db : Database) : Bytes :=
  (association.providerIdentityDigest <|>
    (((db.content.fetchJobs.select fun r => r.mediaId == association.mediaId).insertionSort
      fun a b => a.jobId ≤ b.jobId).head?.bind (·.attachmentIdentityDigest))).getD []

def attachmentAt (message : MessageRow) (position : Int) (db : Database) :
    Option ExistingAttachment := do
  let association ← db.content.messageMedia.find? (message.messageId, position)
  let media ← db.content.mediaObjects.find? association.mediaId
  pure ⟨association.mediaId, media.state, message.direction, attachmentIdentity association db⟩

def lockExistingAttachment (connectionId providerMessageId providerTmpId : String)
    (position : Int) (db : Database) : Option ExistingAttachment :=
  ((db.content.messages.rows.find? fun r => r.connectionId == connectionId &&
      providerTmpId != "" && r.providerTmpId == some providerTmpId).bind fun r =>
        attachmentAt r position db) <|>
    ((db.content.messages.rows.find? fun r => r.connectionId == connectionId &&
      r.providerMessageId == some providerMessageId).bind fun r => attachmentAt r position db)

/-- `bindOutboundAttachmentIdentitySQL` and the check of its count. -/
def bindOutboundAttachment (connectionId providerMessageId providerTmpId : String)
    (position : Int) (identity : Bytes) (db : Database) : Tx Database := do
  let bound (r : MessageMediaRow) : Bool := r.position == position &&
    r.providerIdentityDigest == none &&
    (db.content.messages.find? r.messageId).any fun m =>
      m.named connectionId providerMessageId providerTmpId
  require ((db.content.messageMedia.select bound).length == 1)
    ⟨"outbound attachment identity changed during binding", []⟩
  pure (db.setMessageMedia (db.content.messageMedia.update bound
    (fun r => { r with providerIdentityDigest := some identity })))

def MediaState.status : MediaState → EventContract.MediaStatus
  | .pending => .pending
  | .ready => .ready
  | .failed => .failed

def contractMedia (mediaId : String) (state : MediaState) (locator : MediaLocator) :
    EventContract.Media :=
  { id := mediaId
    position := locator.position
    status := state.status
    mimeType := locator.mimeType
    size := locator.declaredSize
    displayFilename := locator.displayFilename
    metadataPath := "/v1/media/" ++ mediaId
    contentPath := if state = .ready then "/v1/media/" ++ mediaId ++ "/content" else "" }

/-- The attachments found in place and the media entries of all attachments, by
aggregate ID; the newest entry of an ID goes first. -/
structure Attachments where
  reused : List String := []
  media : List (String × EventContract.Media) := []
  deriving DecidableEq

def Attachments.reuse (attachments : Attachments) (aggregateId : String)
    (media : EventContract.Media) : Attachments :=
  ⟨aggregateId :: attachments.reused, (aggregateId, media) :: attachments.media⟩

def projectedMessageOf (projection : Projection) (providerMessageId : String) :
    Option ProjectedMessage :=
  projection.messages.reverse.find? fun m => m.providerMessageId == providerMessageId

/-- The loop over the locators of an envelope; `none` is an identity conflict. -/
def matchAttachments (rt : Runtime) (record : EnvelopeRecord) :
    List MediaLocator → Attachments → Database → Tx (Option Attachments × Database)
  | [], attachments, db => pure (some attachments, db)
  | locator :: locators, attachments, db =>
    let tmpId := ((projectedMessageOf record.projection locator.providerMessageId).map
      (·.providerTmpId)).getD ""
    let identity := attachmentIdentityDigest rt locator
    let aggregateId := attachmentAggregateID rt locator
    match lockExistingAttachment record.connectionId locator.providerMessageId tmpId
        locator.position db with
    | none => matchAttachments rt record locators attachments db
    | some existing =>
      let attachments' := attachments.reuse aggregateId
        (contractMedia existing.mediaId existing.state locator)
      if existing.identity = identity then
        matchAttachments rt record locators attachments' db
      else if existing.identity = [] ∧ existing.direction = .outbound ∧
          existing.state = .ready then do
        let db ← bindOutboundAttachment record.connectionId locator.providerMessageId tmpId
          locator.position identity db
        matchAttachments rt record locators attachments' db
      else pure (none, db)

end MessagingGateway.Store
