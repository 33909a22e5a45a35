import MessagingGateway.Provider.Sink

/-!
# Backfill checkpoints

One page of conversations is staged per connection, with an item for each of its
conversations. The items are marked as their messages are fetched, and when all
are complete the parent cursor, which is the cursor of the row `_provider_page`,
moves to the page's next cursor. Each of the three statements runs under the
fence of the connection lease.
-/

namespace MessagingGateway.Backfill

open Relational Domain Store Ingress Provider

def maxBackfillConversationsPerPage : Nat := 100

inductive BackfillItemState
  | pending
  | complete
  | poisoned
  deriving DecidableEq

structure BackfillItem where
  ordinal : Nat
  conversationId : String
  state : BackfillItemState
  safeError : String := ""
  deriving DecidableEq

structure BackfillPage where
  baseCursor : Bytes
  nextCursor : Bytes
  terminal : Bool
  items : List BackfillItem
  deriving DecidableEq

/-- The three parallel arrays of a checkpoint, which the schema keeps at one
length; the ordinal of an item is its position. -/
structure ItemRow where
  conversationId : String
  state : BackfillItemState
  safeError : String
  deriving DecidableEq

structure CheckpointRow where
  connectionId : String
  checkpointId : String
  nextCursor : Option Bytes
  terminal : Bool
  scanComplete : Bool := false
  items : List ItemRow
  deriving DecidableEq

structure State where
  db : Database
  checkpoints : Table CheckpointRow.connectionId := ∅

/-! ### Reads -/

def committedCursor (connectionId conversationId : String) (db : Database) : Bytes :=
  ((db.content.conversations.find? (connectionId, conversationId)).bind
    ConversationRow.committedCursor).getD []

abbrev parentCursor (connectionId : String) (db : Database) : Bytes :=
  committedCursor connectionId providerPageCursorID db

def loadCommittedCursor (connectionId conversationId : String) (db : Database) : Tx Bytes := do
  require (db.tenantId != "" && connectionId != "" &&
    (conversationId == providerPageCursorID || validProviderConversationID conversationId))
    Sentinel.invalidIdentifier.err
  pure (committedCursor connectionId conversationId db)

structure BackfillCheckpoint where
  id : String
  nextCursor : Bytes
  terminal : Bool
  scanComplete : Bool
  items : List BackfillItem
  deriving DecidableEq

def CheckpointRow.checkpoint (row : CheckpointRow) : BackfillCheckpoint :=
  { id := row.checkpointId
    nextCursor := row.nextCursor.getD []
    terminal := row.terminal
    scanComplete := row.scanComplete
    items := row.items.mapIdx fun ordinal item =>
      ⟨ordinal, item.conversationId, item.state, item.safeError⟩ }

def loadBackfillCheckpoint (connectionId : String) (s : State) :
    Tx (Option BackfillCheckpoint) := do
  require (connectionId != "") Sentinel.invalidIdentifier.err
  match s.checkpoints.find? connectionId with
  | none => pure none
  | some row =>
    require (row.items.length ≤ maxBackfillConversationsPerPage)
      Sentinel.backfillCheckpointConflict.err
    pure (some row.checkpoint)

/-! ### Statements -/

/-- The checks of one staged item, at its position. -/
def BackfillItem.stageable (item : BackfillItem) (index : Nat) : Bool :=
  item.ordinal == index && (item.state == .pending || item.state == .poisoned) &&
    (item.conversationId == "" || validProviderConversationID item.conversationId) &&
    item.safeError.utf8ByteSize ≤ 128 && !(item.state == .pending && item.conversationId == "")

def BackfillPage.stageable (page : BackfillPage) : Bool :=
  page.baseCursor.length ≤ maxCursorBytes && page.nextCursor.length ≤ maxCursorBytes &&
    (page.terminal == page.nextCursor.isEmpty) &&
    page.items.length ≤ maxBackfillConversationsPerPage &&
    page.items.zipIdx.all fun (item, index) => item.stageable index

def BackfillPage.row (page : BackfillPage) (connectionId checkpointId : String) : CheckpointRow :=
  { connectionId := connectionId
    checkpointId := checkpointId
    nextCursor := if page.nextCursor = [] then none else some page.nextCursor
    terminal := page.terminal
    items := page.items.map fun item => ⟨item.conversationId, item.state, item.safeError⟩ }

def stageBackfillPageFenced (now : Time) (checkpointId : String) (ownership : Ownership)
    (page : BackfillPage) (s : State) : Tx State := do
  require (ownership.connectionId != "" && ownership.ownerId != "" &&
    ownership.fencingToken != 0 && page.stageable) Sentinel.invalidIdentifier.err
  require (s.db.ownsLease now ownership.connectionId ownership.ownerId ownership.fencingToken &&
    parentCursor ownership.connectionId s.db == page.baseCursor)
    Sentinel.backfillCheckpointConflict.err
  require (checkpointId != "" && checkpointId.utf8ByteSize ≤ 128)
    (checkViolation "stage provider backfill page")
  let checkpoints ← orFail (s.checkpoints.insert (page.row ownership.connectionId checkpointId))
    Sentinel.backfillCheckpointConflict.err
  pure { s with checkpoints := checkpoints }

def markBackfillItemFenced (now : Time) (ownership : Ownership) (checkpointId : String)
    (ordinal : Nat) (state : BackfillItemState) (safeError : String) (s : State) : Tx State := do
  require (ownership.connectionId != "" && ownership.ownerId != "" &&
    ownership.fencingToken != 0 && checkpointId != "" &&
    ordinal < maxBackfillConversationsPerPage && state != .pending &&
    safeError.utf8ByteSize ≤ 128) Sentinel.invalidIdentifier.err
  require (s.db.ownsLease now ownership.connectionId ownership.ownerId ownership.fencingToken)
    Sentinel.backfillCheckpointConflict.err
  let _ ← orFail ((s.checkpoints.find? ownership.connectionId).filter fun row =>
      row.checkpointId == checkpointId &&
        row.items[ordinal]?.any fun item => item.state == .pending)
    Sentinel.backfillCheckpointConflict.err
  pure { s with
    checkpoints := s.checkpoints.update (fun row => row.connectionId == ownership.connectionId)
      (fun row => { row with
        items := row.items.modify ordinal fun item =>
          { item with state := state, safeError := safeError } }) }

def advanceParent (row : CheckpointRow) (db : Database) : Database :=
  db.setConversations (upsert db.content.conversations
    { connectionId := row.connectionId
      conversationId := providerPageCursorID
      committedCursor := row.nextCursor }
    (fun r => { r with committedCursor := row.nextCursor }))

def clearCursors (connectionId : String) (db : Database) : Database :=
  { db with evidence := { db.evidence with
    cursorHistory := db.evidence.cursorHistory.delete fun r => r.connectionId == connectionId
    cursorBudgets := db.evidence.cursorBudgets.delete fun r => r.connectionId == connectionId } }

def completeBackfillPageFenced (now : Time) (ownership : Ownership) (checkpointId : String)
    (s : State) : Tx State := do
  require (ownership.connectionId != "" && ownership.ownerId != "" &&
    ownership.fencingToken != 0 && checkpointId != "") Sentinel.invalidIdentifier.err
  require (s.db.ownsLease now ownership.connectionId ownership.ownerId ownership.fencingToken)
    Sentinel.backfillCheckpointConflict.err
  let row ← orFail ((s.checkpoints.find? ownership.connectionId).filter fun row =>
      row.checkpointId == checkpointId && row.items.all fun item => item.state == .complete)
    Sentinel.backfillCheckpointConflict.err
  if row.terminal then
    pure
      { db := clearCursors row.connectionId s.db
        checkpoints := s.checkpoints.update (fun r => r.connectionId == row.connectionId)
          (fun r => { r with scanComplete := true }) }
  else
    pure
      { db := advanceParent row s.db
        checkpoints := s.checkpoints.delete fun r => r.connectionId == row.connectionId }

end MessagingGateway.Backfill
