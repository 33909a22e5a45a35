import MessagingGateway.Backfill.Store
import MessagingGateway.Gateway.Operations

/-!
# The backfill worker

`RunConnection` makes one provider call or one checkpoint transition. It reads the
checkpoint, then a cursor, waits for the provider, and issues one fenced
statement; between any two of these anything may happen, so a worker is a task in
the state and each of the steps is a transition. Workers of former owners may
still be running. A crash, a provider error and a lost context drop the task.
The projection of the sink is a parameter.
-/

namespace MessagingGateway.Backfill

open Relational Domain Store Ingress Provider Gateway

structure Config where
  conversationPageSize : Nat := 25
  messagePageSize : Nat := 50

/-! ### Reading a page -/

def stagedItems : Nat → List String → List (Option Conversation) → List BackfillItem
  | _, _, [] => []
  | ordinal, seen, conversation :: conversations =>
    match conversation with
    | none => ⟨ordinal, "", .poisoned, "invalid_provider_conversation"⟩ ::
        stagedItems (ordinal + 1) seen conversations
    | some c =>
      if !validProviderIdentifier c.conversationId then
        ⟨ordinal, "", .poisoned, "invalid_provider_conversation"⟩ ::
          stagedItems (ordinal + 1) seen conversations
      else if seen.contains c.conversationId then
        ⟨ordinal, "", .poisoned, "duplicate_provider_conversation"⟩ ::
          stagedItems (ordinal + 1) seen conversations
      else ⟨ordinal, c.conversationId, .pending, ""⟩ ::
        stagedItems (ordinal + 1) (c.conversationId :: seen) conversations

/-- The page `stageConversationPage` stages for a committed response. -/
def readConversationPage (rt : Runtime) (config : Config) (base : Bytes)
    (response : ListConversationsResponse) : Option BackfillPage :=
  if config.conversationPageSize < response.conversations.length then none
  else do
    let (next, terminal) ← responseBackfillCursor rt response.cursorBytes response.cursor
    some ⟨base, next, terminal, stagedItems 0 [] response.conversations⟩

/-- What `fetchMessagePage` marks the item with after a committed response: `none`
when the item stays pending. -/
def readMessagePage (rt : Runtime) (config : Config) (response : ListMessagesResponse) :
    Option (BackfillItemState × String) :=
  if config.messagePageSize < response.messages.length ∨
      (validateMessageEvent response.messages).toOption = none then
    some (.poisoned, "invalid_provider_message_page")
  else
    match response.cursor with
    | none => some (.complete, "")
    | some cursor =>
      if responseBackfillCursor rt [] (some cursor) = none then
        some (.poisoned, "invalid_provider_message_cursor")
      else none

/-! ### Tasks -/

inductive Task
  | wantsPage (ownership : Ownership)
  | wantsMessages (ownership : Ownership) (checkpointId : String) (item : BackfillItem)
  | listing (ownership : Ownership) (base : Bytes)
  | fetching (ownership : Ownership) (checkpointId : String) (item : BackfillItem)
      (cursor : Bytes)
  | staging (ownership : Ownership) (page : BackfillPage)
  | marking (ownership : Ownership) (checkpointId : String) (item : BackfillItem)
      (state : BackfillItemState) (safeError : String)
  | completing (ownership : Ownership) (checkpointId : String)
  deriving DecidableEq

def nextTask (ownership : Ownership) : Option BackfillCheckpoint → Option Task
  | none => some (.wantsPage ownership)
  | some checkpoint =>
    if checkpoint.scanComplete then none
    else
      match checkpoint.items.find? fun item => item.state == .pending with
      | some item => some (.wantsMessages ownership checkpoint.id item)
      | none =>
        if checkpoint.items.any fun item => item.state == .poisoned then none
        else some (.completing ownership checkpoint.id)

def askProvider (rt : Runtime) (db : Database) : Task → Option Task
  | .wantsPage ownership => do
      let base ← (loadCommittedCursor ownership.connectionId providerPageCursorID db).toOption
      let _ ← decodeBackfillCursor rt base
      some (.listing ownership base)
  | .wantsMessages ownership checkpointId item => do
      let cursor ← (loadCommittedCursor ownership.connectionId item.conversationId db).toOption
      let _ ← decodeBackfillCursor rt cursor
      some (.fetching ownership checkpointId item cursor)
  | task => some task

def requestCursor (rt : Runtime) (encoded : Bytes) : Bytes :=
  match decodeBackfillCursor rt encoded with
  | some (some cursor) => rt.cursorMarshal cursor
  | _ => []

def Task.request (rt : Runtime) : Task → Option (Ownership × DurableRequest)
  | .listing ownership base =>
    some (ownership, ⟨.listConversations, "", requestCursor rt base⟩)
  | .fetching ownership _ item cursor =>
    some (ownership, ⟨.listMessages, item.conversationId, requestCursor rt cursor⟩)
  | _ => none

def afterAnswer (rt : Runtime) (config : Config) (task : Task) (response : Response)
    (outcome : DurableOutcome) : Option Task :=
  match task, outcome, response.page with
  | .listing ownership base, .committed, some (.conversations page) =>
    (readConversationPage rt config base page).map (.staging ownership)
  | .fetching ownership checkpointId item _, .committed, some (.messages page) =>
    (readMessagePage rt config page).map fun (state, safeError) =>
      .marking ownership checkpointId item state safeError
  | .fetching ownership checkpointId item _, .poisoned, _
  | .fetching ownership checkpointId item _, .duplicatePoisoned, _ =>
    some (.marking ownership checkpointId item .poisoned "durable_provider_page_poisoned")
  | _, _, _ => none

/-- The statement a task issues, with the identifier it may draw. -/
def statement (now : Time) (checkpointId : String) : Task → State → Option (Tx State)
  | .staging ownership page, s => some (stageBackfillPageFenced now checkpointId ownership page s)
  | .marking ownership checkpointId item state safeError, s =>
    some (markBackfillItemFenced now ownership checkpointId item.ordinal state safeError s)
  | .completing ownership checkpointId, s =>
    some (completeBackfillPageFenced now ownership checkpointId s)
  | _, _ => none

/-! ### The system -/

structure World extends State where
  tasks : Nat → Option Task := fun _ => none

def World.setTask (w : World) (worker : Nat) (task : Option Task) : World :=
  { w with tasks := fun other => if other = worker then task else w.tasks other }

def World.setState (w : World) (s : State) : World := { w with toState := s }

inductive Input
  | call (call : Call)
  | load (worker : Nat) (ownership : Ownership)
  | read (worker : Nat)
  | answer (worker : Nat) (receivedAt now : Time) (ids : CommitIds) (response : Response)
  | write (worker : Nat) (now : Time) (checkpointId : String)
  | crash (worker : Nat)

inductive Observation
  | silent
  | replied (reply : Reply)
  | answered (task : Task) (outcome : DurableOutcome)
  | failed
  | written

section

variable (sink : DurableRequest → PageResponse → SinkM (Projection × List MediaLocator))
  (rt : Runtime) (config : Config)

def answer (worker : Nat) (receivedAt now : Time) (ids : CommitIds) (response : Response)
    (task : Task) (w : World) : Observation × World :=
  match task.request rt with
  | none => (.silent, w)
  | some (ownership, request) =>
    match persistEnvelopeOutcome sink rt receivedAt now ids ownership request response w.db with
    | (.error _, db) => (.failed, { w with db := db }.setTask worker none)
    | (.ok outcome, db) =>
      (.answered task outcome,
        { w with db := db }.setTask worker (afterAnswer rt config task response outcome))

def step (input : Input) (w : World) : Observation × World :=
  match input with
  | .call call =>
    let (reply, db) := Gateway.step rt call w.db
    (.replied reply, { w with db := db })
  | .load worker ownership =>
    match loadBackfillCheckpoint ownership.connectionId w.toState with
    | .error _ => (.failed, w.setTask worker none)
    | .ok checkpoint => (.silent, w.setTask worker (nextTask ownership checkpoint))
  | .read worker => (.silent, w.setTask worker ((w.tasks worker).bind (askProvider rt w.db)))
  | .answer worker receivedAt now ids response =>
    match w.tasks worker with
    | none => (.silent, w)
    | some task => answer sink rt config worker receivedAt now ids response task w
  | .write worker now checkpointId =>
    match (w.tasks worker).bind fun task => statement now checkpointId task w.toState with
    | none => (.silent, w)
    | some (.error _) => (.failed, w.setTask worker none)
    | some (.ok s) => (.written, (w.setState s).setTask worker none)
  | .crash worker => (.silent, w.setTask worker none)

end

end MessagingGateway.Backfill
