import MessagingGateway.Dispatch.Runs
import MessagingGateway.Messaging.Service

/-!
# What is written about messages

Messages, the conversations they are routed by, their media and the idempotency
keys they were submitted under form the book of a tenant. `CreateOutbound` and the
dispatch operations make at most one entry in it each, `CommitEnvelope` makes any
number of receipts. Messages, their media and keys are never removed.
-/

namespace MessagingGateway.Messaging

open Relational Domain Store Ingress Gateway Dispatch

variable {messageId connectionId : String} {claim : DispatchClaim}

structure Book where
  tenantId : String
  messages : Table MessageRow.messageId
  conversations : Table ConversationRow.key
  media : Table MessageMediaRow.key
  idempotency : Table IdempotencyRow.idempotencyKey

def bookOf (db : Database) : Book :=
  ⟨db.tenantId, db.content.messages, db.content.conversations, db.content.messageMedia,
    db.dispatch.idempotency⟩

def Book.update (b : Book) (messageId : String) (f : MessageRow → MessageRow)
    (hf : ∀ r, (f r).messageId = r.messageId := by exact fun _ => id rfl) : Book :=
  { b with messages := b.messages.update (fun r => r.messageId == messageId) f hf }

variable {b b' : Book} {ids : Nat → MessageIds} {row : MessageRow}
  {ownerId orderingKey safeReason : String} {index : Nat}
  {conversations : Table ConversationRow.key} {op : Operation}

theorem mem_bookUpdate {f : MessageRow → MessageRow} {hf : ∀ r, (f r).messageId = r.messageId} :
    row ∈ (b.update messageId f hf).messages ↔
      ∃ r ∈ b.messages, (if r.messageId = messageId then f r else r) = row := by
  simp only [Book.update, Table.mem_update, beq_iff_eq]

def Book.route (b : Book) (conversations : Table ConversationRow.key) : Book :=
  { b with conversations := conversations }

def Book.link (b : Book) (media : Table MessageMediaRow.key) : Book := { b with media := media }

def recordedLane (conversations : Table ConversationRow.key)
    (connectionId conversationId : String) :
    Option String :=
  (conversations.find? (connectionId, conversationId)).map fun r =>
    if r.orderingKey = "" then r.conversationId else r.orderingKey

def LanesKept (conversations conversations' : Table ConversationRow.key) : Prop :=
  ∀ connectionId conversationId lane,
    recordedLane conversations connectionId conversationId = some lane →
      recordedLane conversations' connectionId conversationId = some lane

def pageCursor (conversations : Table ConversationRow.key) (connectionId : String) : Option Bytes :=
  (conversations.find? (connectionId, providerPageCursorID)).bind ConversationRow.committedCursor

def PageKept (conversations conversations' : Table ConversationRow.key) : Prop :=
  ∀ connectionId, pageCursor conversations' connectionId = pageCursor conversations connectionId

/-- The lane of a new message: that of its conversation, or that of its recipient. -/
inductive Placed (message : OutboundMessage) (conversations : Table ConversationRow.key)
    (orderingKey : String) : Prop
  | newChat (conversation : message.conversationId = "")
      (lane : orderingKey = "new:" ++ message.recipient)
  | existing (conversation : message.conversationId ≠ "")
      (lane : recordedLane conversations message.connectionId message.conversationId =
        some orderingKey)

/-- The links of a new message to its media, in their order. -/
def mediaLinks (message : OutboundMessage) : List MessageMediaRow :=
  (message.mediaIds.mapIdx Prod.mk).map fun m => ⟨message.id, m.2, m.1, none⟩

/-- The entry of the command path: a message is queued under a key not used
before. -/
structure Queued (command : CreateOutbound) (b b' : Book) : Prop where
  id : command.message.id ≠ ""
  insert : ∃ orderingKey, Placed command.message b.conversations orderingKey ∧
    b.messages.insert (outboundRow command.message orderingKey) = some b'.messages
  media : b'.media.rows = b.media.rows ++ mediaLinks command.message
  record : b.idempotency.insert
    ⟨command.idempotencyKey, command.requestDigest, command.message.id⟩ = some b'.idempotency
  conversations : b'.conversations = b.conversations
  tenant : b'.tenantId = b.tenantId

inductive Write (b : Book) : Book → Prop
  | moved (row : MessageRow) (state : MessageState) (stored : row ∈ b.messages)
      (waiting : unsettled row.currentState = true) :
      Write b (b.update row.messageId fun r => { r with currentState := state })
  | assigned (row : MessageRow) (route : ConversationRow) (stored : row ∈ b.messages)
      (waiting : unsettled row.currentState = true)
      (connection : route.connectionId = row.connectionId)
      (lane : route.orderingKey = row.orderingKey)
      (free : ∀ lane, recordedLane b.conversations route.connectionId route.conversationId =
        some lane → lane = row.orderingKey ∨ ∀ other ∈ b.messages,
          other.messageId ≠ row.messageId → other.connectionId = row.connectionId →
            other.orderingKey = lane → unsettled other.currentState = false)
      (cursor : route.committedCursor = none) :
      Write b ((b.update row.messageId fun r =>
        { r with conversationId := route.conversationId }).route
        (upsertRoute b.conversations route))

inductive Receipt (ids : Nat → MessageIds) (connectionId : String) (b : Book) : Book → Prop
  | routed {conversations : Table ConversationRow.key}
      (kept : LanesKept b.conversations conversations)
      (page : PageKept b.conversations conversations) :
      Receipt ids connectionId b (b.route conversations)
  | inserted {messages : Table MessageRow.messageId} (index : Nat) (projected : ProjectedMessage)
      (now : Time) (insert : b.messages.insert
        (projectedRow connectionId (ids index).messageId projected now) = some messages) :
      Receipt ids connectionId b { b with messages := messages }
  | reconciled (row : MessageRow) (projected : ProjectedMessage) (direction : Direction)
      (state : MessageState) (stored : row ∈ b.messages) :
      Receipt ids connectionId b
        (b.update row.messageId fun r => r.reconcile projected direction state)
  | linked {media : Table MessageMediaRow.key} (kept : LinksKept b.messages b.media media) :
      Receipt ids connectionId b (b.link media)

abbrev Receipts (ids : Nat → MessageIds) (connectionId : String) : Book → Book → Prop :=
  Relation.ReflTransGen (Receipt ids connectionId)

variable {rt : Runtime} {now : Time} {db db' : Database}

theorem bookOf_eventsOnly (h : EventsOnly db db') : bookOf db' = bookOf db := by
  obtain ⟨events, rfl⟩ := h
  rfl

theorem bookOf_insertMessageStatus {operation : String} {row : StatusRow}
    (h : db.insertMessageStatus operation row = .ok db') : bookOf db' = bookOf db := by
  obtain ⟨log, hlog, rfl⟩ := insertMessageStatus_ok h
  obtain ⟨-, -, hmessages⟩ := MessageLog.recordStatus_eq_some hlog
  simp [bookOf, Database.setLog, hmessages]

theorem unsettled_of_guard {guard : ClaimGuard} (h : guard.holds now claim ownerId db = true) :
    ∃ row ∈ db.content.messages, row.messageId = claim.message.id ∧
      unsettled row.currentState = true := by
  simp only [ClaimGuard.holds, Bool.and_eq_true] at h
  obtain ⟨row, hrow, hstate⟩ := (Option.any_eq_true _ _).1 h.2
  exact ⟨row, Table.mem_of_find? hrow, Table.key_of_find? hrow, by simp_all [unsettled]⟩

/-! ### The command path -/

theorem outboundLane_placed {message : OutboundMessage}
    (h : outboundLane message db = .ok orderingKey) :
    Placed message db.content.conversations orderingKey := by
  by_cases hnew : message.conversationId = ""
  · simp only [outboundLane, hnew, if_true, bind_ok, pure_ok] at h
    obtain ⟨-, rfl, rfl⟩ := h
    exact .newChat hnew rfl
  · simp only [outboundLane, hnew, if_false, bind_ok, pure_ok, conversationLane, orFail_ok] at h
    obtain ⟨-, ⟨conversation, hfound, -, -, rfl⟩, rfl⟩ := h
    have hkey := Table.key_of_find? hfound
    simp only [ConversationRow.key, Prod.mk.injEq] at hkey
    refine .existing hnew ?_
    rw [recordedLane, hfound, Option.map_some, Option.some.injEq]
    split
    · rw [if_neg (hkey.2 ▸ hnew)]
    · rfl

/-- How `CreateOutbound` can end. -/
inductive Creation (command : CreateOutbound) (db : Database) (result : CreateResult)
    (db' : Database) : Prop
  | conflict {stored : IdempotencyRow}
      (found : db.dispatch.idempotency.find? command.idempotencyKey = some stored)
      (differs : ¬(stored.requestDigest = command.requestDigest ∧ stored.requestDigest.length = 32))
      (result_eq : result = ⟨.conflict, none⟩) (unchanged : db' = db)
  | duplicate {stored : IdempotencyRow} {message : OutboundMessage}
      (found : db.dispatch.idempotency.find? command.idempotencyKey = some stored)
      (same : stored.requestDigest = command.requestDigest)
      (load : loadOutboundMessage stored.messageId db = .ok message)
      (result_eq : result = ⟨.duplicate, some message⟩) (book : bookOf db' = bookOf db)
  | inserted (queued : Queued command (bookOf db) (bookOf db'))
      (result_eq : result = ⟨.inserted, some command.message⟩)

theorem createOutbound_ok {ids : CreateIds} {command : CreateOutbound} {result : CreateResult}
    (h : createOutbound rt now ids command db = .ok (result, db')) :
    Creation command db result db' := by
  simp only [createOutbound, bind_ok, require_ok, Bool.and_eq_true, bne_iff_ne] at h
  obtain ⟨-, ⟨⟨⟨⟨-, hid⟩, -⟩, -⟩, -⟩, -, -, h⟩ := h
  split at h
  case h_1 stored hfound =>
    split at h
    case isTrue hsame =>
      simp only [bind_ok, pure_pair] at h
      obtain ⟨message, hload, db₁, hkafka, rfl, rfl⟩ := h
      obtain ⟨_, rfl⟩ := recordKafkaCommand_ok hkafka
      exact .duplicate hfound hsame.1 hload rfl rfl
    case isFalse hdiffers =>
      rw [pure_pair] at h
      exact .conflict hfound hdiffers h.1.symm h.2.symm
  case h_2 hfresh =>
    simp only [bind_ok, pure_ok, orFail_ok, Prod.mk.injEq] at h
    obtain ⟨orderingKey, hlane, db₁, hmessage, db₂, hmedia, idempotency, hrecord, db₃, hkafka, db₄,
      hstatus, db₅, hevent, rfl, rfl⟩ := h
    obtain ⟨log, hlog, rfl⟩ := insertMessage_eq_some (insertOutboundMessage_ok hmessage)
    obtain ⟨table, hrows, rfl⟩ := insertOutboundMedia_ok hmedia
    obtain ⟨_, rfl⟩ := recordKafkaCommand_ok hkafka
    refine .inserted ?_ rfl
    rw [bookOf_eventsOnly (insertOutboundEvent_ok hevent), bookOf_insertMessageStatus hstatus]
    exact ⟨hid, ⟨orderingKey, outboundLane_placed hlane, (MessageLog.insertMessage_eq_some hlog).1⟩,
      hrows, hrecord, rfl, rfl⟩

/-! ### Dispatch -/

theorem moved_setState (state : MessageState)
    (stored : row ∈ db.content.messages) (hid : row.messageId = messageId)
    (waiting : unsettled row.currentState = true) :
    Write (bookOf db) (bookOf (db.setState messageId state)) := by
  subst hid
  exact .moved row state stored waiting

theorem settleCrash_book {ids : ClaimIds} {attempt : AttemptRow}
    (h : settleCrash rt now ids attempt db = .ok db') :
    bookOf db' = bookOf db ∨ Write (bookOf db) (bookOf db') := by
  unfold settleCrash at h
  split at h
  case h_2 =>
    rw [pure_ok] at h
    exact .inl (by rw [h])
  case h_1 message hfound =>
    obtain ⟨hfind, hstate⟩ := (Option.filter_eq_some_iff).1 hfound
    have hmoved := moved_setState (recoveryState attempt.phase) (Table.mem_of_find? hfind) rfl
      (by simp_all [unsettled])
    obtain ⟨recorded, hstatus, hevents⟩ := recoverAttempt_ok h
    rw [bookOf_eventsOnly hevents, bookOf_insertMessageStatus hstatus]
    exact .inr hmoved

theorem claimNext_book {ids : ClaimIds} {locked : List String} {result : Option DispatchClaim}
    (h : claimNext rt now ids locked connectionId orderingKey ownerId db = .ok (result, db')) :
    bookOf db' = bookOf db ∨ Write (bookOf db) (bookOf db') := by
  simp only [claimNext, bind_ok] at h
  obtain ⟨-, -, h⟩ := h
  split at h
  case h_2 =>
    rw [pure_pair] at h
    exact .inl (by rw [h.2])
  case h_1 lease lane _ _ =>
    split at h
    · simp only [bind_ok, pure_pair] at h
      obtain ⟨db₁, hsettle, -, rfl⟩ := h
      exact (settleCrash_book hsettle :)
    · split at h
      case h_1 message holdest =>
        simp only [bind_ok, pure_ok, claimMessage, Prod.mk.injEq] at h
        obtain ⟨⟨claim, db₁⟩, ⟨attempts, -, db₂, hstatus, -, -, -, -, -, rfl⟩, -, rfl⟩ := h
        obtain ⟨hmem, -, hqueued⟩ := mem_queuedOn.1 (oldestQueued_first holdest).1.1
        rw [bookOf_insertMessageStatus hstatus]
        exact .inr (.moved message .dispatching hmem (by simp [unsettled, hqueued]))
      case h_2 =>
        rw [pure_pair] at h
        obtain ⟨-, rfl⟩ := h
        split <;> exact .inl rfl

theorem completeDispatch_book {ids : Nat → StatusIds} {states : List MessageState}
    (h : completeDispatch rt now ids claim states safeReason db = .ok ((), db')) :
    Write (bookOf db) (bookOf db') := by
  simp only [completeDispatch, bind_ok, pure_ok, require_ok, Prod.mk.injEq] at h
  obtain ⟨-, -, -, -, -, hguard, db₁, hrecord, -, rfl⟩ := h
  obtain ⟨row, hrow, hid, hwaiting⟩ := unsettled_of_guard hguard
  obtain ⟨log, events, rfl, hmessages⟩ := recordDispatchStates_ok hrecord
  have hbook : bookOf { db.setLog log with events := events } = bookOf db := by
    simp [bookOf, Database.setLog, hmessages]
  rw [← hbook]
  exact moved_setState _ (hmessages ▸ hrow :) hid hwaiting

theorem releaseBeforeDispatch_book {statusId : String}
    (h : releaseBeforeDispatch now statusId claim safeReason db = .ok ((), db')) :
    Write (bookOf db) (bookOf db') := by
  simp only [releaseBeforeDispatch, bind_ok, pure_ok, require_ok, Prod.mk.injEq] at h
  obtain ⟨-, -, -, hguard, db₁, hstatus, -, rfl⟩ := h
  obtain ⟨row, hrow, hid, hwaiting⟩ := unsettled_of_guard hguard
  rw [bookOf_insertMessageStatus hstatus]
  exact moved_setState _ hrow hid hwaiting

theorem settled_of_not_laneBusy (h : laneBusy connectionId orderingKey messageId db = false) :
    ∀ other ∈ db.content.messages, other.messageId ≠ messageId →
      other.connectionId = connectionId → other.orderingKey = orderingKey →
        unsettled other.currentState = false := by
  intro other hother hid hconnection hkey
  simp only [laneBusy, Bool.or_eq_false_iff, List.any_eq_false] at h
  have hsettled := h.2 other hother
  simpa [unsettled, hid, hconnection, hkey] using hsettled

theorem existingLane_of_recorded {message : MessageRow} {conversationId lane : String}
    (h : recordedLane db.content.conversations message.connectionId conversationId = some lane) :
    existingLane message conversationId db = lane := by
  obtain ⟨conversation, hfound, hlane⟩ := Option.map_eq_some_iff.1 h
  simp only [existingLane, hfound]
  exact hlane

theorem recordCreatedConversationFenced_book {conversationId defaultOutgoingId : String}
    {isGroup : Bool} {fencingToken : Nat}
    (h : recordCreatedConversationFenced now connectionId messageId conversationId
      defaultOutgoingId isGroup ownerId fencingToken db = .ok ((), db')) :
    Write (bookOf db) (bookOf db') := by
  simp only [recordCreatedConversationFenced, bind_ok, pure_ok, require_ok, orFail_ok,
    Prod.mk.injEq] at h
  obtain ⟨-, -, -, -, message, hfound, -, -, -, hfree, -, rfl⟩ := h
  obtain ⟨hfind, hstate⟩ := (Option.filter_eq_some_iff).1 hfound
  simp only [Bool.and_eq_true, beq_iff_eq] at hstate
  obtain rfl := hstate.1
  obtain rfl : message.messageId = messageId := Table.key_of_find? hfind
  refine .assigned message
    { connectionId := message.connectionId
      conversationId := conversationId
      providerDefaultOutgoingId := defaultOutgoingId
      isGroup := isGroup
      orderingKey := message.orderingKey }
    (Table.mem_of_find? hfind) (by simp [unsettled, hstate.2]) rfl rfl ?_ rfl
  intro lane hlane
  rw [existingLane_of_recorded hlane] at hfree
  simp only [Bool.or_eq_true, beq_iff_eq, Bool.not_eq_true'] at hfree
  exact hfree.imp id fun hbusy => settled_of_not_laneBusy hbusy

/-! ### Provider responses -/

theorem LanesKept.refl (conversations : Table ConversationRow.key) :
    LanesKept conversations conversations := fun _ _ _ h => h

theorem LanesKept.trans {t₁ t₂ t₃ : Table ConversationRow.key} (h : LanesKept t₁ t₂)
    (h' : LanesKept t₂ t₃) : LanesKept t₁ t₃ := fun c v lane hlane => h' c v lane (h c v lane hlane)

theorem PageKept.refl (conversations : Table ConversationRow.key) :
    PageKept conversations conversations := fun _ => rfl

theorem PageKept.trans {t₁ t₂ t₃ : Table ConversationRow.key} (h : PageKept t₁ t₂)
    (h' : PageKept t₂ t₃) : PageKept t₁ t₃ := fun c => (h' c).trans (h c)

theorem pageKept_upsert {row : ConversationRow}
    {merge : ConversationRow → ConversationRow} {hmerge : ∀ r, (merge r).key = r.key}
    (h : ∀ connectionId, row.key = (connectionId, providerPageCursorID) →
      row.committedCursor = none ∧ ∀ r, (merge r).committedCursor = r.committedCursor) :
    PageKept conversations (upsert conversations row merge hmerge) := by
  intro connectionId
  rw [pageCursor, pageCursor, find?_upsert]
  split
  case isTrue hkey =>
    obtain ⟨hnone, hsame⟩ := h connectionId hkey
    cases conversations.find? (connectionId, providerPageCursorID) with
    | none => exact hnone
    | some r => exact hsame r
  case isFalse => rfl

theorem lanesKept_upsert {row : ConversationRow}
    {merge : ConversationRow → ConversationRow} {hmerge : ∀ r, (merge r).key = r.key}
    (h : ∀ r, r.key = row.key →
      (if (merge r).orderingKey = "" then (merge r).conversationId else (merge r).orderingKey) =
        if r.orderingKey = "" then r.conversationId else r.orderingKey) :
    LanesKept conversations (upsert conversations row merge hmerge) := by
  intro c v lane hlane
  obtain ⟨r, hr, rfl⟩ := Option.map_eq_some_iff.1 hlane
  rw [recordedLane, find?_upsert]
  split
  case isTrue hkey =>
    have hrow : r.key = row.key := (Table.key_of_find? hr).trans hkey.symm
    simp only [hr, Option.map_some, Option.getD_some, h r hrow]
  case isFalse => exact hlane

theorem upsertConversation_lanesKept (connectionId : String) (conversation : ProjectedConversation)
    (conversations : Table ConversationRow.key) :
    LanesKept conversations (upsertConversation connectionId conversation conversations) := by
  refine lanesKept_upsert fun r hkey => ?_
  simp only [ConversationRow.key, Prod.mk.injEq] at hkey
  by_cases hempty : r.orderingKey = ""
  · simp [hempty, hkey.2]
  · simp [hempty]

theorem upsertConversation_pageKept (connectionId : String) (conversation : ProjectedConversation)
    (conversations : Table ConversationRow.key) :
    PageKept conversations (upsertConversation connectionId conversation conversations) :=
  pageKept_upsert fun _ _ => ⟨rfl, fun _ => rfl⟩

def withConversations (connectionId : String) (projected : List ProjectedConversation)
    (conversations : Table ConversationRow.key) : Table ConversationRow.key :=
  projected.foldl (fun table conversation => upsertConversation connectionId conversation table)
    conversations

theorem withConversations_lanesKept (connectionId : String)
    (projected : List ProjectedConversation) (conversations : Table ConversationRow.key) :
    LanesKept conversations (withConversations connectionId projected conversations) := by
  induction projected generalizing conversations with
  | nil => exact .refl conversations
  | cons conversation projected ih =>
    exact (upsertConversation_lanesKept connectionId conversation conversations).trans (ih _)

theorem withConversations_pageKept (connectionId : String)
    (projected : List ProjectedConversation) (conversations : Table ConversationRow.key) :
    PageKept conversations (withConversations connectionId projected conversations) := by
  induction projected generalizing conversations with
  | nil => exact .refl conversations
  | cons conversation projected ih =>
    exact (upsertConversation_pageKept connectionId conversation conversations).trans (ih _)

theorem projectConversations_eq {projected : List ProjectedConversation}
    (h : projectConversations connectionId projected db = .ok db') :
    db' = db.setConversations
      (withConversations connectionId projected db.content.conversations) := by
  induction projected generalizing db with
  | nil =>
    rw [projectConversations, pure_ok] at h
    exact h.symm
  | cons conversation projected ih =>
    simp only [projectConversations, bind_ok] at h
    obtain ⟨-, -, h⟩ := h
    exact ih h

theorem advanceCommittedCursor_book {record : EnvelopeRecord}
    (h : advanceCommittedCursor record db = .ok db') :
    ∃ conversations, LanesKept db.content.conversations conversations ∧
      PageKept db.content.conversations conversations ∧
      bookOf db' = (bookOf db).route conversations := by
  unfold advanceCommittedCursor at h
  split at h
  · rw [pure_ok] at h
    exact ⟨db.content.conversations, .refl _, .refl _, by rw [← h]; rfl⟩
  · simp only [bind_ok, pure_ok, require_ok, Bool.and_eq_true] at h
    obtain ⟨-, ⟨-, hvalid⟩, rfl⟩ := h
    refine ⟨_, ?_, ?_, rfl⟩
    · exact lanesKept_upsert fun _ _ => rfl
    refine pageKept_upsert fun connectionId hkey => ?_
    -- the row of the parent cursor has no valid conversation ID
    have hpage : record.projection.cursorConversationId = providerPageCursorID :=
      (Prod.mk.inj hkey).2
    simp [hpage, validProviderConversationID, validProviderIdentifier] at hvalid

theorem insertInboundStatus_book {statusId : String} {projected : ProjectedMessage}
    (h : insertInboundStatus now statusId messageId projected db = .ok db') :
    bookOf db' = bookOf db := by
  obtain ⟨log, rfl, hmessages⟩ := insertInboundStatus_ok h
  simp [bookOf, Database.setLog, hmessages]

section

variable {record : EnvelopeRecord}

theorem projectMessage_receipt {projected : ProjectedMessage}
    (h : MessagePath rt now (ids index) record projected db db') :
    Receipt ids record.connectionId (bookOf db) (bookOf db') := by
  cases h with
  | inserted _ hinsert hstatus =>
    obtain ⟨log, hlog, rfl⟩ := insertProjected_ok hinsert
    rw [insertInboundStatus_book hstatus]
    exact .inserted index projected now (MessageLog.insertMessage_eq_some hlog).1
  | @reconciled row direction _ _ hfound _ hupdate hstatus hannounce =>
    rw [bookOf_eventsOnly (announceTransition_ok hannounce), insertInboundStatus_book hstatus,
      updateProjected_ok hupdate]
    exact .reconciled row projected direction _ (mem_of_lockProjectedMessage hfound)

theorem projectMessages_receipts {messages : List ProjectedMessage} {done result : List Projected}
    (h : projectMessages rt now ids record index messages done db = .ok (result, db')) :
    Receipts ids record.connectionId (bookOf db) (bookOf db') := by
  induction messages generalizing index done db with
  | nil =>
    simp only [projectMessages, pure_pair] at h
    exact h.2 ▸ .refl
  | cons projected messages ih =>
    simp only [projectMessages, bind_ok] at h
    obtain ⟨⟨first, db₁⟩, hfirst, hrest⟩ := h
    exact .head (projectMessage_receipt (projectMessage_ok hfirst)) (ih hrest)

/-- What `CommitEnvelope` does to the book: nothing, or the messages of the
envelope are stored after its conversations. -/
inductive Commitment (rt : Runtime) (now : Time) (ids : CommitIds) (record : EnvelopeRecord)
    (db db' : Database) : Prop
  | unread {media : Table MessageMediaRow.key}
      (links : LinksKept db.content.messages db.content.messageMedia media)
      (book : bookOf db' = (bookOf db).link media) (unseen : Unseen db db')
  | projected {projection : Projection} {done : List Projected} {before after : Database}
      {conversations : Table ConversationRow.key} {media media' : Table MessageMediaRow.key}
      (links : LinksKept db.content.messages db.content.messageMedia media)
      (links' : LinksKept after.content.messages after.content.messageMedia media')
      (valid : validateProjection rt projection record.media = .ok ())
      (same : projection.messages = record.projection.messages)
      (unseen : Unseen db before)
      (opened : bookOf before = ((bookOf db).link media).route (withConversations
        record.connectionId record.projection.conversations db.content.conversations))
      (project : projectMessages rt now ids.message (canonicalRecord record projection) 0
        record.projection.messages [] before = .ok (done, after))
      (kept : LanesKept after.content.conversations conversations)
      (closed : bookOf db' = ((bookOf after).link media').route conversations)
      (unseen' : Unseen after db')
      (page : PageKept after.content.conversations conversations)

theorem projectEnvelope_committed {ids : CommitIds} {projection : Projection}
    {attachments : Attachments} {result : CommitResult} {matched : Database}
    (hvalid : validateProjection rt projection record.media = .ok ())
    (hsame : projection.messages = record.projection.messages)
    (hrouted : projection.conversations = record.projection.conversations)
    (hmatched : Unprojected db matched)
    (h : projectEnvelope rt now ids (canonicalRecord record projection) attachments matched =
      .ok (result, db')) : Commitment rt now ids record db db' := by
  simp only [projectEnvelope, bind_ok, pure_pair] at h
  obtain ⟨db₁, hconversations, ⟨done, db₂⟩, hmessages, ⟨found, db₃⟩, hmedia, db₄, hevents, db₅,
    hcursor, -, rfl⟩ := h
  obtain rfl := projectConversations_eq hconversations
  obtain ⟨evidence, events, lines, media, hlinks, rfl⟩ := hmatched
  obtain ⟨objects, media', jobs, hlinks', rfl⟩ := projectMedia_ok hmedia
  have hafter : bookOf db₄ = (bookOf db₂).link media' := by
    rw [bookOf_eventsOnly (projectEvents_ok hevents)]
    rfl
  have hunseen' : Unseen db₂ db₅ := by
    obtain ⟨events, rfl⟩ := projectEvents_ok hevents
    obtain ⟨conversations, rfl⟩ := advanceCommittedCursor_ok hcursor
    exact ⟨rfl, rfl, rfl⟩
  obtain ⟨conversations, hkept, hpage, hclosed⟩ := advanceCommittedCursor_book hcursor
  have hroutes' : db₄.content.conversations = db₂.content.conversations :=
    congrArg Book.conversations hafter
  refine .projected hlinks hlinks' hvalid hsame ?_ ?_ (hsame ▸ hmessages :) (hroutes' ▸ hkept)
    (hafter ▸ hclosed) hunseen' (hroutes' ▸ hpage)
  · exact ⟨rfl, rfl, rfl⟩
  · rw [← hrouted]
    rfl

theorem commitEnvelope_committed {ids : CommitIds} {result : CommitResult}
    (h : commitEnvelope rt now ids record db = .ok (result, db')) :
    Commitment rt now ids record db db' := by
  obtain ⟨projection, hcanonical, -, hvalid, -, hpath⟩ := commitEnvelope_ok h
  obtain ⟨_, _, _, _, hlinks, rfl⟩ | ⟨matched, attachments, hmatched, hproject⟩ :=
    hpath.unprojected
  · exact .unread hlinks rfl ⟨rfl, rfl, rfl⟩
  · obtain ⟨cursor, base, candidate, rfl⟩ := canonicalizeProjectionCursors_ok hcanonical
    exact projectEnvelope_committed hvalid rfl rfl hmatched hproject

theorem Commitment.receipts {ids : CommitIds} (h : Commitment rt now ids record db db') :
    Receipts ids.message record.connectionId (bookOf db) (bookOf db') := by
  cases h with
  | unread hlinks hbook =>
    rw [hbook]
    exact .single (.linked hlinks)
  | @projected projection done before after conversations media media' hlinks hlinks' _ _ _ hopened
      hproject hkept hclosed _ hpage =>
      have hfirst : Receipts ids.message record.connectionId (bookOf db) (bookOf before) := by
        rw [hopened]
        exact .tail (.single (.linked hlinks))
          (.routed (withConversations_lanesKept _ _ _) (withConversations_pageKept _ _ _))
      have hlast : Receipts ids.message record.connectionId (bookOf after) (bookOf db') := by
        rw [hclosed]
        exact .tail (.single (.linked hlinks')) (.routed hkept hpage)
      exact hfirst.trans ((projectMessages_receipts hproject).trans hlast)

end

/-! ### Every operation -/

inductive Entry (op : Operation) (b b' : Book) : Prop
  | nothing (same : b' = b)
  | queued {ids : CreateIds} {command : CreateOutbound} (create : op = .createOutbound ids command)
      (queued : Queued command b b')
  | write (write : Write b b')
  | receipts {ids : CommitIds} {record : EnvelopeRecord}
      (commit : op = .commitEnvelope ids record)
      (receipts : Receipts ids.message record.connectionId b b')

theorem Entry.of_write (h : b' = b ∨ Write b b') :
    Entry op b b' := h.elim .nothing .write

theorem perform_entry {reply : Reply}
    (h : perform rt now op db = .ok (reply, db')) : Entry op (bookOf db) (bookOf db') := by
  have hbook (hfleet : op.onFleet = true) : bookOf db' = bookOf db := by
    obtain ⟨fleet, events, rfl⟩ := perform_fleetOnly hfleet h
    rfl
  cases op <;> simp only [perform] at h <;> obtain ⟨result, hop, rfl⟩ := replying_ok h
  any_goals exact .nothing (hbook rfl)
  case createOutbound =>
    cases createOutbound_ok hop with
    | conflict _ _ _ hsame => exact .nothing (by rw [hsame])
    | duplicate _ _ _ _ hbook => exact .nothing hbook
    | inserted hqueued => exact .queued rfl hqueued
  case claimNext => exact .of_write (claimNext_book hop)
  case beginProviderIo | renewProviderIo =>
    simp only [beginProviderIo, renewProviderIo, bind_ok] at hop
    obtain ⟨-, -, hop⟩ := hop
    split at hop <;> rw [pure_pair] at hop <;> obtain ⟨-, rfl⟩ := hop <;> exact .nothing rfl
  case completeDispatch => exact .write (completeDispatch_book hop)
  case releaseBeforeDispatch => exact .write (releaseBeforeDispatch_book hop)
  case recordCreatedConversationFenced =>
    exact .write (recordCreatedConversationFenced_book hop)
  case commitEnvelope => exact .receipts rfl (commitEnvelope_committed hop).receipts
  case markProviderACKedFenced =>
    obtain rfl | rfl := markProviderACKedFenced_ok hop <;> exact .nothing rfl
  case coordinateProviderACKsFenced =>
    obtain rfl | rfl | ⟨_, rfl⟩ := coordinateProviderACKsFenced_ok hop <;> exact .nothing rfl
  case listPendingProviderACKsFenced =>
    exact .nothing (congrArg bookOf (listPendingProviderACKsFenced_ok hop))

/-- What never changes in the row of a message; an echo only fills in an empty text. -/
structure RowKept (row row' : MessageRow) : Prop where
  id : row'.messageId = row.messageId
  connection : row'.connectionId = row.connectionId
  lane : row'.orderingKey = row.orderingKey
  tmpId : row'.providerTmpId = row.providerTmpId
  recipient : row'.recipient = row.recipient
  line : row'.lineId = row.lineId
  mode : row'.routeMode = row.routeMode
  text : row.bodyText ≠ "" → row'.bodyText = row.bodyText

theorem RowKept.refl (row : MessageRow) : RowKept row row :=
  ⟨rfl, rfl, rfl, rfl, rfl, rfl, rfl, fun _ => rfl⟩

theorem RowKept.trans {row row' row'' : MessageRow} (h : RowKept row row')
    (h' : RowKept row' row'') : RowKept row row'' where
  id := h'.id.trans h.id
  connection := h'.connection.trans h.connection
  lane := h'.lane.trans h.lane
  tmpId := h'.tmpId.trans h.tmpId
  recipient := h'.recipient.trans h.recipient
  line := h'.line.trans h.line
  mode := h'.mode.trans h.mode
  text hne := (h'.text (h.text hne ▸ hne)).trans (h.text hne)

/-- The stored messages stay, with what never changes in them and their media. -/
structure RowsKept (b b' : Book) : Prop where
  rows : ∀ row ∈ b.messages, ∃ row' ∈ b'.messages, RowKept row row'
  links : LinksKept b'.messages b.media b'.media

namespace RowsKept

theorem refl (b : Book) : RowsKept b b := ⟨fun row hrow => ⟨row, hrow, .refl row⟩, .refl⟩

theorem trans {b₁ b₂ b₃ : Book} (h : RowsKept b₁ b₂) (h' : RowsKept b₂ b₃) : RowsKept b₁ b₃ := by
  refine ⟨fun row hrow => ?_, LinksKept.trans ⟨h.links.kept, fun r hr => ?_⟩ h'.links⟩
  · obtain ⟨row', hrow', hkept⟩ := h.rows row hrow
    obtain ⟨row'', hrow'', hkept'⟩ := h'.rows row' hrow'
    exact ⟨row'', hrow'', hkept.trans hkept'⟩
  · refine (h.links.owned r hr).imp_right fun ⟨row, hrow, hid⟩ => ?_
    obtain ⟨row', hrow', hkept⟩ := h'.rows row hrow
    exact ⟨row', hrow', hkept.id.trans hid⟩

theorem update {b : Book} {messageId : String} {f : MessageRow → MessageRow}
    {hf : ∀ r, (f r).messageId = r.messageId} (hkept : ∀ r, RowKept r (f r)) :
    RowsKept b (b.update messageId f hf) := by
  refine ⟨fun row hrow => ⟨_, mem_bookUpdate.2 ⟨row, hrow, rfl⟩, ?_⟩, .refl⟩
  split
  · exact hkept row
  · exact .refl row

end RowsKept

theorem Queued.mem_media {command : CreateOutbound} (h : Queued command b b')
    {r : MessageMediaRow} : r ∈ b'.media ↔ r ∈ b.media ∨ r ∈ mediaLinks command.message := by
  rw [Table.mem_def, h.media, List.mem_append, Table.mem_def]

theorem Queued.kept {command : CreateOutbound} (h : Queued command b b') : RowsKept b b' := by
  obtain ⟨orderingKey, -, hinsert⟩ := h.insert
  refine ⟨fun row hrow => ⟨row, (Table.mem_insert hinsert).2 (.inl hrow), .refl row⟩,
    fun r hr => ⟨r, h.mem_media.2 (.inl hr), rfl, rfl⟩, fun r hr => ?_⟩
  rcases h.mem_media.1 hr with hr | hr
  · exact .inl ⟨r, hr, rfl⟩
  · obtain ⟨m, -, rfl⟩ := List.mem_map.1 hr
    exact .inr ⟨_, (Table.mem_insert hinsert).2 (.inr rfl), rfl⟩

theorem Write.kept (h : Write b b') : RowsKept b b' ∧ b'.idempotency = b.idempotency := by
  cases h with
  | moved => exact ⟨.update fun _ => ⟨rfl, rfl, rfl, rfl, rfl, rfl, rfl, fun _ => rfl⟩, rfl⟩
  | assigned row route =>
    have hkept : RowsKept b (b.update row.messageId fun r =>
        { r with conversationId := route.conversationId }) :=
      .update fun _ => ⟨rfl, rfl, rfl, rfl, rfl, rfl, rfl, fun _ => rfl⟩
    exact ⟨⟨hkept.rows, hkept.links⟩, rfl⟩

theorem Receipt.kept (h : Receipt ids connectionId b b') :
    RowsKept b b' ∧ b'.idempotency = b.idempotency := by
  cases h with
  | routed => exact ⟨⟨(RowsKept.refl b).rows, .refl⟩, rfl⟩
  | inserted index projected now hinsert =>
    exact ⟨⟨fun row hrow => ⟨row, (Table.mem_insert hinsert).2 (.inl hrow), .refl row⟩, .refl⟩, rfl⟩
  | reconciled =>
    exact ⟨.update fun _ => ⟨rfl, rfl, rfl, rfl, rfl, rfl, rfl, fun hne => if_neg hne⟩, rfl⟩
  | linked hlinks => exact ⟨⟨(RowsKept.refl b).rows, hlinks⟩, rfl⟩

theorem receipts_kept (h : Receipts ids connectionId b b') :
    RowsKept b b' ∧ b'.idempotency = b.idempotency := by
  induction h with
  | refl => exact ⟨.refl b, rfl⟩
  | tail _ hreceipt ih =>
    obtain ⟨hrows, hkeys⟩ := hreceipt.kept
    exact ⟨ih.1.trans hrows, hkeys.trans ih.2⟩

theorem Entry.kept (h : Entry op b b') : RowsKept b b' := by
  cases h with
  | nothing hsame => exact hsame ▸ .refl b
  | queued _ hqueued => exact hqueued.kept
  | write hwrite => exact hwrite.kept.1
  | receipts _ hreceipts => exact (receipts_kept hreceipts).1

theorem upsertRoute_pageKept {route : ConversationRow}
    (h : route.committedCursor = none) : PageKept conversations
      (upsertRoute conversations route) := by
  intro connectionId
  simp only [pageCursor, upsertRoute, Table.find?_update_key, Table.find?_insertIgnore]
  by_cases hkey : route.key = (connectionId, providerPageCursorID)
  · cases conversations.find? (connectionId, providerPageCursorID) with
    | none => simp [hkey, h]
    | some r => simp [hkey]
  · simp [hkey, Ne.symm hkey]

theorem receipts_pageKept (h : Receipts ids connectionId b b') :
    PageKept b.conversations b'.conversations := by
  induction h with
  | refl => exact .refl _
  | tail _ hreceipt ih =>
    cases hreceipt with
    | routed _ hpage => exact ih.trans hpage
    | inserted => exact ih
    | reconciled => exact ih
    | linked => exact ih

theorem Entry.pageKept (h : Entry op b b') : PageKept b.conversations b'.conversations := by
  cases h with
  | nothing hsame => rw [hsame]; exact .refl _
  | queued _ hqueued => rw [hqueued.conversations]; exact .refl _
  | write hwrite =>
    cases hwrite with
    | moved => exact .refl _
    | assigned row route _ _ _ _ _ hcursor => exact upsertRoute_pageKept hcursor
  | receipts _ hreceipts => exact receipts_pageKept hreceipts

theorem step_entry (rt : Runtime) (call : Call) (db : Database) :
    Entry call.2 (bookOf db) (bookOf (step rt call db).2) := by
  refine step_rule rt call db (fun _ _ => .nothing rfl) fun reply db' hperform => ?_
  exact perform_entry hperform

end MessagingGateway.Messaging
