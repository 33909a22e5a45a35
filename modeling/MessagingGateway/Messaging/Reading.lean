import MessagingGateway.Dispatch.Guarantees
import MessagingGateway.Messaging.Writes

/-!
# Reading messages

`GetMessage` and `ListMessages` scan the columns of a row into plain values.
Every nullable column is coalesced but the provider tmp ID, which a message
projected without one does not have. What is stored is readable, and following
the pages from the empty cursor lists it in the order of the IDs, exactly when
every stored message has a tmp ID.
-/

namespace MessagingGateway.Messaging

open Relational Domain Store Ingress Gateway Dispatch

/-! ### The readers -/

def readMessage (db : Database) (row : MessageRow) : OutboundMessage where
  id := row.messageId
  connectionId := row.connectionId
  conversationId := row.conversationId
  recipient := row.recipient
  lineId := row.lineId.getD ""
  routeMode := row.routeMode
  text := row.bodyText
  mediaIds := db.mediaIdsOf row.messageId
  providerTmpId := row.providerTmpId.getD ""
  providerMessageId := row.providerMessageId.getD ""
  direction := some row.direction
  transport := row.transport
  state := row.currentState
  createdAt := row.createdAt

def getMessage (messageId : String) (db : Database) : Tx OutboundMessage := do
  require (db.tenantId != "" && messageId != "") ⟨"message not found", []⟩
  loadOutboundMessage messageId db

structure MessagePage where
  messages : List OutboundMessage
  nextCursor : String := ""
  deriving DecidableEq

def byId (rows : List MessageRow) : List MessageRow :=
  rows.insertionSort fun a b => a.messageId ≤ b.messageId

/-- The rows `listMessagesSQL` returns, without its limit. -/
def messagesAfter (cursor : String) (db : Database) : List MessageRow :=
  byId (db.content.messages.select fun r => cursor < r.messageId)

def scanMessage (db : Database) (row : MessageRow) : Tx OutboundMessage := do
  let providerTmpId ← orFail row.providerTmpId ⟨"converting NULL to string is unsupported", []⟩
  pure { readMessage db row with providerTmpId := providerTmpId }

/-- `ListMessages`: one row more than asked for tells whether there is a next
page. -/
def listMessages (cursor : String) (limit : Nat) (db : Database) : Tx MessagePage := do
  require (db.tenantId != "" && 1 ≤ limit && limit ≤ 200) Sentinel.invalidCommand.err
  let messages ← ((messagesAfter cursor db).take (limit + 1)).mapM (scanMessage db)
  pure (if limit < messages.length then
      ⟨messages.take limit, ((messages[limit - 1]?).map (·.id)).getD ""⟩
    else ⟨messages, ""⟩)

/-- Following the pages from a cursor, for at most so many pages. -/
def followPages : Nat → Nat → String → Database → Tx (List OutboundMessage)
  | 0, _, _, _ => .error ⟨"the pages do not end", []⟩
  | pages + 1, limit, cursor, db => do
      let page ← listMessages cursor limit db
      if page.nextCursor = "" then pure page.messages
      else do
        let rest ← followPages pages limit page.nextCursor db
        pure (page.messages ++ rest)

/-! ### Scanning -/

variable {db : Database}

theorem loadOutboundMessage_ok {messageId : String} {message : OutboundMessage} :
    loadOutboundMessage messageId db = .ok message ↔ ∃ row,
      db.content.messages.find? messageId = some row ∧ row.providerTmpId.isSome ∧
        message = readMessage db row := by
  simp only [loadOutboundMessage, bind_ok, orFail_ok, pure_ok]
  constructor
  · rintro ⟨row, hrow, tmpId, htmp, rfl⟩
    have hid : row.messageId = messageId := Table.key_of_find? hrow
    exact ⟨row, hrow, by simp [htmp], by simp [readMessage, htmp, hid]⟩
  · rintro ⟨row, hrow, htmp, rfl⟩
    obtain ⟨tmpId, htmp⟩ := Option.isSome_iff_exists.1 htmp
    have hid : row.messageId = messageId := Table.key_of_find? hrow
    exact ⟨row, hrow, tmpId, htmp, by simp [readMessage, htmp, hid]⟩

variable {b b' : Book} {row : MessageRow} {rows : List MessageRow}

theorem scanMessage_eq (h : row.providerTmpId.isSome) :
    scanMessage db row = .ok (readMessage db row) := by
  obtain ⟨tmpId, htmp⟩ := Option.isSome_iff_exists.1 h
  simp only [scanMessage, bind_ok, orFail_ok, pure_ok]
  exact ⟨tmpId, htmp, by simp [readMessage, htmp]⟩

theorem mapM_scanMessage (h : ∀ row ∈ rows, row.providerTmpId.isSome) :
    rows.mapM (scanMessage db) = .ok (rows.map (readMessage db)) := by
  induction rows with
  | nil => rfl
  | cons row rows ih =>
    obtain ⟨hrow, hrows⟩ := List.forall_mem_cons.1 h
    rw [List.mapM_cons, scanMessage_eq hrow, ih hrows]
    rfl

/-! ### Pages -/

abbrev Ascending (rows : List MessageRow) : Prop :=
  rows.Pairwise fun a b => a.messageId < b.messageId

theorem byId_perm (rows : List MessageRow) : (byId rows).Perm rows := List.perm_insertionSort _ rows

theorem byId_ascending (h : (rows.map (·.messageId)).Nodup) : Ascending (byId rows) := by
  have hsorted : (byId rows).Pairwise fun a b => a.messageId ≤ b.messageId :=
    List.pairwise_insertionSort _ rows
  have hids : ((byId rows).map (·.messageId)).Nodup :=
    ((byId_perm rows).map _).nodup_iff.2 h
  refine hsorted.imp₂ (fun a b hle hne => lt_of_le_of_ne hle hne) ?_
  exact List.pairwise_map.1 hids

theorem eq_of_perm_ascending {rows' : List MessageRow} (h : rows.Perm rows')
    (hrows : Ascending rows) (hrows' : Ascending rows') : rows = rows' :=
  h.eq_of_pairwise (fun _ _ _ _ hlt hgt => absurd hgt hlt.asymm) hrows hrows'

theorem messagesAfter_nodup (p : MessageRow → Bool) (db : Database) :
    ((db.content.messages.select p).map (·.messageId)).Nodup :=
  db.content.messages.nodup.sublist (List.filter_sublist.map _)

theorem messagesAfter_last {cursor : String} {page rest : List MessageRow} {last : MessageRow}
    (h : messagesAfter cursor db = page ++ last :: rest) :
    messagesAfter last.messageId db = rest := by
  have hordered : Ascending (messagesAfter cursor db) := byId_ascending (messagesAfter_nodup _ db)
  have hmem : ∀ row, row ∈ messagesAfter cursor db ↔
      row ∈ db.content.messages ∧ cursor < row.messageId := fun row => by
    rw [messagesAfter, (byId_perm _).mem_iff, Table.mem_select, decide_eq_true_eq]
  rw [h] at hordered
  obtain ⟨-, htail, hcross⟩ := List.pairwise_append.1 hordered
  obtain ⟨hlast, hrest⟩ := List.pairwise_cons.1 htail
  -- both sides are ascending, so it is enough that they hold the same rows
  refine eq_of_perm_ascending ?_ (byId_ascending (messagesAfter_nodup _ db)) hrest
  refine (List.perm_ext_iff_of_nodup ?_ ?_).2 fun row => ?_
  · exact (byId_ascending (messagesAfter_nodup _ db)).imp fun hlt heq => absurd (heq ▸ hlt)
      (lt_irrefl _)
  · exact hrest.imp fun hlt heq => absurd (heq ▸ hlt) (lt_irrefl _)
  rw [messagesAfter, (byId_perm _).mem_iff, Table.mem_select, decide_eq_true_eq]
  constructor
  · rintro ⟨hrow, hafter⟩
    have hcursor : cursor < last.messageId := ((hmem last).1 (by rw [h]; simp)).2
    have hlisted := (hmem row).2 ⟨hrow, hcursor.trans hafter⟩
    rw [h, List.mem_append, List.mem_cons] at hlisted
    rcases hlisted with hpage | rfl | hlisted
    · exact absurd (hcross row hpage last (by simp)) hafter.asymm
    · exact absurd hafter (lt_irrefl _)
    · exact hlisted
  · intro hrow
    exact ⟨((hmem row).1 (by rw [h]; simp [hrow])).1, hlast row hrow⟩

def Scannable (db : Database) : Prop := ∀ row ∈ db.content.messages, row.providerTmpId.isSome

theorem mem_of_messagesAfter {cursor : String}
    (h : row ∈ messagesAfter cursor db) : row ∈ db.content.messages := by
  rw [messagesAfter, (byId_perm _).mem_iff, Table.mem_select] at h
  exact h.1

section

variable {cursor : String} {limit : Nat}

theorem listMessages_scan (htenant : db.tenantId ≠ "") (hpositive : 1 ≤ limit)
    (hlimit : limit ≤ 200) (hscan : Scannable db) :
    listMessages cursor limit db =
      .ok (let messages := ((messagesAfter cursor db).take (limit + 1)).map (readMessage db)
        if limit < messages.length then
          ⟨messages.take limit, ((messages[limit - 1]?).map (·.id)).getD ""⟩
        else ⟨messages, ""⟩) := by
  have hrows : ∀ row ∈ (messagesAfter cursor db).take (limit + 1), row.providerTmpId.isSome :=
    fun row hrow => hscan row (mem_of_messagesAfter (List.mem_of_mem_take hrow))
  simp only [listMessages, bind_ok, require_ok, pure_ok, mapM_scanMessage hrows, Except.ok.injEq]
  exact ⟨(), by simp [htenant, hpositive, hlimit], _, rfl, rfl⟩

theorem listMessages_last (htenant : db.tenantId ≠ "") (hpositive : 1 ≤ limit)
    (hlimit : limit ≤ 200) (hscan : Scannable db)
    (hlast : (messagesAfter cursor db).length ≤ limit) :
    listMessages cursor limit db = .ok ⟨(messagesAfter cursor db).map (readMessage db), ""⟩ := by
  rw [listMessages_scan htenant hpositive hlimit hscan, List.take_of_length_le (by omega)]
  simp only [List.length_map]
  rw [if_neg (by omega)]

theorem listMessages_full (htenant : db.tenantId ≠ "") (hlimit : limit ≤ 200)
    (hscan : Scannable db) {page rest : List MessageRow} {last next : MessageRow}
    (h : messagesAfter cursor db = page ++ last :: next :: rest) (hpage : page.length + 1 = limit) :
    listMessages cursor limit db =
      .ok ⟨(page ++ [last]).map (readMessage db), last.messageId⟩ := by
  subst hpage
  have htake : (messagesAfter cursor db).take (page.length + 1 + 1) = page ++ [last, next] := by
    rw [h, Nat.add_assoc, List.take_length_add_append]
    rfl
  rw [listMessages_scan htenant (by omega) hlimit hscan, htake]
  simp [List.take_append, readMessage]

end

theorem exists_page {α : Type} {l : List α} {limit : Nat} (hpositive : 1 ≤ limit)
    (h : limit < l.length) : ∃ page last next rest, l = page ++ last :: next :: rest ∧
      page.length + 1 = limit := by
  have hlength : (l.take (limit - 1)).length + 1 = limit := by simp; omega
  match hdrop : l.drop (limit - 1) with
  | [] | [_] =>
    have := congrArg List.length hdrop
    simp at this
    omega
  | last :: next :: rest =>
    exact ⟨l.take (limit - 1), last, next, rest, by rw [← hdrop, List.take_append_drop], hlength⟩

theorem followPages_eq {pages limit : Nat} (htenant : db.tenantId ≠ "") (hpositive : 1 ≤ limit)
    (hlimit : limit ≤ 200) (hscan : Scannable db)
    (hnamed : ∀ row ∈ db.content.messages, row.messageId ≠ "") {cursor : String}
    (henough : (messagesAfter cursor db).length < pages) :
    followPages pages limit cursor db = .ok ((messagesAfter cursor db).map (readMessage db)) := by
  induction pages generalizing cursor with
  | zero => omega
  | succ pages ih =>
    rw [followPages, bind_ok]
    by_cases hlast : (messagesAfter cursor db).length ≤ limit
    · exact ⟨_, listMessages_last htenant hpositive hlimit hscan hlast, rfl⟩
    · obtain ⟨page, last, next, rest, h, hpage⟩ := exists_page hpositive (Nat.lt_of_not_le hlast)
      have hmem : last ∈ messagesAfter cursor db := by rw [h]; simp
      have hrest := messagesAfter_last h
      have hshorter : (messagesAfter last.messageId db).length < pages := by
        rw [h] at henough
        rw [hrest]
        simp at henough ⊢
        omega
      refine ⟨_, listMessages_full htenant hlimit hscan h hpage, ?_⟩
      simp only [hnamed last (mem_of_messagesAfter hmem), if_false, bind_ok, pure_ok]
      refine ⟨_, ih hshorter, ?_⟩
      rw [hrest, h]
      simp

/-! ### Readability -/

/-- Every stored message can be read, and following the pages of any size lists
each of them once, in the order of their IDs. -/
structure Readable (db : Database) : Prop where
  get : ∀ row ∈ db.content.messages, getMessage row.messageId db = .ok (readMessage db row)
  list : ∀ limit, 1 ≤ limit → limit ≤ 200 → ∃ rows : List MessageRow,
    rows.Perm db.content.messages.rows ∧ Ascending rows ∧
      followPages (rows.length + 1) limit "" db = .ok (rows.map (readMessage db))

theorem readable_iff_scannable (htenant : db.tenantId ≠ "")
    (hnamed : ∀ row ∈ db.content.messages, row.messageId ≠ "") : Readable db ↔ Scannable db := by
  constructor
  · intro h row hrow
    have hget := h.get row hrow
    simp only [getMessage, bind_ok] at hget
    obtain ⟨-, -, hload⟩ := hget
    obtain ⟨stored, hfind, htmp, -⟩ := loadOutboundMessage_ok.1 hload
    rw [Table.find?_of_mem hrow, Option.some.injEq] at hfind
    exact hfind ▸ htmp
  · intro hscan
    refine ⟨fun row hrow => ?_, fun limit hpositive hlimit => ?_⟩
    · simp only [getMessage, bind_ok, require_ok]
      exact ⟨(), by simp [htenant, hnamed row hrow],
        loadOutboundMessage_ok.2 ⟨row, Table.find?_of_mem hrow, hscan row hrow, rfl⟩⟩
    · have hall : db.content.messages.select (fun r => "" < r.messageId) =
          db.content.messages.rows := by
        refine List.filter_eq_self.2 fun row hrow => ?_
        simpa using empty_lt (hnamed row hrow)
      refine ⟨messagesAfter "" db, ?_, byId_ascending (messagesAfter_nodup _ db),
        followPages_eq htenant hpositive hlimit hscan hnamed (Nat.lt_succ_self _)⟩
      rw [messagesAfter, hall]
      exact byId_perm _

/-! ### Runs -/

/-- The identifiers a commit draws for its messages are not empty. -/
def IdsDrawn (_ : Database) (call : Call) : Prop :=
  match call.2 with
  | .commitEnvelope ids _ => ∀ index, (ids.message index).messageId ≠ ""
  | _ => True

structure NewTenant (db : Database) : Prop where
  tenant : db.tenantId ≠ ""
  messages : db.content.messages = ∅
  idempotency : db.dispatch.idempotency = ∅

structure Named (b : Book) : Prop where
  tenant : b.tenantId ≠ ""
  messages : ∀ row ∈ b.messages, row.messageId ≠ ""

namespace Named

theorem insert (h : Named b) (htenant : b'.tenantId = b.tenantId)
    (hinsert : b.messages.insert row = some b'.messages) (hrow : row.messageId ≠ "") :
      Named b' := by
  refine ⟨htenant ▸ h.tenant, fun r hr => ?_⟩
  rcases (Table.mem_insert hinsert).1 hr with hr | rfl
  · exact h.messages r hr
  · exact hrow

theorem update {messageId : String} {f : MessageRow → MessageRow}
    {hf : ∀ r, (f r).messageId = r.messageId} (h : Named b) : Named (b.update messageId f hf) := by
  refine ⟨h.tenant, fun row hrow => ?_⟩
  obtain ⟨r, hr, rfl⟩ := mem_bookUpdate.1 hrow
  split
  · rw [hf]
    exact h.messages r hr
  · exact h.messages r hr

theorem route (h : Named b) (conversations : Table ConversationRow.key) :
    Named (b.route conversations) := ⟨h.tenant, h.messages⟩

theorem write (h : Named b) (hwrite : Write b b') : Named b' := by
  cases hwrite with
  | moved => exact h.update
  | assigned => exact h.update.route _

theorem receipts {ids : Nat → MessageIds} {connectionId : String} (h : Named b)
    (hids : ∀ index, (ids index).messageId ≠ "") (hreceipts : Receipts ids connectionId b b') :
    Named b' := by
  induction hreceipts with
  | refl => exact h
  | tail _ hreceipt ih =>
    cases hreceipt with
    | routed => exact ih.route _
    | inserted index projected now hinsert => exact ih.insert rfl hinsert (hids index)
    | reconciled => exact ih.update
    | linked => exact ⟨ih.tenant, ih.messages⟩

theorem step {rt : Runtime} {call : Call} (h : Named (bookOf db)) (hdrawn : IdsDrawn db call) :
    Named (bookOf (Gateway.step rt call db).2) := by
  cases step_entry rt call db with
  | nothing hsame => exact hsame ▸ h
  | queued _ hqueued =>
    obtain ⟨orderingKey, -, hinsert⟩ := hqueued.insert
    exact h.insert hqueued.tenant hinsert hqueued.id
  | write hwrite => exact h.write hwrite
  | @receipts ids record hcommit hreceipts =>
    simp only [IdsDrawn, hcommit] at hdrawn
    exact h.receipts hdrawn hreceipts

end Named

/-- In every state a tenant reaches, what is stored is readable exactly when every
stored message has a tmp ID. -/
theorem messages_readable_iff {rt : Runtime} {db₀ : Database} {trace : List (Call × Reply)}
    (hnew : NewTenant db₀) (hrun : Run (Gateway.step rt) IdsDrawn db₀ trace db) :
    Readable db ↔ ∀ row ∈ db.content.messages, row.providerTmpId ≠ none := by
  have hnamed : Named (bookOf db) := by
    refine hrun.invariant (P := fun db => Named (bookOf db)) (fun _ _ hdrawn h => h.step hdrawn) ?_
    exact ⟨hnew.tenant, fun row hrow => by simp [bookOf, hnew.messages] at hrow⟩
  rw [readable_iff_scannable hnamed.tenant hnamed.messages]
  simp only [Scannable, Option.isSome_iff_ne_none]

def echoed : List Call := [createCall "m1" 1, leaseCall 2, receiptCall "tmp-m1" none 3]

theorem phoneDatabase_new : NewTenant phoneDatabase := ⟨by decide, rfl, rfl⟩

theorem echoed_readable : Readable (execute (Gateway.step phoneRuntime) echoed phoneDatabase).2 :=
  (messages_readable_iff phoneDatabase_new (Run.of_inputs echoed
    ⟨trivial, trivial, fun index => by simp [commitIds], trivial⟩)).2 (by decide +kernel)

/-- A message the provider reports without a tmp ID is stored and cannot be read. -/
theorem untagged_unreadable :
    ∃ trace db, Run (Gateway.step phoneRuntime) IdsDrawn phoneDatabase trace db ∧
      (∃ row ∈ db.content.messages, getMessage row.messageId db =
        .error ⟨"get outbound message: converting NULL to string is unsupported", []⟩) ∧
      listMessages "" 200 db = .error ⟨"converting NULL to string is unsupported", []⟩ :=
  ⟨_, _, Run.of_inputs [leaseCall 2, receiptCall "" none 3]
    ⟨trivial, fun index => by simp [commitIds], trivial⟩, by decide +kernel, by decide +kernel⟩

end MessagingGateway.Messaging
