import MessagingGateway.Messaging.Reading

/-!
# Idempotent submission

The command path beside the other operations of the store: submissions under
any keys, over HTTP or Kafka, between any other calls. A key stands for the first
request submitted under it. SHA-256 is only assumed not to collide on the
requests that are submitted.
-/

namespace MessagingGateway.Messaging

open Relational Domain Store Ingress Gateway Dispatch

/-! ### The command path beside the store -/

inductive Request
  | submit (ids : CreateIds) (submission : Submission)
  | other (op : Operation)

/-- What is seen of a call: the message of an accepted submission, and the IDs of
the messages the call stored. -/
structure Answer where
  accepted : Option OutboundMessage := none
  stored : List String := []
  deriving DecidableEq

def newMessages (db db' : Database) : List String :=
  (db'.content.messages.select fun r => (db.content.messages.find? r.messageId).isNone).map
    (·.messageId)

def deskStep (rt : Runtime) (call : Time × Request) (db : Database) : Answer × Database :=
  match call.2 with
  | .submit ids submission =>
    match submit rt call.1 ids submission db with
    | .ok (message, db') => (⟨some message, newMessages db db'⟩, db')
    | .error _ => ({}, db)
  | .other op =>
    let db' := (Gateway.step rt (call.1, op) db).2
    (⟨none, newMessages db db'⟩, db')

/-- `CreateOutbound` is called by the command path only. -/
def Admissible (_ : Database) (call : Time × Request) : Prop :=
  match call.2 with
  | .other (.createOutbound _ _) => False
  | _ => True

abbrev Observation := (Time × Request) × Answer

def storedUnder (key : String) (trace : List Observation) : List String :=
  trace.flatMap fun o =>
    match o.1.2 with
    | .submit _ submission => if submission.idempotencyKey = key then o.2.stored else []
    | .other _ => []

def submissions (trace : List Observation) : List Submission :=
  trace.filterMap fun o =>
    match o.1.2 with
    | .submit _ submission => some submission
    | .other _ => none

def acceptances (trace : List Observation) : List (Submission × OutboundMessage) :=
  trace.filterMap fun o =>
    match o.1.2 with
    | .submit _ submission => o.2.accepted.map fun message => (submission, message)
    | .other _ => none

def CollisionFree (rt : Runtime) (submitted : List Submission) : Prop :=
  Set.InjOn rt.sha256 { bytes | ∃ s ∈ submitted, bytes = canonicalEncoding s.input }

variable {rt : Runtime} {now : Time} {db db' db₀ : Database} {s : Submission} {row : MessageRow}
  {b b' : Book}

theorem CollisionFree.request_eq {submitted : List Submission} (h : CollisionFree rt submitted)
    {s' : Submission} (hs : s ∈ submitted) (hs' : s' ∈ submitted)
    (hdigest : canonicalRequestDigest rt s.input = canonicalRequestDigest rt s'.input) :
    canonicalRequest s.input = canonicalRequest s'.input :=
  canonicalEncoding_inj (h ⟨s, hs, rfl⟩ ⟨s', hs', rfl⟩ hdigest)

theorem CollisionFree.mono {submitted submitted' : List Submission}
    (h : CollisionFree rt submitted') (hsub : submitted ⊆ submitted') :
    CollisionFree rt submitted := by
  refine Set.InjOn.mono ?_ h
  rintro bytes ⟨s, hs, rfl⟩
  exact ⟨s, hsub hs, rfl⟩

/-! ### A submission -/

/-- How a submission is accepted: as a first one, or as one more of the request
its key stands for. -/
inductive Acceptance (rt : Runtime) (s : Submission) (db : Database) (message : OutboundMessage)
    (db' : Database) : Prop
  | again {stored : IdempotencyRow}
      (found : db.dispatch.idempotency.find? s.idempotencyKey = some stored)
      (same : stored.requestDigest = canonicalRequestDigest rt s.input)
      (load : loadOutboundMessage stored.messageId db = .ok message)
      (book : bookOf db' = bookOf db)
  | first (queued : Queued (s.command rt db.tenantId) (bookOf db) (bookOf db'))
      (message_eq : message = s.message rt db.tenantId)

variable {message : OutboundMessage} {e : Submission × OutboundMessage}

theorem submit_ok {ids : CreateIds} (h : submit rt now ids s db = .ok (message, db')) :
    s.validate db.tenantId = .ok () ∧ Acceptance rt s db message db' := by
  simp only [submit, bind_ok] at h
  obtain ⟨⟨⟩, hvalid, ⟨result, db₁⟩, hcreate, h⟩ := h
  refine ⟨hvalid, ?_⟩
  cases createOutbound_ok hcreate with
  | conflict _ _ hresult =>
    subst hresult
    simp at h
  | duplicate hfound hsame hload hresult hbook =>
    subst hresult
    simp only [bind_ok, orFail_ok, pure_pair] at h
    obtain ⟨_, hsome, rfl, rfl⟩ := h
    cases hsome
    exact .again hfound hsame hload hbook
  | inserted hqueued hresult =>
    subst hresult
    simp only [bind_ok, orFail_ok, pure_pair] at h
    obtain ⟨_, hsome, rfl, rfl⟩ := h
    cases hsome
    exact .first hqueued rfl

theorem newMessages_same (h : db'.content.messages = db.content.messages) :
    newMessages db db' = [] := by
  rw [newMessages, h, List.map_eq_nil_iff, List.eq_nil_iff_forall_not_mem]
  intro row hrow
  obtain ⟨hrow, hnone⟩ := Table.mem_select.1 hrow
  simp [Table.find?_of_mem hrow] at hnone

theorem newMessages_insert (h : db.content.messages.insert row = some db'.content.messages) :
    newMessages db db' = [row.messageId] := by
  have hfresh : db.content.messages.find? row.messageId = none := (Table.insert_eq_some.1 h).1
  have hsame : newMessages db db = [] := newMessages_same rfl
  have hold : (db.content.messages.select fun r =>
      (db.content.messages.find? r.messageId).isNone) = [] := List.map_eq_nil_iff.1 hsame
  simp [newMessages, Table.select_insert h, hold, hfresh]

theorem nullIf_getD (value : String) : (nullIf value).getD "" = value := by
  unfold nullIf
  split <;> simp_all

/-! ### The ledger of a run -/

theorem storedUnder_snoc (key : String) (trace : List Observation) (o : Observation) :
    storedUnder key (trace ++ [o]) = storedUnder key trace ++ storedUnder key [o] :=
  List.flatMap_append

theorem acceptances_snoc (trace : List Observation) (o : Observation) :
    acceptances (trace ++ [o]) = acceptances trace ++ acceptances [o] := List.filterMap_append

theorem submissions_snoc (trace : List Observation) (o : Observation) :
    submissions (trace ++ [o]) = submissions trace ++ submissions [o] := List.filterMap_append

/-- A stored message is the one that was asked for, with its media in their order. An
echo may have filled in an empty text and added media of its own. -/
structure StoredFor (input : SendInput) (media : Table MessageMediaRow.key) (row : MessageRow) :
    Prop where
  connection : row.connectionId = input.connectionId
  recipient : row.recipient = trim input.recipient
  line : row.lineId.getD "" = input.lineId
  mode : row.routeMode = input.routeMode
  text : input.text ≠ "" → row.bodyText = input.text
  media : ∀ (position : Nat) mediaId, input.mediaIds[position]? = some mediaId →
    ∃ r ∈ media, r.key = (row.messageId, (position : Int)) ∧ r.mediaId = mediaId

structure QueuedFor (s : Submission) (media : Table MessageMediaRow.key) (row : MessageRow) : Prop
    extends StoredFor s.input media row where
  tmpId : row.providerTmpId.isSome
  lane : trim s.input.conversationId = "" → row.orderingKey = "new:" ++ trim s.input.recipient

/-- What is known of a key in use: the submission that was stored under it. -/
structure Recorded (rt : Runtime) (trace : List Observation) (db : Database) (r : IdempotencyRow)
    (first : Submission) : Prop where
  submitted : first ∈ submissions trace
  key : first.idempotencyKey = r.idempotencyKey
  digest : r.requestDigest = canonicalRequestDigest rt first.input
  stored : storedUnder r.idempotencyKey trace = [r.messageId]
  row : ∃ row ∈ db.content.messages, row.messageId = r.messageId ∧
    QueuedFor first db.content.messageMedia row

structure AcceptedFor (rt : Runtime) (db : Database) (s : Submission) (message : OutboundMessage) :
    Prop where
  route : validateRoute s.input = true
  key : ∃ r ∈ db.dispatch.idempotency, r.idempotencyKey = s.idempotencyKey ∧
    r.requestDigest = canonicalRequestDigest rt s.input ∧ r.messageId = message.id

structure Ledger (rt : Runtime) (trace : List Observation) (db : Database) : Prop where
  unused : ∀ key, db.dispatch.idempotency.find? key = none → storedUnder key trace = []
  recorded : ∀ r ∈ db.dispatch.idempotency, ∃ first, Recorded rt trace db r first
  accepted : ∀ e ∈ acceptances trace, AcceptedFor rt db e.1 e.2

theorem StoredFor.kept {input : SendInput} {messages : Table MessageRow.messageId}
    {media media' : Table MessageMediaRow.key} {row' : MessageRow}
    (h : StoredFor input media row) (hrow : RowKept row row')
    (hlinks : LinksKept messages media media') : StoredFor input media' row' where
  connection := hrow.connection.trans h.connection
  recipient := hrow.recipient.trans h.recipient
  line := by rw [hrow.line, h.line]
  mode := hrow.mode.trans h.mode
  text hne := (hrow.text (h.text hne ▸ hne)).trans (h.text hne)
  media position mediaId hmedia := by
    obtain ⟨r, hr, hkey, hid⟩ := h.media position mediaId hmedia
    obtain ⟨r', hr', hkey', hid'⟩ := hlinks.kept r hr
    exact ⟨r', hr', by rw [hkey', hkey, hrow.id], hid'.trans hid⟩

theorem StoredFor.congr {input input' : SendInput} {media : Table MessageMediaRow.key}
    (hsame : canonicalRequest input = canonicalRequest input')
    (h : StoredFor input media row) : StoredFor input' media row := by
  simp only [canonicalRequest, List.cons_append, List.cons.injEq, List.nil_append] at hsame
  obtain ⟨hconnection, -, hrecipient, hline, hmode, htext, hmedia⟩ := hsame
  exact ⟨hconnection ▸ h.connection, hrecipient ▸ h.recipient, hline ▸ h.line, hmode ▸ h.mode,
    htext ▸ h.text, hmedia ▸ h.media⟩

theorem QueuedFor.kept (hkept : RowsKept b b') {messageId : String}
    (h : ∃ row ∈ b.messages, row.messageId = messageId ∧ QueuedFor s b.media row) :
    ∃ row ∈ b'.messages, row.messageId = messageId ∧ QueuedFor s b'.media row := by
  obtain ⟨row, hrow, hid, hqueued⟩ := h
  obtain ⟨row', hrow', hsame⟩ := hkept.rows row hrow
  exact ⟨row', hrow', hsame.id.trans hid, hqueued.toStoredFor.kept hsame hkept.links,
    hsame.tmpId ▸ hqueued.tmpId, fun hnew => hsame.lane.trans (hqueued.lane hnew)⟩

theorem queuedFor_outboundRow {tenantId orderingKey : String}
    (hqueued : Queued (s.command rt tenantId) b b')
    (hplaced : Placed (s.message rt tenantId) b.conversations orderingKey) :
    QueuedFor s b'.media (outboundRow (s.message rt tenantId) orderingKey) where
  connection := rfl
  recipient := rfl
  line := nullIf_getD _
  mode := rfl
  text _ := rfl
  media position mediaId hmedia := by
    refine ⟨_, hqueued.mem_media.2 (.inr (List.mem_map.2 ⟨(position, mediaId), ?_, rfl⟩)), rfl, rfl⟩
    refine List.mem_of_getElem? (i := position) ?_
    rw [List.getElem?_mapIdx]
    exact congrArg (Option.map _) hmedia
  tmpId := rfl
  lane hnew := by
    cases hplaced with
    | newChat _ hlane => exact hlane
    | existing hconversation => exact absurd hnew hconversation

variable {trace : List Observation} {o : Observation}

theorem Ledger.keep (h : Ledger rt trace db) (hrows : RowsKept (bookOf db) (bookOf db'))
    (hkeys : db'.dispatch.idempotency = db.dispatch.idempotency)
    (hstored : ∀ key, storedUnder key [o] = [])
    (haccepted : ∀ e ∈ acceptances [o], AcceptedFor rt db e.1 e.2) :
    Ledger rt (trace ++ [o]) db' := by
  have hunder : ∀ key, storedUnder key (trace ++ [o]) = storedUnder key trace := fun key => by
    rw [storedUnder_snoc, hstored, List.append_nil]
  have hkept : ∀ s message, AcceptedFor rt db s message → AcceptedFor rt db' s message :=
    fun s message hs => ⟨hs.route, by rw [hkeys]; exact hs.key⟩
  refine ⟨fun key hkey => ?_, fun r hr => ?_, fun e he => ?_⟩
  · rw [hunder]
    exact h.unused key (hkeys ▸ hkey)
  · obtain ⟨first, hfirst⟩ := h.recorded r (hkeys ▸ hr)
    refine ⟨first, ?_, hfirst.key, hfirst.digest, (hunder _).trans hfirst.stored,
      QueuedFor.kept hrows hfirst.row⟩
    rw [submissions_snoc]
    exact List.mem_append_left _ hfirst.submitted
  · rw [acceptances_snoc, List.mem_append] at he
    rcases he with he | he
    · exact hkept _ _ (h.accepted e he)
    · exact hkept _ _ (haccepted e he)

theorem Ledger.queue {t : Time} {ids : CreateIds} (h : Ledger rt trace db)
    (ho : o = ((t, .submit ids s), ⟨some (s.message rt db.tenantId), newMessages db db'⟩))
    (hroute : validateRoute s.input = true)
    (hqueued : Queued (s.command rt db.tenantId) (bookOf db) (bookOf db')) :
    Ledger rt (trace ++ [o]) db' := by
  obtain ⟨orderingKey, hplaced, hinsert⟩ := hqueued.insert
  have hrecord := hqueued.record
  have hmem : ∀ r, r ∈ db'.dispatch.idempotency ↔ r ∈ db.dispatch.idempotency ∨
      r = ⟨s.idempotencyKey, canonicalRequestDigest rt s.input, s.messageId⟩ := fun r =>
    Table.mem_insert hrecord
  have hfresh : db.dispatch.idempotency.find? s.idempotencyKey = none :=
    (Table.insert_eq_some.1 hrecord).1
  have hunder : ∀ key, storedUnder key (trace ++ [o]) =
      storedUnder key trace ++ if s.idempotencyKey = key then [s.messageId] else [] := fun key => by
    rw [storedUnder_snoc, ho, newMessages_insert hinsert]
    simp [storedUnder, outboundRow, Submission.command, Submission.message]
  have hkept : RowsKept (bookOf db) (bookOf db') := hqueued.kept
  have hnew : Recorded rt (trace ++ [o]) db'
      ⟨s.idempotencyKey, canonicalRequestDigest rt s.input, s.messageId⟩ s := by
    refine ⟨?_, rfl, rfl, ?_, ?_⟩
    · simp [submissions, ho]
    · rw [hunder, h.unused _ hfresh, if_pos rfl]
      rfl
    · exact ⟨_, (Table.mem_insert hinsert).2 (.inr rfl), rfl,
        queuedFor_outboundRow hqueued hplaced⟩
  refine ⟨fun key hkey => ?_, fun r hr => ?_, fun e he => ?_⟩
  · have hne : s.idempotencyKey ≠ key := by
      rintro rfl
      exact absurd ((Table.find?_insert_self hrecord).symm.trans hkey) (by simp)
    have hunused : db.dispatch.idempotency.find? key = none :=
      (Table.find?_insert_of_ne hrecord hne).symm.trans hkey
    rw [hunder, h.unused key hunused, if_neg hne]
    rfl
  · rcases (hmem r).1 hr with hr | rfl
    · obtain ⟨first, hfirst⟩ := h.recorded r hr
      refine ⟨first, ?_, hfirst.key, hfirst.digest, ?_, QueuedFor.kept hkept hfirst.row⟩
      · rw [submissions_snoc]
        exact List.mem_append_left _ hfirst.submitted
      · have hne : s.idempotencyKey ≠ r.idempotencyKey := fun heq => by
          rw [heq, Table.find?_of_mem hr] at hfresh
          simp at hfresh
        rw [hunder, hfirst.stored, if_neg hne, List.append_nil]
    · exact ⟨s, hnew⟩
  · rw [acceptances_snoc, List.mem_append] at he
    rcases he with he | he
    · obtain ⟨hvalid, r, hr, hr'⟩ := h.accepted e he
      exact ⟨hvalid, r, (hmem r).2 (.inl hr), hr'⟩
    · simp only [acceptances, ho, List.filterMap_cons, List.filterMap_nil, Option.map_some,
        List.mem_singleton] at he
      subst he
      exact ⟨hroute, _, (hmem _).2 (.inr rfl), rfl, rfl, rfl⟩

theorem validateRoute_of_valid {tenantId : String}
    (h : s.validate tenantId = .ok ()) : validateRoute s.input = true := by
  simp only [Submission.validate, bind_ok, require_ok] at h
  obtain ⟨-, -, -, -, -, hroute, -⟩ := h
  exact hroute

theorem Ledger.step (h : Ledger rt trace db) {call : Time × Request} (hcall : Admissible db call) :
    Ledger rt (trace ++ [(call, (deskStep rt call db).1)]) (deskStep rt call db).2 := by
  obtain ⟨t, request⟩ := call
  cases request with
  | submit ids s =>
    cases hsubmit : submit rt t ids s db with
    | error e =>
      simp only [deskStep, hsubmit]
      exact h.keep (.refl _) rfl (by simp [storedUnder]) (by simp [acceptances])
    | ok result =>
      obtain ⟨message, db'⟩ := result
      simp only [deskStep, hsubmit]
      obtain ⟨hvalid, hacceptance⟩ := submit_ok hsubmit
      cases hacceptance with
      | @again stored hfound hsame hload hbook =>
        have hmessages : db'.content.messages = db.content.messages :=
          congrArg Book.messages hbook
        obtain ⟨row, hrow, -, rfl⟩ := loadOutboundMessage_ok.1 hload
        refine h.keep (by rw [hbook]; exact .refl _) (congrArg Book.idempotency hbook)
          (by simp [storedUnder, newMessages_same hmessages]) fun e he => ?_
        simp only [acceptances, List.filterMap_cons, List.filterMap_nil, Option.map_some,
          List.mem_singleton] at he
        subst he
        exact ⟨validateRoute_of_valid hvalid, stored, Table.mem_of_find? hfound,
          Table.key_of_find? hfound, hsame, (Table.key_of_find? hrow).symm⟩
      | first hqueued hmessage =>
        subst hmessage
        exact h.queue rfl (validateRoute_of_valid hvalid) hqueued
  | other op =>
    have hkept : RowsKept (bookOf db) (bookOf (Gateway.step rt (t, op) db).2) ∧
        (bookOf (Gateway.step rt (t, op) db).2).idempotency = (bookOf db).idempotency := by
      cases step_entry rt (t, op) db with
      | nothing hsame => exact hsame ▸ ⟨.refl _, rfl⟩
      | queued hcreate =>
        simp only at hcreate
        simp only [Admissible, hcreate] at hcall
      | write hwrite => exact hwrite.kept
      | receipts _ hreceipts => exact receipts_kept hreceipts
    exact h.keep hkept.1 hkept.2 (by simp [storedUnder]) (by simp [acceptances, deskStep])

theorem run_ledger (hnew : NewTenant db₀)
    (hrun : Run (deskStep rt) Admissible db₀ trace db) : Ledger rt trace db := by
  refine hrun.invariant_trace (P := Ledger rt) (fun _ _ _ hcall h => h.step hcall) ?_
  exact ⟨fun _ _ => rfl, fun r hr => by simp [hnew.idempotency] at hr, fun e he => by
    simp [acceptances] at he⟩

/-! ### What a key stands for -/

section

variable {ids : CreateIds} {s : Submission} {r : IdempotencyRow}

theorem createOutbound_used (hvalid : s.validate db.tenantId = .ok ())
    (hfound : db.dispatch.idempotency.find? s.idempotencyKey = some r) :
    createOutbound rt now ids (s.command rt db.tenantId) db =
      if r.requestDigest = canonicalRequestDigest rt s.input ∧ r.requestDigest.length = 32 then do
        let message ← loadOutboundMessage r.messageId db
        let db ← recordKafkaCommand ids.commandId (s.command rt db.tenantId) message.id db
        pure (⟨.duplicate, some message⟩, db)
      else pure (⟨.conflict, none⟩, db) := by
  have hroute := validateRoute_of_valid hvalid
  simp only [Submission.validate, bind_ok, require_ok, Bool.and_eq_true, bne_iff_ne,
    validIdempotencyKey] at hvalid
  obtain ⟨-, -, -, ⟨⟨⟨htenant, ⟨⟨⟨hkey, -⟩, -⟩, -⟩⟩, hconnection⟩, -⟩, -, -, hid⟩ := hvalid
  have hconversation : (trim s.input.conversationId == "" ||
      validProviderConversationID (trim s.input.conversationId)) = true := by
    unfold validateRoute at hroute
    by_cases hnew : trim s.input.conversationId = ""
    · simp [hnew]
    · simp_all
  have hchecks : (db.tenantId != "" && s.messageId != "" && s.input.connectionId != "" &&
      s.idempotencyKey != "" && MessageState.queued == MessageState.queued) = true := by
    simp [htenant, hid, hconnection, hkey]
  simp only [createOutbound, Submission.command, Submission.message, hchecks, hconversation,
    hfound, require, if_true]
  rfl

theorem submit_conflict (hvalid : s.validate db.tenantId = .ok ())
    (hfound : db.dispatch.idempotency.find? s.idempotencyKey = some r)
    (hdiffers : r.requestDigest ≠ canonicalRequestDigest rt s.input) :
    submit rt now ids s db = .error Sentinel.idempotencyConflict.err := by
  simp only [submit, hvalid, createOutbound_used hvalid hfound, hdiffers, false_and, if_false]
  rfl

theorem submit_again (hvalid : s.validate db.tenantId = .ok ()) (haudit : s.audit = none)
    (hfound : db.dispatch.idempotency.find? s.idempotencyKey = some r)
    (hsame : r.requestDigest = canonicalRequestDigest rt s.input)
    (hload : loadOutboundMessage r.messageId db = .ok message) :
    submit rt now ids s db = .ok (message, db) := by
  have hlength : r.requestDigest.length = 32 := by
    rw [hsame]
    exact rt.sha256_length _
  have hkafka : recordKafkaCommand ids.commandId (s.command rt db.tenantId) message.id db =
      .ok db := by
    simp only [recordKafkaCommand, Submission.command, haudit]
    rfl
  simp only [submit, hvalid, createOutbound_used hvalid hfound]
  rw [if_pos ⟨hsame, hlength⟩, hload]
  simp only [bind_ok]
  exact ⟨(), trivial, _, ⟨message, rfl, db, hkafka, rfl⟩, rfl⟩

end

/-! ### What is stored of a request -/

/-- Media are linked to stored messages only. -/
def Owned (b : Book) : Prop := ∀ r ∈ b.media, ∃ row ∈ b.messages, row.messageId = r.messageId

theorem Owned.kept (h : Owned b) (hkept : RowsKept b b') : Owned b' := by
  intro r' hr'
  rcases hkept.links.owned r' hr' with ⟨r, hr, hsame⟩ | hstored
  · obtain ⟨row, hrow, hid⟩ := h r hr
    obtain ⟨row', hrow', hrowKept⟩ := hkept.rows row hrow
    exact ⟨row', hrow', (hrowKept.id.trans hid).trans hsame⟩
  · exact hstored

theorem Acceptance.kept (h : Acceptance rt s db message db') :
    RowsKept (bookOf db) (bookOf db') := by
  cases h with
  | again _ _ _ hbook => exact hbook ▸ .refl _
  | first hqueued => exact hqueued.kept

theorem deskStep_kept (rt : Runtime) (call : Time × Request) (db : Database) :
    RowsKept (bookOf db) (bookOf (deskStep rt call db).2) := by
  obtain ⟨t, request⟩ := call
  cases request with
  | submit ids s =>
    cases hsubmit : submit rt t ids s db with
    | error e => simp only [deskStep, hsubmit]; exact .refl _
    | ok result => simp only [deskStep, hsubmit]; exact (submit_ok hsubmit).2.kept
  | other op => exact (step_entry rt (t, op) db).kept

theorem run_owned (hunlinked : db₀.content.messageMedia = ∅)
    (hrun : Run (deskStep rt) Admissible db₀ trace db) : Owned (bookOf db) := by
  refine hrun.invariant (P := fun db => Owned (bookOf db))
    (fun db call _ h => h.kept (deskStep_kept rt call db)) fun r hr => ?_
  simp [bookOf, hunlinked] at hr

theorem mediaLinks_sorted (message : OutboundMessage) :
    ((mediaLinks message).insertionSort fun a b => a.position ≤ b.position).map (·.mediaId) =
      message.mediaIds := by
  have hsorted : (mediaLinks message).Pairwise fun a b => a.position ≤ b.position := by
    rw [mediaLinks, List.pairwise_map, List.pairwise_iff_getElem]
    intro i j hi hj hij
    simp only [List.getElem_mapIdx]
    omega
  rw [hsorted.insertionSort_eq]
  refine List.ext_getElem? fun position => ?_
  simp [mediaLinks, List.getElem?_mapIdx, Function.comp_def]

/-- The media of a message that has just been queued. -/
theorem Queued.mediaIds {command : CreateOutbound}
    (h : Queued command (bookOf db) (bookOf db')) (howned : Owned (bookOf db)) :
    db'.mediaIdsOf command.message.id = command.message.mediaIds := by
  obtain ⟨orderingKey, -, hinsert⟩ := h.insert
  have hnone : (db.content.messageMedia.rows.filter fun r => r.messageId == command.message.id) =
      [] := by
    refine List.filter_eq_nil_iff.2 fun r hr hid => ?_
    obtain ⟨row, hrow, hsame⟩ := howned r hr
    have hfree := Table.find?_eq_none.1 (Table.insert_eq_some.1 hinsert).1 row hrow
    exact hfree (hsame.trans (beq_iff_eq.1 hid))
  have hall : ((mediaLinks command.message).filter fun r => r.messageId == command.message.id) =
      mediaLinks command.message := by
    refine List.filter_eq_self.2 fun r hr => ?_
    obtain ⟨m, -, rfl⟩ := List.mem_map.1 hr
    exact beq_self_eq_true _
  have hrows : db'.content.messageMedia.rows = _ := h.media
  rw [Database.mediaIdsOf, Table.select, hrows, List.filter_append, hall]
  simp only [bookOf, hnone, List.nil_append]
  exact mediaLinks_sorted command.message

theorem Ledger.returns (h : Ledger rt trace db) (howned : Owned (bookOf db))
    (hfree : CollisionFree rt (s :: submissions trace))
    (haccepted : Acceptance rt s db message db') :
    ∃ row ∈ db'.content.messages, message = readMessage db' row ∧
      StoredFor s.input db'.content.messageMedia row := by
  cases haccepted with
  | @again stored hfound hsame hload hbook =>
    obtain ⟨found, hfind, -, rfl⟩ := loadOutboundMessage_ok.1 hload
    obtain ⟨first, hfirst⟩ := h.recorded stored (Table.mem_of_find? hfound)
    obtain ⟨row, hrow, hid, hqueued⟩ := hfirst.row
    obtain rfl := Table.eq_of_key_eq hrow (Table.mem_of_find? hfind)
      (hid.trans (Table.key_of_find? hfind).symm)
    have hmessages : db'.content.messages = db.content.messages := congrArg Book.messages hbook
    have hmedia : db'.content.messageMedia = db.content.messageMedia := congrArg Book.media hbook
    refine ⟨row, hmessages ▸ hrow, ?_, ?_⟩
    · rw [readMessage, readMessage, Database.mediaIdsOf, Database.mediaIdsOf, hmedia]
    · rw [hmedia]
      exact hqueued.toStoredFor.congr (hfree.request_eq (List.mem_cons_of_mem _ hfirst.submitted)
        List.mem_cons_self (hfirst.digest.symm.trans hsame))
  | first hqueued hmessage =>
    obtain ⟨orderingKey, hplaced, hinsert⟩ := hqueued.insert
    refine ⟨_, (Table.mem_insert hinsert).2 (.inr rfl), ?_,
      (queuedFor_outboundRow hqueued hplaced).toStoredFor⟩
    have hmedia : db'.mediaIdsOf s.messageId = s.input.mediaIds := hqueued.mediaIds howned
    simp [hmessage, readMessage, outboundRow, Submission.command, Submission.message, nullIf_getD,
      hmedia]

theorem Ledger.again (h : Ledger rt trace db)
    (he : e ∈ acceptances trace) : ∃ r, db.dispatch.idempotency.find? e.1.idempotencyKey = some r ∧
      r.requestDigest = canonicalRequestDigest rt e.1.input ∧ r.messageId = e.2.id ∧
      storedUnder e.1.idempotencyKey trace = [e.2.id] := by
  obtain ⟨r, hr, hkey, hdigest, hid⟩ := (h.accepted e he).key
  obtain ⟨first, hfirst⟩ := h.recorded r hr
  refine ⟨r, hkey ▸ Table.find?_of_mem hr, hdigest, hid, ?_⟩
  rw [← hkey, ← hid]
  exact hfirst.stored

theorem mem_submissions_of_acceptance (h : e ∈ acceptances trace) : e.1 ∈ submissions trace := by
  simp only [acceptances, submissions, List.mem_filterMap] at h ⊢
  obtain ⟨o, ho, h⟩ := h
  refine ⟨o, ho, ?_⟩
  split at h
  · obtain ⟨message, -, rfl⟩ := Option.map_eq_some_iff.1 h
    rfl
  · simp at h

theorem Ledger.stored_length (h : Ledger rt trace db) (key : String) :
    (storedUnder key trace).length ≤ 1 := by
  cases hfind : db.dispatch.idempotency.find? key with
  | none => simp [h.unused key hfind]
  | some r =>
    obtain ⟨first, hfirst⟩ := h.recorded r (Table.mem_of_find? hfind)
    have hr : r.idempotencyKey = key := Table.key_of_find? hfind
    rw [← hr, hfirst.stored]
    rfl

theorem Ledger.submitted (h : Ledger rt trace db) (haccepted : Acceptance rt s db message db') :
    storedUnder s.idempotencyKey trace ++ newMessages db db' = [message.id] := by
  cases haccepted with
  | @again stored hfound hsame hload hbook =>
    obtain ⟨first, hfirst⟩ := h.recorded stored (Table.mem_of_find? hfound)
    have hr : stored.idempotencyKey = s.idempotencyKey := Table.key_of_find? hfound
    obtain ⟨row, hrow, -, rfl⟩ := loadOutboundMessage_ok.1 hload
    have hid : row.messageId = stored.messageId := Table.key_of_find? hrow
    rw [newMessages_same (congrArg Book.messages hbook), List.append_nil, ← hr, hfirst.stored,
      ← hid]
    rfl
  | first hqueued hmessage =>
    obtain ⟨orderingKey, -, hinsert⟩ := hqueued.insert
    have hfresh : db.dispatch.idempotency.find? s.idempotencyKey = none :=
      (Table.insert_eq_some.1 hqueued.record).1
    rw [h.unused _ hfresh, newMessages_insert hinsert, hmessage]
    rfl

theorem Ledger.first_message (h : Ledger rt trace db)
    (haccepted : Acceptance rt s db message db')
    (hunused : storedUnder s.idempotencyKey trace = []) :
    message = s.message rt db.tenantId := by
  cases haccepted with
  | @again stored hfound =>
    obtain ⟨first, hfirst⟩ := h.recorded stored (Table.mem_of_find? hfound)
    have hr : stored.idempotencyKey = s.idempotencyKey := Table.key_of_find? hfound
    have hstored := hfirst.stored
    rw [hr, hunused] at hstored
    cases hstored
  | first _ hmessage => exact hmessage

theorem Ledger.same_request (h : Ledger rt trace db)
    (hfree : CollisionFree rt (submissions trace)) {e' : Submission × OutboundMessage}
    (he : e ∈ acceptances trace) (he' : e' ∈ acceptances trace)
    (hkey : e.1.idempotencyKey = e'.1.idempotencyKey) :
    canonicalRequest e.1.input = canonicalRequest e'.1.input := by
  obtain ⟨r, hfound, hdigest, -⟩ := h.again he
  obtain ⟨r', hfound', hdigest', -⟩ := h.again he'
  rw [hkey, hfound', Option.some.injEq] at hfound
  subst hfound
  exact hfree.request_eq (mem_submissions_of_acceptance he) (mem_submissions_of_acceptance he')
    (hdigest.symm.trans hdigest')

/-- At most one message is stored under a key, the one of the first submission. The
submissions accepted under it ask for the same and are answered with that message
as it is stored, which is what they ask for; one that asks for something else is a
conflict that changes nothing. -/
theorem submissions_idempotent (hnew : NewTenant db₀) (hunlinked : db₀.content.messageMedia = ∅)
    (hrun : Run (deskStep rt) Admissible db₀ trace db) (now : Time) (ids : CreateIds)
    (s : Submission) (hfree : CollisionFree rt (s :: submissions trace)) :
    (∀ key, (storedUnder key trace).length ≤ 1) ∧
    (∀ e ∈ acceptances trace, storedUnder e.1.idempotencyKey trace = [e.2.id] ∧
      ∀ e' ∈ acceptances trace, e.1.idempotencyKey = e'.1.idempotencyKey →
        canonicalRequest e.1.input = canonicalRequest e'.1.input) ∧
    (∀ message db', submit rt now ids s db = .ok (message, db') →
      storedUnder s.idempotencyKey trace ++ newMessages db db' = [message.id] ∧
      (storedUnder s.idempotencyKey trace = [] → message = s.message rt db.tenantId) ∧
      ∃ row ∈ db'.content.messages, message = readMessage db' row ∧
        StoredFor s.input db'.content.messageMedia row) ∧
    ∀ e ∈ acceptances trace, e.1.idempotencyKey = s.idempotencyKey →
      canonicalRequest e.1.input ≠ canonicalRequest s.input →
        deskStep rt (now, .submit ids s) db = ({}, db) ∧
          (s.validate db.tenantId = .ok () →
            submit rt now ids s db = .error Sentinel.idempotencyConflict.err) := by
  have h := run_ledger hnew hrun
  refine ⟨h.stored_length, fun e he => ?_, fun message db' hsubmit => ?_,
    fun e he hkey hdiffers => ?_⟩
  · obtain ⟨-, -, -, -, hstored⟩ := h.again he
    exact ⟨hstored, fun e' he' hkey =>
      h.same_request (hfree.mono (List.subset_cons_self s _)) he he' hkey⟩
  · obtain ⟨-, haccepted⟩ := submit_ok hsubmit
    exact ⟨h.submitted haccepted, h.first_message haccepted,
      h.returns (run_owned hunlinked hrun) hfree haccepted⟩
  · obtain ⟨r, hfound, hdigest, -⟩ := h.again he
    rw [hkey] at hfound
    have hdigest' : r.requestDigest ≠ canonicalRequestDigest rt s.input := fun hsame =>
      hdiffers (hfree.request_eq (List.mem_cons_of_mem _ (mem_submissions_of_acceptance he))
        List.mem_cons_self (hdigest.symm.trans hsame))
    refine ⟨?_, fun hvalid => submit_conflict hvalid hfound hdigest'⟩
    cases hsubmit : submit rt now ids s db with
    | error e => simp only [deskStep, hsubmit]
    | ok result =>
      obtain ⟨hvalid, -⟩ := submit_ok hsubmit
      rw [submit_conflict hvalid hfound hdigest'] at hsubmit
      cases hsubmit

/-! ### A tenant that texts one number -/

def texting (key recipient messageId : String)
    (hsized : recipient.utf8ByteSize < 2 ^ 63 := by decide) : Submission where
  idempotencyKey := key
  input :=
    { connectionId := "phone"
      recipient := recipient
      routeMode := routeModePhoneDefault
      text := "hello"
      sized := by
        simp only [List.append_nil, List.mem_cons, List.not_mem_nil, or_false, forall_eq_or_imp,
          forall_eq, hsized, true_and]
        decide }
  messageId := messageId
  createdAt := 1

def createIds (suffix : String) : CreateIds :=
  ⟨"queued-" ++ suffix, "event-" ++ suffix, "outbox-" ++ suffix, "command-" ++ suffix⟩

def textTwice : List (Time × Request) :=
  [(1, .submit (createIds "1") (texting "key" "+14155550100" "m1")),
    (2, .submit (createIds "2") (texting "key" "+14155550100" "m2"))]

/-- The second submission gets the message of the first, and a text to another
number under the same key is refused. -/
theorem textTwice_stored_once :
    acceptances (execute (deskStep phoneRuntime) textTwice phoneDatabase).1 ≠ [] ∧
      storedUnder "key" (execute (deskStep phoneRuntime) textTwice phoneDatabase).1 = ["m1"] ∧
      submit phoneRuntime 3 (createIds "3") (texting "key" "+14155550101" "m3")
        (execute (deskStep phoneRuntime) textTwice phoneDatabase).2 =
          .error Sentinel.idempotencyConflict.err := by
  have hmem : ∀ t ∈ texting "key" "+14155550101" "m3" :: submissions
      (execute (deskStep phoneRuntime) textTwice phoneDatabase).1,
      t.input = (texting "key" "+14155550100" "m1").input ∨
        t.input = (texting "key" "+14155550101" "m3").input := by decide +kernel
  have hfree : CollisionFree phoneRuntime (texting "key" "+14155550101" "m3" :: submissions
      (execute (deskStep phoneRuntime) textTwice phoneDatabase).1) := by
    rintro bytes ⟨s, hs, rfl⟩ bytes' ⟨s', hs', rfl⟩ hsame
    rcases hmem s hs with h | h <;> rcases hmem s' hs' with h' | h' <;> rw [h, h'] at hsame ⊢ <;>
      exact absurd hsame (by decide +kernel)
  obtain ⟨-, -, -, hconflict⟩ := submissions_idempotent phoneDatabase_new rfl
    (Run.of_inputs textTwice ⟨trivial, trivial, trivial⟩) 3 (createIds "3")
    (texting "key" "+14155550101" "m3") hfree
  have haccepted : (acceptances (execute (deskStep phoneRuntime) textTwice phoneDatabase).1).map
      (·.1) = [texting "key" "+14155550100" "m1", texting "key" "+14155550100" "m2"] := by
    decide +kernel
  obtain ⟨e, he, hfirst⟩ := List.mem_map.1 (haccepted ▸ List.mem_cons_self)
  refine ⟨List.ne_nil_of_mem he, by decide +kernel, (hconflict e he ?_ ?_).2 (by decide +kernel)⟩
  · rw [hfirst]
    rfl
  · rw [hfirst]
    decide +kernel

end MessagingGateway.Messaging
