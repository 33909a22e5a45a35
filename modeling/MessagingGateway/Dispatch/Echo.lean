import MessagingGateway.Dispatch.Completion
import MessagingGateway.Dispatch.Guarantees

/-!
# A provider echo and the completion of its dispatch

While a message is in flight the provider may echo it. The echo and the
completion are two transactions that race: here each order of the two is taken
apart.
-/

namespace MessagingGateway.Dispatch

open Relational Domain Store Ingress Gateway

/-- A provider response not seen before that projects one message and nothing
else, and names a stored message by its tmp ID. -/
structure Echo (rt : Runtime) (now : Time) (envelope : Envelope) (p : ProjectedMessage)
    (row : MessageRow) (db : Database) : Prop where
  admissible : envelope.admissible db.tenantId = .ok ()
  decoded : envelope.poison rt = false
  projection : envelope.projection = { messages := [p] }
  media : envelope.media = []
  adapted : p.state ∈ adapterStates
  owned : db.ownsLease now envelope.connectionId envelope.ownerId envelope.fencingToken = true
  unreserved : db.evidence.reservations.find?
    (envelope.connectionId, envelope.providerResponseId) = none
  unstored : db.evidence.inbox.find? (envelope.connectionId, envelope.providerResponseId) = none
  named : lockProjectedMessage envelope.connectionId p.providerMessageId p.providerTmpId db =
    some row
  tmpId : row.providerTmpId = some p.providerTmpId

section

variable {rt : Runtime} {now : Time} {envelope : Envelope} {p : ProjectedMessage} {row : MessageRow}
  {db db' : Database} {ids : CommitIds}

structure EchoRecord (envelope : Envelope) (p : ProjectedMessage) (record : EnvelopeRecord) :
    Prop where
  connectionId : record.connectionId = envelope.connectionId
  ownerId : record.ownerId = envelope.ownerId
  fencingToken : record.fencingToken = envelope.fencingToken
  providerResponseId : record.providerResponseId = envelope.providerResponseId
  raw : record.raw = envelope.raw
  projection : record.projection = { messages := [p] }
  media : record.media = []
  poisoned : record.poisoned = false
  ackPending : record.ackPending = true
  ackWithheld : record.ackWithheld = envelope.ackWithheld
  events : ∃ event, record.events = [event] ∧ event.type.semantic = true

theorem announcedType_semantic (p : ProjectedMessage) : (announcedType p).semantic = true := by
  unfold announcedType
  split
  · rfl
  · split <;> rfl

theorem Echo.record (h : Echo rt now envelope p row db) (receivedAt : Time) :
    EchoRecord envelope p (envelope.record rt db.tenantId receivedAt) := by
  simp only [Envelope.record, h.decoded]
  refine ⟨rfl, rfl, rfl, rfl, rfl, h.projection, h.media, rfl, rfl, rfl, ?_⟩
  simp only [Bool.false_eq_true, if_false, projectionEvents, h.projection, h.media]
  exact ⟨_, rfl, announcedType_semantic p⟩

theorem Echo.validated (h : Echo rt now envelope p row db) :
    validateProjection rt { messages := [p] } [] = .ok () := by
  have hdecoded := h.decoded
  simp only [Envelope.poison, Bool.or_eq_false_iff, h.projection, h.media] at hdecoded
  split at hdecoded
  · assumption
  · simp at hdecoded

theorem Echo.providerMessageId_ne (h : Echo rt now envelope p row db) :
    p.providerMessageId ≠ "" := by
  have hvalid := h.validated
  simp only [validateProjection, validateMessages, validateMessage, bind_ok, require_ok,
    Bool.and_eq_true] at hvalid
  obtain ⟨-, -, -, -, -, -, -, -, -, -, -, ⟨-, ⟨-, ⟨⟨⟨⟨hid, -⟩, -⟩, -⟩, -⟩, -⟩, -⟩, -⟩ := hvalid
  intro hempty
  simp [hempty, validProviderIdentifier] at hid

variable {record : EnvelopeRecord} {direction : Direction} {state : MessageState}
  {event : OutboxEvent} {states : List MessageState} {safeReason : String}

theorem Echo.wellFormed (h : Echo rt now envelope p row db)
    (hr : EchoRecord envelope p record) : wellFormedRecord record db = true := by
  have hadmissible := h.admissible
  have hdecoded := h.decoded
  simp only [Envelope.admissible, bind_ok, require_ok, Bool.and_eq_true, bne_iff_ne,
    decide_eq_true_eq, Bool.or_eq_true, Bool.not_eq_true', beq_iff_eq] at hadmissible
  obtain ⟨-, hfields, -, hresponse, hwithheld⟩ := hadmissible
  simp only [Envelope.poison, Bool.or_eq_false_iff] at hdecoded
  have hacked : envelope.ackWithheld = false := by simpa [hdecoded.1] using hwithheld
  simp_all [wellFormedRecord, hr.connectionId, hr.ownerId, hr.fencingToken, hr.providerResponseId,
    hr.raw, hr.ackPending, hr.ackWithheld, maxRawEnvelopeBytes]

theorem Echo.commitEnvelope_eq (h : Echo rt now envelope p row db)
    (hr : EchoRecord envelope p record) (ids : CommitIds) :
    commitEnvelope rt now ids record db = (do
      let db ← insertInbox ids.inboxId record db
      let (result, db) ← projectMessage rt now (ids.message 0) record p db
      let db ← projectEvents rt ids.eventOutboxId record [result] {} 0 record.events db
      pure (.inserted, db)) := by
  have hvalid : validateProjection rt record.projection record.media = .ok () := by
    rw [hr.projection, hr.media]
    exact h.validated
  have hcanonical : canonicalizeProjectionCursors rt record.projection = .ok record.projection := by
    rw [hr.projection]
    rfl
  have howned : db.ownsLease now record.connectionId record.ownerId record.fencingToken = true := by
    rw [hr.connectionId, hr.ownerId, hr.fencingToken]
    exact h.owned
  have hunseen : getProviderInbox (responseKey record) db.evidence = none := by
    simp [getProviderInbox, responseKey, hr.connectionId, hr.providerResponseId, h.unreserved]
  have hprelude : commitEnvelope rt now ids record db = commitCanonical rt now ids record db := by
    simp [commitEnvelope, h.wellFormed hr, hcanonical, hvalid, require, Except.mapError, bind,
      Except.bind]
  have hbudget : lockCursorBudget record db = .ok (none, db) := by
    simp [lockCursorBudget, hr.projection, Projection.candidate, pure, Except.pure]
  -- neither lines, nor cursors, nor attachments, nor conversations are projected
  have hfresh : ∀ db, commitFresh rt now ids record none db =
      projectEnvelope rt now ids record {} db := fun db => by
    simp [commitFresh, replaceLines, advanceCursor, matchAttachments, hr.projection, hr.media, bind,
      Except.bind, pure, Except.pure]
  rw [hprelude, commitCanonical]
  simp only [howned, hbudget, hunseen, hfresh, require, if_true, Option.any_none,
    Bool.false_eq_true,
    if_false, bind, Except.bind]
  congr 1
  funext db
  simp only [projectEnvelope, projectConversations, projectMessages, projectMedia,
    advanceCommittedCursor, hr.projection, hr.media, hr.poisoned, if_true, Bool.false_eq_true,
    if_false, bind, Except.bind, pure, Except.pure, Nat.add_zero]
  cases projectMessage rt now (ids.message 0) record p db <;> rfl

/-! ### Publishing the echo -/

/-- The event of an echo that leaves its message in a state encodes and fits. -/
def announces (rt : Runtime) (record : EnvelopeRecord) (p : ProjectedMessage) (row : MessageRow)
    (direction : Direction) (state : MessageState) (db : Database) : Bool :=
  record.events.all fun event =>
    match eventRow rt record [⟨p.providerMessageId, row.messageId, state, direction, false⟩] {}
        event db with
    | .ok e => rt.jsonSize e.canonicalBody ≤ maxEventBodyBytes
    | .error _ => false

theorem eventRow_congr {done : List Projected} {attachments : Attachments}
    (h : db'.tenantId = db.tenantId) :
    eventRow rt record done attachments event db' = eventRow rt record done attachments
      event db := by
  simp only [eventRow, messageEvent, mediaEvent, h]

theorem announces_congr (h : db'.tenantId = db.tenantId) :
    announces rt record p row direction state db' = announces rt record p row direction
      state db := by
  simp only [announces, eventRow_congr h]

structure EchoDrawn (ids : CommitIds) (db : Database) : Prop where
  inbox : ∀ r ∈ db.evidence.inbox, r.inboxId ≠ ids.inboxId
  outbox : ∀ r ∈ db.events.eventOutbox, ∀ destination : Destination,
    r.outboxId ≠ ids.eventOutboxId 0 ++ ":" ++ destination.text

instance (ids : CommitIds) (db : Database) : Decidable (EchoDrawn ids db) :=
  decidable_of_iff (_ ∧ _) ⟨fun h => ⟨h.1, h.2⟩, fun h => ⟨h.inbox, h.outbox⟩⟩

theorem projectEvents_succeeds (db : Database) (hevents : record.events = [event])
    (hsemantic : event.type.semantic = true)
    (houtbox : ∀ r ∈ db.events.eventOutbox, ∀ destination : Destination,
      r.outboxId ≠ ids.eventOutboxId 0 ++ ":" ++ destination.text)
    (h : announces rt record p row direction state db = true) :
    ∃ events, projectEvents rt ids.eventOutboxId record
      [⟨p.providerMessageId, row.messageId, state, direction, false⟩] {} 0 record.events db =
        .ok { db with events := events } := by
  have hmedia : event.type ≠ .mediaPending := by
    rintro heq
    simp [heq, EventType.semantic] at hsemantic
  simp only [announces, hevents, List.all_cons, List.all_nil, Bool.and_true] at h
  split at h
  case h_2 => cases h
  case h_1 e he =>
    simp only [hevents, projectEvents, hmedia, he, false_and, if_false, hsemantic, true_and]
    by_cases hstored : (db.events.gatewayEvents.find? e.eventId).isSome
    · refine ⟨db.events, ?_⟩
      simp [hstored, h, require, bind, Except.bind, pure, Except.pure]
    · rw [Option.not_isSome_iff_eq_none] at hstored
      obtain ⟨events, hpublish, -⟩ := publish_succeeds rt db e (by simpa using h)
        ⟨hstored, houtbox⟩
      rw [bind_ok] at hpublish
      obtain ⟨db₁, h₁, h₂⟩ := hpublish
      refine ⟨events, bind_ok.2 ⟨e, rfl, ?_⟩⟩
      simp only [bind_ok, require_ok, hstored, Option.isSome_none, Bool.false_eq_true, if_false,
        pure_ok]
      exact ⟨(), h, db₁, h₁, _, h₂, rfl⟩

theorem projectEvents_announces (hevents : record.events = [event])
    (hsemantic : event.type.semantic = true) (h : projectEvents rt ids.eventOutboxId record
      [⟨p.providerMessageId, row.messageId, state, direction, false⟩] {} 0 record.events db =
        .ok db') : announces rt record p row direction state db = true := by
  have hmedia : event.type ≠ .mediaPending := by
    rintro heq
    simp [heq, EventType.semantic] at hsemantic
  simp only [hevents, projectEvents, hmedia, false_and, if_false, bind_ok, require_ok] at h
  obtain ⟨e, he, -, hsize, -⟩ := h
  simpa [announces, hevents, he] using hsize

/-! ### The transaction of an echo -/

theorem Echo.insertInbox_succeeds (h : Echo rt now envelope p row db)
    (hr : EchoRecord envelope p record) (hdrawn : EchoDrawn ids db) :
    ∃ evidence, insertInbox ids.inboxId record db = .ok { db with evidence := evidence } := by
  obtain ⟨reservations, hreservations⟩ := Table.exists_insert (t := db.evidence.reservations)
    (r := ⟨record.connectionId, record.providerResponseId, record.digest, .inbox, false, 1⟩)
    (by rw [hr.connectionId, hr.providerResponseId]; exact h.unreserved)
  obtain ⟨inbox, hinbox⟩ := Table.exists_insert (t := db.evidence.inbox)
    (r := inboxRow ids.inboxId record)
    (by rw [InboxRow.key, inboxRow, hr.connectionId, hr.providerResponseId]; exact h.unstored)
  refine ⟨{ db.evidence with reservations := reservations, inbox := inbox }, ?_⟩
  simp only [insertInbox, insertProviderInbox, admitsInbox, hr.poisoned, Bool.not_false,
    Bool.true_or, if_true, hreservations, bind_ok, require_ok, orFail_ok, pure_ok,
    List.all_eq_true, bne_iff_ne]
  exact ⟨_, ⟨(), hdrawn.inbox, inbox, hinbox, rfl⟩, _, rfl, rfl⟩

def Compatible (stored : Direction) (projected : Option Direction) : Prop :=
  projected = none ∨ projected = some .unknown ∨ stored = .unknown ∨ projected = some stored

def resolved (stored : Direction) (projected : Option Direction) : Direction :=
  if stored = .unknown then projected.getD .unknown else stored

theorem resolveDirection_ok {stored : Direction} {projected : Option Direction} :
    resolveDirection stored projected = .ok direction ↔
      Compatible stored projected ∧ direction = resolved stored projected := by
  rcases projected with _ | projected <;> cases stored <;>
    (try cases projected) <;> cases direction <;>
      simp [resolveDirection, Compatible, resolved, pure, Except.pure]

def Unheld (row : MessageRow) (providerMessageId : String) (db : Database) : Prop :=
  ∀ r ∈ db.content.messages, r.connectionId = row.connectionId →
    r.providerMessageId = some providerMessageId → r.messageId = row.messageId

theorem updateProjected_iff (hid : p.providerMessageId ≠ "") :
    updateProjected row p direction state db = .ok db' ↔ Unheld row p.providerMessageId db ∧
      db' = db.updateMessage row.messageId (fun r => r.reconcile p direction state) := by
  simp only [updateProjected, bind_ok, require_ok, pure_ok, Bool.not_eq_true', List.any_eq_false,
    Bool.and_eq_true, bne_iff_ne, beq_iff_eq, not_and, Unheld, Table.mem_def]
  constructor
  · rintro ⟨-, hclash, rfl⟩
    refine ⟨fun r hr hconnection hheld => ?_, rfl⟩
    by_contra hne
    exact hclash r hr ⟨⟨hne, hconnection⟩, hid⟩ hheld
  · rintro ⟨hunheld, rfl⟩
    refine ⟨(), fun r hr hother hheld => ?_, rfl⟩
    exact hother.1.1 (hunheld r hr hother.1.2 hheld)

/-- What the commit of an echo leaves of dispatch: the message is reconciled, and
nothing else is touched. -/
structure Echoed (p : ProjectedMessage) (row : MessageRow) (db db' : Database) : Prop where
  tenant : db'.tenantId = db.tenantId
  fleet : db'.fleet = db.fleet
  dispatch : db'.dispatch = db.dispatch
  messages : db'.content.messages = db.content.messages.update
    (fun r => r.messageId == row.messageId)
    (fun r => r.reconcile p (resolved row.direction p.direction) (reconciledState row p.state db))

theorem Echo.committed (h : Echo rt now envelope p row db)
    (hr : EchoRecord envelope p record) {result : CommitResult}
    (hcommit : commitEnvelope rt now ids record db = .ok (result, db')) :
    Compatible row.direction p.direction ∧ Unheld row p.providerMessageId db ∧
      announces rt record p row (resolved row.direction p.direction)
        (reconciledState row p.state db) db = true ∧ Echoed p row db db' := by
  obtain ⟨event, hevents, hsemantic⟩ := hr.events
  rw [h.commitEnvelope_eq hr] at hcommit
  simp only [bind_ok, pure_pair] at hcommit
  obtain ⟨stored, hinsert, ⟨projected, db₁⟩, hproject, db₂, hpublish, -, rfl⟩ := hcommit
  obtain ⟨evidence, -, rfl⟩ := insertInbox_ok hinsert
  have hnamed : lockProjectedMessage record.connectionId p.providerMessageId p.providerTmpId
      { db with evidence := evidence } = some row := by
    rw [hr.connectionId]
    exact h.named
  simp only [projectMessage, hnamed, bind_ok, pure_pair] at hproject
  obtain ⟨direction, hdirection, updated, hupdate, audited, hstatus, db₃, hannounce, rfl, rfl⟩ :=
    hproject
  obtain ⟨hcompatible, rfl⟩ := resolveDirection_ok.1 hdirection
  obtain ⟨hunheld, rfl⟩ := (updateProjected_iff h.providerMessageId_ne).1 hupdate
  obtain ⟨log, rfl, hmessages⟩ := insertInboundStatus_ok hstatus
  obtain ⟨events, rfl⟩ := announceTransition_ok hannounce
  have hannounced := projectEvents_announces hevents hsemantic hpublish
  obtain ⟨events', rfl⟩ := projectEvents_ok hpublish
  exact ⟨hcompatible, hunheld, hannounced, ⟨rfl, rfl, rfl, hmessages⟩⟩

theorem Echo.commit_succeeds (h : Echo rt now envelope p row db)
    (hr : EchoRecord envelope p record) (hdrawn : EchoDrawn ids db)
    (hstate : p.state = none) (hfold : reconciledState row none db = row.currentState)
    (hcompatible : Compatible row.direction p.direction)
    (hunheld : Unheld row p.providerMessageId db)
    (hannounces : announces rt record p row (resolved row.direction p.direction)
      row.currentState db = true) :
    ∃ db', commitEnvelope rt now ids record db = .ok (.inserted, db') := by
  obtain ⟨event, hevents, hsemantic⟩ := hr.events
  obtain ⟨evidence, hinsert⟩ := h.insertInbox_succeeds hr hdrawn
  let updated : Database := { db with evidence := evidence }.updateMessage row.messageId
    (fun r => r.reconcile p (resolved row.direction p.direction) row.currentState)
  have hnamed : lockProjectedMessage record.connectionId p.providerMessageId p.providerTmpId
      { db with evidence := evidence } = some row := by
    rw [hr.connectionId]
    exact h.named
  have hproject : projectMessage rt now (ids.message 0) record p { db with evidence := evidence } =
      .ok (⟨p.providerMessageId, row.messageId, row.currentState,
        resolved row.direction p.direction, false⟩, updated) := by
    have hfold' : reconciledState row none { db with evidence := evidence } = row.currentState :=
      hfold
    have hupdate := (updateProjected_iff h.providerMessageId_ne).2
      (⟨hunheld, rfl⟩ : Unheld row _ { db with evidence := evidence } ∧ updated = _)
    simp only [projectMessage, hnamed, bind_ok, pure_ok, insertInboundStatus, announceTransition,
      hstate, hfold', ne_eq, not_true_eq_false, and_false, if_false]
    exact ⟨_, resolveDirection_ok.2 ⟨hcompatible, rfl⟩, updated, hupdate, updated, rfl,
      updated, rfl,
      rfl⟩
  obtain ⟨events, hpublish⟩ := projectEvents_succeeds updated hevents hsemantic hdrawn.outbox
    hannounces
  rw [h.commitEnvelope_eq hr]
  simp only [bind_ok, pure_ok]
  exact ⟨_, _, hinsert, _, hproject, _, hpublish, rfl⟩

end

/-! ### Either order -/

/-- A dispatch is over: its message is in a state, its attempt is complete and its
lane is free. -/
structure Settled (claim : DispatchClaim) (state : MessageState) (db : Database) : Prop where
  message : (db.content.messages.find? claim.message.id).map (·.currentState) = some state
  attempt : (db.dispatch.attempts.find? claim.attemptId).map (·.phase) = some .complete
  lane : (db.dispatch.lanes.find? (claimLane claim)).map
    (fun r => (r.ownerId, r.claimedMessageId)) =
    some (none, none)

/-- Both orders of an echo and a completion succeed, and settle the dispatch in
the same state. -/
structure Commutes (rt : Runtime) (t t' : Time) (echo completion : Operation)
    (claim : DispatchClaim) (db : Database) : Prop where
  echoed : (step rt (t, echo) db).1 = .committed .inserted
  thenCompleted : (step rt (t', completion) (step rt (t, echo) db).2).1 = .done
  completed : (step rt (t, completion) db).1 = .done
  thenEchoed : (step rt (t', echo) (step rt (t, completion) db).2).1 = .committed .inserted
  agree : ∃ state, Settled claim state (step rt (t', completion) (step rt (t, echo) db).2).2 ∧
    Settled claim state (step rt (t', echo) (step rt (t, completion) db).2).2

/-- What an echo must leave alone: the message is dispatching and the echo names
no state. The rest is what the echo and the completion need to commit at all. -/
structure Mergeable (rt : Runtime) (t t' : Time) (record : EnvelopeRecord) (p : ProjectedMessage)
    (row : MessageRow) (ids : Nat → StatusIds) (claim : DispatchClaim) (outcome : Outcome)
    (db : Database) : Prop where
  dispatching : row.currentState = .dispatching
  stateless : p.state = none
  compatible : Compatible row.direction p.direction
  unheld : Unheld row p.providerMessageId db
  announced : ∀ state ∈ [.dispatching, outcome.state],
    announces rt record p row (resolved row.direction p.direction) state db = true
  encoded : ∀ now ∈ [t, t'], ∀ i state, outcome.states[i]? = some state →
    encodes rt now (ids i) claim state db.tenantId = true

section

variable {rt : Runtime} {now t : Time} {db db' : Database} {claim : DispatchClaim}
  {row : MessageRow} {p : ProjectedMessage} {outcome : Outcome} {ids : Nat → StatusIds}

theorem step_completeDispatch_done :
    (step rt (t, .completeDispatch ids claim states safeReason) db).1 = .done ↔
      completeDispatch rt t ids claim states safeReason db =
        .ok ((), (step rt (t, .completeDispatch ids claim states safeReason) db).2) := by
  simp only [step, outcome, perform, replying]
  cases completeDispatch rt t ids claim states safeReason db <;> simp [Except.map]

theorem step_completeDispatch_of_ok
    (h : completeDispatch rt t ids claim states safeReason db = .ok ((), db')) :
    step rt (t, .completeDispatch ids claim states safeReason) db = (.done, db') := by
  simp [step, outcome, perform, replying, h, Except.map]

theorem step_commitEnvelope_of_ok {ids : CommitIds}
    {result : CommitResult} (h : commitEnvelope rt t ids record db = .ok (result, db')) :
    step rt (t, .commitEnvelope ids record) db = (.committed result, db') := by
  simp [step, outcome, perform, replying, h, Except.map]

theorem step_commitEnvelope_inserted {ids : CommitIds} :
    (step rt (t, .commitEnvelope ids record) db).1 = .committed .inserted ↔
      commitEnvelope rt t ids record db =
        .ok (.inserted, (step rt (t, .commitEnvelope ids record) db).2) := by
  simp only [step, outcome, perform, replying]
  rcases commitEnvelope rt t ids record db with _ | ⟨result, db'⟩ <;> simp [Except.map]

theorem reconciledState_dispatching
    (hfold : deriveMessageState (messageHistory db row.messageId) = some .dispatching)
    (observed : Option MessageState) :
    reconciledState row observed db =
      (deriveMessageState (.dispatching :: observed.toList)).getD row.currentState := by
  have hne : messageHistory db row.messageId ≠ [] := by
    intro hempty
    simp [hempty] at hfold
  simp only [reconciledState, if_neg hne, deriveMessageState_resume hfold]

theorem observed_ne_dispatching {observed : Option MessageState} (h : observed ∈ adapterStates)
    (hsome : observed ≠ none) (fallback : MessageState) :
    (deriveMessageState (.dispatching :: observed.toList)).getD fallback ≠ .dispatching := by
  simp only [adapterStates, List.mem_cons, List.not_mem_nil, or_false] at h
  rcases h with rfl | rfl | rfl | rfl | rfl
  · exact absurd rfl hsome
  all_goals
    intro h
    cases h

/-! #### After the echo -/

theorem Echoed.dispatching (h : Echoed p row db db') (hid : row.messageId = claim.message.id)
    (hrow : row ∈ db.content.messages) :
    dispatching claim db' = true ↔ reconciledState row p.state db = .dispatching := by
  have hfind : db.content.messages.find? claim.message.id = some row :=
    hid ▸ Table.find?_of_mem hrow
  simp [Dispatch.dispatching, h.messages, hid, Table.find?_update_key, hfind, MessageRow.reconcile]

/-! #### After the completion -/

theorem lockProjectedMessage_update {c pm pt : String} {q : MessageRow → Bool}
    {f : MessageRow → MessageRow} {hf : ∀ r, (f r).messageId = r.messageId}
    (h : db'.content.messages = db.content.messages.update q f hf)
    (hnames : ∀ r, (f r).connectionId = r.connectionId ∧
      (f r).providerTmpId = r.providerTmpId ∧ (f r).providerMessageId = r.providerMessageId) :
    lockProjectedMessage c pm pt db' =
      (lockProjectedMessage c pm pt db).map fun r => if q r then f r else r := by
  have hsame : ∀ r : MessageRow, (if q r then f r else r).connectionId = r.connectionId ∧
      (if q r then f r else r).providerTmpId = r.providerTmpId ∧
      (if q r then f r else r).providerMessageId = r.providerMessageId := by
    intro r
    split
    · exact hnames r
    · exact ⟨rfl, rfl, rfl⟩
  simp only [lockProjectedMessage, h, Table.update, List.find?_map, Function.comp_def, hsame]
  cases db.content.messages.rows.find? _ <;> rfl

theorem Completed.settled (h : Completed now claim outcome db db')
    (hflight : InFlight t claim db)
    (hstored : (db.content.messages.find? claim.message.id).isSome) :
    Settled claim outcome.state db' := by
  obtain ⟨row, hrow⟩ := Option.isSome_iff_exists.1 hstored
  obtain ⟨attempt, hattempt, -⟩ := (Option.any_eq_true _ _).1 hflight.attempt
  obtain ⟨lane, hlane, -⟩ := (Option.any_eq_true _ _).1 hflight.lane
  refine ⟨?_, ?_, ?_⟩
  · simp [h.messages, Table.find?_update_key, hrow]
  · simp [h.attempts, Table.find?_update_key, hattempt]
  · simp [h.lanes, Table.find?_update_key, hlane]

theorem Echo.earlier {t' : Time} {envelope : Envelope} (h : Echo rt t' envelope p row db)
    (hle : t ≤ t') : Echo rt t envelope p row db := by
  refine { h with owned := ?_ }
  have howned := h.owned
  simp only [Database.ownsLease, LeaseRow.heldBy, Bool.and_eq_true, Option.any_eq_true, beq_iff_eq,
    decide_eq_true_eq] at howned ⊢
  obtain ⟨hconnection, lease, hlease, hheld, hexpiry⟩ := howned
  exact ⟨hconnection, lease, hlease, hheld, Nat.lt_of_le_of_lt hle hexpiry⟩

theorem Echo.completed {envelope : Envelope} (h : Echo rt t envelope p row db)
    (hc : Completed now claim outcome db db') (hid : row.messageId = claim.message.id) :
    Echo rt t envelope p { row with currentState := outcome.state } db' where
  admissible := hc.tenant ▸ h.admissible
  decoded := h.decoded
  projection := h.projection
  media := h.media
  adapted := h.adapted
  owned := by simpa only [Database.ownsLease, hc.fleet] using h.owned
  unreserved := hc.evidence ▸ h.unreserved
  unstored := hc.evidence ▸ h.unstored
  named := by
    rw [lockProjectedMessage_update hc.messages fun _ => ⟨rfl, rfl, rfl⟩, h.named]
    simp [hid]
  tmpId := h.tmpId

theorem completeDispatch_history
    (h : completeDispatch rt t ids claim states safeReason db = .ok ((), db'))
    (hclock : ClockPast t claim.message.id db)
    (hrow : db.content.messages.find? claim.message.id = some row) :
    messageHistory db' claim.message.id = messageHistory db claim.message.id ++ states := by
  simp only [completeDispatch, bind_ok, pure_pair] at h
  obtain ⟨-, -, -, -, -, -, db₁, hrecord, -, rfl⟩ := h
  have habs := congrArg (fun s => s.message claim.message.id)
    (recordDispatchStates_refines hrecord hclock)
  obtain ⟨log, events, rfl, hmessages⟩ := recordDispatchStates_ok hrecord
  have hrow' : ({ db.setLog log with events := events } : Database).content.messages.find?
      claim.message.id = some row := hmessages ▸ hrow
  simp only [Machine.modifyMessage, Function.update_self, abs_message_of_find? hrow,
    abs_message_of_find? hrow', Option.map_some, Option.some.injEq] at habs
  exact congrArg Message.history habs

theorem Unheld.completed (h : Unheld row p.providerMessageId db)
    (hc : Completed now claim outcome db db') (state : MessageState) :
    Unheld { row with currentState := state } p.providerMessageId db' := by
  intro r hr hconnection hheld
  rw [hc.messages, Table.mem_update] at hr
  obtain ⟨r₀, hr₀, rfl⟩ := hr
  by_cases hq : r₀.messageId = claim.message.id <;> simp [hq] at hconnection hheld ⊢
  · exact hq ▸ h r₀ hr₀ hconnection hheld
  · exact h r₀ hr₀ hconnection hheld

theorem Echoed.settled (h : Echoed p row db db')
    (hs : Settled claim state db) (hkept : reconciledState row p.state db = state) :
    Settled claim state db' := by
  refine ⟨?_, h.dispatch ▸ hs.attempt, h.dispatch ▸ hs.lane⟩
  have hmessage := hs.message
  rw [h.messages, Table.find?_update, Option.map_map]
  cases hfind : db.content.messages.find? claim.message.id with
  | none => simp [hfind] at hmessage
  | some r =>
    simp only [hfind, Option.map_some, Option.some.injEq] at hmessage
    by_cases hid : r.messageId = row.messageId <;>
      simp [hid, MessageRow.reconcile, hkept, hmessage]

end

/-! ### The race -/

def echoOperation (rt : Runtime) (ids : CommitIds) (envelope : Envelope) (receivedAt : Time)
    (tenantId : String) : Operation :=
  .commitEnvelope ids (envelope.record rt tenantId receivedAt)

def completion (ids : Nat → StatusIds) (claim : DispatchClaim) (outcome : Outcome) : Operation :=
  .completeDispatch ids claim outcome.states outcome.safeReason

/-- An echo and the completion of the dispatch it echoes, with identifiers unused
in whatever database their transaction finds. -/
structure Race (rt : Runtime) (t t' : Time) (envelope : Envelope) (receivedAt : Time)
    (p : ProjectedMessage) (row : MessageRow) (claim : DispatchClaim) (outcome : Outcome)
    (echoIds : CommitIds) (statusIds : Nat → StatusIds) (db : Database) : Prop where
  clock : ClockPast t claim.message.id db
  later : t ≤ t'
  inFlight : InFlight t' claim db
  echo : Echo rt t' envelope p row db
  same : row.messageId = claim.message.id
  drawn : Drawn statusIds 0 outcome.states.length db
  drawnAfter : Drawn statusIds 0 outcome.states.length
    (step rt (t, echoOperation rt echoIds envelope receivedAt db.tenantId) db).2
  echoDrawn : EchoDrawn echoIds db
  echoDrawnAfter : EchoDrawn echoIds (step rt (t, completion statusIds claim outcome) db).2

namespace Race

variable {rt : Runtime} {t t' : Time} {envelope : Envelope} {receivedAt : Time}
  {p : ProjectedMessage} {row : MessageRow} {claim : DispatchClaim} {outcome : Outcome}
  {echoIds : CommitIds} {statusIds : Nat → StatusIds} {db db' : Database}
  (h : Race rt t t' envelope receivedAt p row claim outcome echoIds statusIds db)

include h

theorem stored : db.content.messages.find? claim.message.id = some row :=
  h.same ▸ Table.find?_of_mem (mem_of_lockProjectedMessage h.echo.named)

theorem dispatching_eq : dispatching claim db = true ↔ row.currentState = .dispatching := by
  simp [Dispatch.dispatching, h.stored]

theorem folds (htracked : Tracked (abs db)) (hstate : row.currentState = .dispatching) :
    deriveMessageState (messageHistory db row.messageId) = some .dispatching := by
  have hmessage := htracked _ _ (abs_message_of_find? h.stored)
  rw [h.same]
  exact hmessage.dispatching hstate

theorem completed_folds (htracked : Tracked (abs db)) (hstate : row.currentState = .dispatching)
    (hcomplete : completeDispatch rt t statusIds claim outcome.states outcome.safeReason db =
      .ok ((), db')) :
    reconciledState { row with currentState := outcome.state } none db' = outcome.state := by
  have hhistory := completeDispatch_history hcomplete h.clock h.stored
  have hfolds := h.folds htracked hstate
  have hderived : deriveMessageState (messageHistory db' row.messageId) = some outcome.state := by
    rw [h.same, hhistory, ← h.same, deriveMessageState_resume hfolds]
    exact outcome.derived
  have hne : messageHistory db' row.messageId ≠ [] := by
    intro hempty
    simp [hempty] at hderived
  simp [reconciledState, hne, hderived]

theorem echo_first (htracked : Tracked (abs db))
    (hm : Mergeable rt t t' (envelope.record rt db.tenantId receivedAt) p row statusIds claim
      outcome db) :
    ∃ db₁ db₂, step rt (t, echoOperation rt echoIds envelope receivedAt db.tenantId) db =
        (.committed .inserted, db₁) ∧
      step rt (t', completion statusIds claim outcome) db₁ = (.done, db₂) ∧
      Settled claim outcome.state db₂ := by
  have hrecord := h.echo.record receivedAt
  have hfold : reconciledState row none db = .dispatching := by
    rw [reconciledState_dispatching (h.folds htracked hm.dispatching)]
    rfl
  obtain ⟨db₁, hcommit⟩ := (h.echo.earlier h.later).commit_succeeds hrecord h.echoDrawn hm.stateless
    (hfold.trans hm.dispatching.symm) hm.compatible hm.unheld
    (hm.dispatching ▸ hm.announced .dispatching (by simp))
  have hechoed := ((h.echo.earlier h.later).committed hrecord hcommit).2.2.2
  have hstep := step_commitEnvelope_of_ok hcommit
  have hdrawn := h.drawnAfter
  rw [echoOperation, hstep] at hdrawn
  have hdispatching : dispatching claim db₁ = true :=
    (hechoed.dispatching h.same (mem_of_lockProjectedMessage h.echo.named)).2
      (hm.stateless ▸ hfold)
  have hflight := h.inFlight.congr hechoed.tenant hechoed.fleet hechoed.dispatch
  obtain ⟨db₂, hcomplete⟩ := completeDispatch_succeeds rt t' hflight hdispatching
    hdrawn fun i state hi => hechoed.tenant ▸ hm.encoded t' (by simp) i state hi
  refine ⟨db₁, db₂, hstep, step_completeDispatch_of_ok hcomplete, ?_⟩
  refine (completeDispatch_completed hcomplete).settled hflight ?_
  obtain ⟨row₁, hrow₁, -⟩ := (Option.any_eq_true _ _).1 hdispatching
  simp [hrow₁]

theorem completion_first (htracked : Tracked (abs db))
    (hm : Mergeable rt t t' (envelope.record rt db.tenantId receivedAt) p row statusIds claim
      outcome db) :
    ∃ db₁ db₂, step rt (t, completion statusIds claim outcome) db = (.done, db₁) ∧
      step rt (t', echoOperation rt echoIds envelope receivedAt db.tenantId) db₁ =
        (.committed .inserted, db₂) ∧ Settled claim outcome.state db₂ := by
  have hrecord := h.echo.record receivedAt
  obtain ⟨db₁, hcomplete⟩ := completeDispatch_succeeds rt t h.inFlight
    (h.dispatching_eq.2 hm.dispatching) h.drawn (hm.encoded t (by simp))
  have hcompleted := completeDispatch_completed hcomplete
  have hstep := step_completeDispatch_of_ok hcomplete
  have hdrawn := h.echoDrawnAfter
  rw [completion, hstep] at hdrawn
  have hecho := h.echo.completed hcompleted h.same
  have hfold := h.completed_folds htracked hm.dispatching hcomplete
  obtain ⟨db₂, hcommit⟩ := hecho.commit_succeeds hrecord hdrawn hm.stateless hfold hm.compatible
    (hm.unheld.completed hcompleted _)
    ((announces_congr hcompleted.tenant).trans (hm.announced outcome.state (by simp)))
  refine ⟨db₁, db₂, hstep, step_commitEnvelope_of_ok hcommit, ?_⟩
  refine (hecho.committed hrecord hcommit).2.2.2.settled
    (hcompleted.settled h.inFlight (by simp [h.stored])) ?_
  rw [hm.stateless]
  exact hfold

theorem mergeable (htracked : Tracked (abs db))
    (hc : Commutes rt t t' (echoOperation rt echoIds envelope receivedAt db.tenantId)
      (completion statusIds claim outcome) claim db) :
    Mergeable rt t t' (envelope.record rt db.tenantId receivedAt) p row statusIds claim outcome
      db := by
  have hrecord := h.echo.record receivedAt
  obtain ⟨hechoed, hthenCompleted, hcompleted, hthenEchoed, -⟩ := hc
  rw [echoOperation, step_commitEnvelope_inserted] at hechoed hthenEchoed
  rw [completion, step_completeDispatch_done] at hcompleted hthenCompleted
  obtain ⟨hbefore, hencoded⟩ := completeDispatch_ok h.inFlight hcompleted
  have hstate := h.dispatching_eq.1 hbefore
  obtain ⟨hcompatible, hunheld, hannounced, hecho⟩ :=
    (h.echo.earlier h.later).committed hrecord hechoed
  -- the completion after the echo still found the message dispatching
  have hflight := h.inFlight.congr hecho.tenant hecho.fleet hecho.dispatch
  obtain ⟨hafter, hencoded'⟩ := completeDispatch_ok hflight hthenCompleted
  have hkept : reconciledState row p.state db = .dispatching :=
    (hecho.dispatching h.same (mem_of_lockProjectedMessage h.echo.named)).1 hafter
  have hstateless : p.state = none := by
    by_contra hsome
    rw [reconciledState_dispatching (h.folds htracked hstate)] at hkept
    exact observed_ne_dispatching h.echo.adapted hsome _ hkept
  have hdone := completeDispatch_completed hcompleted
  obtain ⟨-, -, hannounced', -⟩ := (h.echo.completed hdone h.same).committed hrecord hthenEchoed
  rw [hstateless, h.completed_folds htracked hstate hcompleted, announces_congr hdone.tenant]
    at hannounced'
  rw [hkept] at hannounced
  refine ⟨hstate, hstateless, hcompatible, hunheld, ?_, ?_⟩
  · simpa using ⟨hannounced, hannounced'⟩
  · simp only [List.mem_cons, List.not_mem_nil, or_false]
    rintro now (rfl | rfl)
    · exact hencoded
    · exact hecho.tenant ▸ hencoded'

end Race

/-- An echo and the completion of the dispatch it echoes can go in either order
just if the message is dispatching, the echo names no state, and both can be
stored and published. -/
theorem echo_commutes_iff_mergeable {rt : Runtime} {t t' : Time} {envelope : Envelope}
    {receivedAt : Time} {p : ProjectedMessage} {row : MessageRow} {claim : DispatchClaim}
    {outcome : Outcome} {echoIds : CommitIds} {statusIds : Nat → StatusIds} {db₀ db : Database}
    {trace : List (Call × Reply)} (hfresh : Fresh db₀) (hrun : Run (step rt) Allowed db₀ trace db)
    (hrace : Race rt t t' envelope receivedAt p row claim outcome echoIds statusIds db) :
    Commutes rt t t' (echoOperation rt echoIds envelope receivedAt db.tenantId)
        (completion statusIds claim outcome) claim db ↔
      Mergeable rt t t' (envelope.record rt db.tenantId receivedAt) p row statusIds claim outcome
        db := by
  have htracked := run_tracked hfresh hrun
  refine ⟨hrace.mergeable htracked, fun hm => ?_⟩
  obtain ⟨db₁, db₂, hecho, hcompleted, hsettled⟩ := hrace.echo_first htracked hm
  obtain ⟨db₃, db₄, hcompleted', hecho', hsettled'⟩ := hrace.completion_first htracked hm
  constructor
  · rw [hecho]
  · rw [hecho, hcompleted]
  · rw [hcompleted']
  · rw [hcompleted', hecho']
  · rw [hecho, hcompleted, hcompleted', hecho']
    exact ⟨outcome.state, hsettled, hsettled'⟩

/-! ### The echo of one phone -/

def sending : List Call :=
  [createCall "m1" 1, leaseCall 2, claimCall "1" 3, beginCall "m1" "attempt-1" 1 1 4]

def sendingDatabase : Database := (execute (step phoneRuntime) sending phoneDatabase).2

def sendingRow : MessageRow where
  messageId := "m1"
  connectionId := "phone"
  orderingKey := "new:+14155550100"
  direction := .outbound
  recipient := "+14155550100"
  bodyText := "hello"
  providerTmpId := some "tmp-m1"
  currentState := .dispatching
  createdAt := 1

def echoMessage (state : Option MessageState) : ProjectedMessage where
  providerMessageId := "provider-tmp-m1"
  providerTmpId := "tmp-m1"
  conversationId := "conversation"
  direction := some .outbound
  provenance := some .live
  recipients := ["+14155550100"]
  text := "hello"
  state := state

def statusIds (index : Nat) : StatusIds :=
  ⟨"status-" ++ toString index, "status-event-" ++ toString index,
    "status-outbox-" ++ toString index, 5⟩

theorem sending_race {state : Option MessageState} (h : state ∈ [none, some .sent]) :
    Race phoneRuntime 5 6 (receipt "tmp-m1" state) 5 (echoMessage state) sendingRow
      (helloClaim "m1" "attempt-1" 1 1) .accepted commitIds statusIds sendingDatabase := by
  have hclock : ClockPast 5 "m1" sendingDatabase := by
    unfold ClockPast
    decide +kernel
  have hecho : Echo phoneRuntime 6 (receipt "tmp-m1" state) (echoMessage state) sendingRow
      sendingDatabase := by
    simp only [List.mem_cons, List.not_mem_nil, or_false] at h
    rcases h with rfl | rfl <;> constructor <;> decide +kernel
  refine ⟨hclock, by decide, by decide +kernel, hecho, rfl, by decide +kernel, ?_,
    by decide +kernel, by decide +kernel⟩
  simp only [List.mem_cons, List.not_mem_nil, or_false] at h
  rcases h with rfl | rfl <;> decide +kernel

/-- An echo without a state races with an accepted send. -/
theorem statelessEcho_commutes :
    Commutes phoneRuntime 5 6
      (echoOperation phoneRuntime commitIds (receipt "tmp-m1" none) 5 sendingDatabase.tenantId)
      (completion statusIds (helloClaim "m1" "attempt-1" 1 1) .accepted)
      (helloClaim "m1" "attempt-1" 1 1) sendingDatabase := by
  refine (echo_commutes_iff_mergeable phoneDatabase_fresh
    (Run.of_inputs sending (by decide +kernel)) (sending_race (by simp))).2 ?_
  refine ⟨rfl, rfl, .inr (.inr (.inr rfl)), ?_, by decide +kernel, ?_⟩
  · unfold Unheld
    decide +kernel
  · intro now hnow i state hstate
    have hencoded : ∀ now ∈ [5, 6], ∀ i : Fin 2, encodes phoneRuntime now (statusIds i)
        (helloClaim "m1" "attempt-1" 1 1) (Outcome.accepted.states.get i)
        sendingDatabase.tenantId = true := by decide +kernel
    obtain ⟨hi, rfl⟩ := List.getElem?_eq_some_iff.1 hstate
    exact hencoded now hnow ⟨i, hi⟩

/-- The provider reports the message sent before the accepted send is completed:
the holder of the lease and the lane is told that it lost its fence, and the
attempt stays open. -/
theorem sentEcho_fences_completion : ∃ trace db row,
    Run (step phoneRuntime) Allowed phoneDatabase trace db ∧
      Race phoneRuntime 5 6 (receipt "tmp-m1" (some .sent)) 5 (echoMessage (some .sent)) row
        (helloClaim "m1" "attempt-1" 1 1) .accepted commitIds statusIds db ∧
      ¬ Commutes phoneRuntime 5 6
        (echoOperation phoneRuntime commitIds (receipt "tmp-m1" (some .sent)) 5 db.tenantId)
        (completion statusIds (helloClaim "m1" "attempt-1" 1 1) .accepted)
        (helloClaim "m1" "attempt-1" 1 1) db ∧
      (step phoneRuntime (6, completion statusIds (helloClaim "m1" "attempt-1" 1 1) .accepted)
        (step phoneRuntime (5, echoOperation phoneRuntime commitIds
          (receipt "tmp-m1" (some .sent)) 5 db.tenantId) db).2).1 =
        .failed Sentinel.dispatchFenceLost.err :=
  ⟨_, sendingDatabase, sendingRow, Run.of_inputs sending (by decide +kernel),
    sending_race (by simp), fun h => absurd h.thenCompleted (by decide +kernel), by decide +kernel⟩

end MessagingGateway.Dispatch
