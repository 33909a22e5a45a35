import MessagingGateway.Store.Commit

/-!
# The paths through CommitEnvelope

Each stage writes to tables of its own, and a transaction that commits took one
of five paths. Later proofs take `CommitEnvelope` apart with `commitEnvelope_ok`
and use the stages through the lemmas here.
-/

namespace MessagingGateway.Store

open Relational Domain Ingress

variable {rt : Runtime} {now : Time} {record : EnvelopeRecord} {db db' : Database}
  {projected : ProjectedMessage} {row : MessageRow} {ids : CommitIds} {result : CommitResult}
  {providerMessageId providerTmpId messageId : String}

/-! ### What each stage writes -/

theorem lockCursorBudget_ok {budget : Option CursorBudgetRow}
    (h : lockCursorBudget record db = .ok (budget, db')) :
    ∃ budgets, db' = db.setBudgets budgets := by
  unfold lockCursorBudget at h
  split at h
  · rw [pure_pair] at h
    exact ⟨db.evidence.cursorBudgets, h.2.symm⟩
  · simp only [bind_ok, pure_pair] at h
    obtain ⟨_, -, -, -, -, rfl⟩ := h
    exact ⟨_, rfl⟩

theorem insertInbox_ok {inboxId : String} (h : insertInbox inboxId record db = .ok db') :
    ∃ evidence, insertProviderInbox inboxId record db.evidence = .ok (some evidence) ∧
      db' = { db with evidence := evidence } := by
  simp only [insertInbox, bind_ok, pure_ok, orFail_ok] at h
  obtain ⟨inserted, hinsert, evidence, rfl, rfl⟩ := h
  exact ⟨evidence, hinsert, rfl⟩

theorem replaceLines_ok (h : replaceLines record db = .ok db') :
    ∃ lines, db' = db.setLines lines := by
  unfold replaceLines at h
  split at h
  · simp only [bind_ok, pure_ok] at h
    obtain ⟨_, -, -, -, _, -, rfl⟩ := h
    exact ⟨_, rfl⟩
  · rw [pure_ok] at h
    exact ⟨db.content.lines, h.symm⟩

theorem recordCursor_ok (h : recordCursor rt now record db = .ok db') :
    ∃ budgets history, db' = (db.setBudgets budgets).setCursorHistory history := by
  simp only [recordCursor, bind_ok, pure_ok] at h
  obtain ⟨_, -, rfl⟩ := h
  exact ⟨_, _, rfl⟩

theorem advanceCursor_ok {budget : Option CursorBudgetRow} {verdict : Verdict}
    (h : advanceCursor rt now record budget db = .ok (verdict, db')) :
    ∃ budgets history, db' = (db.setBudgets budgets).setCursorHistory history := by
  unfold advanceCursor at h
  split at h
  · rw [pure_pair] at h
    exact ⟨db.evidence.cursorBudgets, db.evidence.cursorHistory, h.2.symm⟩
  · simp only at h
    split at h
    · split at h <;> rw [pure_pair] at h <;> obtain ⟨-, rfl⟩ := h
      · exact ⟨db.evidence.cursorBudgets, _, rfl⟩
      · exact ⟨db.evidence.cursorBudgets, db.evidence.cursorHistory, rfl⟩
    · split at h
      · rw [pure_pair] at h
        exact ⟨db'.evidence.cursorBudgets, db.evidence.cursorHistory, by rw [← h.2]; rfl⟩
      · simp only [bind_ok, pure_pair] at h
        obtain ⟨db₁, h₁, -, rfl⟩ := h
        obtain ⟨budgets, history, rfl⟩ := recordCursor_ok h₁
        exact ⟨budgets, _, rfl⟩

variable {connectionId : String} {attachments : Attachments} {state : MessageState}

/-- Linked media stay at their positions, and a message with a new link is stored. -/
structure LinksKept (messages : Table MessageRow.messageId)
    (media media' : Table MessageMediaRow.key) : Prop where
  kept : ∀ r ∈ media, ∃ r' ∈ media', r'.key = r.key ∧ r'.mediaId = r.mediaId
  owned : ∀ r' ∈ media', (∃ r ∈ media, r.messageId = r'.messageId) ∨
    ∃ row ∈ messages, row.messageId = r'.messageId

namespace LinksKept

variable {messages : Table MessageRow.messageId} {media media' media'' : Table MessageMediaRow.key}

theorem refl : LinksKept messages media media :=
  ⟨fun r hr => ⟨r, hr, rfl, rfl⟩, fun r hr => .inl ⟨r, hr, rfl⟩⟩

theorem trans (h : LinksKept messages media media') (h' : LinksKept messages media' media'') :
    LinksKept messages media media'' := by
  refine ⟨fun r hr => ?_, fun r'' hr'' => ?_⟩
  · obtain ⟨r', hr', hkey, hid⟩ := h.kept r hr
    obtain ⟨r'', hr'', hkey', hid'⟩ := h'.kept r' hr'
    exact ⟨r'', hr'', hkey'.trans hkey, hid'.trans hid⟩
  · rcases h'.owned r'' hr'' with ⟨r', hr', hsame⟩ | hstored
    · exact hsame ▸ h.owned r' hr'
    · exact .inr hstored

theorem insert {r : MessageMediaRow} (h : media.insert r = some media')
    (hstored : ∃ row ∈ messages, row.messageId = r.messageId) :
      LinksKept messages media media' := by
  refine ⟨fun r hr => ⟨r, (Table.mem_insert h).2 (.inl hr), rfl, rfl⟩, fun r' hr' => ?_⟩
  rcases (Table.mem_insert h).1 hr' with hr' | rfl
  · exact .inl ⟨r', hr', rfl⟩
  · exact .inr hstored

end LinksKept

theorem bindOutboundAttachment_ok {position : Int} {identity : Bytes}
    (h : bindOutboundAttachment connectionId providerMessageId providerTmpId position identity db =
      .ok db') : ∃ media, LinksKept db.content.messages db.content.messageMedia media ∧
        db' = db.setMessageMedia media := by
  simp only [bindOutboundAttachment, bind_ok, pure_ok] at h
  obtain ⟨-, -, rfl⟩ := h
  refine ⟨_, ⟨fun r hr => ⟨_, Table.mem_update.2 ⟨r, hr, rfl⟩, ?_⟩, fun r' hr' => .inl ?_⟩, rfl⟩
  · split <;> exact ⟨rfl, rfl⟩
  · obtain ⟨r, hr, rfl⟩ := Table.mem_update.1 hr'
    exact ⟨r, hr, by split <;> rfl⟩

theorem matchAttachments_ok {locators : List MediaLocator} {result : Option Attachments}
    (h : matchAttachments rt record locators attachments db = .ok (result, db')) :
    ∃ media, LinksKept db.content.messages db.content.messageMedia media ∧
      db' = db.setMessageMedia media := by
  induction locators generalizing attachments db with
  | nil =>
    simp only [matchAttachments, pure_pair] at h
    exact ⟨db.content.messageMedia, .refl, h.2.symm⟩
  | cons locator locators ih =>
    simp only [matchAttachments] at h
    split at h
    · exact ih h
    · split at h
      · exact ih h
      · split at h
        · simp only [bind_ok] at h
          obtain ⟨db₁, hbind, h⟩ := h
          obtain ⟨media, hbound, rfl⟩ := bindOutboundAttachment_ok hbind
          obtain ⟨media', hkept, rfl⟩ := ih h
          exact ⟨media', hbound.trans hkept, rfl⟩
        · rw [pure_pair] at h
          exact ⟨db.content.messageMedia, .refl, h.2.symm⟩

theorem projectConversations_ok {conversations : List ProjectedConversation}
    (h : projectConversations connectionId conversations db = .ok db') :
    ∃ table, db' = db.setConversations table := by
  induction conversations generalizing db with
  | nil =>
    rw [projectConversations, pure_ok] at h
    exact ⟨db.content.conversations, h.symm⟩
  | cons conversation conversations ih =>
    simp only [projectConversations, bind_ok] at h
    obtain ⟨-, -, h⟩ := h
    obtain ⟨table, rfl⟩ := ih h
    exact ⟨table, rfl⟩

theorem insertMedia_ok {ids : MediaIds} {locator : MediaLocator}
    (h : insertMedia rt ids record messageId locator db = .ok db') :
    ∃ objects media jobs, LinksKept db.content.messages db.content.messageMedia media ∧
      db' = { db with content := { db.content with
        mediaObjects := objects, messageMedia := media, fetchJobs := jobs } } := by
  simp only [insertMedia, bind_ok, pure_ok, orFail_ok, require_ok] at h
  obtain ⟨objects, -, -, hstored, media, hmedia, jobs, -, rfl⟩ := h
  obtain ⟨row, hrow⟩ := Option.isSome_iff_exists.1 hstored
  exact ⟨objects, media, jobs, .insert hmedia ⟨row, Table.mem_of_find? hrow,
    Table.key_of_find? hrow⟩, rfl⟩

theorem projectMedia_ok {ids : Nat → MediaIds} {done : List Projected} {index : Nat}
    {locators : List MediaLocator} {result : Attachments}
    (h : projectMedia rt ids record done index locators attachments db = .ok (result, db')) :
    ∃ objects media jobs, LinksKept db.content.messages db.content.messageMedia media ∧
      db' = { db with content := { db.content with
        mediaObjects := objects, messageMedia := media, fetchJobs := jobs } } := by
  induction locators generalizing index attachments db with
  | nil =>
    simp only [projectMedia, pure_pair] at h
    exact ⟨_, _, _, .refl, h.2.symm⟩
  | cons locator locators ih =>
    simp only [projectMedia] at h
    split at h
    · exact ih h
    · simp only [bind_ok] at h
      obtain ⟨_, -, db₁, h₁, h⟩ := h
      obtain ⟨objects, media, jobs, hinserted, rfl⟩ := insertMedia_ok h₁
      obtain ⟨objects', media', jobs', hkept, rfl⟩ := ih h
      exact ⟨objects', media', jobs', hinserted.trans hkept, rfl⟩

theorem projectEvents_ok {outboxIds : Nat → String} {done : List Projected}
    {index : Nat} {events : List OutboxEvent}
    (h : projectEvents rt outboxIds record done attachments index events db = .ok db') :
    EventsOnly db db' := by
  induction events generalizing index db with
  | nil =>
    rw [projectEvents, pure_ok] at h
    exact h ▸ .refl db
  | cons event events ih =>
    simp only [projectEvents] at h
    split at h
    · exact ih h
    · simp only [bind_ok] at h
      obtain ⟨row, -, -, -, h⟩ := h
      split at h
      · exact ih h
      · simp only [bind_ok] at h
        obtain ⟨db₁, h₁, db₂, h₂, h⟩ := h
        exact ((insertGatewayEvent_ok h₁).trans (insertEventOutbox_ok h₂)).trans (ih h)

theorem advanceCommittedCursor_ok (h : advanceCommittedCursor record db = .ok db') :
    ∃ table, db' = db.setConversations table := by
  unfold advanceCommittedCursor at h
  split at h
  · rw [pure_ok] at h
    exact ⟨db.content.conversations, h.symm⟩
  · simp only [bind_ok, pure_ok] at h
    obtain ⟨-, -, rfl⟩ := h
    exact ⟨_, rfl⟩

theorem insertTransitionEvent_ok {outboxId : String}
    (h : insertTransitionEvent rt outboxId record projected messageId state db = .ok db') :
    EventsOnly db db' := by
  simp only [insertTransitionEvent, bind_ok] at h
  obtain ⟨_, -, db₁, h₁, h₂⟩ := h
  exact (insertGatewayEvent_ok h₁).trans (insertEventOutbox_ok h₂)

theorem announceTransition_ok {outboxId : String} {direction : Direction}
    (h : announceTransition rt outboxId record projected row direction state db = .ok db') :
    EventsOnly db db' := by
  unfold announceTransition at h
  split at h
  · exact insertTransitionEvent_ok h
  · rw [pure_ok] at h
    exact h ▸ .refl db

theorem insertProjected_ok (h : insertProjected row db = .ok db') :
    ∃ log, db.content.toMessageLog.insertMessage row = some log ∧ db' = db.setLog log := by
  simp only [insertProjected, bind_ok, orFail_ok] at h
  obtain ⟨-, -, h⟩ := h
  exact insertMessage_eq_some h

theorem updateProjected_ok {direction : Direction}
    (h : updateProjected row projected direction state db = .ok db') :
    db' = db.updateMessage row.messageId (fun r => r.reconcile projected direction state) := by
  simp only [updateProjected, bind_ok, pure_ok] at h
  obtain ⟨-, -, rfl⟩ := h
  rfl

theorem insertInboundStatus_ok {statusId : String}
    (h : insertInboundStatus now statusId messageId projected db = .ok db') :
    ∃ log, db' = db.setLog log ∧ log.messages = db.content.messages := by
  unfold insertInboundStatus at h
  split at h
  · rw [pure_ok] at h
    exact ⟨db.content.toMessageLog, h.symm, rfl⟩
  · obtain ⟨log, hlog, rfl⟩ := insertMessageStatus_ok h
    exact ⟨log, rfl, (MessageLog.recordStatus_eq_some hlog).2.2⟩

theorem mem_of_lockProjectedMessage
    (h : lockProjectedMessage connectionId providerMessageId providerTmpId db = some row) :
    row ∈ db.content.messages := by
  rcases (Option.orElse_eq_some _ _ _).1 h with h | ⟨-, h⟩ <;> exact List.mem_of_find?_eq_some h

theorem named_of_lockProjectedMessage
    (h : lockProjectedMessage connectionId providerMessageId providerTmpId db = some row) :
    row.named connectionId providerMessageId providerTmpId = true := by
  rcases (Option.orElse_eq_some _ _ _).1 h with h | ⟨-, h⟩
  · have hfound := List.find?_some h
    simp_all [MessageRow.named]
  · have hfound := List.find?_some h
    simp_all [MessageRow.named]

theorem connection_of_lockProjectedMessage
    (h : lockProjectedMessage connectionId providerMessageId providerTmpId db = some row) :
    row.connectionId = connectionId := by
  have hnamed := named_of_lockProjectedMessage h
  simp only [MessageRow.named, Bool.and_eq_true, beq_iff_eq] at hnamed
  exact hnamed.1

/-- The two ways a projected message is stored: as a new row, or folded into the
row it names. -/
inductive MessagePath (rt : Runtime) (now : Time) (ids : MessageIds) (record : EnvelopeRecord)
    (projected : ProjectedMessage) (db db' : Database) : Prop
  | inserted {stored : Database}
      (fresh : lockProjectedMessage record.connectionId projected.providerMessageId
        projected.providerTmpId db = none)
      (insert : insertProjected (projectedRow record.connectionId ids.messageId projected now) db =
        .ok stored)
      (status : insertInboundStatus now ids.statusId ids.messageId projected stored = .ok db')
  | reconciled {row : MessageRow} {direction : Direction} {updated audited : Database}
      (found : lockProjectedMessage record.connectionId projected.providerMessageId
        projected.providerTmpId db = some row)
      (resolved : resolveDirection row.direction projected.direction = .ok direction)
      (update : updateProjected row projected direction (reconciledState row projected.state db)
        db = .ok updated)
      (status : insertInboundStatus now ids.statusId row.messageId projected updated = .ok audited)
      (announce : announceTransition rt ids.outboxId record projected row direction
        (reconciledState row projected.state db) audited = .ok db')

theorem projectMessage_ok {ids : MessageIds} {result : Projected}
    (h : projectMessage rt now ids record projected db = .ok (result, db')) :
    MessagePath rt now ids record projected db db' := by
  unfold projectMessage at h
  split at h
  case h_1 hnew =>
    simp only [bind_ok, pure_pair] at h
    obtain ⟨_, hinsert, _, hstatus, -, rfl⟩ := h
    exact .inserted hnew hinsert hstatus
  case h_2 row hrow =>
    simp only [bind_ok, pure_pair] at h
    obtain ⟨_, hdirection, _, hupdate, _, hstatus, _, hannounce, -, rfl⟩ := h
    exact .reconciled hrow hdirection hupdate hstatus hannounce

theorem poisonEnvelope_ok {labels : PoisonLabels} {reason : PoisonReason}
    (h : poisonEnvelope rt now labels ids record reason db = .ok (result, db')) :
    ∃ evidence events, finalizeProviderPoison (responseKey record) reason db.evidence =
      .ok evidence ∧ result = .poisoned ∧
        db' = { db with evidence := evidence, events := events } := by
  simp only [poisonEnvelope, bind_ok, pure_pair] at h
  obtain ⟨evidence, hfinal, _, -, db₁, h₁, db₂, h₂, rfl, rfl⟩ := h
  obtain ⟨events, rfl⟩ := (insertGatewayEvent_ok h₁).trans (insertEventOutbox_ok h₂)
  refine ⟨evidence, events, ?_, rfl, rfl⟩
  cases hpoison : finalizeProviderPoison (responseKey record) reason db.evidence with
  | ok evidence' => simpa [hpoison, Except.mapError] using hfinal
  | error e => simp [hpoison, Except.mapError] at hfinal

/-- A response seen before is neither inserted nor newly poisoned: its ACK is
reopened, or the conflict is recorded. -/
theorem seenAgain_ok {stored : StoredResponse}
    (h : seenAgain ids record stored db = .ok (result, db')) :
    result ≠ .inserted ∧ result ≠ .poisoned ∧ ∃ evidence, db' = { db with evidence := evidence } ∧
      (evidence = db.evidence ∨
        (¬(stored.disposition = .inbox ∧ stored.poisoned ∧
            stored.poisonReason = .invalidSettingsSnapshot) ∧
          evidence = reopenProviderACK (responseKey record) db.evidence) ∨
        ∃ fenced, insertProviderInboxConflict ids.conflictId record db.evidence = .ok fenced ∧
          (evidence = fenced ∨ finalizeProviderPoison (responseKey record)
            .responseIdDigestConflict fenced = .ok evidence)) := by
  unfold seenAgain at h
  split at h
  · split at h
    · rw [pure_pair] at h
      obtain ⟨rfl, rfl⟩ := h
      exact ⟨nofun, nofun, db.evidence, rfl, .inl rfl⟩
    · next hplain =>
        rw [pure_pair] at h
        obtain ⟨rfl, rfl⟩ := h
        refine ⟨by split <;> simp, by split <;> simp, ?_⟩
        split
        · exact ⟨_, rfl, .inr (.inl ⟨hplain, rfl⟩)⟩
        · exact ⟨db.evidence, rfl, .inl rfl⟩
  · simp only [bind_ok] at h
    obtain ⟨fenced, hconflict, h⟩ := h
    split at h
    · split at h
      case h_1 poisoned hpoison =>
        rw [pure_pair] at h
        obtain ⟨rfl, rfl⟩ := h
        exact ⟨nofun, nofun, poisoned, rfl, .inr (.inr ⟨fenced, hconflict, .inr hpoison⟩)⟩
      case h_2 =>
        simp only [bind_ok, pure_pair] at h
        obtain ⟨-, -, rfl, rfl⟩ := h
        exact ⟨nofun, nofun, fenced, rfl, .inr (.inr ⟨fenced, hconflict, .inl rfl⟩)⟩
    · rw [pure_pair] at h
      obtain ⟨rfl, rfl⟩ := h
      exact ⟨nofun, nofun, fenced, rfl, .inr (.inr ⟨fenced, hconflict, .inl rfl⟩)⟩

theorem rejectExhausted_ok (h : rejectExhausted record db = .ok (result, db')) :
    result ≠ .inserted ∧ ∃ row evidence,
      upsertRejectedProviderResponse record db.evidence = some (row, evidence) ∧
        db' = { db with evidence := evidence } := by
  simp only [rejectExhausted, bind_ok, orFail_ok] at h
  obtain ⟨⟨row, evidence⟩, hupsert, h⟩ := h
  split at h
  · rw [pure_pair] at h
    exact ⟨by simp [← h.1], row, evidence, hupsert, h.2.symm⟩
  · split at h <;>
    · rw [pure_pair] at h
      exact ⟨by simp [← h.1], row, evidence, hupsert, h.2.symm⟩

/-! ### The paths -/

/-- The steps of a transaction that stores a new response up to the cursor
stage. -/
structure Admitted (rt : Runtime) (now : Time) (ids : CommitIds) (record : EnvelopeRecord)
    (db : Database) (verdict : Verdict) (db' : Database) where
  budget : Option CursorBudgetRow
  locked : Database
  stored : Database
  lined : Database
  lock : lockCursorBudget record db = .ok (budget, locked)
  fresh : getProviderInbox (responseKey record) locked.evidence = none
  within : budget.any (fun r => r.exhausted) = false
  insert : insertInbox ids.inboxId record locked = .ok stored
  lines : replaceLines record stored = .ok lined
  cursor : advanceCursor rt now record budget lined = .ok (verdict, db')

inductive CommitPath (rt : Runtime) (now : Time) (ids : CommitIds) (record : EnvelopeRecord)
    (db : Database) (result : CommitResult) (db' : Database) : Prop
  | seen {budget : Option CursorBudgetRow} {locked : Database} {stored : StoredResponse}
      (lock : lockCursorBudget record db = .ok (budget, locked))
      (found : getProviderInbox (responseKey record) locked.evidence = some stored)
      (again : seenAgain ids record stored locked = .ok (result, db'))
  | exhausted {budget : Option CursorBudgetRow} {locked : Database}
      (lock : lockCursorBudget record db = .ok (budget, locked))
      (fresh : getProviderInbox (responseKey record) locked.evidence = none)
      (tripped : budget.any (fun r => r.exhausted) = true)
      (reject : rejectExhausted record locked = .ok (result, db'))
  | cursorPoison {reason : PoisonReason} {checked : Database}
      (admitted : Admitted rt now ids record db (.poisoned reason) checked)
      (poison : poisonEnvelope rt now cursorPoison ids record reason checked = .ok (result, db'))
  | attachmentPoison {checked matched : Database}
      (admitted : Admitted rt now ids record db .accepted checked)
      (clash : matchAttachments rt record record.media {} checked = .ok (none, matched))
      (poison : poisonEnvelope rt now attachmentPoison ids record .mediaIdentityConflict matched =
        .ok (result, db'))
  | projected {checked matched : Database} {attachments : Attachments}
      (admitted : Admitted rt now ids record db .accepted checked)
      (agree : matchAttachments rt record record.media {} checked = .ok (some attachments, matched))
      (project : projectEnvelope rt now ids record attachments matched = .ok (result, db'))

def Unprojected (db db' : Database) : Prop :=
  ∃ evidence events lines media, LinksKept db.content.messages db.content.messageMedia media ∧
    db' = { db with
      evidence := evidence
      events := events
      content := { db.content with lines := lines, messageMedia := media } }

theorem Admitted.unprojected {verdict : Verdict} (h : Admitted rt now ids record db verdict db') :
    Unprojected db db' := by
  obtain ⟨budget, locked, stored, lined, hlock, -, -, hinsert, hlines, hcursor⟩ := h
  obtain ⟨budgets, rfl⟩ := lockCursorBudget_ok hlock
  obtain ⟨evidence, -, rfl⟩ := insertInbox_ok hinsert
  obtain ⟨lines, rfl⟩ := replaceLines_ok hlines
  obtain ⟨budgets, history, rfl⟩ := advanceCursor_ok hcursor
  exact ⟨_, _, _, _, .refl, rfl⟩

theorem CommitPath.unprojected (h : CommitPath rt now ids record db result db') :
    Unprojected db db' ∨ ∃ matched attachments, Unprojected db matched ∧
      projectEnvelope rt now ids record attachments matched = .ok (result, db') := by
  cases h with
  | seen hlock _ hagain =>
    obtain ⟨budgets, rfl⟩ := lockCursorBudget_ok hlock
    obtain ⟨-, -, evidence, rfl, -⟩ := seenAgain_ok hagain
    exact .inl ⟨_, _, _, _, .refl, rfl⟩
  | exhausted hlock _ _ hreject =>
    obtain ⟨budgets, rfl⟩ := lockCursorBudget_ok hlock
    obtain ⟨-, -, evidence, -, rfl⟩ := rejectExhausted_ok hreject
    exact .inl ⟨_, _, _, _, .refl, rfl⟩
  | cursorPoison hadmitted hpoison =>
    obtain ⟨_, _, _, _, hkept, rfl⟩ := hadmitted.unprojected
    obtain ⟨evidence, events, -, -, rfl⟩ := poisonEnvelope_ok hpoison
    exact .inl ⟨_, _, _, _, hkept, rfl⟩
  | attachmentPoison hadmitted hclash hpoison =>
    obtain ⟨_, _, _, _, hkept, rfl⟩ := hadmitted.unprojected
    obtain ⟨media, hbound, rfl⟩ := matchAttachments_ok hclash
    obtain ⟨evidence, events, -, -, rfl⟩ := poisonEnvelope_ok hpoison
    exact .inl ⟨_, _, _, _, hkept.trans hbound, rfl⟩
  | projected hadmitted hagree hproject =>
    obtain ⟨_, _, _, _, hkept, rfl⟩ := hadmitted.unprojected
    obtain ⟨media, hbound, rfl⟩ := matchAttachments_ok hagree
    exact .inr ⟨_, _, ⟨_, _, _, _, hkept.trans hbound, rfl⟩, hproject⟩

theorem commitCanonical_ok (h : commitCanonical rt now ids record db = .ok (result, db')) :
    db.ownsLease now record.connectionId record.ownerId record.fencingToken = true ∧
      CommitPath rt now ids record db result db' := by
  simp only [commitCanonical, bind_ok, require_ok] at h
  obtain ⟨-, howned, ⟨budget, locked⟩, hlock, h⟩ := h
  refine ⟨howned, ?_⟩
  split at h
  case h_1 stored hfound => exact .seen hlock hfound h
  case h_2 hunseen =>
    split at h
    case isTrue htripped => exact .exhausted hlock hunseen htripped h
    case isFalse hopen =>
      simp only [bind_ok, commitFresh] at h
      obtain ⟨stored, hinsert, lined, hlines, ⟨verdict, checked⟩, hcursor, h⟩ := h
      have admitted : Admitted rt now ids record db verdict checked :=
        ⟨budget, locked, stored, lined, hlock, hunseen, by simpa using hopen, hinsert, hlines,
          hcursor⟩
      cases verdict with
      | poisoned reason => exact .cursorPoison admitted h
      | accepted =>
        simp only [bind_ok] at h
        obtain ⟨⟨attachments, matched⟩, hmatch, h⟩ := h
        cases attachments with
        | none => exact .attachmentPoison admitted hmatch h
        | some attachments => exact .projected admitted hmatch h

/-- The record a commit works on. -/
def canonicalRecord (record : EnvelopeRecord) (projection : Projection) : EnvelopeRecord :=
  { record with projection := projection }

theorem mapError_ok {α : Type} {x : Tx α} {f : Err → Err} {a : α} :
    x.mapError f = .ok a ↔ x = .ok a := by
  cases x <;> simp [Except.mapError]

theorem commitEnvelope_ok (h : commitEnvelope rt now ids record db = .ok (result, db')) :
    ∃ projection, canonicalizeProjectionCursors rt record.projection = .ok projection ∧
      wellFormedRecord record db = true ∧
      validateProjection rt projection record.media = .ok () ∧
      db.ownsLease now record.connectionId record.ownerId record.fencingToken = true ∧
      CommitPath rt now ids (canonicalRecord record projection) db result db' := by
  simp only [commitEnvelope, bind_ok, require_ok, mapError_ok] at h
  obtain ⟨-, hwell, projection, hcanonical, ⟨⟩, hvalid, h⟩ := h
  obtain ⟨howned, hpath⟩ := commitCanonical_ok h
  exact ⟨projection, hcanonical, hwell, hvalid, howned, hpath⟩

theorem canonicalizeProjectionCursors_ok {projection canonical : Projection}
    (h : canonicalizeProjectionCursors rt projection = .ok canonical) :
    ∃ cursor base candidate, canonical = { projection with
      cursor := cursor, cursorBase := base, cursorCandidate := candidate } := by
  simp only [canonicalizeProjectionCursors, bind_ok, pure_ok] at h
  obtain ⟨cursor, -, base, -, candidate, -, rfl⟩ := h
  exact ⟨cursor, base, candidate, rfl⟩

end MessagingGateway.Store
