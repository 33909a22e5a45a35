import MessagingGateway.Dispatch.Refinement

/-!
# Receipts

`CommitEnvelope` is a sequence of observations of the dispatch machine, one for
each projected message it stores. A message seen for the first time without a
state is adopted as uncertain, with no status to show for it; every other
observation is recorded in the history it is folded into.
-/

namespace MessagingGateway.Dispatch

open Relational Domain Store Ingress

variable {rt : Runtime} {now : Time} {record : EnvelopeRecord} {db db' : Database} {ids : CommitIds}
  {result : CommitResult} {projected : ProjectedMessage}

/-! ### Projected messages -/

theorem insertInboundStatus_refines {statusId messageId : String}
    (h : insertInboundStatus now statusId messageId projected db = .ok db')
    (hclock : ClockPast now messageId db) :
    abs db' = (abs db).modifyMessage messageId fun μ =>
      { μ with history := μ.history ++ projected.state.toList } := by
  unfold insertInboundStatus at h
  split at h
  case h_1 hnone =>
    rw [pure_ok] at h
    subst h
    simp only [hnone, Option.toList_none, List.append_nil]
    exact ((abs db).modifyMessage_id messageId).symm
  case h_2 state hsome =>
    rw [abs_insertMessageStatus h hclock, hsome]
    rfl

theorem updateProjected_refines {row : MessageRow} {direction : Direction} {state : MessageState}
    (h : updateProjected row projected direction state db = .ok db') :
    abs db' = (abs db).modifyMessage row.messageId fun μ => { μ with state := state } := by
  rw [updateProjected_ok h]
  exact abs_updateMessage fun _ _ => rfl

theorem projectMessage_refines {ids : MessageIds}
    (h : MessagePath rt now ids record projected db db')
    (hpast : PastOn now record.connectionId db) (hstate : projected.state ≠ some .queued) :
    Step (abs db) .silent (abs db') := by
  cases h with
  | inserted _ hinsert hstatus =>
    obtain ⟨log, hlog, rfl⟩ := insertProjected_ok hinsert
    have hstored : db.insertMessage (projectedRow record.connectionId ids.messageId projected
        now) = some (db.setLog log) := by rw [Database.insertMessage, hlog, Option.map_some]
    obtain ⟨hfree, habs⟩ := abs_insertMessage hstored
    have hid : (projectedRow record.connectionId ids.messageId projected now).messageId =
      ids.messageId := rfl
    rw [insertInboundStatus_refines hstatus (ClockPast.of_insertMessage hlog), habs, hid,
      Machine.modifyMessage_setMessage]
    cases hobserved : projected.state with
    | none =>
      simp only [viewMessage, projectedRow, hobserved]
      exact Step.adopt hfree
    | some state =>
      simp only [viewMessage, projectedRow, hobserved]
      exact Step.discover hfree fun hqueued => hstate (hobserved.trans (congrArg some hqueued))
  | @reconciled row direction updated audited hrow _ hupdate hstatus hannounce =>
    have hmem := Table.find?_of_mem (mem_of_lockProjectedMessage hrow)
    have hclock : ClockPast now row.messageId updated := by
      rw [updateProjected_ok hupdate]
      exact hpast row (mem_of_lockProjectedMessage hrow) (connection_of_lockProjectedMessage hrow)
    rw [abs_eventsOnly (announceTransition_ok hannounce),
      insertInboundStatus_refines hstatus hclock, updateProjected_refines hupdate,
      Machine.modifyMessage_twice (m := row.messageId) (abs_message_of_find? hmem)]
    refine Step.observe (abs_message_of_find? hmem) fun state hobserved hqueued => ?_
    exact hstate (hobserved.trans (congrArg some hqueued))

theorem insertInboundStatus_statuses {statusId messageId : String}
    (h : insertInboundStatus now statusId messageId projected db = .ok db') :
    db'.content.messages = db.content.messages ∧
      ∀ r ∈ db'.content.statusHistory, r ∈ db.content.statusHistory ∨ r.observedAt < now + 1 := by
  unfold insertInboundStatus at h
  split at h
  · rw [pure_ok] at h
    subst h
    exact ⟨rfl, fun r hr => .inl hr⟩
  · obtain ⟨log, hlog, rfl⟩ := insertMessageStatus_ok h
    obtain ⟨-, hinsert, hmessages⟩ := MessageLog.recordStatus_eq_some hlog
    refine ⟨hmessages, fun r hr => ?_⟩
    rcases (Table.mem_insert hinsert).1 hr with hr | rfl
    · exact .inl hr
    · exact .inr (Nat.lt_succ_self now)

theorem PastOn.projectMessage {ids : MessageIds}
    (h : MessagePath rt now ids record projected db db')
    (hpast : PastOn now record.connectionId db) :
    PastOn (now + 1) record.connectionId db' := by
  cases h with
  | inserted _ hinsert hstatus =>
    obtain ⟨log, hlog, rfl⟩ := insertProjected_ok hinsert
    obtain ⟨hinserted, hhistory⟩ := MessageLog.insertMessage_eq_some hlog
    obtain ⟨hmessages, hstatuses⟩ := insertInboundStatus_statuses hstatus
    refine hpast.later (Nat.le_succ now) (fun r hr => hhistory ▸ hstatuses r hr) ?_
    intro row' hrow' row hrow hid
    rw [hmessages] at hrow'
    have hkept := (Table.mem_insert hinserted).2 (.inl hrow)
    rw [Table.eq_of_key_eq hkept hrow' hid]
  | @reconciled found _ updated _ hfound _ hupdate hstatus hannounce =>
    obtain ⟨events, rfl⟩ := announceTransition_ok hannounce
    obtain ⟨hmessages, hstatuses⟩ := insertInboundStatus_statuses hstatus
    rw [updateProjected_ok hupdate] at hmessages hstatuses
    refine hpast.later (Nat.le_succ now) hstatuses fun row' hrow' row hrow hid => ?_
    obtain ⟨row₀, hrow₀, rfl⟩ := mem_updateMessage.1 (hmessages ▸ hrow')
    obtain rfl : row = row₀ := Table.eq_of_key_eq hrow hrow₀ (hid.trans (by split <;> rfl))
    split <;> rfl

/-! ### Envelopes -/

theorem projectMessages_refines {ids : Nat → MessageIds} {index : Nat}
    {messages : List ProjectedMessage} {done result : List Projected}
    (h : projectMessages rt now ids record index messages done db = .ok (result, db'))
    (hpast : PastOn (now + index) record.connectionId db)
    (hstates : ∀ p ∈ messages, p.state ≠ some .queued) : Observations (abs db) (abs db') := by
  induction messages generalizing index done db with
  | nil =>
    simp only [projectMessages, pure_pair] at h
    obtain ⟨-, rfl⟩ := h
    exact .refl
  | cons projected messages ih =>
    simp only [projectMessages, bind_ok] at h
    obtain ⟨⟨first, db₁⟩, hfirst, h⟩ := h
    have hpath := projectMessage_ok hfirst
    obtain ⟨hhead, htail⟩ := List.forall_mem_cons.1 hstates
    exact .head (projectMessage_refines hpath hpast hhead)
      (ih h (hpast.projectMessage hpath) htail)

theorem commitEnvelope_stages (h : commitEnvelope rt now ids record db = .ok (result, db')) :
    Unseen db db' ∨ ∃ projection done before after, Unseen db before ∧
      projectMessages rt now ids.message (canonicalRecord record projection) 0
        record.projection.messages [] before = .ok (done, after) ∧ Unseen after db' := by
  obtain ⟨projection, hcanonical, -, -, -, hpath⟩ := commitEnvelope_ok h
  obtain ⟨_, _, _, _, -, rfl⟩ | ⟨matched, attachments, ⟨_, _, _, _, -, rfl⟩, hproject⟩ :=
    hpath.unprojected
  · exact .inl ⟨rfl, rfl, rfl⟩
  · right
    simp only [projectEnvelope, bind_ok, pure_pair] at hproject
    obtain ⟨db₁, hconversations, ⟨done, db₂⟩, hmessages, ⟨found, db₃⟩, hmedia, db₄, hevents,
      db₅, hcursor, -, rfl⟩ := hproject
    have hbefore : Unseen db db₁ := by
      obtain ⟨conversations, rfl⟩ := projectConversations_ok hconversations
      exact ⟨rfl, rfl, rfl⟩
    have hafter : Unseen db₂ db₅ := by
      obtain ⟨objects, media, jobs, -, rfl⟩ := projectMedia_ok hmedia
      obtain ⟨events, rfl⟩ := projectEvents_ok hevents
      obtain ⟨conversations, rfl⟩ := advanceCommittedCursor_ok hcursor
      exact ⟨rfl, rfl, rfl⟩
    obtain ⟨cursor, base, candidate, rfl⟩ := canonicalizeProjectionCursors_ok hcanonical
    exact ⟨_, done, db₁, db₂, hbefore, hmessages, hafter⟩

theorem commitEnvelope_refines (h : commitEnvelope rt now ids record db = .ok (result, db'))
    (hpast : PastOn now record.connectionId db)
    (hstates : ∀ p ∈ record.projection.messages, p.state ≠ some .queued) :
    Observations (abs db) (abs db') := by
  rcases commitEnvelope_stages h with
    hunseen | ⟨projection, done, before, after, hbefore, hmessages, hafter⟩
  · exact hunseen.abs_eq ▸ .refl
  · have hobserved := projectMessages_refines hmessages (hbefore.pastOn hpast) hstates
    rw [hbefore.abs_eq, ← hafter.abs_eq] at hobserved
    exact hobserved

/-! ### Receipts without a state -/

/-- Every message keeps its state or gets what its history folds to. -/
structure Refolded (db db' : Database) : Prop where
  statuses : db'.content.statusHistory = db.content.statusHistory
  rows : ∀ row ∈ db.content.messages, ∃ row' ∈ db'.content.messages,
    row'.messageId = row.messageId ∧ (row'.currentState = row.currentState ∨
      row'.currentState = reconciledState row none db)

theorem Refolded.of_log (h : db'.content.toMessageLog = db.content.toMessageLog) :
    Refolded db db' := by
  refine ⟨by rw [h], fun row hrow => ⟨row, ?_, rfl, .inl rfl⟩⟩
  rw [h]
  exact hrow

theorem Refolded.refold (h : Refolded db db') {row row' : MessageRow}
    (hid : row'.messageId = row.messageId) (hstate : row'.currentState = row.currentState ∨
      row'.currentState = reconciledState row none db) :
    reconciledState row' none db' = reconciledState row none db := by
  have hhistory : messageHistory db' row'.messageId = messageHistory db row.messageId := by
    simp only [messageHistory, MessageLog.history, h.statuses, hid]
  by_cases hempty : messageHistory db row.messageId = []
  · simp only [reconciledState, hhistory, hempty] at hstate ⊢
    simpa using hstate
  · have hsome := deriveMessageState_isSome hempty
    obtain ⟨state, hfold⟩ := Option.isSome_iff_exists.1 hsome
    simp [reconciledState, hhistory, hempty, hfold]

theorem Refolded.trans {db₁ db₂ db₃ : Database} (h : Refolded db₁ db₂) (h' : Refolded db₂ db₃) :
    Refolded db₁ db₃ := by
  refine ⟨h'.statuses.trans h.statuses, fun row hrow => ?_⟩
  obtain ⟨row', hrow', hid, hstate⟩ := h.rows row hrow
  obtain ⟨row'', hrow'', hid', hstate'⟩ := h'.rows row' hrow'
  rw [h.refold hid hstate] at hstate'
  exact ⟨row'', hrow'', hid'.trans hid, hstate'.elim (fun heq => heq ▸ hstate) .inr⟩

theorem projectMessage_stateless {ids : MessageIds}
    (h : MessagePath rt now ids record projected db db') (hstate : projected.state = none) :
    Refolded db db' := by
  have hstatus : ∀ {statusId messageId before after},
      insertInboundStatus now statusId messageId projected before = .ok after → after = before := by
    intro statusId messageId before after h
    simp only [insertInboundStatus, hstate, pure_ok] at h
    exact h.symm
  cases h with
  | inserted hnew hinsert hrecord =>
    obtain ⟨log, hlog, hstored⟩ := insertProjected_ok hinsert
    obtain rfl := hstatus hrecord
    obtain ⟨hrows, hhistory⟩ := MessageLog.insertMessage_eq_some hlog
    rw [hstored]
    exact ⟨hhistory, fun row hrow => ⟨row, (Table.mem_insert hrows).2 (.inl hrow), rfl, .inl rfl⟩⟩
  | @reconciled found direction updated audited hfound _ hupdate hrecord hannounce =>
    have hlog : db'.content.toMessageLog = updated.content.toMessageLog := by
      obtain rfl := hstatus hrecord
      obtain ⟨events, rfl⟩ := announceTransition_ok hannounce
      rfl
    rw [updateProjected_ok hupdate] at hlog
    refine ⟨by rw [hlog]; rfl, fun row hrow => ?_⟩
    rw [hlog]
    by_cases hid : row.messageId = found.messageId
    · refine ⟨_, mem_updateMessage.2 ⟨row, hrow, if_pos hid⟩, rfl, .inr ?_⟩
      rw [Table.eq_of_key_eq hrow (mem_of_lockProjectedMessage hfound) hid, hstate]
      rfl
    · exact ⟨row, mem_updateMessage.2 ⟨row, hrow, if_neg hid⟩, rfl, .inl rfl⟩

theorem projectMessages_stateless {ids : Nat → MessageIds} {index : Nat}
    {messages : List ProjectedMessage} {done result : List Projected}
    (h : projectMessages rt now ids record index messages done db = .ok (result, db'))
    (hstates : ∀ p ∈ messages, p.state = none) : Refolded db db' := by
  induction messages generalizing index done db with
  | nil =>
    simp only [projectMessages, pure_pair] at h
    obtain ⟨-, rfl⟩ := h
    exact .of_log rfl
  | cons projected messages ih =>
    simp only [projectMessages, bind_ok] at h
    obtain ⟨⟨first, db₁⟩, hfirst, h⟩ := h
    obtain ⟨hhead, htail⟩ := List.forall_mem_cons.1 hstates
    exact (projectMessage_stateless (projectMessage_ok hfirst) hhead).trans (ih h htail)

theorem commitEnvelope_stateless (h : commitEnvelope rt now ids record db = .ok (result, db'))
    (hstates : ∀ p ∈ record.projection.messages, p.state = none) : Refolded db db' := by
  rcases commitEnvelope_stages h with
    hunseen | ⟨projection, done, before, after, hbefore, hmessages, hafter⟩
  · exact .of_log hunseen.log
  · exact (Refolded.of_log hbefore.log).trans
      ((projectMessages_stateless hmessages hstates).trans (.of_log hafter.log))

end MessagingGateway.Dispatch
