import MessagingGateway.Gateway.Operations
import MessagingGateway.Store.CommitPaths

/-!
# Operations that leave the fleet and the evidence alone

Dispatch and the projection of a receipt read the connections, their leases and
the evidence of provider responses, and write none of them. The ACK operations
write the evidence and extend a lease.
-/

namespace MessagingGateway.Store

open Relational Domain Ingress Gateway

variable {rt : Runtime} {now : Time} {db db' : Database} {ownerId connectionId : String}
  {fencingToken : Nat} {claim : DispatchClaim}

structure Beside (db db' : Database) : Prop where
  fleet : db'.fleet = db.fleet
  evidence : db'.evidence = db.evidence

namespace Beside

theorem refl (db : Database) : Beside db db := ⟨rfl, rfl⟩

theorem trans {db₁ db₂ db₃ : Database} (h : Beside db₁ db₂) (h' : Beside db₂ db₃) :
    Beside db₁ db₃ :=
  ⟨h'.fleet.trans h.fleet, h'.evidence.trans h.evidence⟩

end Beside

/-! ### Dispatch -/

variable {messageId safeReason : String} {ids : ClaimIds}

theorem recordKafkaCommand_ok {commandId : String} {command : CreateOutbound}
    (h : recordKafkaCommand commandId command messageId db = .ok db') :
    ∃ kafkaCommands,
      db' = { db with dispatch := { db.dispatch with kafkaCommands := kafkaCommands } } := by
  unfold recordKafkaCommand at h
  split at h
  · rw [pure_ok] at h
    exact ⟨_, h.symm⟩
  · simp only at h
    split at h <;> simp only [bind_ok, pure_ok] at h
    · obtain ⟨-, -, rfl⟩ := h
      exact ⟨_, rfl⟩
    · obtain ⟨-, -, -, -, kafkaCommands, -, rfl⟩ := h
      exact ⟨kafkaCommands, rfl⟩

theorem insertOutboundMedia_ok {media : List (Nat × String)}
    (h : insertOutboundMedia messageId media db = .ok db') :
    ∃ table, table.rows = db.content.messageMedia.rows ++ media.map (fun m =>
      ⟨messageId, m.2, m.1, none⟩) ∧ db' = db.setMessageMedia table := by
  induction media generalizing db with
  | nil =>
    rw [insertOutboundMedia, pure_ok] at h
    exact ⟨_, (List.append_nil _).symm, h.symm⟩
  | cons item rest ih =>
    obtain ⟨position, mediaId⟩ := item
    simp only [insertOutboundMedia, bind_ok, orFail_ok] at h
    obtain ⟨-, -, -, -, table, hinsert, hrest⟩ := h
    obtain ⟨table', hrows, rfl⟩ := ih hrest
    refine ⟨table', ?_, rfl⟩
    rw [hrows, List.map_cons, List.append_cons]
    exact congrArg (· ++ _) (Table.insert_eq_some.1 hinsert).2

theorem createOutbound_beside {ids : CreateIds} {command : CreateOutbound} {result : CreateResult}
    (h : createOutbound rt now ids command db = .ok (result, db')) : Beside db db' := by
  simp only [createOutbound, bind_ok] at h
  obtain ⟨-, -, -, -, h⟩ := h
  split at h
  · split at h
    · simp only [bind_ok, pure_pair] at h
      obtain ⟨message, -, db₁, h₁, -, rfl⟩ := h
      obtain ⟨_, rfl⟩ := recordKafkaCommand_ok h₁
      exact ⟨rfl, rfl⟩
    · rw [pure_pair] at h
      exact h.2 ▸ .refl db
  · simp only [bind_ok, pure_ok, orFail_ok, Prod.mk.injEq] at h
    obtain ⟨orderingKey, -, db₁, hmessage, db₂, hmedia, idempotency, -, db₃, hkafka, db₄, hstatus,
      db₅, hevent, -, rfl⟩ := h
    obtain ⟨log, -, rfl⟩ := insertMessage_eq_some (insertOutboundMessage_ok hmessage)
    obtain ⟨_, -, rfl⟩ := insertOutboundMedia_ok hmedia
    obtain ⟨_, rfl⟩ := recordKafkaCommand_ok hkafka
    obtain ⟨_, -, rfl⟩ := insertMessageStatus_ok hstatus
    obtain ⟨_, rfl⟩ := insertOutboundEvent_ok hevent
    exact ⟨rfl, rfl⟩

theorem insertRecoveryEvent_ok {message : MessageRow}
    (h : insertRecoveryEvent rt now ids message db = .ok db') : EventsOnly db db' := by
  simp only [insertRecoveryEvent, bind_ok] at h
  obtain ⟨db₁, h₁, db₂, h₂, h₃⟩ := h
  exact ((insertGatewayEvent_ok h₁).trans (insertOutboxRow_ok h₂)).trans (insertOutboxRow_ok h₃)

theorem recoverAttempt_ok {attempt : AttemptRow} {message : MessageRow}
    (h : recoverAttempt rt now ids attempt message db = .ok db') :
    ∃ recorded, ((db.setState message.messageId (recoveryState attempt.phase)).completeAttempt
        attempt.attemptId (recoveryReason attempt.phase) now).insertMessageStatus
          "claim next message"
          { statusId := ids.recoveryStatusId
            messageId := message.messageId
            state := recoveryState attempt.phase
            safeReason := recoveryReason attempt.phase
            observedAt := now } = .ok recorded ∧ EventsOnly recorded db' := by
  simp only [recoverAttempt, bind_ok] at h
  obtain ⟨recorded, hstatus, h⟩ := h
  refine ⟨recorded, hstatus, ?_⟩
  split at h
  · exact insertRecoveryEvent_ok h
  · rw [pure_ok] at h
    exact h ▸ .refl recorded

theorem claimNext_beside {locked : List String} {orderingKey : String}
    {result : Option DispatchClaim}
    (h : claimNext rt now ids locked connectionId orderingKey ownerId db = .ok (result, db')) :
    Beside db db' := by
  simp only [claimNext, bind_ok] at h
  obtain ⟨-, -, h⟩ := h
  split at h
  case h_2 =>
    rw [pure_pair] at h
    exact h.2 ▸ .refl db
  case h_1 =>
    split at h
    · simp only [bind_ok, pure_pair] at h
      obtain ⟨db₁, hsettle, -, rfl⟩ := h
      unfold settleCrash at hsettle
      split at hsettle
      · obtain ⟨_, hstatus, _, rfl⟩ := recoverAttempt_ok hsettle
        obtain ⟨_, -, rfl⟩ := insertMessageStatus_ok hstatus
        exact ⟨rfl, rfl⟩
      · cases hsettle
        exact ⟨rfl, rfl⟩
    · split at h
      · simp only [claimMessage, bind_ok, pure_pair] at h
        obtain ⟨⟨claim, db₁⟩, ⟨_, -, _, hstatus, -, -, -, -, -, rfl⟩, -, rfl⟩ := h
        obtain ⟨_, -, rfl⟩ := insertMessageStatus_ok hstatus
        exact ⟨rfl, rfl⟩
      · rw [pure_pair] at h
        obtain ⟨-, rfl⟩ := h
        split <;> exact ⟨rfl, rfl⟩

theorem recordDispatchStates_ok {ids : Nat → StatusIds} {index : Nat} {states : List MessageState}
    (h : recordDispatchStates rt now ids claim safeReason index states db = .ok db') :
    ∃ log events, db' = { db.setLog log with events := events } ∧
      log.messages = db.content.messages := by
  induction states generalizing index db with
  | nil =>
    rw [recordDispatchStates, pure_ok] at h
    exact ⟨db.content.toMessageLog, db.events, h.symm, rfl⟩
  | cons state states ih =>
    simp only [recordDispatchStates, bind_ok] at h
    obtain ⟨db₁, hstatus, db₂, hevent, hrest⟩ := h
    obtain ⟨log, hlog, rfl⟩ := insertMessageStatus_ok hstatus
    obtain ⟨events, rfl⟩ := insertOutboundEvent_ok hevent
    obtain ⟨log', events', rfl, hmessages⟩ := ih hrest
    exact ⟨log', events', rfl, hmessages.trans (MessageLog.recordStatus_eq_some hlog).2.2⟩

/-! ### Receipts and acknowledgements -/

section

variable {record : EnvelopeRecord}

theorem projectMessage_beside {ids : MessageIds} {projected : ProjectedMessage} {result : Projected}
    (h : projectMessage rt now ids record projected db = .ok (result, db')) : Beside db db' := by
  cases projectMessage_ok h with
  | inserted _ hinsert hstatus =>
    obtain ⟨_, -, rfl⟩ := insertProjected_ok hinsert
    obtain ⟨_, rfl, -⟩ := insertInboundStatus_ok hstatus
    exact ⟨rfl, rfl⟩
  | reconciled _ _ hupdate hstatus hannounce =>
    obtain rfl := updateProjected_ok hupdate
    obtain ⟨_, rfl, -⟩ := insertInboundStatus_ok hstatus
    obtain ⟨_, rfl⟩ := announceTransition_ok hannounce
    exact ⟨rfl, rfl⟩

theorem projectMessages_beside {ids : Nat → MessageIds} {index : Nat}
    {messages : List ProjectedMessage} {done result : List Projected}
    (h : projectMessages rt now ids record index messages done db = .ok (result, db')) :
    Beside db db' := by
  induction messages generalizing index done db with
  | nil =>
    simp only [projectMessages, pure_pair] at h
    exact h.2 ▸ .refl db
  | cons projected rest ih =>
    simp only [projectMessages, bind_ok] at h
    obtain ⟨⟨first, db₁⟩, hfirst, hrest⟩ := h
    exact (projectMessage_beside hfirst).trans (ih hrest)

theorem projectEnvelope_beside {ids : CommitIds} {attachments : Attachments} {result : CommitResult}
    (h : projectEnvelope rt now ids record attachments db = .ok (result, db')) : Beside db db' := by
  simp only [projectEnvelope, bind_ok, pure_pair] at h
  obtain ⟨db₁, hconversations, ⟨done, db₂⟩, hmessages, ⟨media, db₃⟩, hmedia, db₄, hevents, db₅,
    hcursor, -, rfl⟩ := h
  obtain ⟨_, rfl⟩ := advanceCommittedCursor_ok hcursor
  obtain ⟨_, rfl⟩ := projectEvents_ok hevents
  obtain ⟨_, _, _, -, rfl⟩ := projectMedia_ok hmedia
  obtain ⟨_, rfl⟩ := projectConversations_ok hconversations
  obtain ⟨hfleet, hevidence⟩ := projectMessages_beside hmessages
  exact ⟨hfleet, hevidence⟩

theorem commitEnvelope_fleet {ids : CommitIds} {result : CommitResult}
    (h : commitEnvelope rt now ids record db = .ok (result, db')) : db'.fleet = db.fleet := by
  obtain ⟨projection, -, -, -, -, hpath⟩ := commitEnvelope_ok h
  obtain ⟨_, _, _, _, -, rfl⟩ | ⟨matched, attachments, ⟨_, _, _, _, -, rfl⟩, hproject⟩ :=
    hpath.unprojected
  · rfl
  · exact (projectEnvelope_beside hproject).fleet

end

theorem markProviderACKedFenced_ok {ids : List String} {all : Bool}
    (h : markProviderACKedFenced now connectionId ownerId fencingToken ids db = .ok (all, db')) :
    db' = db ∨ db' = { db with evidence := acknowledge now connectionId ids db.evidence } := by
  simp only [markProviderACKedFenced, bind_ok] at h
  obtain ⟨-, -, h⟩ := h
  split at h <;> rw [pure_pair] at h
  · exact .inr h.2.symm
  · exact .inl h.2.symm

theorem coordinateProviderACKsFenced_ok {leaseTTL : Nat} {ids : List String}
    {send : List String → Bool} {result : ACKCoordinationResult}
    (h : coordinateProviderACKsFenced now connectionId ownerId fencingToken leaseTTL ids send db =
      .ok (result, db')) :
    db' = db ∨ db' = db.extendLease connectionId (now + leaseTTL) ∨ ∃ admitted,
      db' = { db.extendLease connectionId (now + leaseTTL) with
        evidence := acknowledge now connectionId admitted db.evidence } := by
  simp only [coordinateProviderACKsFenced, bind_ok] at h
  obtain ⟨-, -, -, -, h⟩ := h
  split at h
  · rw [pure_pair] at h
    exact .inr (.inl h.2.symm)
  · split at h <;> rw [pure_pair] at h
    · exact .inr (.inr ⟨_, h.2.symm⟩)
    · exact .inl h.2.symm

theorem listPendingProviderACKsFenced_ok {limit : Nat} {ids : List String}
    (h : listPendingProviderACKsFenced now connectionId ownerId fencingToken limit db =
      .ok (ids, db')) : db' = db := by
  simp only [listPendingProviderACKsFenced, bind_ok, pure_pair] at h
  obtain ⟨-, -, -, -, -, -, -, rfl⟩ := h
  rfl

end MessagingGateway.Store

namespace MessagingGateway.Gateway

open Relational Domain Store

def Operation.onMessages : Operation → Bool
  | .createOutbound .. | .claimNext .. | .beginProviderIo .. | .renewProviderIo ..
  | .completeDispatch .. | .releaseBeforeDispatch .. | .recordCreatedConversationFenced .. => true
  | _ => false

theorem perform_beside {rt : Runtime} {now : Time} {op : Operation} {reply : Reply}
    {db db' : Database} (hop : op.onMessages = true) (h : perform rt now op db = .ok (reply, db')) :
    Beside db db' := by
  cases op <;> simp only [perform] at h <;> obtain ⟨result, htx, rfl⟩ := replying_ok h
  case createOutbound => exact createOutbound_beside htx
  case claimNext => exact claimNext_beside htx
  case beginProviderIo | renewProviderIo =>
    simp only [beginProviderIo, renewProviderIo, bind_ok] at htx
    obtain ⟨-, -, htx⟩ := htx
    split at htx <;> rw [pure_pair] at htx <;> obtain ⟨-, rfl⟩ := htx <;> exact ⟨rfl, rfl⟩
  case completeDispatch =>
    simp only [completeDispatch, bind_ok, pure_pair] at htx
    obtain ⟨-, -, -, -, -, -, db₁, hrecord, -, rfl⟩ := htx
    obtain ⟨_, _, rfl, -⟩ := recordDispatchStates_ok hrecord
    exact ⟨rfl, rfl⟩
  case releaseBeforeDispatch =>
    simp only [releaseBeforeDispatch, bind_ok, pure_pair] at htx
    obtain ⟨-, -, -, -, db₁, hstatus, -, rfl⟩ := htx
    obtain ⟨_, -, rfl⟩ := insertMessageStatus_ok hstatus
    exact ⟨rfl, rfl⟩
  case recordCreatedConversationFenced =>
    simp only [recordCreatedConversationFenced, bind_ok, pure_pair] at htx
    obtain ⟨-, -, -, -, message, -, -, -, -, -, -, rfl⟩ := htx
    exact ⟨rfl, rfl⟩
  all_goals cases hop

end MessagingGateway.Gateway
