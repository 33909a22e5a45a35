import MessagingGateway.Store.Transaction

/-!
# Messages and their audit history

The statements on `messages` and `message_status_history`. A status names a
stored message, messages are never deleted, and the history of a message is
read in the order of its observations.
-/

namespace MessagingGateway.Store

open Relational Domain

namespace MessageLog

def insertMessage (log : MessageLog) (row : MessageRow) : Option MessageLog :=
  match h : log.messages.insert row with
  | none => none
  | some messages => some
      { messages := messages
        statusHistory := log.statusHistory
        statusLinked := fun r hr => by
          rw [Table.find?_insert h]
          split
          · rfl
          · exact log.statusLinked r hr }

/-- `UPDATE messages ... WHERE message_id = $2`, for a change that keeps the
identity of the message. -/
def updateMessage (log : MessageLog) (messageId : String) (f : MessageRow → MessageRow)
    (hf : ∀ r, (f r).messageId = r.messageId := by exact fun _ => id rfl) : MessageLog :=
  { messages := log.messages.update (fun r => r.messageId == messageId) f hf
    statusHistory := log.statusHistory
    statusLinked := fun r hr => by
      rw [Table.find?_update, Option.isSome_map]
      exact log.statusLinked r hr }

/-- `INSERT INTO message_status_history`, rejected for a message that is not
stored. -/
def recordStatus (log : MessageLog) (row : StatusRow) : Option MessageLog :=
  if hlinked : (log.messages.find? row.messageId).isSome then
    match h : log.statusHistory.insert row with
    | none => none
    | some history => some
        { messages := log.messages
          statusHistory := history
          statusLinked := fun r hr => by
            rcases (Table.mem_insert h).1 hr with hr | rfl
            · exact log.statusLinked r hr
            · exact hlinked }
  else none

/-- `loadMessageStateHistory`: the states of a message by `(observed_at,
status_id)`. -/
def history (log : MessageLog) (messageId : String) : List MessageState :=
  (orderBy StatusRow.observedAt StatusRow.statusId
    (log.statusHistory.select fun r => r.messageId == messageId)).map (·.state)

variable {log log' : MessageLog}

theorem insertMessage_eq_some {row : MessageRow} (h : log.insertMessage row = some log') :
    log.messages.insert row = some log'.messages ∧ log'.statusHistory = log.statusHistory := by
  unfold insertMessage at h
  split at h
  · simp at h
  · cases h
    exact ⟨‹_›, rfl⟩

theorem recordStatus_eq_some {row : StatusRow} (h : log.recordStatus row = some log') :
    (log.messages.find? row.messageId).isSome ∧
      log.statusHistory.insert row = some log'.statusHistory ∧ log'.messages = log.messages := by
  unfold recordStatus at h
  split at h
  case isTrue hlinked =>
    split at h
    · simp at h
    · cases h
      exact ⟨hlinked, ‹_›, rfl⟩
  case isFalse => simp at h

theorem recordStatus_isSome {row : StatusRow} (hlinked : (log.messages.find? row.messageId).isSome)
    (hfresh : log.statusHistory.find? row.statusId = none) : (log.recordStatus row).isSome := by
  obtain ⟨history, h⟩ := Table.exists_insert hfresh
  unfold recordStatus
  rw [dif_pos hlinked]
  split
  · simp_all
  · rfl

theorem history_of_missing {m : String} (h : log.messages.find? m = none) : log.history m = [] := by
  have hrows : (log.statusHistory.select fun r => r.messageId == m) = [] := by
    refine List.eq_nil_iff_forall_not_mem.2 fun r hr => ?_
    obtain ⟨hr, hm⟩ := Table.mem_select.1 hr
    have hlinked := log.statusLinked r hr
    simp only [beq_iff_eq] at hm
    simp [hm, h] at hlinked
  rw [history, hrows]
  rfl

theorem history_recordStatus {row : StatusRow} (h : log.recordStatus row = some log')
    (hlate : ∀ r ∈ log.statusHistory, r.messageId = row.messageId →
      r.observedAt < row.observedAt) (m : String) :
    log'.history m = log.history m ++ if row.messageId = m then [row.state] else [] := by
  obtain ⟨-, hinsert, -⟩ := recordStatus_eq_some h
  simp only [history, Table.select_insert hinsert]
  by_cases hm : row.messageId = m
  · have hrows : ∀ r ∈ log.statusHistory.select fun r => r.messageId == m,
        r.observedAt < row.observedAt := fun r hr => by
      obtain ⟨hmem, hid⟩ := Table.mem_select.1 hr
      exact hlate r hmem ((beq_iff_eq.1 hid).trans hm.symm)
    simp [hm, orderBy_concat hrows]
  · simp [hm]

end MessageLog

namespace Database

def setLog (db : Database) (log : MessageLog) : Database :=
  { db with content := { db.content with toMessageLog := log } }

def insertMessage (db : Database) (row : MessageRow) : Option Database :=
  (db.content.toMessageLog.insertMessage row).map db.setLog

def updateMessage (db : Database) (messageId : String) (f : MessageRow → MessageRow)
    (hf : ∀ r, (f r).messageId = r.messageId := by exact fun _ => id rfl) : Database :=
  db.setLog (db.content.toMessageLog.updateMessage messageId f hf)

def setState (db : Database) (messageId : String) (state : MessageState) : Database :=
  db.updateMessage messageId (fun r => { r with currentState := state })

def insertMessageStatus (db : Database) (operation : String) (row : StatusRow) : Tx Database := do
  let log ← orFail (db.content.toMessageLog.recordStatus row) (uniqueViolation operation)
  pure (db.setLog log)

end Database

def messageHistory (db : Database) (messageId : String) : List MessageState :=
  db.content.toMessageLog.history messageId

theorem mem_updateMessage {db : Database} {m : String} {f : MessageRow → MessageRow}
    {hf : ∀ r, (f r).messageId = r.messageId} {row : MessageRow} :
    row ∈ (db.updateMessage m f hf).content.messages ↔
      ∃ r ∈ db.content.messages, (if r.messageId = m then f r else r) = row := by
  simp only [Database.updateMessage, Database.setLog, MessageLog.updateMessage, Table.mem_update,
    beq_iff_eq]

theorem insertMessageStatus_ok {db db' : Database} {operation : String} {row : StatusRow}
    (h : db.insertMessageStatus operation row = .ok db') :
    ∃ log, db.content.toMessageLog.recordStatus row = some log ∧ db' = db.setLog log := by
  simp only [Database.insertMessageStatus, bind_ok, pure_ok, orFail_ok] at h
  obtain ⟨log, hlog, rfl⟩ := h
  exact ⟨log, hlog, rfl⟩

theorem insertMessage_eq_some {db db' : Database} {row : MessageRow}
    (h : db.insertMessage row = some db') :
    ∃ log, db.content.toMessageLog.insertMessage row = some log ∧ db' = db.setLog log := by
  obtain ⟨log, hlog, rfl⟩ := Option.map_eq_some_iff.1 h
  exact ⟨log, hlog, rfl⟩

end MessagingGateway.Store
