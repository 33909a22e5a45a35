import MessagingGateway.Dispatch.Order
import MessagingGateway.Store.Commit

/-!
# The dispatch machine of a database

`abs` reads the dispatch machine off the tables: messages with their audit
history, lanes, and attempts. The lemmas say what each statement on those
tables does to the machine; a statement on any other table does nothing.
-/

namespace MessagingGateway.Dispatch

open Relational Domain Store

variable {db db' : Database}

abbrev LaneKey := String × String

abbrev Tables := Machine String LaneKey String

def viewMessage (row : MessageRow) (history : List MessageState) : Message LaneKey :=
  ⟨(row.connectionId, row.orderingKey), row.createdAt, row.currentState, history⟩

def viewPhase : AttemptPhase → Phase
  | .claimed => .claimed
  | .providerIoStarted => .started
  | .complete => .complete

def viewAttempt (row : AttemptRow) : Attempt String LaneKey :=
  ⟨row.messageId, row.laneKey, row.laneToken, viewPhase row.phase, row.providerIoStartedAt.isSome⟩

/-- A lane without a row has never been claimed. -/
def viewLane (row : Option LaneRow) : Lane String :=
  (row.map fun r => ⟨r.laneToken, r.claimedMessageId⟩).getD ⟨0, none⟩

def abs (db : Database) : Tables where
  message m := (db.content.messages.find? m).map fun r => viewMessage r (messageHistory db m)
  lane l := viewLane (db.dispatch.lanes.find? l)
  attempt a := (db.dispatch.attempts.find? a).map viewAttempt

theorem abs_message_of_find? {m : String} {row : MessageRow}
    (h : db.content.messages.find? m = some row) :
    (abs db).message m = some (viewMessage row (messageHistory db m)) := by
  simp [abs, h]

theorem abs_attempt_of_find? {a : String} {row : AttemptRow}
    (h : db.dispatch.attempts.find? a = some row) :
    (abs db).attempt a = some (viewAttempt row) := by
  simp [abs, h]

theorem abs_lane_of_find? {l : LaneKey} {row : LaneRow} (h : db.dispatch.lanes.find? l = some row) :
    (abs db).lane l = ⟨row.laneToken, row.claimedMessageId⟩ := by
  simp [abs, viewLane, h]

/-! ### Frames -/

theorem abs_congr (hlog : db'.content.toMessageLog = db.content.toMessageLog)
    (hlanes : db'.dispatch.lanes = db.dispatch.lanes)
    (hattempts : db'.dispatch.attempts = db.dispatch.attempts) : abs db' = abs db := by
  simp only [abs, messageHistory, hlog, hlanes, hattempts]

theorem abs_eventsOnly (h : EventsOnly db db') : abs db' = abs db := by
  obtain ⟨events, rfl⟩ := h
  exact abs_congr rfl rfl rfl

/-! ### Messages and their history -/

theorem abs_updateMessage {m : String} {f : MessageRow → MessageRow}
    {hf : ∀ r, (f r).messageId = r.messageId} {g : Message LaneKey → Message LaneKey}
    (hg : ∀ r history, viewMessage (f r) history = g (viewMessage r history)) :
    abs (db.updateMessage m f hf) = (abs db).modifyMessage m g := by
  refine Machine.ext (funext fun m' => ?_) rfl rfl
  have hhistory : messageHistory (db.updateMessage m f hf) m' = messageHistory db m' := rfl
  simp only [abs, hhistory, Machine.modifyMessage]
  simp only [Database.updateMessage, Database.setLog, MessageLog.updateMessage]
  rw [Table.find?_update_key, Function.update_apply]
  split
  · next hm =>
    subst hm
    cases db.content.messages.find? m' <;> simp [hg]
  · rfl

theorem abs_setState (db : Database) (m : String) (state : MessageState) :
    abs (db.setState m state) = (abs db).modifyMessage m fun μ => { μ with state := state } :=
  abs_updateMessage fun _ _ => rfl

theorem abs_insertMessageStatus {operation : String} {row : StatusRow}
    (h : db.insertMessageStatus operation row = .ok db')
    (hlate : ∀ r ∈ db.content.statusHistory, r.messageId = row.messageId →
      r.observedAt < row.observedAt) :
    abs db' = (abs db).modifyMessage row.messageId fun μ =>
      { μ with history := μ.history ++ [row.state] } := by
  obtain ⟨log, hlog, rfl⟩ := insertMessageStatus_ok h
  obtain ⟨-, -, hmessages⟩ := MessageLog.recordStatus_eq_some hlog
  refine Machine.ext (funext fun m => ?_) rfl rfl
  simp only [abs, messageHistory, Database.setLog, hmessages,
    MessageLog.history_recordStatus hlog hlate, Machine.modifyMessage]
  by_cases hm : m = row.messageId
  · subst hm
    rw [Function.update_self, Option.map_map]
    simp [Function.comp_def, viewMessage]
  · rw [Function.update_of_ne hm]
    simp [Ne.symm hm]

theorem abs_insertMessage {row : MessageRow} (h : db.insertMessage row = some db') :
    (abs db).message row.messageId = none ∧
      abs db' = (abs db).setMessage row.messageId (viewMessage row []) := by
  obtain ⟨log, hlog, rfl⟩ := insertMessage_eq_some h
  obtain ⟨hinsert, hhistory⟩ := MessageLog.insertMessage_eq_some hlog
  have hfree : db.content.messages.find? row.messageId = none := (Table.insert_eq_some.1 hinsert).1
  refine ⟨by simp [abs, hfree], Machine.ext (funext fun m => ?_) rfl rfl⟩
  have hsame : log.history m = db.content.toMessageLog.history m := by
    simp only [MessageLog.history, hhistory]
  simp only [abs, messageHistory, Database.setLog, Table.find?_insert hinsert, hsame,
    Machine.setMessage_message]
  by_cases hm : row.messageId = m
  · subst hm
    simp [MessageLog.history_of_missing hfree]
  · simp [hm, Ne.symm hm]

/-! ### Lanes and attempts -/

theorem abs_updateLane {c k : String} {f : LaneRow → LaneRow} {hf : ∀ r, (f r).key = r.key}
    {g : Lane String → Lane String} (hg : ∀ r, viewLane (some (f r)) = g (viewLane (some r)))
    (hnone : db.dispatch.lanes.find? (c, k) = none → g ⟨0, none⟩ = ⟨0, none⟩) :
    abs (db.updateLane c k f hf) = (abs db).setLane (c, k) (g ((abs db).lane (c, k))) := by
  refine Machine.ext rfl (funext fun l => ?_) rfl
  simp only [abs, Database.updateLane, Database.setLanes, Machine.setLane_lane]
  rw [Table.find?_update_key]
  split
  · next hl =>
    subst hl
    cases hrow : db.dispatch.lanes.find? (c, k) with
    | none => simp [viewLane, hnone hrow]
    | some row => simp [hg]
  · rfl

theorem abs_releaseLane (db : Database) (c k : String) :
    abs (db.releaseLane c k) = (abs db).freeLane (c, k) :=
  abs_updateLane (g := fun lane => { lane with claim := none }) (fun _ => rfl) fun _ => rfl

theorem abs_updateAttempt {a : String} {f : AttemptRow → AttemptRow}
    {hf : ∀ r, (f r).attemptId = r.attemptId} {g : Attempt String LaneKey → Attempt String LaneKey}
    (hg : ∀ r, viewAttempt (f r) = g (viewAttempt r)) :
    abs (db.updateAttempt a f hf) = (abs db).modifyAttempt a g := by
  refine Machine.ext rfl rfl (funext fun b => ?_)
  simp only [abs, Database.updateAttempt, Database.setAttempts, Machine.modifyAttempt]
  rw [Table.find?_update_key, Function.update_apply]
  split
  · next hb =>
    subst hb
    cases db.dispatch.attempts.find? b <;> simp [hg]
  · rfl

theorem abs_completeAttempt (db : Database) (a result : String) (now : Time) :
    abs (db.completeAttempt a result now) =
      (abs db).modifyAttempt a fun att => { att with phase := .complete } :=
  abs_updateAttempt fun _ => rfl

theorem abs_insertAttempt {attempts : Table AttemptRow.attemptId} {row : AttemptRow}
    (hinsert : db.dispatch.attempts.insert row = some attempts) :
    abs (db.setAttempts attempts) = (abs db).setAttempt row.attemptId (viewAttempt row) := by
  refine Machine.ext rfl rfl (funext fun b => ?_)
  simp only [abs, Database.setAttempts, Table.find?_insert hinsert, Machine.setAttempt_attempt]
  by_cases hb : row.attemptId = b
  · subst hb
    simp
  · simp [hb, Ne.symm hb]

end MessagingGateway.Dispatch
