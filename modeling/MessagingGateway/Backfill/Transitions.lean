import MessagingGateway.Backfill.Worker
import MessagingGateway.Messaging.Writes

/-!
# Transitions of the backfill

What one step of the workers and of everybody else can do to the parent cursors
and the staged pages. Calls and responses keep the parent cursors; a staged page is
passed only by the statement that completes it, under the fence of its owner and
with all its items complete.
-/

namespace MessagingGateway.Backfill

open Relational Domain Store Ingress Provider Gateway Messaging

variable {sink : DurableRequest → PageResponse → SinkM (Projection × List MediaLocator)}
  {rt : Runtime} {config : Config} {w w' : World} {s s' : State} {db db' : Database}
  {connectionId : String} {now : Time} {ownership : Ownership} {checkpointId : String}

/-! ### Calls and responses keep the parent cursor -/

theorem parentCursor_of_pageKept (h : PageKept db.content.conversations db'.content.conversations)
    (connectionId : String) : parentCursor connectionId db' = parentCursor connectionId db :=
  congrArg (fun cursor : Option Bytes => cursor.getD []) (h connectionId)

theorem call_parentCursor (rt : Runtime) (call : Call) (db : Database) (connectionId : String) :
    parentCursor connectionId (Gateway.step rt call db).2 = parentCursor connectionId db :=
  parentCursor_of_pageKept (step_entry rt call db).pageKept connectionId

/-- A response is committed as one record or leaves the database alone; its outcome
is `committed` only for a record that is not poison. -/
theorem process_cases (rt : Runtime) (receivedAt now : Time) (ids : CommitIds)
    (envelope : Envelope) (db : Database) :
    (∃ e, process rt receivedAt now ids envelope db = (.error e, db)) ∨
      ∃ result db', commitEnvelope rt now ids (envelope.record rt db.tenantId receivedAt) db =
          .ok (result, db') ∧
        process rt receivedAt now ids envelope db =
          (result.processed (envelope.record rt db.tenantId receivedAt), db') := by
  unfold process
  cases envelope.admissible db.tenantId with
  | error e => exact .inl ⟨e, rfl⟩
  | ok _ =>
    cases hcommit : commitEnvelope rt now ids (envelope.record rt db.tenantId receivedAt) db with
    | error e => exact .inl ⟨e, by simp [hcommit]⟩
    | ok committed => exact .inr ⟨committed.1, committed.2, rfl, by simp [hcommit]⟩

def CommitsResponse (sink : DurableRequest → PageResponse → SinkM (Projection × List MediaLocator))
    (rt : Runtime) (receivedAt now : Time) (ids : CommitIds) (ownership : Ownership)
    (request : DurableRequest) (response : Response) (db db' : Database) : Prop :=
  ∃ projected result, response.page.map (sink request) = some (.ok projected) ∧
    commitEnvelope rt now ids
      ((envelopeOf ownership response (some projected)).record rt db.tenantId receivedAt) db =
        .ok (result, db') ∧
    (result = .inserted ∨ result = .duplicate)

theorem record_poisoned (ownership : Ownership) (response : Response) (tenantId : String)
    (receivedAt : Time) :
    ((envelopeOf ownership response none).record rt tenantId receivedAt).poisoned = true := by
  have hpoison : (envelopeOf ownership response none).poison rt = true := by
    simp [Envelope.poison, envelopeOf]
  simp only [Envelope.record, hpoison, if_true]

theorem outcomeOf_committed {found : ProcessResult} (h : outcomeOf found = .ok .committed) :
    found.poisoned = false := by
  cases hpoisoned : found.poisoned with
  | false => rfl
  | true =>
    simp only [outcomeOf, hpoisoned, if_true] at h
    split at h
    · cases h
    · split at h <;> cases h

theorem processed_committed {result : CommitResult} {record : EnvelopeRecord}
    {found : ProcessResult} (h : result.processed record = .ok found)
    (houtcome : outcomeOf found = .ok .committed) :
    (result = .inserted ∨ result = .duplicate) ∧ record.poisoned = false := by
  have hplain := outcomeOf_committed houtcome
  cases result with
  | inserted =>
    obtain rfl := Except.ok.inj h
    exact ⟨.inl rfl, hplain⟩
  | duplicate =>
    obtain rfl := Except.ok.inj h
    exact ⟨.inr rfl, hplain⟩
  | conflict => cases h
  | poisoned | duplicatePoisoned | duplicateACKWithheld =>
    obtain rfl := Except.ok.inj h
    cases hplain

theorem processEnvelope_spec {receivedAt : Time} {ids : CommitIds} {envelope : Envelope}
    {result : Except DurableFailure DurableOutcome}
    (h : processEnvelope rt receivedAt now ids envelope db = (result, db')) :
    (∀ connectionId, parentCursor connectionId db' = parentCursor connectionId db) ∧
      (result = .ok .committed → ∃ committed,
        commitEnvelope rt now ids (envelope.record rt db.tenantId receivedAt) db =
          .ok (committed, db') ∧
        (committed = .inserted ∨ committed = .duplicate) ∧
        (envelope.record rt db.tenantId receivedAt).poisoned = false) := by
  unfold processEnvelope at h
  rcases process_cases rt receivedAt now ids envelope db with
    ⟨e, hfailed⟩ | ⟨committed, db₁, hcommit, hprocess⟩
  · rw [hfailed] at h
    obtain ⟨rfl, rfl⟩ := Prod.mk.inj h
    exact ⟨fun _ => rfl, fun hok => by cases hok⟩
  · rw [hprocess] at h
    have hkept : PageKept db.content.conversations db₁.content.conversations :=
      receipts_pageKept (commitEnvelope_committed hcommit).receipts
    cases hfound : committed.processed (envelope.record rt db.tenantId receivedAt) with
    | error e =>
      rw [hfound] at h
      obtain ⟨rfl, rfl⟩ := Prod.mk.inj h
      exact ⟨parentCursor_of_pageKept hkept, fun hok => by cases hok⟩
    | ok found =>
      rw [hfound] at h
      obtain ⟨rfl, rfl⟩ := Prod.mk.inj h
      exact ⟨parentCursor_of_pageKept hkept, fun hok =>
        ⟨committed, hcommit, processed_committed hfound hok⟩⟩

theorem persistEnvelopeOutcome_spec {receivedAt : Time} {ids : CommitIds} {request : DurableRequest}
    {response : Response} {result : Except DurableFailure DurableOutcome}
    (h : persistEnvelopeOutcome sink rt receivedAt now ids ownership request response db =
      (result, db')) :
    (∀ connectionId, parentCursor connectionId db' = parentCursor connectionId db) ∧
      (result = .ok .committed →
        CommitsResponse sink rt receivedAt now ids ownership request response db db') := by
  have hunread : ∀ {result db'}, processEnvelope rt receivedAt now ids
      (envelopeOf ownership response none) db = (result, db') → result ≠ .ok .committed := by
    intro result db' hprocess hok
    obtain ⟨-, -, -, hplain⟩ := (processEnvelope_spec hprocess).2 hok
    rw [record_poisoned] at hplain
    cases hplain
  unfold persistEnvelopeOutcome at h
  split at h
  · obtain ⟨rfl, rfl⟩ := Prod.mk.inj h
    exact ⟨fun _ => rfl, fun hok => by cases hok⟩
  · split at h
    · obtain ⟨rfl, rfl⟩ := Prod.mk.inj h
      exact ⟨fun _ => rfl, fun hok => by cases hok⟩
    · split at h
      · obtain ⟨rfl, rfl⟩ := Prod.mk.inj h
        exact ⟨fun _ => rfl, fun hok => by cases hok⟩
      · rename_i projected hprojected
        refine ⟨(processEnvelope_spec h).1, fun hok => ?_⟩
        obtain ⟨committed, hcommit, hresult, -⟩ := (processEnvelope_spec h).2 hok
        exact ⟨projected, committed, hprojected, hcommit, hresult⟩
      · exact ⟨(processEnvelope_spec h).1, fun hok => absurd hok (hunread h)⟩
      · exact ⟨(processEnvelope_spec h).1, fun hok => absurd hok (hunread h)⟩

/-! ### Statements -/

theorem markBackfillItemFenced_ok {ordinal : Nat} {state : BackfillItemState} {safeError : String}
    (h : markBackfillItemFenced now ownership checkpointId ordinal state safeError s = .ok s') :
    s'.db = s.db ∧ ∃ row ∈ s.checkpoints, row.connectionId = ownership.connectionId ∧
      row.checkpointId = checkpointId ∧ ∀ r' ∈ s'.checkpoints, r' ∈ s.checkpoints ∨
        r' = { row with items := row.items.modify ordinal fun item =>
          { item with state := state, safeError := safeError } } := by
  simp only [markBackfillItemFenced, bind_ok, pure_ok, orFail_ok] at h
  obtain ⟨-, -, -, -, row, hrow, rfl⟩ := h
  obtain ⟨hfind, hmatch⟩ := Option.filter_eq_some_iff.1 hrow
  simp only [Bool.and_eq_true, beq_iff_eq] at hmatch
  have hkey : row.connectionId = ownership.connectionId := Table.key_of_find? hfind
  refine ⟨rfl, row, Table.mem_of_find? hfind, hkey, hmatch.1, fun r' hr' => ?_⟩
  rw [Table.mem_update] at hr'
  obtain ⟨r, hr, hupdated⟩ := hr'
  split at hupdated
  case isTrue hconnection =>
    obtain rfl : r = row :=
      Table.eq_of_key_eq hr (Table.mem_of_find? hfind) ((beq_iff_eq.1 hconnection).trans hkey.symm)
    exact .inr hupdated.symm
  case isFalse => exact .inl (hupdated ▸ hr)

theorem stageBackfillPageFenced_ok {page : BackfillPage}
    (h : stageBackfillPageFenced now checkpointId ownership page s = .ok s') :
    s'.db = s.db ∧ page.stageable = true ∧
      s.checkpoints.insert (page.row ownership.connectionId checkpointId) =
        some s'.checkpoints := by
  simp only [stageBackfillPageFenced, bind_ok, pure_ok, orFail_ok, require_ok,
    Bool.and_eq_true] at h
  obtain ⟨-, ⟨-, hpage⟩, -, -, -, -, checkpoints, hinsert, rfl⟩ := h
  exact ⟨rfl, hpage, hinsert⟩

theorem completeBackfillPageFenced_ok
    (h : completeBackfillPageFenced now ownership checkpointId s = .ok s') :
    ∃ row, s.checkpoints.find? ownership.connectionId = some row ∧
      s.db.ownsLease now ownership.connectionId ownership.ownerId ownership.fencingToken = true ∧
      row.checkpointId = checkpointId ∧ (∀ item ∈ row.items, item.state = .complete) ∧
      ((row.terminal = true ∧ s'.db = clearCursors row.connectionId s.db ∧
          s'.checkpoints = s.checkpoints.update (fun r => r.connectionId == row.connectionId)
            (fun r => { r with scanComplete := true }) fun _ => id rfl) ∨
        (row.terminal = false ∧ s'.db = advanceParent row s.db ∧
          s'.checkpoints = s.checkpoints.delete fun r => r.connectionId == row.connectionId)) := by
  simp only [completeBackfillPageFenced, bind_ok, orFail_ok, require_ok] at h
  obtain ⟨-, -, -, hlease, row, hrow, h⟩ := h
  obtain ⟨hfind, hmatch⟩ := Option.filter_eq_some_iff.1 hrow
  simp only [Bool.and_eq_true, List.all_eq_true, beq_iff_eq] at hmatch
  refine ⟨row, hfind, hlease, hmatch.1, hmatch.2, ?_⟩
  split at h
  case isTrue hterminal =>
    obtain rfl := pure_ok.1 h
    exact .inl ⟨hterminal, rfl, rfl⟩
  case isFalse hterminal =>
    obtain rfl := pure_ok.1 h
    exact .inr ⟨by simpa using hterminal, rfl, rfl⟩

/-! ### Steps -/

/-- What a step can do. Calls, lost tasks and answers may change the database, but
not a parent cursor. -/
inductive Transition
    (sink : DurableRequest → PageResponse → SinkM (Projection × List MediaLocator))
    (rt : Runtime) (config : Config) (w : World) : Input → Observation → World → Prop
  | idles {input : Input} : Transition sink rt config w input .silent w
  | calls {call : Call} {reply : Reply} {db : Database}
      (hkept : ∀ connectionId, parentCursor connectionId db = parentCursor connectionId w.db) :
      Transition sink rt config w (.call call) (.replied reply) { w with db := db }
  | loads {worker : Nat} {ownership : Ownership} {checkpoint : Option BackfillCheckpoint}
      (hload : loadBackfillCheckpoint ownership.connectionId w.toState = .ok checkpoint) :
      Transition sink rt config w (.load worker ownership) .silent
        (w.setTask worker (nextTask ownership checkpoint))
  | reads {worker : Nat} : Transition sink rt config w (.read worker) .silent
      (w.setTask worker ((w.tasks worker).bind (askProvider rt w.db)))
  | answers {worker : Nat} {receivedAt now : Time} {ids : CommitIds} {response : Response}
      {task : Task} {ownership : Ownership} {request : DurableRequest} {outcome : DurableOutcome}
      {db : Database} (htask : w.tasks worker = some task)
      (hrequest : task.request rt = some (ownership, request))
      (hkept : ∀ connectionId, parentCursor connectionId db = parentCursor connectionId w.db)
      (hcommits : outcome = .committed →
        CommitsResponse sink rt receivedAt now ids ownership request response w.db db) :
      Transition sink rt config w (.answer worker receivedAt now ids response)
        (.answered task outcome)
        ({ w with db := db }.setTask worker (afterAnswer rt config task response outcome))
  | writes {worker : Nat} {now : Time} {checkpointId : String} {task : Task} {s : State}
      (htask : w.tasks worker = some task)
      (hwritten : statement now checkpointId task w.toState = some (.ok s)) :
      Transition sink rt config w (.write worker now checkpointId) .written
        ((w.setState s).setTask worker none)
  | drops {input : Input} {worker : Nat} {seen : Observation} {db : Database}
      (hseen : seen = .silent ∨ seen = .failed)
      (hkept : ∀ connectionId, parentCursor connectionId db = parentCursor connectionId w.db) :
      Transition sink rt config w input seen ({ w with db := db }.setTask worker none)

theorem answer_transition (worker : Nat) (receivedAt now : Time) (ids : CommitIds)
    (response : Response) {task : Task} (htask : w.tasks worker = some task) :
    Transition sink rt config w (.answer worker receivedAt now ids response)
      (answer sink rt config worker receivedAt now ids response task w).1
      (answer sink rt config worker receivedAt now ids response task w).2 := by
  unfold answer
  split
  · exact .idles
  · rename_i hrequest
    split
    · rename_i hpersist
      exact .drops (.inr rfl) (persistEnvelopeOutcome_spec hpersist).1
    · rename_i outcome db hpersist
      obtain ⟨hkept, hcommits⟩ := persistEnvelopeOutcome_spec hpersist
      exact .answers htask hrequest hkept fun hcommitted => hcommits (hcommitted ▸ rfl)

theorem step_transition (input : Input) (w : World) :
    Transition sink rt config w input (step sink rt config input w).1
      (step sink rt config input w).2 := by
  cases input with
  | call call => exact .calls (call_parentCursor rt call w.db)
  | load worker ownership =>
    simp only [step]
    split
    · exact .drops (.inr rfl) fun _ => rfl
    · rename_i hload
      exact .loads hload
  | read worker => exact .reads
  | answer worker receivedAt now ids response =>
    simp only [step]
    split
    · exact .idles
    · rename_i htask
      exact answer_transition worker receivedAt now ids response htask
  | write worker now checkpointId =>
    simp only [step]
    split
    · exact .idles
    · exact .drops (.inr rfl) fun _ => rfl
    · rename_i hwritten
      obtain ⟨task, htask, hwritten⟩ := Option.bind_eq_some_iff.1 hwritten
      exact .writes htask hwritten
  | crash worker => exact .drops (.inl rfl) fun _ => rfl

/-! ### Passing a page -/

def Standing (connectionId checkpointId : String) (s : State) : Prop :=
  ∃ row ∈ s.checkpoints, row.connectionId = connectionId ∧ row.checkpointId = checkpointId ∧
    row.scanComplete = false

/-- The parent cursor moves, or a page that was staged is done with. -/
def Passes (connectionId : String) (s s' : State) : Prop :=
  parentCursor connectionId s'.db ≠ parentCursor connectionId s.db ∨
    ∃ checkpointId, Standing connectionId checkpointId s ∧ ¬ Standing connectionId checkpointId s'

theorem not_passes (hkept : parentCursor connectionId s'.db = parentCursor connectionId s.db)
    (hrows : ∀ row ∈ s.checkpoints, row.connectionId = connectionId →
      ∃ row' ∈ s'.checkpoints, row'.connectionId = row.connectionId ∧
        row'.checkpointId = row.checkpointId ∧ row'.scanComplete = row.scanComplete) :
    ¬ Passes connectionId s s' := by
  rintro (hmoved | ⟨checkpointId, ⟨row, hrow, hconnection, hcheckpoint, hscan⟩, hgone⟩)
  · exact hmoved hkept
  · obtain ⟨row', hrow', hc, hk, hs⟩ := hrows row hrow hconnection
    exact hgone ⟨row', hrow', hc.trans hconnection, hk.trans hcheckpoint, hs.trans hscan⟩

theorem not_passes_of_checkpoints
    (hkept : parentCursor connectionId s'.db = parentCursor connectionId s.db)
    (hsame : s'.checkpoints = s.checkpoints) : ¬ Passes connectionId s s' :=
  not_passes hkept fun row hrow _ => ⟨row, hsame ▸ hrow, rfl, rfl, rfl⟩

theorem stage_not_passes {page : BackfillPage}
    (h : stageBackfillPageFenced now checkpointId ownership page s = .ok s') :
    ¬ Passes connectionId s s' := by
  obtain ⟨hdb, -, hinsert⟩ := stageBackfillPageFenced_ok h
  exact not_passes (by rw [hdb]) fun row hrow _ =>
    ⟨row, (Table.mem_insert hinsert).2 (.inl hrow), rfl, rfl, rfl⟩

theorem mark_not_passes {ordinal : Nat} {state : BackfillItemState} {safeError : String}
    (h : markBackfillItemFenced now ownership checkpointId ordinal state safeError s = .ok s') :
    ¬ Passes connectionId s s' := by
  simp only [markBackfillItemFenced, bind_ok, pure_ok] at h
  obtain ⟨-, -, -, -, -, -, rfl⟩ := h
  refine not_passes rfl fun row hrow _ => ?_
  simp only [Table.mem_update]
  refine ⟨_, ⟨row, hrow, rfl⟩, ?_⟩
  split <;> exact ⟨rfl, rfl, rfl⟩

theorem advanceParent_of_ne {row : CheckpointRow} (h : row.connectionId ≠ connectionId) :
    parentCursor connectionId (advanceParent row db) = parentCursor connectionId db := by
  simp [parentCursor, committedCursor, advanceParent, Database.setConversations, find?_upsert,
    ConversationRow.key, h]

theorem advanceParent_self (row : CheckpointRow) (db : Database) :
    parentCursor row.connectionId (advanceParent row db) = row.nextCursor.getD [] := by
  have hrow : (advanceParent row db).content.conversations.find?
      (row.connectionId, providerPageCursorID) = _ :=
    (find?_upsert _ _ _ _ _).trans (if_pos rfl)
  rw [parentCursor, committedCursor, hrow]
  cases db.content.conversations.find? (row.connectionId, providerPageCursorID) <;> rfl

theorem complete_parentCursor {row : CheckpointRow}
    (h : completeBackfillPageFenced now ownership checkpointId s = .ok s')
    (hrow : s.checkpoints.find? ownership.connectionId = some row) :
    parentCursor ownership.connectionId s'.db =
      if row.terminal then parentCursor ownership.connectionId s.db
        else row.nextCursor.getD [] := by
  obtain ⟨row', hfind, -, -, -, hdone⟩ := completeBackfillPageFenced_ok h
  obtain rfl := Option.mem_unique hrow hfind
  rcases hdone with ⟨hterminal, hdb, -⟩ | ⟨hterminal, hdb, -⟩
  · rw [hdb, hterminal, if_pos rfl]
    rfl
  · rw [hdb, hterminal, if_neg Bool.false_ne_true, ← advanceParent_self row s.db,
      show row.connectionId = ownership.connectionId from Table.key_of_find? hrow]

theorem complete_not_passes (h : completeBackfillPageFenced now ownership checkpointId s = .ok s')
    (hother : ownership.connectionId ≠ connectionId) : ¬ Passes connectionId s s' := by
  obtain ⟨row, hfind, -, -, -, ⟨-, hdb, hrows⟩ | ⟨-, hdb, hrows⟩⟩ := completeBackfillPageFenced_ok h
  · have hkey : row.connectionId = ownership.connectionId := Table.key_of_find? hfind
    refine not_passes (by rw [hdb]; rfl) fun r hr hconnection => ⟨r, ?_, rfl, rfl, rfl⟩
    rw [hrows, Table.mem_update]
    exact ⟨r, hr, by simp [hconnection, hkey, hother.symm]⟩
  · have hkey : row.connectionId = ownership.connectionId := Table.key_of_find? hfind
    refine not_passes (by rw [hdb, advanceParent_of_ne (hkey ▸ hother)]) fun r hr hconnection =>
      ⟨r, ?_, rfl, rfl, rfl⟩
    rw [hrows, Table.mem_delete]
    exact ⟨hr, by simp [hconnection, hkey, hother.symm]⟩

theorem Transition.passed {input : Input} {seen : Observation}
    (hstep : Transition sink rt config w input seen w')
    (hpass : Passes connectionId w.toState w'.toState) :
    ∃ worker now drawn ownership row, input = .write worker now drawn ∧
      w.tasks worker = some (.completing ownership row.checkpointId) ∧
      ownership.connectionId = connectionId ∧
      w.db.ownsLease now connectionId ownership.ownerId ownership.fencingToken = true ∧
      w.checkpoints.find? connectionId = some row ∧
      (∀ item ∈ row.items, item.state = .complete) ∧
      parentCursor connectionId w'.db =
        if row.terminal then parentCursor connectionId w.db else row.nextCursor.getD [] := by
  cases hstep with
  | calls hkept | answers _ _ hkept _ | drops _ hkept =>
    exact absurd hpass (not_passes_of_checkpoints (hkept _) rfl)
  | @writes worker now drawn task s htask hwritten =>
    cases task with
    | staging => exact absurd hpass (stage_not_passes (Option.some.inj hwritten))
    | marking => exact absurd hpass (mark_not_passes (Option.some.inj hwritten))
    | completing ownership checkpointId =>
      have hcomplete := Option.some.inj hwritten
      by_cases hown : ownership.connectionId = connectionId
      · subst hown
        obtain ⟨row, hfind, hlease, rfl, hitems, -⟩ := completeBackfillPageFenced_ok hcomplete
        exact ⟨worker, now, drawn, ownership, row, rfl, htask, rfl, hlease, hfind, hitems,
          complete_parentCursor hcomplete hfind⟩
      · exact absurd hpass (complete_not_passes hcomplete hown)
    | _ => cases hwritten
  | _ => exact absurd hpass (not_passes_of_checkpoints rfl rfl)
end MessagingGateway.Backfill
