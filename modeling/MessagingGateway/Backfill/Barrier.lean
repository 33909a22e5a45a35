import MessagingGateway.Backfill.Transitions
import MessagingGateway.Dispatch.Guarantees

/-!
# The barrier of a staged page

The parent cursor moves, and a staged page is done with, only by completing the
page, which needs every item complete. An item is complete only because a worker
marked it so, and the worker did so only after the sink had committed a message
page without a cursor for the item's conversation. Whatever the sink makes of
pages, whoever else is working and wherever a worker crashes, no page is passed
before that holds for all of its conversations.
-/

namespace MessagingGateway.Backfill

open Relational Domain Store Ingress Provider Gateway Messaging

variable {sink : DurableRequest → PageResponse → SinkM (Projection × List MediaLocator)}
  {rt : Runtime} {config : Config} {w w' : World} {s s' : State} {db db' : Database}
  {connectionId : String} {checkpointId : String} {tasks : Nat → Option Task} {task : Task}
  {ownership : Ownership} {now : Time}

/-! ### What the items and the tasks rest on -/

abbrev Trace := List (Input × Observation)

def TerminalPage (connectionId checkpointId : String) (ordinal : Nat) (conversationId : String)
    (entry : Input × Observation) : Prop :=
  ∃ worker receivedAt now ids response page ownership item cursor,
    entry = (.answer worker receivedAt now ids response,
      .answered (.fetching ownership checkpointId item cursor) .committed) ∧
    response.page = some (.messages page) ∧ page.cursor = none ∧
    ownership.connectionId = connectionId ∧ item.ordinal = ordinal ∧
    item.conversationId = conversationId

def Fetched (trace : Trace) (connectionId checkpointId : String) (ordinal : Nat)
    (conversationId : String) : Prop :=
  ∃ entry ∈ trace, TerminalPage connectionId checkpointId ordinal conversationId entry

def Task.about : Task → Option (String × String × BackfillItem)
  | .wantsMessages ownership checkpointId item
  | .fetching ownership checkpointId item _
  | .marking ownership checkpointId item _ _ => some (ownership.connectionId, checkpointId, item)
  | _ => none

def RowSound (trace : Trace) (row : CheckpointRow) : Prop :=
  ∀ i item, row.items[i]? = some item → item.state = .complete →
    Fetched trace row.connectionId row.checkpointId i item.conversationId

/-- A task names the conversation its item has, and marks an item complete after
fetching it. -/
structure TaskSound (trace : Trace) (checkpoints : Table CheckpointRow.connectionId)
    (task : Task) : Prop where
  named : ∀ connectionId checkpointId item, task.about = some (connectionId, checkpointId, item) →
    ∀ row ∈ checkpoints, row.connectionId = connectionId → row.checkpointId = checkpointId →
      row.items[item.ordinal]?.map ItemRow.conversationId = some item.conversationId
  earned : ∀ ownership checkpointId item safeError,
    task = .marking ownership checkpointId item .complete safeError →
      Fetched trace ownership.connectionId checkpointId item.ordinal item.conversationId

structure Sound (trace : Trace) (checkpoints : Table CheckpointRow.connectionId)
    (tasks : Nat → Option Task) : Prop where
  rows : ∀ row ∈ checkpoints, RowSound trace row
  tasks : ∀ worker task, tasks worker = some task → TaskSound trace checkpoints task

variable {trace : Trace}

theorem Fetched.mono {trace' : Trace} {conversationId : String} {ordinal : Nat}
    (h : Fetched trace connectionId checkpointId ordinal conversationId) :
    Fetched (trace ++ trace') connectionId checkpointId ordinal conversationId := by
  obtain ⟨entry, hentry, hpage⟩ := h
  exact ⟨entry, List.mem_append_left _ hentry, hpage⟩

variable {checkpoints : Table CheckpointRow.connectionId} {worker : Nat} {task' : Task}
  {item : BackfillItem} {input : Input} {w₀ : World}

theorem Sound.grow (h : Sound trace checkpoints tasks) (trace' : Trace) :
    Sound (trace ++ trace') checkpoints tasks where
  rows row hrow i item hitem hcomplete := (h.rows row hrow i item hitem hcomplete).mono
  tasks worker task htask :=
    { named := (h.tasks worker task htask).named
      earned := fun ownership checkpointId item safeError hmark =>
        ((h.tasks worker task htask).earned ownership checkpointId item safeError hmark).mono }

theorem Sound.setTask {task : Option Task} (h : Sound trace w.checkpoints w.tasks)
    (htask : ∀ t, task = some t → TaskSound trace w.checkpoints t) (worker : Nat) :
    Sound trace (w.setTask worker task).checkpoints (w.setTask worker task).tasks := by
  refine ⟨h.rows, fun other t ht => ?_⟩
  simp only [World.setTask] at ht
  split at ht
  · exact htask t ht
  · exact h.tasks other t ht

theorem TaskSound.of_about
    (h : TaskSound trace checkpoints task) (habout : task'.about = task.about)
    (hearned : ∀ ownership checkpointId item safeError,
      task' = .marking ownership checkpointId item .complete safeError →
        Fetched trace ownership.connectionId checkpointId item.ordinal item.conversationId) :
    TaskSound trace checkpoints task' :=
  ⟨fun connectionId checkpointId item hitem =>
    h.named connectionId checkpointId item (habout ▸ hitem), hearned⟩

theorem TaskSound.of_none (habout : task.about = none) : TaskSound trace checkpoints task where
  named connectionId checkpointId item hitem := by rw [habout] at hitem; cases hitem
  earned ownership checkpointId item safeError hmark := by rw [hmark] at habout; cases habout

/-! ### Loading a checkpoint -/

theorem checkpoint_item {row : CheckpointRow} (h : item ∈ row.checkpoint.items) :
    row.items[item.ordinal]?.map ItemRow.conversationId = some item.conversationId := by
  obtain ⟨i, hi, rfl⟩ := List.mem_mapIdx.1 h
  simp [List.getElem?_eq_getElem hi]

theorem nextTask_sound {checkpoint : Option BackfillCheckpoint}
    (hload : loadBackfillCheckpoint ownership.connectionId s = .ok checkpoint)
    (h : nextTask ownership checkpoint = some task) : TaskSound trace s.checkpoints task := by
  simp only [loadBackfillCheckpoint, bind_ok] at hload
  obtain ⟨-, -, hload⟩ := hload
  split at hload
  case h_1 =>
    obtain rfl := pure_ok.1 hload
    obtain rfl := Option.some.inj h
    exact .of_none rfl
  case h_2 row hrow =>
    simp only [bind_ok, pure_ok] at hload
    obtain ⟨-, -, rfl⟩ := hload
    simp only [nextTask] at h
    split at h
    · cases h
    · split at h
      case h_1 item hitem =>
        obtain rfl := Option.some.inj h
        refine ⟨fun connectionId checkpointId item' habout row' hrow' hconnection _ => ?_,
          fun _ _ _ _ hmark => by cases hmark⟩
        simp only [Task.about, Option.some.injEq, Prod.mk.injEq] at habout
        obtain ⟨rfl, -, rfl⟩ := habout
        -- the checkpoint that was read is the one that is stored
        obtain rfl : row' = row := Table.eq_of_key_eq hrow' (Table.mem_of_find? hrow)
          (hconnection.trans (Table.key_of_find? hrow).symm)
        exact checkpoint_item (List.mem_of_find?_eq_some hitem)
      case h_2 =>
        split at h
        · cases h
        · obtain rfl := Option.some.inj h
          exact .of_none rfl

theorem askProvider_sound
    (htask : TaskSound trace checkpoints task) (h : askProvider rt db task = some task') :
    TaskSound trace checkpoints task' := by
  cases task <;> simp only [askProvider, Option.bind_eq_bind, Option.bind_eq_some_iff,
    Option.some.injEq] at h
  case wantsPage =>
    obtain ⟨_, -, _, -, rfl⟩ := h
    exact .of_none rfl
  case wantsMessages =>
    obtain ⟨_, -, _, -, rfl⟩ := h
    exact htask.of_about rfl fun _ _ _ _ hmark => by cases hmark
  all_goals exact h ▸ htask

/-! ### Reading an answer -/

theorem readMessagePage_complete {page : ListMessagesResponse} {safeError : String}
    (h : readMessagePage rt config page = some (.complete, safeError)) : page.cursor = none := by
  unfold readMessagePage at h
  split at h
  · cases h
  · split at h
    case h_1 hcursor => exact hcursor
    case h_2 => split at h <;> cases h

theorem afterAnswer_sound {outcome : DurableOutcome} {receivedAt : Time} {ids : CommitIds}
    {response : Response} (htask : TaskSound trace checkpoints task)
    (hseen : (.answer worker receivedAt now ids response, .answered task outcome) ∈ trace)
    (h : afterAnswer rt config task response outcome = some task') :
    TaskSound trace checkpoints task' := by
  unfold afterAnswer at h
  split at h
  · obtain ⟨page, -, rfl⟩ := Option.map_eq_some_iff.1 h
    exact .of_none rfl
  · rename_i ownership checkpointId item cursor page hpage
    obtain ⟨⟨state, safeError⟩, hread, rfl⟩ := Option.map_eq_some_iff.1 h
    refine htask.of_about rfl fun ownership' checkpointId' item' safeError' hmark => ?_
    obtain ⟨rfl, rfl, rfl, rfl, rfl⟩ := Task.marking.inj hmark
    exact ⟨_, hseen, worker, receivedAt, now, ids, response, page, ownership, item, cursor, rfl,
      hpage, readMessagePage_complete hread, rfl, rfl, rfl⟩
  · obtain rfl := Option.some.inj h
    exact htask.of_about rfl fun _ _ _ _ hmark => by cases hmark
  · obtain rfl := Option.some.inj h
    exact htask.of_about rfl fun _ _ _ _ hmark => by cases hmark
  · cases h

/-! ### Writing a statement -/

/-- The identifier `newID` draws for a checkpoint is one that no task knows. -/
def Draws (w : World) : Input → Prop
  | .write _ _ checkpointId => ∀ worker task connectionId item, w.tasks worker = some task →
      task.about ≠ some (connectionId, checkpointId, item)
  | _ => True

theorem TaskSound.of_rows {checkpoints' : Table CheckpointRow.connectionId}
    (h : TaskSound trace checkpoints task)
    (hrows : ∀ row' ∈ checkpoints', ∃ row ∈ checkpoints, row'.connectionId = row.connectionId ∧
      row'.checkpointId = row.checkpointId ∧ ∀ i : Nat,
        row'.items[i]?.map ItemRow.conversationId = row.items[i]?.map ItemRow.conversationId) :
    TaskSound trace checkpoints' task := by
  refine ⟨fun connectionId checkpointId item habout row' hrow' hconnection hcheckpoint => ?_,
    h.earned⟩
  obtain ⟨row, hrow, hc, hk, hitems⟩ := hrows row' hrow'
  rw [hitems]
  exact h.named connectionId checkpointId item habout row hrow (hc ▸ hconnection) (hk ▸ hcheckpoint)

theorem Sound.stage {page : BackfillPage} (h : Sound trace s.checkpoints tasks)
    (hfresh : ∀ worker task connectionId item, tasks worker = some task →
      task.about ≠ some (connectionId, checkpointId, item))
    (hstage : stageBackfillPageFenced now checkpointId ownership page s = .ok s') :
    Sound trace s'.checkpoints tasks := by
  obtain ⟨-, hpage, hinsert⟩ := stageBackfillPageFenced_ok hstage
  refine ⟨fun row hrow => ?_, fun worker task htask => ⟨?_, (h.tasks worker task htask).earned⟩⟩
  · rcases (Table.mem_insert hinsert).1 hrow with hold | rfl
    · exact h.rows row hold
    · -- an item is staged pending or poisoned
      intro i item hitem hcomplete
      simp only [BackfillPage.row, List.getElem?_map, Option.map_eq_some_iff] at hitem
      obtain ⟨staged, hstaged, rfl⟩ := hitem
      simp only [BackfillPage.stageable, Bool.and_eq_true, List.all_eq_true] at hpage
      have hchecked := hpage.2 (staged, i) (List.mem_zipIdx_iff_getElem?.2 hstaged)
      simp_all [BackfillItem.stageable]
  · intro connectionId checkpointId' item habout row hrow hconnection hcheckpoint
    rcases (Table.mem_insert hinsert).1 hrow with hold | rfl
    · exact (h.tasks worker task htask).named connectionId checkpointId' item habout row hold
        hconnection hcheckpoint
    · obtain rfl : checkpointId = checkpointId' := hcheckpoint
      exact absurd habout (hfresh worker task connectionId item htask)

theorem Sound.mark {safeError : String}
    {state : BackfillItemState} (h : Sound trace s.checkpoints tasks)
    (htask : tasks worker = some (.marking ownership checkpointId item state safeError))
    (hmark : markBackfillItemFenced now ownership checkpointId item.ordinal state safeError s =
      .ok s') : Sound trace s'.checkpoints tasks := by
  obtain ⟨-, row, hrow, hconnection, hcheckpoint, hrows⟩ := markBackfillItemFenced_ok hmark
  have hsound := h.tasks worker _ htask
  refine ⟨fun row' hrow' => ?_, fun other task hother => (h.tasks other task hother).of_rows ?_⟩
  · rcases hrows row' hrow' with hold | rfl
    · exact h.rows row' hold
    · intro i marked hmarked hcomplete
      rw [List.getElem?_modify] at hmarked
      obtain ⟨stored, hstored, rfl⟩ := Option.map_eq_some_iff.1 hmarked
      by_cases hi : item.ordinal = i
      · -- the item that is marked was fetched by this task
        subst hi
        simp only [if_true] at hcomplete ⊢
        subst hcomplete
        have hnamed := hsound.named _ _ item rfl row hrow hconnection hcheckpoint
        rw [hstored, Option.map_some, Option.some.injEq] at hnamed
        rw [hnamed, hconnection, hcheckpoint]
        exact hsound.earned ownership checkpointId item safeError rfl
      · simp only [hi, if_false] at hcomplete ⊢
        exact h.rows row hrow i stored hstored hcomplete
  · intro row' hrow'
    rcases hrows row' hrow' with hold | rfl
    · exact ⟨row', hold, rfl, rfl, fun _ => rfl⟩
    · refine ⟨row, hrow, rfl, rfl, fun i => ?_⟩
      rw [List.getElem?_modify]
      cases row.items[i]? with
      | none => rfl
      | some stored => by_cases hi : item.ordinal = i <;> simp [hi]

theorem Sound.complete (h : Sound trace s.checkpoints tasks)
    (hcomplete : completeBackfillPageFenced now ownership checkpointId s = .ok s') :
    Sound trace s'.checkpoints tasks := by
  obtain ⟨row, -, -, -, -, hlast | hgone⟩ := completeBackfillPageFenced_ok hcomplete
  · have hrows : ∀ row' ∈ s'.checkpoints, ∃ row ∈ s.checkpoints,
        row'.connectionId = row.connectionId ∧ row'.checkpointId = row.checkpointId ∧
          row'.items = row.items := by
      intro row' hrow'
      rw [hlast.2.2, Table.mem_update] at hrow'
      obtain ⟨r, hr, rfl⟩ := hrow'
      split <;> exact ⟨r, hr, rfl, rfl, rfl⟩
    refine ⟨fun row' hrow' => ?_, fun worker task htask => (h.tasks worker task htask).of_rows ?_⟩
    · obtain ⟨r, hr, hc, hk, hitems⟩ := hrows row' hrow'
      intro i item hitem hstate
      rw [hc, hk]
      exact h.rows r hr i item (hitems ▸ hitem) hstate
    · intro row' hrow'
      obtain ⟨r, hr, hc, hk, hitems⟩ := hrows row' hrow'
      exact ⟨r, hr, hc, hk, fun _ => by rw [hitems]⟩
  · have hrows : ∀ row' ∈ s'.checkpoints, row' ∈ s.checkpoints := by
      intro row' hrow'
      rw [hgone.2.2, Table.mem_delete] at hrow'
      exact hrow'.1
    exact ⟨fun row' hrow' => h.rows row' (hrows row' hrow'), fun worker task htask =>
      (h.tasks worker task htask).of_rows fun row' hrow' =>
        ⟨row', hrows row' hrow', rfl, rfl, fun _ => rfl⟩⟩

/-! ### Runs -/

theorem Transition.sound {seen : Observation}
    (hstep : Transition sink rt config w input seen w') (hdraws : Draws w input)
    (h : Sound trace w.checkpoints w.tasks) :
    Sound (trace ++ [(input, seen)]) w'.checkpoints w'.tasks := by
  have hgrown : Sound (trace ++ [(input, seen)]) w.checkpoints w.tasks := h.grow _
  cases hstep with
  | idles => exact hgrown
  | calls => exact hgrown
  | @loads worker _ _ hload => exact hgrown.setTask (fun t ht => nextTask_sound hload ht) worker
  | @reads worker =>
    refine hgrown.setTask (fun t ht => ?_) worker
    obtain ⟨task, htask, hask⟩ := Option.bind_eq_some_iff.1 ht
    exact askProvider_sound (hgrown.tasks worker task htask) hask
  | @answers worker _ _ _ _ task _ _ _ db htask =>
    exact Sound.setTask (w := { w with db := db }) hgrown (fun t ht =>
      afterAnswer_sound (hgrown.tasks worker task htask)
        (List.mem_append_right _ (List.mem_singleton_self _)) ht) worker
  | @writes worker _ _ task s htask hwritten =>
    refine Sound.setTask (w := w.setState s) ?_ (fun t ht => by cases ht) worker
    cases task with
    | staging ownership page => exact hgrown.stage hdraws (Option.some.inj hwritten)
    | marking => exact hgrown.mark htask (Option.some.inj hwritten)
    | completing => exact hgrown.complete (Option.some.inj hwritten)
    | _ => cases hwritten
  | @drops _ worker _ db =>
    exact Sound.setTask (w := { w with db := db }) hgrown (fun t ht => by cases ht) worker

theorem run_sound (hempty : w₀.checkpoints = ∅)
    (hidle : ∀ worker, w₀.tasks worker = none) (hrun : Run (step sink rt config) Draws w₀ trace w) :
    Sound trace w.checkpoints w.tasks := by
  refine Run.invariant_trace (P := fun trace w => Sound trace w.checkpoints w.tasks)
    (fun trace w input hdraws h => (step_transition input w).sound hdraws h) hrun ⟨?_, ?_⟩
  · intro row hrow
    rw [hempty] at hrow
    exact absurd hrow (Table.not_mem_empty row)
  · intro worker task htask
    rw [hidle] at htask
    cases htask

/-! ### The barrier -/

/-- Earlier in a run, for an item of a staged page, the sink committed a message page
without a cursor that answers a request for a conversation. -/
def CommittedTerminal
    (sink : DurableRequest → PageResponse → SinkM (Projection × List MediaLocator))
    (rt : Runtime) (config : Config) (w₀ : World) (trace : Trace)
    (connectionId checkpointId : String) (ordinal : Nat) (conversationId : String) : Prop :=
  ∃ before after t t' worker receivedAt now ids response page ownership item cursor,
    trace = before ++ (.answer worker receivedAt now ids response,
      .answered (.fetching ownership checkpointId item cursor) .committed) :: after ∧
    Run (step sink rt config) Draws w₀ before t ∧
    Transition sink rt config t (.answer worker receivedAt now ids response)
      (.answered (.fetching ownership checkpointId item cursor) .committed) t' ∧
    response.page = some (.messages page) ∧ page.cursor = none ∧
    ownership.connectionId = connectionId ∧ item.ordinal = ordinal ∧
    CommitsResponse sink rt receivedAt now ids ownership
      ⟨.listMessages, conversationId, requestCursor rt cursor⟩ response t.db t'.db

theorem Transition.committed {receivedAt now : Time} {ids : CommitIds}
    {response : Response} {ownership : Ownership} {checkpointId : String} {cursor : Bytes}
    (hstep : Transition sink rt config w (.answer worker receivedAt now ids response)
      (.answered (.fetching ownership checkpointId item cursor) .committed) w') :
    CommitsResponse sink rt receivedAt now ids ownership
      ⟨.listMessages, item.conversationId, requestCursor rt cursor⟩ response w.db w'.db := by
  cases hstep with
  | answers _ hrequest _ hcommits =>
    obtain ⟨rfl, rfl⟩ := Prod.mk.inj (Option.some.inj hrequest)
    exact hcommits rfl
  | drops hseen => rcases hseen with hseen | hseen <;> cases hseen

theorem Fetched.committed {trace : Trace} {checkpointId conversationId : String}
    {ordinal : Nat} (hrun : Run (step sink rt config) Draws w₀ trace w)
    (h : Fetched trace connectionId checkpointId ordinal conversationId) :
    CommittedTerminal sink rt config w₀ trace connectionId checkpointId ordinal conversationId := by
  obtain ⟨_, hentry, worker, receivedAt, now, ids, response, page, ownership, item, cursor, rfl,
    hpage, hterminal, hconnection, hordinal, rfl⟩ := h
  obtain ⟨before, after, rfl⟩ := List.append_of_mem hentry
  obtain ⟨t, hbefore, hlater⟩ := hrun.split
  obtain ⟨t', hanswer, -⟩ :=
    (show Run (step sink rt config) Draws t ([_] ++ after) w from hlater).split
  have hstep : Transition sink rt config t (.answer worker receivedAt now ids response) _ _ :=
    step_transition _ t
  rw [hanswer.of_singleton.2] at hstep
  exact ⟨before, after, t, t', worker, receivedAt, now, ids, response, page, ownership, item,
    cursor, rfl, hbefore, hstep, hpage, hterminal, hconnection, hordinal, hstep.committed⟩

theorem complete_committed {row : CheckpointRow} (hempty : w₀.checkpoints = ∅)
    (hidle : ∀ worker, w₀.tasks worker = none) (hrun : Run (step sink rt config) Draws w₀ trace w)
    (hrow : w.checkpoints.find? connectionId = some row)
    (hcomplete : ∀ item ∈ row.items, item.state = .complete) (i : Nat) (item : ItemRow)
    (hitem : row.items[i]? = some item) :
    CommittedTerminal sink rt config w₀ trace connectionId row.checkpointId i
      item.conversationId := by
  have hfetched := (run_sound hempty hidle hrun).rows row (Table.mem_of_find? hrow) i item hitem
    (hcomplete item (List.mem_of_getElem? hitem))
  rw [show row.connectionId = connectionId from Table.key_of_find? hrow] at hfetched
  exact hfetched.committed hrun

/-- What holds of any step from a state: a page is passed only by its owner and
after a terminal page was committed for each of its conversations, and a page with
an item that is not complete is not passed. -/
structure Barrier
    (sink : DurableRequest → PageResponse → SinkM (Projection × List MediaLocator))
    (rt : Runtime) (config : Config) (w₀ : World) (trace : Trace) (w : World)
    (connectionId : String) (input : Input) : Prop where
  passed : Passes connectionId w.toState (step sink rt config input w).2.toState →
    ∃ row, w.checkpoints.find? connectionId = some row ∧
      parentCursor connectionId (step sink rt config input w).2.db =
        (if row.terminal then parentCursor connectionId w.db else row.nextCursor.getD []) ∧
      ∀ i item, row.items[i]? = some item →
        CommittedTerminal sink rt config w₀ trace connectionId row.checkpointId i
          item.conversationId
  owned : Passes connectionId w.toState (step sink rt config input w).2.toState →
    ∃ worker now drawn ownership checkpointId, input = .write worker now drawn ∧
      w.tasks worker = some (.completing ownership checkpointId) ∧
      w.db.ownsLease now connectionId ownership.ownerId ownership.fencingToken = true
  held : ∀ row ∈ w.checkpoints, row.connectionId = connectionId →
    (∃ item ∈ row.items, item.state ≠ .complete) →
      ¬ Passes connectionId w.toState (step sink rt config input w).2.toState

/-- No page is passed before its conversations are fetched, in any run of workers,
calls and crashes that starts without a staged page and draws new identifiers. -/
theorem backfill_barrier {w₀ : World} {trace : Trace} (hempty : w₀.checkpoints = ∅)
    (hidle : ∀ worker, w₀.tasks worker = none)
    (hrun : Run (step sink rt config) Draws w₀ trace w) (connectionId : String) (input : Input) :
    Barrier sink rt config w₀ trace w connectionId input := by
  have hstep : Transition sink rt config w input _ _ := step_transition input w
  refine ⟨fun hpass => ?_, fun hpass => ?_, fun row hrow hconnection hopen hpass => ?_⟩
  · obtain ⟨-, -, -, -, row, -, -, -, -, hfind, hitems, hmoved⟩ := hstep.passed hpass
    exact ⟨row, hfind, hmoved, complete_committed hempty hidle hrun hfind hitems⟩
  · obtain ⟨worker, now, drawn, ownership, row, hinput, htask, -, hlease, -⟩ := hstep.passed hpass
    exact ⟨worker, now, drawn, ownership, _, hinput, htask, hlease⟩
  · obtain ⟨-, -, -, -, row', -, -, -, -, hfind, hitems, -⟩ := hstep.passed hpass
    obtain ⟨item, hitem, hstate⟩ := hopen
    obtain rfl : row = row' := Table.eq_of_key_eq hrow (Table.mem_of_find? hfind)
      (hconnection.trans (Table.key_of_find? hfind).symm)
    exact hstate (hitems item hitem)

/-! ### One page with one conversation -/

def Input.first : Input → Bool
  | .call _ => true
  | .load worker _ | .read worker | .answer worker _ _ _ _ | .write worker _ _ | .crash worker =>
    worker == 0

def Alone (w : World) : Prop := ∀ worker, worker ≠ 0 → w.tasks worker = none

theorem Alone.setTask {w : World} (h : Alone w) (hfirst : (worker == 0) = true)
    (task : Option Task) : Alone (w.setTask worker task) := by
  intro other hother
  obtain rfl := beq_iff_eq.1 hfirst
  simp [World.setTask, hother, h other hother]

theorem step_alone (hfirst : input.first = true) (h : Alone w) :
    Alone (step sink rt config input w).2 := by
  cases input with
  | call => exact h
  | load =>
    simp only [step]
    split <;> exact h.setTask hfirst _
  | read | crash => exact h.setTask hfirst _
  | answer =>
    simp only [step, answer]
    split
    · exact h
    · split
      · exact h
      · split <;> exact Alone.setTask (w := { w with db := _ }) h hfirst _
  | write =>
    simp only [step]
    split
    · exact h
    · exact h.setTask hfirst _
    · exact Alone.setTask (w := w.setState _) h hfirst _

def drawsAlone (w : World) : Input → Bool
  | .write _ _ checkpointId => (w.tasks 0).all fun task =>
    task.about.all fun (_, known, _) => known != checkpointId
  | _ => true

theorem draws_of_alone (h : Alone w) (hdraws : drawsAlone w input = true) : Draws w input := by
  cases input with
  | write _ _ checkpointId =>
    intro other task connectionId item htask habout
    by_cases hother : other = 0
    · subst hother
      simp [drawsAlone, htask, habout] at hdraws
    · rw [h other hother] at htask
      cases htask
  | _ => trivial

theorem allAllowed_alone {inputs : List Input} (hfirst : ∀ input ∈ inputs, input.first = true)
    (h : Alone w)
    (hdraws : AllAllowed (step sink rt config) (fun w input => drawsAlone w input = true)
      inputs w) : AllAllowed (step sink rt config) Draws inputs w := by
  induction inputs generalizing w with
  | nil => trivial
  | cons input inputs ih =>
    exact ⟨draws_of_alone h hdraws.1, ih (fun i hi => hfirst i (List.mem_cons_of_mem _ hi))
      (step_alone (hfirst input List.mem_cons_self) h) hdraws.2⟩

def historyRuntime : Runtime :=
  { Dispatch.phoneRuntime with
    cursorUnmarshal := fun bytes => some ⟨"item", (bytes.headD 0).toNat⟩
    cursorMarshal := fun cursor => [UInt8.ofNat cursor.lastItemTimestamp.toNat] }

/-- The sink of the gateway, but with the last page of a conversation accepted. -/
def acceptingSink (request : DurableRequest) : PageResponse → SinkM (Projection × List MediaLocator)
  | .messages ⟨messages, none⟩ =>
    projectMessages historyRuntime (fun _ => pure {}) .history messages
  | page => project historyRuntime (fun _ => pure {}) request page

def phoneOwner : Ownership := ⟨"phone", "worker", 1⟩

def historyIds (n : Nat) : CommitIds :=
  { Dispatch.commitIds with
    inboxId := "inbox-" ++ toString n
    eventOutboxId := fun index => "ingress-" ++ toString n ++ "-" ++ toString index }

/-- A page with one conversation is staged, and its only message page is fetched. -/
def oneConversation : List Input :=
  [.call (Dispatch.leaseCall 1), .load 0 phoneOwner, .read 0,
    .answer 0 10 10 (historyIds 1) ⟨"page-1", [1], some (.conversations
      { conversations := [some { conversationId := "conversation" }]
        cursor := some ⟨"item", 7⟩ })⟩,
    .write 0 20 "checkpoint", .load 0 phoneOwner, .read 0,
    .answer 0 30 30 (historyIds 2) ⟨"page-2", [2], some (.messages {})⟩,
    .write 0 40 "unused", .load 0 phoneOwner]

theorem oneConversation_passed :
    let w := (execute (step acceptingSink historyRuntime {}) oneConversation
      ⟨⟨Dispatch.phoneDatabase, ∅⟩, fun _ => none⟩).2
    parentCursor "phone" w.db = [] ∧
      parentCursor "phone"
        (step acceptingSink historyRuntime {} (.write 0 50 "unused") w).2.db = [7] ∧
      Barrier acceptingSink historyRuntime {} ⟨⟨Dispatch.phoneDatabase, ∅⟩, fun _ => none⟩
        (execute (step acceptingSink historyRuntime {}) oneConversation
          ⟨⟨Dispatch.phoneDatabase, ∅⟩, fun _ => none⟩).1 w "phone" (.write 0 50 "unused") :=
  ⟨by decide +kernel, by decide +kernel, backfill_barrier rfl (fun _ => rfl)
    (Run.of_inputs oneConversation (allAllowed_alone (by decide) (fun _ _ => rfl)
      (by decide +kernel))) "phone" (.write 0 50 "unused")⟩

end MessagingGateway.Backfill