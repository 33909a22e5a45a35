import MessagingGateway.Backfill.Barrier

/-!
# Two readings of a page

The sink and the worker each read the cursor of a page. They agree on pages of
conversations and on message pages with a cursor. A message page without a cursor
is the last one of its conversation to the worker and malformed to the sink, which
records it as poison. So with the sink of the gateway no item is ever completed, and
the backfill gets past a page of conversations exactly when it has none.
-/

namespace MessagingGateway.Backfill

open Relational Domain Store Ingress Provider Gateway

variable {rt : Runtime} {sealer : Bytes → Tx SessionEnvelope} {config : Config} {w : World}
  {request : DurableRequest} {page : PageResponse}

/-! ### The readings -/

def reading (rt : Runtime) : PageResponse → Option (Bytes × Bool)
  | .conversations response => responseBackfillCursor rt response.cursorBytes response.cursor
  | .messages response => responseBackfillCursor rt [] response.cursor

def Malformed (rt : Runtime) (sealer : Bytes → Tx SessionEnvelope) (request : DurableRequest)
    (page : PageResponse) : Prop :=
  ∃ text, project rt sealer request page = .error (.malformed text)

/-- What a page holds, without its cursor. -/
def projectData (rt : Runtime) (sealer : Bytes → Tx SessionEnvelope) :
    PageResponse → SinkM (Projection × List MediaLocator)
  | .conversations response => (projectConversations response.conversations).map fun p => (p, [])
  | .messages response => projectMessages rt sealer .history response.messages

def answers (request : DurableRequest) : PageResponse → Bool
  | .conversations _ => request.action == .listConversations
  | .messages response =>
    request.action == .listMessages && validProviderConversationID request.conversationId &&
      response.messages.all fun message =>
        message.any fun m => m.conversationId == request.conversationId

structure WellFormed (rt : Runtime) (sealer : Bytes → Tx SessionEnvelope)
    (request : DurableRequest) (page : PageResponse) : Prop where
  answers : answers request page = true
  data : ∃ projected, projectData rt sealer page = .ok projected ∧
    validateProjection rt projected.1 projected.2 = .ok ()

/-- The sink and the worker agree on a page: they accept it alike, and the last page
is recorded as a page and not as poison. -/
structure Agrees (rt : Runtime) (sealer : Bytes → Tx SessionEnvelope) (request : DurableRequest)
    (page : PageResponse) : Prop where
  accepted : ¬ Malformed rt sealer request page ↔ reading rt page ≠ none
  last : reading rt page = some ([], true) → ∃ projected,
    project rt sealer request page = .ok projected ∧
      ∀ ownership response, (envelopeOf ownership response (some projected)).poison rt = false

def continues : PageResponse → Bool
  | .conversations _ => true
  | .messages response => response.cursor.isSome

/-! ### Pages of conversations -/

theorem project_conversations {response : ListConversationsResponse} {projection : Projection}
    (hanswers : answers request (.conversations response) = true)
    (hdata : projectConversations response.conversations = .ok projection) :
    project rt sealer request (.conversations response) =
      match responseBackfillCursor rt response.cursorBytes response.cursor with
      | none => .error (.malformed "provider conversation cursor is invalid")
      | some (next, terminal) => .ok (if terminal then projection else
          { projection with
            cursorBase := request.cursor
            cursorCandidate := next
            cursorSource := some .listConversations
            cursorConversationId := providerPageCursorID }, []) := by
  simp only [answers] at hanswers
  simp only [project, demand, hanswers, if_true, hdata]
  cases responseBackfillCursor rt response.cursorBytes response.cursor <;> rfl

theorem agrees_conversations {response : ListConversationsResponse}
    (h : WellFormed rt sealer request (.conversations response)) :
    Agrees rt sealer request (.conversations response) := by
  obtain ⟨projected, hdata, hvalid⟩ := h.data
  obtain ⟨projection, hprojection, rfl⟩ : ∃ projection,
      projectConversations response.conversations = .ok projection ∧
        (projection, []) = projected := by
    rw [projectData] at hdata
    cases hprojection : projectConversations response.conversations with
    | error e =>
      rw [hprojection] at hdata
      cases hdata
    | ok projection =>
      rw [hprojection] at hdata
      exact ⟨projection, rfl, Except.ok.inj hdata⟩
  have hproject : project rt sealer request (.conversations response) = _ :=
    project_conversations h.answers hprojection
  cases hread : responseBackfillCursor rt response.cursorBytes response.cursor with
  | none =>
    rw [hread] at hproject
    refine ⟨iff_of_false (fun hplain => hplain ⟨_, hproject⟩) (fun hsome => hsome hread), ?_⟩
    intro hlast
    rw [reading, hread] at hlast
    cases hlast
  | some found =>
    rw [hread] at hproject
    refine ⟨iff_of_true ?_ ?_, fun hlast => ⟨_, hproject, fun ownership response' => ?_⟩⟩
    · rintro ⟨text, herror⟩
      rw [hproject] at herror
      cases herror
    · rw [reading, hread]
      exact Option.some_ne_none _
    · rw [reading, hread] at hlast
      obtain rfl := Option.some.inj hlast
      simp [Envelope.poison, envelopeOf, hvalid]

/-! ### Pages of messages -/

variable {response : ListMessagesResponse}
  {sink : DurableRequest → PageResponse → SinkM (Projection × List MediaLocator)}
  {row : CheckpointRow} {ownership : Ownership}

theorem project_messages {projected : Projection × List MediaLocator}
    (hanswers : answers request (.messages response) = true)
    (hdata : projectMessages rt sealer .history response.messages = .ok projected) :
    project rt sealer request (.messages response) =
      match backfillCursor rt [] response.cursor with
      | none => .error (.malformed "provider cursor is invalid or excessive")
      | some cursor => .ok (if cursor = [] then projected.1 else
          { projected.1 with
            cursor := cursor
            cursorBase := request.cursor
            cursorCandidate := cursor
            cursorSource := some .listMessages
            cursorConversationId := request.conversationId }, projected.2) := by
  simp only [answers, Bool.and_eq_true] at hanswers
  simp only [project, demand, hanswers, Bool.and_self, if_true, hdata]
  cases backfillCursor rt [] response.cursor <;> rfl

theorem backfillCursor_none : backfillCursor rt [] none = none := rfl

theorem malformed_messages_iff (h : WellFormed rt sealer request (.messages response)) :
    ¬ Malformed rt sealer request (.messages response) ↔
      backfillCursor rt [] response.cursor ≠ none := by
  obtain ⟨projected, hdata, -⟩ := h.data
  have hproject := project_messages h.answers hdata
  cases hcursor : backfillCursor rt [] response.cursor with
  | none =>
    rw [hcursor] at hproject
    exact iff_of_false (fun hplain => hplain ⟨_, hproject⟩) (fun hsome => hsome rfl)
  | some cursor =>
    rw [hcursor] at hproject
    refine iff_of_true ?_ (Option.some_ne_none _)
    rintro ⟨text, herror⟩
    rw [hproject] at herror
    cases herror

theorem decode_backfillCursor (hcodec : ∀ c, rt.cursorUnmarshal (rt.cursorMarshal c) = some c)
    {cursor : ProviderCursor} {encoded : Bytes}
    (h : backfillCursor rt [] (some cursor) = some encoded) :
    decodeBackfillCursor rt encoded = some (some cursor) := by
  have hcanonical : canonicalProviderCursor rt (rt.cursorMarshal cursor) = .ok encoded := by
    simp only [backfillCursor] at h
    cases hcanonical : canonicalProviderCursor rt (rt.cursorMarshal cursor) with
    | error e =>
      rw [hcanonical] at h
      cases h
    | ok bytes =>
      rw [hcanonical] at h
      exact congrArg Except.ok (Option.some.inj h)
  obtain rfl : rt.cursorMarshal cursor = encoded := by
    have hparts := hcanonical
    simp only [canonicalProviderCursor, bind_ok, orFail_ok, pure_ok, hcodec] at hparts
    obtain ⟨-, -, _, hread, -, -, -, -, rfl⟩ := hparts
    rw [Option.some.inj hread]
  have hnonempty : rt.cursorMarshal cursor ≠ [] := by
    intro hempty
    rw [hempty] at hcanonical
    cases hcanonical
  simp [decodeBackfillCursor, hnonempty, hcanonical, hcodec, Except.toOption]

theorem reading_messages_iff (hcodec : ∀ c, rt.cursorUnmarshal (rt.cursorMarshal c) = some c)
    (cursor : ProviderCursor) :
    responseBackfillCursor rt [] (some cursor) ≠ none ↔
      backfillCursor rt [] (some cursor) ≠ none := by
  simp only [responseBackfillCursor]
  cases hcursor : backfillCursor rt [] (some cursor) with
  | none => simp
  | some encoded => simp [decode_backfillCursor hcodec hcursor]

theorem agrees_iff_continues (hcodec : ∀ c, rt.cursorUnmarshal (rt.cursorMarshal c) = some c)
    (h : WellFormed rt sealer request page) :
    Agrees rt sealer request page ↔ continues page = true := by
  cases page with
  | conversations response => exact iff_of_true (agrees_conversations h) rfl
  | messages response =>
    have hmalformed := malformed_messages_iff h
    obtain ⟨messages, cursor⟩ := response
    cases cursor with
    | none =>
      -- the worker reads a last page, the sink none
      refine iff_of_false (fun hagrees => ?_) Bool.false_ne_true
      exact hmalformed.1 (hagrees.accepted.2 (Option.some_ne_none _)) backfillCursor_none
    | some cursor =>
      refine iff_of_true ⟨hmalformed.trans (reading_messages_iff hcodec cursor).symm, ?_⟩ rfl
      intro hlast
      simp only [reading, responseBackfillCursor] at hlast
      cases hcursor : backfillCursor rt [] (some cursor) with
      | none => simp [hcursor] at hlast
      | some encoded => simp [hcursor, decode_backfillCursor hcodec hcursor] at hlast

/-! ### Staged pages -/

theorem project_last (hcursor : response.cursor = none)
    (projected : Projection × List MediaLocator) :
    project rt sealer request (.messages response) ≠ .ok projected := by
  intro h
  simp only [project, bind_ok, hcursor, backfillCursor_none] at h
  obtain ⟨_, -, _, -, _, -, hlast⟩ := h
  cases hlast

theorem not_committedTerminal {w₀ : World} {trace : Trace} {ordinal : Nat}
    {connectionId checkpointId conversationId : String} :
    ¬ CommittedTerminal (project rt sealer) rt config w₀ trace connectionId checkpointId ordinal
      conversationId := by
  rintro ⟨_, _, _, _, _, _, _, _, response, page, _, _, _, -, -, -, hpage, hcursor, -, -,
    projected, _, hprojected, -⟩
  rw [hpage] at hprojected
  exact project_last hcursor projected (Option.some.inj hprojected)

def Named (row : CheckpointRow) : Prop := row.connectionId ≠ "" ∧ row.checkpointId ≠ ""

theorem Transition.named {w' : World}
    {input : Input} {seen : Observation} (hstep : Transition sink rt config w input seen w')
    (h : ∀ row ∈ w.checkpoints, Named row) : ∀ row ∈ w'.checkpoints, Named row := by
  cases hstep with
  | @writes worker now drawn task s htask hwritten =>
    intro row hrow
    cases task with
    | staging ownership page =>
      have hstage := Option.some.inj hwritten
      obtain ⟨-, -, hinsert⟩ := stageBackfillPageFenced_ok hstage
      rcases (Table.mem_insert hinsert).1 hrow with hold | rfl
      · exact h row hold
      · simp only [stageBackfillPageFenced, bind_ok, require_ok, Bool.and_eq_true, bne_iff_ne,
          ne_eq] at hstage
        obtain ⟨-, howner, -, -, -, hdrawn, -⟩ := hstage
        exact ⟨howner.1.1.1, hdrawn.1⟩
    | marking ownership checkpointId item state safeError =>
      obtain ⟨-, marked, hmarked, -, -, hrows⟩ :=
        markBackfillItemFenced_ok (Option.some.inj hwritten)
      rcases hrows row hrow with hold | rfl
      · exact h row hold
      · exact h marked hmarked
    | completing ownership checkpointId =>
      obtain ⟨_, -, -, -, -, ⟨-, -, hrows⟩ | ⟨-, -, hrows⟩⟩ :=
        completeBackfillPageFenced_ok (Option.some.inj hwritten)
      · have hupdated : row ∈ s.checkpoints := hrow
        rw [hrows, Table.mem_update] at hupdated
        obtain ⟨old, hold, rfl⟩ := hupdated
        split <;> exact h old hold
      · have hkept : row ∈ s.checkpoints := hrow
        rw [hrows, Table.mem_delete] at hkept
        exact h row hkept.1
    | _ => cases hwritten
  | _ => exact h

/-- A worker of the owner of a connection finds the staged page and completes it if
it can. -/
def tryComplete (worker : Nat) (ownership : Ownership) (now : Time) (drawn : String) : List Input :=
  [.load worker ownership, .write worker now drawn]

structure Owns (ownership : Ownership) (now : Time) (row : CheckpointRow) (db : Database) :
    Prop where
  connection : ownership.connectionId = row.connectionId
  owner : ownership.ownerId ≠ ""
  token : ownership.fencingToken ≠ 0
  lease : db.ownsLease now ownership.connectionId ownership.ownerId ownership.fencingToken = true

theorem complete_empty {s : State} {now : Time}
    (hrow : row ∈ s.checkpoints) (hnamed : Named row) (howns : Owns ownership now row s.db)
    (hitems : row.items = []) :
    ∃ s', completeBackfillPageFenced now ownership row.checkpointId s = .ok s' ∧
      ¬ Standing row.connectionId row.checkpointId s' := by
  have hfind : s.checkpoints.find? ownership.connectionId = some row :=
    howns.connection ▸ Table.find?_of_mem hrow
  have hconnection : ownership.connectionId ≠ "" := howns.connection ▸ hnamed.1
  have hready : (s.checkpoints.find? ownership.connectionId).filter (fun r =>
      r.checkpointId == row.checkpointId && r.items.all fun item => item.state == .complete) =
        some row := by
    rw [hfind]
    simp [Option.filter, hitems]
  cases hcomplete : completeBackfillPageFenced now ownership row.checkpointId s with
  | error e =>
    cases hterminal : row.terminal <;>
      simp [completeBackfillPageFenced, hconnection, howns.owner, howns.token, hnamed.2,
        howns.lease, hready, hterminal, require, orFail, bind, Except.bind, pure,
        Except.pure] at hcomplete
  | ok s' =>
    obtain ⟨row', hfind', -, -, -, hdone⟩ := completeBackfillPageFenced_ok hcomplete
    obtain rfl := Option.mem_unique hfind hfind'
    refine ⟨s', rfl, ?_⟩
    rintro ⟨stands, hstands, hsame, -, hscan⟩
    rcases hdone with ⟨-, -, hrows⟩ | ⟨-, -, hrows⟩
    · rw [hrows, Table.mem_update] at hstands
      obtain ⟨old, -, rfl⟩ := hstands
      split at hscan
      case isTrue => cases hscan
      case isFalse hother => exact hother (beq_iff_eq.2 (by simpa [hother] using hsame))
    · rw [hrows, Table.mem_delete] at hstands
      simp [hsame] at hstands

theorem load_staged (worker : Nat) (hrow : w.checkpoints.find? ownership.connectionId = some row)
    (hconnection : ownership.connectionId ≠ "") (hscan : row.scanComplete = false)
    (hitems : row.items = []) :
    (step sink rt config (.load worker ownership) w).2 =
      w.setTask worker (some (.completing ownership row.checkpointId)) := by
  have hload : loadBackfillCheckpoint ownership.connectionId w.toState = .ok
    (some row.checkpoint) := by
    simp [loadBackfillCheckpoint, hconnection, hrow, hitems, require, bind, Except.bind, pure,
      Except.pure]
  simp [step, hload, nextTask, CheckpointRow.checkpoint, hscan, hitems]

theorem load_state (worker : Nat) (ownership : Ownership) :
    (step sink rt config (.load worker ownership) w).2.toState = w.toState := by
  simp only [step]
  split <;> rfl

theorem passes_iff_empty {w₀ : World} {trace : Trace} (hempty : w₀.checkpoints = ∅)
    (hidle : ∀ worker, w₀.tasks worker = none)
    (hrun : Run (step (project rt sealer) rt config) Draws w₀ trace w)
    (hrow : row ∈ w.checkpoints) (hscan : row.scanComplete = false)
    {now : Time} (howns : Owns ownership now row w.db) (worker : Nat) (drawn : String) :
    Passes row.connectionId w.toState (execute (step (project rt sealer) rt config)
        (tryComplete worker ownership now drawn) w).2.toState ↔ row.items = [] := by
  have hfind : w.checkpoints.find? row.connectionId = some row := Table.find?_of_mem hrow
  constructor
  · intro hpass
    generalize hloaded : (step (project rt sealer) rt config (.load worker ownership) w).2 = w₁
    have hstate : w₁.toState = w.toState := hloaded ▸ load_state worker ownership
    have hrun₁ := Run.snoc hrun (show Draws w (.load worker ownership) from trivial)
    rw [hloaded] at hrun₁
    have hstep : Transition (project rt sealer) rt config w₁ (.write worker now drawn) _ _ :=
      step_transition _ w₁
    have hpass₁ : Passes row.connectionId w₁.toState
        (step (project rt sealer) rt config (.write worker now drawn) w₁).2.toState := by
      rw [hstate]
      exact hloaded ▸ hpass
    obtain ⟨-, -, -, -, staged, -, -, -, -, hstaged, hcomplete, -⟩ := hstep.passed hpass₁
    obtain rfl : row = staged :=
      Option.some.inj (hfind.symm.trans (congrArg State.checkpoints hstate ▸ hstaged))
    -- an item would have been completed for a page the sink rejects
    refine List.eq_nil_iff_forall_not_mem.2 fun item hitem => ?_
    obtain ⟨i, hi⟩ := List.mem_iff_getElem?.1 hitem
    exact not_committedTerminal
      (complete_committed hempty hidle hrun₁ hstaged hcomplete i item hi)
  · intro hitems
    have hnamed : Named row := by
      refine Run.invariant (P := fun w => ∀ row ∈ w.checkpoints, Named row)
        (fun w input _ h => (step_transition input w).named h) hrun ?_ row hrow
      intro r hr
      rw [hempty] at hr
      exact absurd hr (Table.not_mem_empty r)
    obtain ⟨s', hcomplete, hgone⟩ := complete_empty hrow hnamed howns hitems
    refine .inr ⟨row.checkpointId, ⟨row, hrow, rfl, rfl, hscan⟩, ?_⟩
    have hload : (step (project rt sealer) rt config (.load worker ownership) w).2 = _ :=
      load_staged worker (howns.connection ▸ hfind) (howns.connection ▸ hnamed.1) hscan hitems
    have hwritten : (execute (step (project rt sealer) rt config)
        (tryComplete worker ownership now drawn) w).2.toState = s' := by
      simp only [tryComplete, execute, hload]
      simp [step, World.setTask, World.setState, statement, hcomplete]
    rwa [hwritten]

/-! ### Where the readings agree -/

/-- The sink and the worker agree on a well-formed page exactly when it is a page of
conversations or has a cursor. So in a run with the sink of the gateway the owner of a
connection gets past a staged page exactly when no conversation was staged with it. -/
theorem terminal_pages_agree_iff (hcodec : ∀ c, rt.cursorUnmarshal (rt.cursorMarshal c) = some c)
    (sealer : Bytes → Tx SessionEnvelope) :
    (∀ request page, WellFormed rt sealer request page →
      (Agrees rt sealer request page ↔ continues page = true)) ∧
    ∀ {config : Config} {w₀ w : World} {trace : Trace}, w₀.checkpoints = ∅ →
      (∀ worker, w₀.tasks worker = none) →
      Run (step (project rt sealer) rt config) Draws w₀ trace w →
      ∀ row ∈ w.checkpoints, row.scanComplete = false → ∀ ownership now,
        Owns ownership now row w.db → ∀ worker drawn,
          (Passes row.connectionId w.toState (execute (step (project rt sealer) rt config)
            (tryComplete worker ownership now drawn) w).2.toState ↔ row.items = []) :=
  ⟨fun _ _ hpage => agrees_iff_continues hcodec hpage,
    fun hempty hidle hrun _ hrow hscan _ _ howns worker drawn =>
      passes_iff_empty hempty hidle hrun hrow hscan howns worker drawn⟩

def unary (ns : List Nat) : Bytes := ns.flatMap fun n => List.replicate n 1 ++ [0]

def readUnary : Nat → Bytes → List Nat
  | _, [] => []
  | n, b :: bytes => if b = 0 then n :: readUnary 0 bytes else readUnary (n + 1) bytes

theorem readUnary_unary (ns : List Nat) : readUnary 0 (unary ns) = ns := by
  have hcount : ∀ (n m : Nat) (bytes : Bytes),
      readUnary m (List.replicate n 1 ++ 0 :: bytes) = (m + n) :: readUnary 0 bytes := by
    intro n
    induction n with
    | zero => intro m bytes; rfl
    | succ n ih =>
      intro m bytes
      rw [List.replicate_succ, List.cons_append, readUnary, if_neg (by decide), ih]
      congr 1
      omega
  induction ns with
  | nil => rfl
  | cons n ns ih =>
    rw [unary, List.flatMap_cons, List.append_assoc, List.singleton_append, hcount, Nat.zero_add]
    exact congrArg (n :: ·) ih

def unaryRuntime : Runtime :=
  { Dispatch.phoneRuntime with
    cursorMarshal := fun c => unary ((if c.lastItemTimestamp < 0 then 1 else 0) ::
      c.lastItemTimestamp.natAbs :: c.lastItemId.toList.map Char.toNat)
    cursorUnmarshal := fun bytes =>
      match readUnary 0 bytes with
      | sign :: magnitude :: codes => some ⟨String.ofList (codes.map Char.ofNat),
          if sign = 1 then -magnitude else magnitude⟩
      | _ => none }

theorem unaryRuntime_codec (c : ProviderCursor) :
    unaryRuntime.cursorUnmarshal (unaryRuntime.cursorMarshal c) = some c := by
  have hid : String.ofList ((c.lastItemId.toList.map Char.toNat).map Char.ofNat) =
      c.lastItemId := by
    simp [List.map_map, Function.comp_def, Char.ofNat_toNat]
  have htime : (if (if c.lastItemTimestamp < 0 then 1 else 0) = 1 then
      -(c.lastItemTimestamp.natAbs : Int) else c.lastItemTimestamp.natAbs) =
        c.lastItemTimestamp := by
    split <;> split at * <;> omega
  simp only [unaryRuntime, readUnary_unary, hid, htime]

def emptyHistory : List Input :=
  [.call (Dispatch.leaseCall 1), .load 0 phoneOwner, .read 0,
    .answer 0 10 10 (historyIds 1) ⟨"page-1", [1], some (.conversations {})⟩,
    .write 0 20 "checkpoint"]

def noKeys : Bytes → Tx SessionEnvelope := fun _ => pure {}

def emptyStaged : World :=
  (execute (step (project unaryRuntime noKeys) unaryRuntime {}) emptyHistory
    ⟨⟨Dispatch.phoneDatabase, ∅⟩, fun _ => none⟩).2

theorem emptyHistory_passed :
    Agrees unaryRuntime noKeys ⟨.listConversations, "", []⟩ (.conversations {}) ∧
      Passes "phone" emptyStaged.toState
        (execute (step (project unaryRuntime noKeys) unaryRuntime {})
          (tryComplete 0 phoneOwner 30 "unused") emptyStaged).2.toState := by
  have hwhole := terminal_pages_agree_iff unaryRuntime_codec noKeys
  have hrun : Run (step (project unaryRuntime noKeys) unaryRuntime {}) Draws
      ⟨⟨Dispatch.phoneDatabase, ∅⟩, fun _ => none⟩ _ emptyStaged :=
    Run.of_inputs emptyHistory
      (allAllowed_alone (by decide) (fun _ _ => rfl) (by decide +kernel))
  have hstaged : ⟨"phone", "checkpoint", none, true, false, []⟩ ∈ emptyStaged.checkpoints :=
    Table.mem_def.2 (by decide +kernel)
  refine ⟨(hwhole.1 _ _ ⟨rfl, ({}, []), by decide +kernel, by decide +kernel⟩).2 rfl, ?_⟩
  exact (hwhole.2 rfl (fun _ => rfl) hrun _ hstaged rfl phoneOwner 30
    ⟨rfl, by decide, by decide, by decide +kernel⟩ 0 "unused").2 rfl

/-- The last page of the only conversation: the worker reads it as such, the sink
takes it for malformed, and the item ends up poisoned. -/
theorem last_page_poisons_item :
    WellFormed historyRuntime noKeys ⟨.listMessages, "conversation", []⟩ (.messages {}) ∧
      reading historyRuntime (.messages {}) = some ([], true) ∧
      Malformed historyRuntime noKeys ⟨.listMessages, "conversation", []⟩ (.messages {}) ∧
      ((execute (step (project historyRuntime noKeys) historyRuntime {}) oneConversation
          ⟨⟨Dispatch.phoneDatabase, ∅⟩, fun _ => none⟩).2.checkpoints.find? "phone").map
        (fun row => row.items) =
          some [⟨"conversation", .poisoned, "durable_provider_page_poisoned"⟩] := by
  refine ⟨⟨by decide +kernel, ({}, []), by decide +kernel, by decide +kernel⟩, rfl, ?_, ?_⟩
  · exact ⟨"provider cursor is invalid or excessive", by decide +kernel⟩
  · decide +kernel

end MessagingGateway.Backfill
