import MessagingGateway.Evidence.Statements

/-!
# What a call does to the cursor tables

Only `CommitEnvelope` touches the history of cursor fingerprints and the advance
budgets, and it does so in one of five ways. A cursor that is still in the
history of its scope costs nothing; a new one costs an advance of the budget; the
first one too many exhausts the budget and closes the scope.
-/

namespace MessagingGateway.Cursors

open Relational Domain Store Ingress Gateway Evidence

variable {rt : Runtime} {now : Time} {db db' : Database} {record : EnvelopeRecord}
  {ev ev' : EvidenceTables}

/-! ### The statements that leave them alone -/

structure SameCursors (ev ev' : EvidenceTables) : Prop where
  history : ev'.cursorHistory = ev.cursorHistory
  budgets : ev'.cursorBudgets = ev.cursorBudgets

namespace SameCursors

theorem refl (ev : EvidenceTables) : SameCursors ev ev := ⟨rfl, rfl⟩

theorem of_eq (h : ev' = ev) : SameCursors ev ev' := h ▸ refl ev'

theorem trans {ev'' : EvidenceTables} (h : SameCursors ev ev') (h' : SameCursors ev' ev'') :
    SameCursors ev ev'' :=
  ⟨h'.history.trans h.history, h'.budgets.trans h.budgets⟩

theorem of_insertProviderInbox {inboxId : String}
    (h : insertProviderInbox inboxId record ev = .ok (some ev')) : SameCursors ev ev' := by
  obtain ⟨-, _, _, -, -, rfl⟩ := insertProviderInbox_ok h
  exact ⟨rfl, rfl⟩

theorem of_reopen (key : ResponseKey) (ev : EvidenceTables) :
    SameCursors ev (reopenProviderACK key ev) := by
  unfold reopenProviderACK
  split
  · exact refl ev
  · split <;> exact ⟨rfl, rfl⟩

theorem of_conflict {conflictId : String}
    (h : insertProviderInboxConflict conflictId record ev = .ok ev') : SameCursors ev ev' := by
  obtain ⟨-, rfl⟩ | ⟨_, -, ⟨-, _, rfl⟩ | ⟨-, rfl⟩⟩ := insertProviderInboxConflict_ok h <;>
    exact ⟨rfl, rfl⟩

variable {result : CommitResult} {key : ResponseKey} {reason : PoisonReason} {ids : CommitIds}

theorem of_finalizeProviderPoison
    (h : finalizeProviderPoison key reason ev = .ok ev') : SameCursors ev ev' :=
  ⟨(finalizeProviderPoison_cursors h).1, (finalizeProviderPoison_cursors h).2⟩

theorem of_seenAgain {stored : StoredResponse}
    (h : seenAgain ids record stored db = .ok (result, db')) :
    SameCursors db.evidence db'.evidence ∧ result ≠ .inserted := by
  obtain ⟨hresult, -, evidence, rfl, rfl | ⟨-, rfl⟩ | ⟨fenced, hconflict, hrest⟩⟩ := seenAgain_ok h
  · exact ⟨refl _, hresult⟩
  · exact ⟨of_reopen _ _, hresult⟩
  · refine ⟨?_, hresult⟩
    rcases hrest with rfl | hpoison
    · exact of_conflict hconflict
    · exact (of_conflict hconflict).trans (of_finalizeProviderPoison hpoison)

theorem of_rejectExhausted (h : rejectExhausted record db = .ok (result, db')) :
    SameCursors db.evidence db'.evidence ∧ result ≠ .inserted := by
  obtain ⟨hresult, row, evidence, hupsert, rfl⟩ := rejectExhausted_ok h
  obtain ⟨-, -, rfl⟩ := upsertRejected_ok hupsert
  exact ⟨⟨rfl, rfl⟩, hresult⟩

end SameCursors

/-! ### The cursor stage -/

def openBudget (record : EnvelopeRecord) (ev : EvidenceTables) : Table CursorBudgetRow.key :=
  ev.cursorBudgets.insertIgnore
    { connectionId := record.connectionId, cursorScope := record.projection.cursorConversationId }

def seeded (rt : Runtime) (now : Time) (record : EnvelopeRecord)
    (history : Table CursorHistoryRow.key) : Table CursorHistoryRow.key :=
  match baseDigest rt record.projection with
  | none => history
  | some digest => history.insertIgnore
      ⟨record.connectionId, record.projection.cursorConversationId, digest, none, none, now⟩

def entryOf (rt : Runtime) (now : Time) (record : EnvelopeRecord) : CursorHistoryRow :=
  ⟨record.connectionId, record.projection.cursorConversationId,
    rt.sha256 record.projection.candidate, baseDigest rt record.projection,
    some record.providerResponseId, now + 1⟩

def advancesOf (connectionId scope : String) (ev : EvidenceTables) : Nat :=
  ((ev.cursorBudgets.find? (connectionId, scope)).map CursorBudgetRow.acceptedAdvances).getD 0

def closed (connectionId scope : String) (ev : EvidenceTables) : Bool :=
  (ev.cursorBudgets.find? (connectionId, scope)).any CursorBudgetRow.exhausted

def retained (rt : Runtime) (record : EnvelopeRecord) (ev : EvidenceTables) :
    Option CursorHistoryRow :=
  ev.cursorHistory.find? (record.connectionId, record.projection.cursorConversationId,
    rt.sha256 record.projection.candidate)

/-- What the commit of a record with canonical cursors does to the cursor
tables, and what its cursor stage decides if the commit gets there. -/
inductive CursorMove (rt : Runtime) (now : Time) (record : EnvelopeRecord)
    (ev ev' : EvidenceTables) (verdict : Option Verdict) : Prop
  | bare (carries : record.projection.candidate = [])
      (unpoisoned : ∀ reason, verdict ≠ some (.poisoned reason)) (same : SameCursors ev ev')
  | refused (carries : record.projection.candidate ≠ []) (refused : verdict ≠ some .accepted)
      (forks : verdict = none ∨ ∃ stored, retained rt record ev = some stored ∧
        stored.baseCursorDigest ≠ baseDigest rt record.projection)
      (history : ev'.cursorHistory = ev.cursorHistory)
      (budgets : ev'.cursorBudgets = openBudget record ev)
  | exhausts (carries : record.projection.candidate ≠ []) (refused : verdict ≠ some .accepted)
      (spent : maxProviderCursorAdvances ≤
        advancesOf record.connectionId record.projection.cursorConversationId ev)
      (fresh : retained rt record ev = none)
      (history : ev'.cursorHistory = ev.cursorHistory)
      (budgets : ev'.cursorBudgets = (openBudget record ev).update
        (fun r => r.key == (record.connectionId, record.projection.cursorConversationId))
        (fun r => { r with exhausted := true }) fun _ => id rfl)
  | replays {stored : CursorHistoryRow} (carries : record.projection.candidate ≠ [])
      (accepted : verdict = some .accepted)
      (within : closed record.connectionId record.projection.cursorConversationId ev = false)
      (found : retained rt record ev = some stored)
      (base : stored.baseCursorDigest = baseDigest rt record.projection)
      (history : ev'.cursorHistory = pruneCursorHistory record.connectionId
        record.projection.cursorConversationId ev.cursorHistory)
      (budgets : ev'.cursorBudgets = openBudget record ev)
  | advances {grown : Table CursorHistoryRow.key} (carries : record.projection.candidate ≠ [])
      (accepted : verdict = some .accepted)
      (within : closed record.connectionId record.projection.cursorConversationId ev = false)
      (room : advancesOf record.connectionId record.projection.cursorConversationId ev <
        maxProviderCursorAdvances)
      (fresh : retained rt record ev = none)
      (inserted : (seeded rt now record ev.cursorHistory).insert (entryOf rt now record) =
        some grown)
      (history : ev'.cursorHistory = pruneCursorHistory record.connectionId
        record.projection.cursorConversationId grown)
      (budgets : ev'.cursorBudgets = (openBudget record ev).update
        (fun r => r.key == (record.connectionId, record.projection.cursorConversationId))
        (fun r => { r with acceptedAdvances := r.acceptedAdvances + 1 }) fun _ => id rfl)

def shown (row : Option CursorBudgetRow) : Nat × Bool :=
  ((row.map CursorBudgetRow.acceptedAdvances).getD 0, row.any CursorBudgetRow.exhausted)

theorem shown_openBudget (key : String × String) :
    shown ((openBudget record ev).find? key) = shown (ev.cursorBudgets.find? key) := by
  rw [openBudget, Table.find?_insertIgnore]
  split
  · cases ev.cursorBudgets.find? key <;> rfl
  · rfl

theorem exists_openBudget (record : EnvelopeRecord) (ev : EvidenceTables) :
    ∃ row, (openBudget record ev).find?
      (record.connectionId, record.projection.cursorConversationId) = some row := by
  simp [openBudget, Table.find?_insertIgnore, CursorBudgetRow.key]

section

variable {connectionId scope : String}

theorem advancesOf_eq : advancesOf connectionId scope ev =
    (shown (ev.cursorBudgets.find? (connectionId, scope))).1 := rfl

theorem closed_eq : closed connectionId scope ev =
    (shown (ev.cursorBudgets.find? (connectionId, scope))).2 := rfl

theorem advancesOf_open (h : ev'.cursorBudgets = openBudget record ev) :
    advancesOf connectionId scope ev' = advancesOf connectionId scope ev := by
  rw [advancesOf_eq, advancesOf_eq, h, shown_openBudget]

theorem closed_of_open (h : ev'.cursorBudgets = openBudget record ev) :
    closed connectionId scope ev' = closed connectionId scope ev := by
  rw [closed_eq, closed_eq, h, shown_openBudget]

theorem shown_update_of_ne {f : CursorBudgetRow → CursorBudgetRow} {hf : ∀ r, (f r).key = r.key}
    (h : ev'.cursorBudgets = (openBudget record ev).update
      (fun r => r.key == (record.connectionId, record.projection.cursorConversationId)) f hf)
    (hne : (connectionId, scope) ≠ (record.connectionId, record.projection.cursorConversationId)) :
    shown (ev'.cursorBudgets.find? (connectionId, scope)) =
      shown (ev.cursorBudgets.find? (connectionId, scope)) := by
  rw [h, Table.find?_update_key, if_neg hne, shown_openBudget]

theorem shown_update {f : CursorBudgetRow → CursorBudgetRow} {hf : ∀ r, (f r).key = r.key}
    (h : ev'.cursorBudgets = (openBudget record ev).update
      (fun r => r.key == (record.connectionId, record.projection.cursorConversationId)) f hf) :
    ∃ row : CursorBudgetRow,
      shown (some row) = shown (ev.cursorBudgets.find?
        (record.connectionId, record.projection.cursorConversationId)) ∧
      shown (ev'.cursorBudgets.find?
        (record.connectionId, record.projection.cursorConversationId)) = shown (some (f row)) := by
  obtain ⟨row, hrow⟩ := exists_openBudget record ev
  refine ⟨row, by rw [← hrow, shown_openBudget], ?_⟩
  rw [h, Table.find?_update_key, if_pos rfl, hrow, Option.map_some]

theorem advancesOf_exhausted (h : ev'.cursorBudgets = (openBudget record ev).update
      (fun r => r.key == (record.connectionId, record.projection.cursorConversationId))
      (fun r => { r with exhausted := true }) fun _ => id rfl) :
    advancesOf connectionId scope ev' = advancesOf connectionId scope ev := by
  by_cases hscope : (connectionId, scope) =
      (record.connectionId, record.projection.cursorConversationId)
  · obtain ⟨rfl, rfl⟩ := Prod.mk.inj hscope
    obtain ⟨row, hrow, hafter⟩ := shown_update h
    rw [advancesOf_eq, advancesOf_eq, hafter, ← hrow]
    rfl
  · rw [advancesOf_eq, advancesOf_eq, shown_update_of_ne h hscope]

theorem advancesOf_advanced (h : ev'.cursorBudgets = (openBudget record ev).update
      (fun r => r.key == (record.connectionId, record.projection.cursorConversationId))
      (fun r => { r with acceptedAdvances := r.acceptedAdvances + 1 }) fun _ => id rfl) :
    advancesOf connectionId scope ev' = advancesOf connectionId scope ev +
      if (connectionId, scope) = (record.connectionId, record.projection.cursorConversationId)
      then 1 else 0 := by
  split
  · next hscope =>
      obtain ⟨rfl, rfl⟩ := Prod.mk.inj hscope
      obtain ⟨row, hrow, hafter⟩ := shown_update h
      rw [advancesOf_eq, advancesOf_eq, hafter, ← hrow]
      rfl
  · next hscope => rw [advancesOf_eq, advancesOf_eq, shown_update_of_ne h hscope, Nat.add_zero]

end

theorem openBudget_find? {budget : CursorBudgetRow}
    (h : (openBudget record ev).find?
      (record.connectionId, record.projection.cursorConversationId) = some budget) :
    budget.acceptedAdvances =
        advancesOf record.connectionId record.projection.cursorConversationId ev ∧
      budget.exhausted = closed record.connectionId record.projection.cursorConversationId ev := by
  rw [advancesOf_eq, closed_eq, ← shown_openBudget, h]
  exact ⟨rfl, rfl⟩

theorem lockCursorBudget_cases {budget : Option CursorBudgetRow}
    (h : lockCursorBudget record db = .ok (budget, db')) :
    (record.projection.candidate = [] ∧ budget = none ∧ db' = db) ∨
      (record.projection.candidate ≠ [] ∧ db' = db.setBudgets (openBudget record db.evidence) ∧
        ∃ row, budget = some row ∧
          row.acceptedAdvances =
            advancesOf record.connectionId record.projection.cursorConversationId db.evidence ∧
          row.exhausted =
            closed record.connectionId record.projection.cursorConversationId db.evidence) := by
  unfold lockCursorBudget at h
  split at h
  case isTrue hbare =>
    rw [pure_pair] at h
    exact .inl ⟨hbare, h.1.symm, h.2.symm⟩
  case isFalse hcarries =>
    simp only [bind_ok, pure_pair, orFail_ok] at h
    obtain ⟨row, hfound, -, -, rfl, rfl⟩ := h
    exact .inr ⟨hcarries, rfl, row, rfl, openBudget_find? hfound⟩

theorem advanceCursor_move {budget : CursorBudgetRow} {verdict : Verdict} {lined checked : Database}
    (hcarries : record.projection.candidate ≠ []) (hbudget : budget.acceptedAdvances =
      advancesOf record.connectionId record.projection.cursorConversationId ev)
    (hwithin : closed record.connectionId record.projection.cursorConversationId ev = false)
    (hhistory : lined.evidence.cursorHistory = ev.cursorHistory)
    (hbudgets : lined.evidence.cursorBudgets = openBudget record ev)
    (h : advanceCursor rt now record (some budget) lined = .ok (verdict, checked))
    (hsame : SameCursors checked.evidence ev') :
    CursorMove rt now record ev ev' (some verdict) := by
  simp only [advanceCursor, hhistory] at h
  split at h
  case h_1 stored hfound =>
    split at h
    case isTrue hbase =>
      rw [pure_pair] at h
      obtain ⟨rfl, rfl⟩ := h
      exact .replays hcarries rfl hwithin hfound hbase (by rw [hsame.history]; rfl)
        (hsame.budgets.trans hbudgets)
    case isFalse hbase =>
      rw [pure_pair] at h
      obtain ⟨rfl, rfl⟩ := h
      exact .refused hcarries (by decide) (.inr ⟨stored, hfound, hbase⟩)
        (hsame.history.trans hhistory) (hsame.budgets.trans hbudgets)
  case h_2 hfresh =>
    split at h
    case isTrue hspent =>
      rw [pure_pair] at h
      obtain ⟨rfl, rfl⟩ := h
      refine .exhausts hcarries (by decide) (hbudget ▸ hspent) hfresh
        (hsame.history.trans hhistory) ?_
      rw [hsame.budgets, ← hbudgets]
      rfl
    case isFalse hroom =>
      simp only [bind_ok, pure_ok, recordCursor, orFail_ok] at h
      obtain ⟨recorded, ⟨grown, hinsert, rfl⟩, rfl, rfl⟩ := h
      rw [hhistory] at hinsert
      refine .advances hcarries rfl hwithin (by omega) hfresh hinsert
        (by rw [hsame.history]; rfl) ?_
      rw [hsame.budgets, ← hbudgets]
      rfl

theorem admitted_move {verdict : Verdict} (h : Admitted rt now ids record db verdict db')
    (hsame : SameCursors db'.evidence ev') :
    CursorMove rt now record db.evidence ev' (some verdict) := by
  obtain ⟨budget, locked, stored, lined, hlock, -, hwithin, hinsert, hlines, hcursor⟩ := h
  obtain ⟨evidence, hinbox, rfl⟩ := insertInbox_ok hinsert
  obtain ⟨lines, rfl⟩ := replaceLines_ok hlines
  have hstored := SameCursors.of_insertProviderInbox hinbox
  rcases lockCursorBudget_cases hlock with
    ⟨hbare, rfl, rfl⟩ | ⟨hcarries, rfl, row, rfl, hrow, hopen⟩
  · simp only [advanceCursor, pure_pair] at hcursor
    obtain ⟨rfl, rfl⟩ := hcursor
    exact .bare hbare nofun (hstored.trans hsame)
  · refine advanceCursor_move hcarries hrow ?_ hstored.history hstored.budgets hcursor hsame
    rw [← hopen]
    simpa using hwithin

theorem CursorMove.early {budget : Option CursorBudgetRow}
    (hlock : lockCursorBudget record db = .ok (budget, db'))
    (hsame : SameCursors db'.evidence ev') : CursorMove rt now record db.evidence ev' none := by
  rcases lockCursorBudget_cases hlock with ⟨hbare, -, rfl⟩ | ⟨hcarries, rfl, -⟩
  · exact .bare hbare nofun hsame
  · exact .refused hcarries nofun (.inl rfl) hsame.history hsame.budgets

theorem commitEnvelope_move (h : commitEnvelope rt now ids record db = .ok (result, db')) :
    ∃ projection verdict, canonicalizeProjectionCursors rt record.projection = .ok projection ∧
      (result = .inserted → verdict = some .accepted) ∧
      CursorMove rt now (canonicalRecord record projection) db.evidence db'.evidence verdict := by
  obtain ⟨projection, hcanonical, -, -, -, hpath⟩ := commitEnvelope_ok h
  refine ⟨projection, ?_⟩
  cases hpath with
  | seen hlock _ hagain =>
    obtain ⟨hsame, hresult⟩ := SameCursors.of_seenAgain hagain
    exact ⟨none, hcanonical, fun h => absurd h hresult, .early hlock hsame⟩
  | exhausted hlock _ htripped hreject =>
    obtain ⟨hsame, hresult⟩ := SameCursors.of_rejectExhausted hreject
    exact ⟨none, hcanonical, fun h => absurd h hresult, .early hlock hsame⟩
  | cursorPoison hadmitted hpoison =>
    obtain ⟨evidence, events, hfinal, rfl, rfl⟩ := poisonEnvelope_ok hpoison
    exact ⟨_, hcanonical, nofun, admitted_move hadmitted (.of_finalizeProviderPoison hfinal)⟩
  | attachmentPoison hadmitted hclash hpoison =>
    obtain ⟨media, -, rfl⟩ := matchAttachments_ok hclash
    obtain ⟨evidence, events, hfinal, rfl, rfl⟩ := poisonEnvelope_ok hpoison
    exact ⟨_, hcanonical, nofun, admitted_move hadmitted (.of_finalizeProviderPoison hfinal)⟩
  | projected hadmitted hagree hproject =>
    obtain ⟨media, -, rfl⟩ := matchAttachments_ok hagree
    exact ⟨_, hcanonical, fun _ => rfl,
      admitted_move hadmitted (.of_eq (projectEnvelope_beside hproject).evidence)⟩

/-! ### Every call -/

inductive Turn (rt : Runtime) (ev ev' : EvidenceTables) : Call → Prop
  | same {call : Call} (same : SameCursors ev ev') : Turn rt ev ev' call
  | commit {now : Time} {ids : CommitIds} {record : EnvelopeRecord} {projection : Projection}
      {verdict : Option Verdict}
      (canonical : canonicalizeProjectionCursors rt record.projection = .ok projection)
      (move : CursorMove rt now (canonicalRecord record projection) ev ev' verdict) :
      Turn rt ev ev' (now, .commitEnvelope ids record)

theorem perform_turn {op : Operation} {reply : Reply}
    (h : perform rt now op db = .ok (reply, db')) : Turn rt db.evidence db'.evidence (now, op) := by
  cases perform_evidence h with
  | same hsame => exact .same (.of_eq hsame)
  | commit hcommit =>
    obtain ⟨projection, _, hcanonical, -, hmove⟩ := commitEnvelope_move hcommit
    exact .commit hcanonical hmove
  | acknowledge connectionId ids _ hacked =>
    rw [hacked]
    exact .same ⟨rfl, rfl⟩

theorem step_turn (rt : Runtime) (call : Call) (db : Database) :
    Turn rt db.evidence (step rt call db).2.evidence call := by
  refine step_rule rt call db (fun _ _ => .same (.refl _)) fun reply db' hperform => ?_
  exact perform_turn hperform

end MessagingGateway.Cursors
