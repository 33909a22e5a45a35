import MessagingGateway.Cursors.Moves

/-!
# Pagination cycles

Each retained fingerprint is an edge from the cursor a request was made with to
the cursor it returned. The window keeps the newest entries of a scope, and a base
is seeded without refreshing an older entry, so the entry of a cursor can be
evicted before that of its successor. A cursor that comes back in that interval
is taken for a new one and may close a cycle, which can then be walked without
spending an advance. When no cursor comes back behind a base before its retained
successors are gone, the edges have no cycle, a walk is free for at most as many
pages as the window has entries, and the budget bounds the rest.
-/

namespace MessagingGateway.Cursors

open Relational Domain Store Ingress Gateway Evidence

variable {rt : Runtime} {now : Time} {db db' : Database} {record : EnvelopeRecord}
  {ev ev' : EvidenceTables} {history grown : Table CursorHistoryRow.key}
  {connectionId scope : String} {r : CursorHistoryRow} {result : CommitResult}
  {projection : Projection} {verdict : Option Verdict}

/-! ### The entries of a scope -/

def inScope (connectionId scope : String) (r : CursorHistoryRow) : Bool :=
  r.connectionId == connectionId && r.cursorScope == scope

def entries (connectionId scope : String) (history : Table CursorHistoryRow.key) :
    List CursorHistoryRow :=
  history.select (inScope connectionId scope)

theorem mem_entries : r ∈ entries connectionId scope history ↔
    r ∈ history ∧ r.connectionId = connectionId ∧ r.cursorScope = scope := by
  simp [entries, inScope]

theorem entries_inj {s : CursorHistoryRow} (hr : r ∈ entries connectionId scope history)
    (hs : s ∈ entries connectionId scope history) (h : r.cursorDigest = s.cursorDigest) :
    r = s := by
  obtain ⟨hr, hrc, hrs⟩ := mem_entries.1 hr
  obtain ⟨hs, hsc, hss⟩ := mem_entries.1 hs
  refine Table.eq_of_key_eq hr hs ?_
  rw [CursorHistoryRow.key, CursorHistoryRow.key, hrc, hrs, hsc, hss, h]

def Edge (connectionId scope : String) (history : Table CursorHistoryRow.key) (a b : Bytes) :
    Prop :=
  ∃ r ∈ entries connectionId scope history, r.baseCursorDigest = some a ∧ r.cursorDigest = b

def Acyclic (connectionId scope : String) (history : Table CursorHistoryRow.key) : Prop :=
  ∀ digest, ¬ Relation.TransGen (Edge connectionId scope history) digest digest

/-- The entries fit the window, and an entry with a base is older than those that
follow it. An entry without one has no incoming edge. -/
structure Window (rows : List CursorHistoryRow) : Prop where
  ordered : ∀ r ∈ rows, ∀ s ∈ rows, s.baseCursorDigest = some r.cursorDigest →
    r.baseCursorDigest ≠ none → r.observedAt < s.observedAt
  bounded : rows.length ≤ cursorHistoryWindow

theorem Window.later_of_path (h : Window (entries connectionId scope history)) {a b : Bytes}
    (hpath : Relation.TransGen (Edge connectionId scope history) a b)
    (hr : r ∈ entries connectionId scope history) (hcursor : r.cursorDigest = a)
    (hbase : r.baseCursorDigest ≠ none) :
    ∃ s ∈ entries connectionId scope history, s.cursorDigest = b ∧ s.baseCursorDigest ≠ none ∧
      r.observedAt < s.observedAt := by
  induction hpath with
  | single hedge =>
    obtain ⟨s, hs, hsbase, hscursor⟩ := hedge
    rw [← hcursor] at hsbase
    exact ⟨s, hs, hscursor, by simp [hsbase], h.ordered r hr s hs hsbase hbase⟩
  | tail _ hedge ih =>
    obtain ⟨s, hs, hscursor, hsbase, hlater⟩ := ih
    obtain ⟨u, hu, hubase, hucursor⟩ := hedge
    rw [← hscursor] at hubase
    exact ⟨u, hu, hucursor, by simp [hubase], hlater.trans (h.ordered s hs u hu hubase hsbase)⟩

theorem Window.acyclic (h : Window (entries connectionId scope history)) :
    Acyclic connectionId scope history := by
  intro digest hcycle
  -- the last edge of the cycle is an entry of the cursor with a base
  obtain ⟨last, -, r, hr, hbase, hcursor⟩ := Relation.TransGen.tail'_iff.1 hcycle
  obtain ⟨s, hs, hscursor, -, hlater⟩ := h.later_of_path hcycle hr hcursor (by simp [hbase])
  rw [entries_inj hr hs (hcursor.trans hscursor.symm)] at hlater
  exact lt_irrefl _ hlater

/-! ### The window of a scope -/

def newest (connectionId scope : String) (history : Table CursorHistoryRow.key) :
    List CursorHistoryRow :=
  (orderByDesc CursorHistoryRow.observedAt CursorHistoryRow.cursorDigest
    (entries connectionId scope history)).take cursorHistoryWindow

theorem mem_prune : r ∈ pruneCursorHistory connectionId scope history ↔
    r ∈ history ∧
      (inScope connectionId scope r = true → r ∈ newest connectionId scope history) := by
  have hprune : pruneCursorHistory connectionId scope history = history.delete fun r =>
      inScope connectionId scope r && !(newest connectionId scope history).contains r := rfl
  simp [hprune]

theorem mem_entries_prune :
    r ∈ entries connectionId scope (pruneCursorHistory connectionId scope history) ↔
      r ∈ newest connectionId scope history := by
  rw [entries, Table.mem_select, mem_prune]
  constructor
  · rintro ⟨⟨-, hkept⟩, hin⟩
    exact hkept hin
  · intro h
    obtain ⟨hrow, hin⟩ := Table.mem_select.1 (mem_orderByDesc.1 (List.mem_of_mem_take h))
    exact ⟨⟨hrow, fun _ => h⟩, hin⟩

theorem entries_prune_of_ne {connectionId' scope' : String}
    (h : (connectionId', scope') ≠ (connectionId, scope)) :
    entries connectionId' scope' (pruneCursorHistory connectionId scope history) =
      entries connectionId' scope' history := by
  rw [entries, pruneCursorHistory, Table.select, Table.delete, List.filter_filter]
  refine List.filter_congr fun r _ => ?_
  by_cases hr : inScope connectionId' scope' r = true
  · have hne : (r.connectionId == connectionId && r.cursorScope == scope) = false := by
      simp only [inScope, Bool.and_eq_true, beq_iff_eq] at hr
      rw [Bool.eq_false_iff]
      intro hin
      simp only [Bool.and_eq_true, beq_iff_eq] at hin
      exact h (by rw [← hr.1, ← hr.2, hin.1, hin.2])
    simp [hr, hne]
  · simp [Bool.eq_false_iff.2 hr]

theorem prune_eq_self (h : (entries connectionId scope history).length ≤ cursorHistoryWindow) :
    pruneCursorHistory connectionId scope history = history := by
  have hwindow : ∀ r ∈ entries connectionId scope history, r ∈ newest connectionId scope history :=
    (subset_take_orderByDesc_iff (Table.nodup_select history _)).2 h
  have hkept : ∀ r ∈ history, r ∈ pruneCursorHistory connectionId scope history := fun r hr =>
    mem_prune.2 ⟨hr, fun hin => hwindow r (Table.mem_select.2 ⟨hr, hin⟩)⟩
  exact Table.delete_eq_self_iff.2 fun r hr => (Table.mem_delete.1 (hkept r hr)).2

theorem length_entries_prune_le :
    (entries connectionId scope (pruneCursorHistory connectionId scope history)).length ≤
      cursorHistoryWindow :=
  calc _ ≤ _ := (List.subperm_of_subset (Table.nodup_select _ _) fun _ h =>
        mem_entries_prune.1 h).length_le
    _ ≤ cursorHistoryWindow := List.length_take_le _ _

/-- An entry survives the pruning of its scope only with fewer newer entries than
the window holds. -/
theorem length_later_of_mem_prune
    (h : r ∈ entries connectionId scope (pruneCursorHistory connectionId scope history)) :
    ((entries connectionId scope history).filter fun s => r.observedAt < s.observedAt).length <
      cursorHistoryWindow :=
  length_later_lt_of_mem_take (Table.nodup_select _ _) (mem_entries_prune.1 h)

/-! ### An advance -/

def seeds (rt : Runtime) (now : Time) (record : EnvelopeRecord)
    (history : Table CursorHistoryRow.key) : List CursorHistoryRow :=
  match baseDigest rt record.projection with
  | none => []
  | some digest =>
    let seed : CursorHistoryRow :=
      ⟨record.connectionId, record.projection.cursorConversationId, digest, none, none, now⟩
    if history.find? seed.key = none then [seed] else []

theorem seeded_rows : (seeded rt now record history).rows =
    history.rows ++ seeds rt now record history := by
  unfold seeded seeds
  cases baseDigest rt record.projection with
  | none => simp
  | some digest =>
    rcases Table.insertIgnore_cases history (⟨record.connectionId,
      record.projection.cursorConversationId, digest, none, none, now⟩ : CursorHistoryRow) with
      ⟨hunseen, hinsert⟩ | ⟨hseen, hsame⟩
    · simp only [hunseen, if_true]
      exact (Table.insert_eq_some.1 hinsert).2
    · have hne := Option.isSome_iff_ne_none.1 hseen
      simp only [hne, if_false, hsame, List.append_nil]

theorem grown_rows
    (h : (seeded rt now record history).insert (entryOf rt now record) = some grown) :
    grown.rows = history.rows ++ (seeds rt now record history ++ [entryOf rt now record]) := by
  rw [(Table.insert_eq_some.1 h).2, seeded_rows, List.append_assoc]

theorem mem_seeds (h : r ∈ seeds rt now record history) :
    inScope record.connectionId record.projection.cursorConversationId r = true ∧
      baseDigest rt record.projection = some r.cursorDigest ∧
      r.baseCursorDigest = none ∧ r.observedAt = now := by
  unfold seeds at h
  cases hbase : baseDigest rt record.projection with
  | none => simp [hbase] at h
  | some digest =>
    simp only [hbase] at h
    split at h
    · obtain rfl := List.mem_singleton.1 h
      simp [inScope]
    · simp at h

theorem inScope_of_mem_added (h : r ∈ seeds rt now record history ++ [entryOf rt now record]) :
    inScope record.connectionId record.projection.cursorConversationId r = true := by
  rcases List.mem_append.1 h with h | h
  · exact (mem_seeds h).1
  · obtain rfl := List.mem_singleton.1 h
    simp [inScope, entryOf]

theorem entries_grown
    (h : (seeded rt now record history).insert (entryOf rt now record) = some grown) :
    entries record.connectionId record.projection.cursorConversationId grown =
      entries record.connectionId record.projection.cursorConversationId history ++
        (seeds rt now record history ++ [entryOf rt now record]) := by
  rw [entries, Table.select, grown_rows h, List.filter_append,
    List.filter_eq_self.2 fun r hr => inScope_of_mem_added hr]
  rfl

theorem entries_grown_of_ne
    (h : (seeded rt now record history).insert (entryOf rt now record) = some grown)
    (hne : (connectionId, scope) ≠ (record.connectionId, record.projection.cursorConversationId)) :
    entries connectionId scope grown = entries connectionId scope history := by
  have hnone : (seeds rt now record history ++ [entryOf rt now record]).filter
      (inScope connectionId scope) = [] := by
    refine List.filter_eq_nil_iff.2 fun r hr hin => hne ?_
    have hadded := inScope_of_mem_added hr
    simp only [inScope, Bool.and_eq_true, beq_iff_eq] at hin hadded
    rw [← hin.1, ← hin.2, hadded.1, hadded.2]
  rw [entries, Table.select, grown_rows h, List.filter_append, hnone, List.append_nil]
  rfl

def later (row : CursorHistoryRow) (history : Table CursorHistoryRow.key) : List CursorHistoryRow :=
  (entries row.connectionId row.cursorScope history).filter fun r => row.observedAt < r.observedAt

/-- A cursor comes back behind a base only when the window drops every entry that
still follows it. -/
def SuccessorsGone (rt : Runtime) (now : Time) (record : EnvelopeRecord)
    (history : Table CursorHistoryRow.key) : Prop :=
  baseDigest rt record.projection ≠ none →
    history.find? (record.connectionId, record.projection.cursorConversationId,
      rt.sha256 record.projection.candidate) = none →
    ∀ row ∈ entries record.connectionId record.projection.cursorConversationId history,
      row.baseCursorDigest = some (rt.sha256 record.projection.candidate) →
      cursorHistoryWindow ≤ (later row history).length + (seeds rt now record history).length + 1

instance (rt : Runtime) (now : Time) (record : EnvelopeRecord)
    (history : Table CursorHistoryRow.key) : Decidable (SuccessorsGone rt now record history) := by
  unfold SuccessorsGone
  infer_instance

theorem length_later_grown {row : CursorHistoryRow} (hclock : ∀ r ∈ history, r.observedAt < now)
    (hrow : row ∈ entries record.connectionId record.projection.cursorConversationId history)
    (h : (seeded rt now record history).insert (entryOf rt now record) = some grown) :
    ((entries record.connectionId record.projection.cursorConversationId grown).filter
        fun r => row.observedAt < r.observedAt).length =
      (later row history).length + (seeds rt now record history).length + 1 := by
  obtain ⟨hmem, hc, hs⟩ := mem_entries.1 hrow
  have hbefore := hclock row hmem
  have hadded : (seeds rt now record history ++ [entryOf rt now record]).filter
      (fun r => row.observedAt < r.observedAt) =
        seeds rt now record history ++ [entryOf rt now record] := by
    refine List.filter_eq_self.2 fun r hr => decide_eq_true ?_
    rcases List.mem_append.1 hr with hr | hr
    · rw [(mem_seeds hr).2.2.2]
      exact hbefore
    · obtain rfl := List.mem_singleton.1 hr
      exact hbefore.trans (Nat.lt_succ_self now)
  rw [entries_grown h, List.filter_append, hadded, later, hc, hs]
  simp [Nat.add_assoc]

theorem Window.advance
    (hwindow : Window (entries record.connectionId record.projection.cursorConversationId history))
    (hclock : ∀ r ∈ history, r.observedAt < now)
    (hfresh : history.find? (record.connectionId, record.projection.cursorConversationId,
      rt.sha256 record.projection.candidate) = none) (hgone : SuccessorsGone rt now record history)
    (hinsert : (seeded rt now record history).insert (entryOf rt now record) = some grown) :
    Window (entries record.connectionId record.projection.cursorConversationId
      (pruneCursorHistory record.connectionId record.projection.cursorConversationId grown)) := by
  refine ⟨fun r hr s hs hedge hbase => ?_, length_entries_prune_le⟩
  have hlater := length_later_of_mem_prune hs
  have hr := mem_orderByDesc.1 (List.mem_of_mem_take (mem_entries_prune.1 hr))
  have hs := mem_orderByDesc.1 (List.mem_of_mem_take (mem_entries_prune.1 hs))
  simp only [entries_grown hinsert, List.mem_append, List.mem_singleton] at hr hs
  have hold : ∀ {r}, r ∈ entries record.connectionId record.projection.cursorConversationId
      history → r.observedAt < now := fun h => hclock _ (mem_entries.1 h).1
  rcases hs with hs | hs | rfl
  · rcases hr with hr | hr | rfl
    · exact hwindow.ordered r hr s hs hedge hbase
    · exact absurd (mem_seeds hr).2.2.1 hbase
    · -- the new entry would be older than an entry that stays
      rw [length_later_grown hclock hs hinsert] at hlater
      exact absurd (hgone hbase hfresh s hs hedge) hlater.not_ge
  · rw [(mem_seeds hs).2.2.1] at hedge
    cases hedge
  · rcases hr with hr | hr | rfl
    · exact (hold hr).trans (Nat.lt_succ_self now)
    · rw [(mem_seeds hr).2.2.2]
      exact Nat.lt_succ_self now
    · -- a cursor that is its own base has been seeded, so it cannot be inserted
      have hunseen := (Table.insert_eq_some.1 hinsert).1
      have hself : baseDigest rt record.projection =
          some (rt.sha256 record.projection.candidate) := hedge
      rw [seeded, hself] at hunseen
      simp [Table.find?_insertIgnore, CursorHistoryRow.key, entryOf] at hunseen

/-! ### Runs -/

/-- The entries of every scope keep to its window, and no scope is over budget. -/
structure Orderly (ev : EvidenceTables) : Prop where
  window : ∀ connectionId scope, Window (entries connectionId scope ev.cursorHistory)
  budget : ∀ connectionId scope, advancesOf connectionId scope ev ≤ maxProviderCursorAdvances

theorem Orderly.congr (h : Orderly ev) (hsame : SameCursors ev ev') : Orderly ev' := by
  refine ⟨fun connectionId scope => ?_, fun connectionId scope => ?_⟩
  · rw [hsame.history]
    exact h.window connectionId scope
  · rw [advancesOf, hsame.budgets]
    exact h.budget connectionId scope

theorem CursorMove.entries_of_ne (h : CursorMove rt now record ev ev' verdict)
    (hne : (connectionId, scope) ≠ (record.connectionId, record.projection.cursorConversationId)) :
    entries connectionId scope ev'.cursorHistory = entries connectionId scope ev.cursorHistory := by
  cases h with
  | bare _ _ hsame => rw [hsame.history]
  | refused _ _ _ hhistory _ | exhausts _ _ _ _ hhistory _ => rw [hhistory]
  | replays _ _ _ _ _ hhistory _ => rw [hhistory, entries_prune_of_ne hne]
  | advances _ _ _ _ _ hinsert hhistory _ =>
    rw [hhistory, entries_prune_of_ne hne, entries_grown_of_ne hinsert hne]

theorem CursorMove.window (h : CursorMove rt now record ev ev' verdict)
    (hclock : ∀ r ∈ ev.cursorHistory, r.observedAt < now)
    (hgone : SuccessorsGone rt now record ev.cursorHistory)
    (hwindow : Window (entries record.connectionId record.projection.cursorConversationId
      ev.cursorHistory)) :
    Window (entries record.connectionId record.projection.cursorConversationId
      ev'.cursorHistory) := by
  cases h with
  | bare _ _ hsame => rwa [hsame.history]
  | refused _ _ _ hhistory _ | exhausts _ _ _ _ hhistory _ => rwa [hhistory]
  | replays _ _ _ _ _ hhistory _ => rwa [hhistory, prune_eq_self hwindow.bounded]
  | advances _ _ _ _ hfresh hinsert hhistory _ =>
    rw [hhistory]
    exact hwindow.advance hclock hfresh hgone hinsert

theorem CursorMove.length_entries_le (h : CursorMove rt now record ev ev' verdict)
    (hlength : (entries connectionId scope ev.cursorHistory).length ≤ cursorHistoryWindow) :
    (entries connectionId scope ev'.cursorHistory).length ≤ cursorHistoryWindow := by
  by_cases hscope : (connectionId, scope) =
      (record.connectionId, record.projection.cursorConversationId)
  · obtain ⟨rfl, rfl⟩ := Prod.mk.inj hscope
    cases h with
    | bare _ _ hsame => rwa [hsame.history]
    | refused _ _ _ hhistory _ | exhausts _ _ _ _ hhistory _ => rwa [hhistory]
    | replays _ _ _ _ _ hhistory _ | advances _ _ _ _ _ _ hhistory _ =>
      rw [hhistory]
      exact length_entries_prune_le
  · rwa [h.entries_of_ne hscope]

theorem CursorMove.budget (h : CursorMove rt now record ev ev' verdict)
    (hbudget : advancesOf connectionId scope ev ≤ maxProviderCursorAdvances) :
    advancesOf connectionId scope ev' ≤ maxProviderCursorAdvances := by
  cases h with
  | bare _ _ hsame => rwa [advancesOf, hsame.budgets]
  | refused _ _ _ _ hopen | replays _ _ _ _ _ _ hopen => rwa [advancesOf_open hopen]
  | exhausts _ _ _ _ _ hupdate => rwa [advancesOf_exhausted hupdate]
  | advances _ _ _ hroom _ _ _ hupdate =>
    rw [advancesOf_advanced hupdate]
    split
    · next hscope =>
        obtain ⟨rfl, rfl⟩ := Prod.mk.inj hscope
        exact hroom
    · exact hbudget

def Ticks (db : Database) (call : Call) : Prop :=
  ∀ row ∈ db.evidence.cursorHistory.rows, row.observedAt < call.1

/-- The cursor a call commits, if any, comes back only after its successors. -/
def ReturnsLate (rt : Runtime) (db : Database) : Call → Prop
  | (now, .commitEnvelope _ record) =>
    match canonicalizeProjectionCursors rt record.projection with
    | .ok projection =>
      SuccessorsGone rt now (canonicalRecord record projection) db.evidence.cursorHistory
    | .error _ => True
  | _ => True

instance (db : Database) (call : Call) : Decidable (Ticks db call) := by
  unfold Ticks
  infer_instance

instance (rt : Runtime) (db : Database) (call : Call) : Decidable (ReturnsLate rt db call) := by
  unfold ReturnsLate
  split
  · split <;> infer_instance
  · infer_instance

theorem step_orderly {call : Call} (hclock : Ticks db call) (hlate : ReturnsLate rt db call)
    (h : Orderly db.evidence) : Orderly (step rt call db).2.evidence := by
  have hturn := step_turn rt call db
  cases hturn with
  | same hsame => exact h.congr hsame
  | @commit now ids record projection result hcanonical hmove =>
    have hgone : SuccessorsGone rt now (canonicalRecord record projection)
        db.evidence.cursorHistory := by simpa only [ReturnsLate, hcanonical] using hlate
    refine ⟨fun connectionId scope => ?_, fun connectionId scope =>
      hmove.budget (h.budget connectionId scope)⟩
    by_cases hscope : (connectionId, scope) =
        (record.connectionId, projection.cursorConversationId)
    · obtain ⟨rfl, rfl⟩ := Prod.mk.inj hscope
      exact hmove.window hclock hgone (h.window _ _)
    · rw [hmove.entries_of_ne hscope]
      exact h.window connectionId scope

theorem step_observed {call : Call} {row : CursorHistoryRow}
    (h : row ∈ (step rt call db).2.evidence.cursorHistory) :
    row ∈ db.evidence.cursorHistory ∨ row.observedAt ≤ call.1 + 1 := by
  have hturn := step_turn rt call db
  cases hturn with
  | same hsame => exact .inl (hsame.history ▸ h)
  | @commit now ids record projection result _ hmove =>
    cases hmove with
    | bare _ _ hsame => exact .inl (hsame.history ▸ h)
    | refused _ _ _ hhistory _ | exhausts _ _ _ _ hhistory _ => exact .inl (hhistory ▸ h)
    | replays _ _ _ _ _ hhistory _ =>
      rw [hhistory] at h
      exact .inl (mem_prune.1 h).1
    | advances _ _ _ _ _ hinsert hhistory _ =>
      rw [hhistory] at h
      have hgrown := (mem_prune.1 h).1
      rw [Table.mem_def, grown_rows hinsert, List.mem_append, List.mem_append,
        List.mem_singleton] at hgrown
      rcases hgrown with hold | hseed | rfl
      · exact .inl hold
      · rw [(mem_seeds hseed).2.2.2]
        exact .inr (Nat.le_succ now)
      · exact .inr le_rfl

theorem allAllowed_ticks {calls : List Call}
    (hpast : ∀ row ∈ db.evidence.cursorHistory, ∀ call ∈ calls, row.observedAt < call.1)
    (hclock : calls.Pairwise fun call call' => call.1 + 1 < call'.1) :
    AllAllowed (step rt) Ticks calls db := by
  induction calls generalizing db with
  | nil => trivial
  | cons call calls ih =>
    obtain ⟨hlater, hclock⟩ := List.pairwise_cons.1 hclock
    refine ⟨fun row hrow => hpast row hrow call List.mem_cons_self, ih ?_ hclock⟩
    intro row hrow call' hcall'
    rcases step_observed hrow with hold | hnew
    · exact hpast row hold call' (List.mem_cons_of_mem call hcall')
    · exact hnew.trans_lt (hlater call' hcall')

/-! ### Page walks -/

/-- An envelope that carries a cursor of the scope is committed; the projection is
the one with canonical cursors. -/
def Commits (rt : Runtime) (connectionId scope : String) (projection : Projection)
    (db : Database) (result : CommitResult) (db' : Database) : Prop :=
  ∃ now ids record, commitEnvelope rt now ids record db = .ok (result, db') ∧
    canonicalizeProjectionCursors rt record.projection = .ok projection ∧
    record.connectionId = connectionId ∧ projection.cursorConversationId = scope ∧
    projection.candidate ≠ []

def Elsewhere (connectionId scope : String) : Operation → Prop
  | .commitEnvelope _ record =>
    (connectionId, scope) ≠ (record.connectionId, record.projection.cursorConversationId)
  | _ => True

/-- A walk through the pages of a scope that spends no advance: each page is
accepted and asked for with the cursor returned last. The cursors it has returned
are listed from the last one; calls outside the scope may come in between. -/
inductive FreeWalk (rt : Runtime) (connectionId scope : String) (db : Database) :
    List Bytes → Database → Prop
  | start : FreeWalk rt connectionId scope db [] db
  | page {cursors : List Bytes} {db₁ db₂ : Database} {projection : Projection}
      (walk : FreeWalk rt connectionId scope db cursors db₁)
      (commit : Commits rt connectionId scope projection db₁ .inserted db₂)
      (follows : ∀ last, cursors.head? = some last → projection.cursorBase = last)
      (free : advancesOf connectionId scope db₂.evidence =
        advancesOf connectionId scope db₁.evidence) :
      FreeWalk rt connectionId scope db (projection.candidate :: cursors) db₂
  | elsewhere {cursors : List Bytes} {db₁ : Database} {call : Call}
      (walk : FreeWalk rt connectionId scope db cursors db₁)
      (other : Elsewhere connectionId scope call.2) :
      FreeWalk rt connectionId scope db cursors (step rt call db₁).2

theorem Commits.move (h : Commits rt connectionId scope projection db result db') :
    ∃ now record verdict, record.connectionId = connectionId ∧ record.projection = projection ∧
      projection.cursorConversationId = scope ∧ projection.candidate ≠ [] ∧
      (result = .inserted → verdict = some .accepted) ∧
      CursorMove rt now record db.evidence db'.evidence verdict := by
  obtain ⟨now, ids, record, hcommit, hcanonical, hc, hs, hcarries⟩ := h
  obtain ⟨projection', verdict, hcanonical', haccepted, hmove⟩ := commitEnvelope_move hcommit
  obtain rfl : projection = projection' := Except.ok.inj (hcanonical.symm.trans hcanonical')
  exact ⟨now, canonicalRecord record projection, verdict, hc, rfl, hs, hcarries, haccepted, hmove⟩

/-- An accepted page has a retained cursor, or pays for a new one. -/
theorem Commits.accepted (h : Commits rt connectionId scope projection db .inserted db') :
    ((∃ r ∈ entries connectionId scope db.evidence.cursorHistory,
          r.cursorDigest = rt.sha256 projection.candidate ∧
          r.baseCursorDigest = baseDigest rt projection) ∧
        db'.evidence.cursorHistory =
          pruneCursorHistory connectionId scope db.evidence.cursorHistory) ∨
      advancesOf connectionId scope db.evidence < maxProviderCursorAdvances ∧
        advancesOf connectionId scope db'.evidence =
          advancesOf connectionId scope db.evidence + 1 := by
  obtain ⟨now, record, verdict, rfl, rfl, rfl, hcarries, haccepted, hmove⟩ := h.move
  cases hmove with
  | bare hbare => exact absurd hbare hcarries
  | refused _ hrefused | exhausts _ hrefused => exact absurd (haccepted rfl) hrefused
  | @replays stored _ _ _ hfound hbase hhistory =>
    have hkey := Table.key_of_find? hfound
    simp only [CursorHistoryRow.key, Prod.mk.injEq] at hkey
    exact .inl ⟨⟨stored, mem_entries.2 ⟨Table.mem_of_find? hfound,
      hkey.1, hkey.2.1⟩, hkey.2.2, hbase⟩, hhistory⟩
  | advances _ _ _ hroom _ _ _ hupdate =>
    refine .inr ⟨hroom, ?_⟩
    rw [advancesOf_advanced hupdate, if_pos rfl]

theorem Commits.of_free (h : Commits rt connectionId scope projection db .inserted db')
    (hfree : advancesOf connectionId scope db'.evidence = advancesOf connectionId scope db.evidence)
    (hwindow : Window (entries connectionId scope db.evidence.cursorHistory)) :
    entries connectionId scope db'.evidence.cursorHistory =
        entries connectionId scope db.evidence.cursorHistory ∧
      ∃ r ∈ entries connectionId scope db.evidence.cursorHistory,
        r.cursorDigest = rt.sha256 projection.candidate ∧
        r.baseCursorDigest = baseDigest rt projection := by
  rcases h.accepted with ⟨⟨r, hr, hcursor, hbase⟩, hhistory⟩ | ⟨-, hpaid⟩
  · rw [hhistory, prune_eq_self hwindow.bounded]
    exact ⟨rfl, r, hr, hcursor, hbase⟩
  · omega

theorem entries_elsewhere {call : Call} (h : Elsewhere connectionId scope call.2) :
    entries connectionId scope (step rt call db).2.evidence.cursorHistory =
      entries connectionId scope db.evidence.cursorHistory := by
  have hturn := step_turn rt call db
  cases hturn with
  | same hsame => rw [hsame.history]
  | commit hcanonical hmove =>
    obtain ⟨cursor, base, candidate, rfl⟩ := canonicalizeProjectionCursors_ok hcanonical
    exact hmove.entries_of_ne h

theorem FreeWalk.path {cursors : List Bytes} (h : FreeWalk rt connectionId scope db cursors db')
    (hwindow : Window (entries connectionId scope db.evidence.cursorHistory)) :
    entries connectionId scope db'.evidence.cursorHistory =
        entries connectionId scope db.evidence.cursorHistory ∧
      (∀ cursor ∈ cursors, cursor ≠ []) ∧
      (∀ digest ∈ cursors.map rt.sha256, digest ∈
        (entries connectionId scope db.evidence.cursorHistory).map CursorHistoryRow.cursorDigest) ∧
      (cursors.map rt.sha256).IsChain fun b a =>
        Edge connectionId scope db.evidence.cursorHistory a b := by
  induction h with
  | start => exact ⟨rfl, by simp, by simp, .nil⟩
  | @page cursors db₁ db₂ projection _ hcommit hfollows hfree ih =>
    obtain ⟨hsame, hcarry, hlisted, hchain⟩ := ih
    obtain ⟨hkept, r, hr, hcursor, hbase⟩ := hcommit.of_free hfree (hsame ▸ hwindow)
    rw [hsame] at hkept hr
    obtain ⟨-, -, -, -, -, -, -, hcarries⟩ := hcommit
    refine ⟨hkept, ?_, ?_, ?_⟩
    · simpa [hcarries] using hcarry
    · intro digest hdigest
      rcases List.mem_cons.1 hdigest with rfl | hdigest
      · exact List.mem_map.2 ⟨r, hr, hcursor⟩
      · exact hlisted digest hdigest
    · refine List.isChain_cons.2 ⟨fun previous hprevious => ?_, hchain⟩
      obtain ⟨last, hlast, rfl⟩ : ∃ last, cursors.head? = some last ∧ rt.sha256 last =
        previous := by
        simpa using hprevious
      have hne := hcarry last (List.mem_of_mem_head? hlast)
      refine ⟨r, hr, ?_, hcursor⟩
      rw [hbase, baseDigest, hfollows last hlast, if_neg hne]
  | elsewhere _ hother ih =>
    obtain ⟨hsame, hrest⟩ := ih
    exact ⟨(entries_elsewhere hother).trans hsame, hrest⟩

theorem FreeWalk.length_le {cursors : List Bytes}
    (h : FreeWalk rt connectionId scope db cursors db')
    (hwindow : Window (entries connectionId scope db.evidence.cursorHistory)) :
    cursors.length ≤ cursorHistoryWindow := by
  obtain ⟨-, -, hlisted, hchain⟩ := h.path hwindow
  have hpath := hchain.imp fun b a hedge =>
    (Relation.TransGen.single hedge :
      Relation.TransGen (Edge connectionId scope db.evidence.cursorHistory) a b)
  have htrans : IsTrans Bytes fun b a =>
      Relation.TransGen (Edge connectionId scope db.evidence.cursorHistory) a b :=
    ⟨fun _ _ _ hba hcb => hcb.trans hba⟩
  have hdistinct : (cursors.map rt.sha256).Nodup :=
    (List.isChain_iff_pairwise.1 hpath).imp fun {b a} hpath heq => by
      subst heq
      exact hwindow.acyclic _ hpath
  calc cursors.length = (cursors.map rt.sha256).length := (List.length_map _).symm
    _ ≤ ((entries connectionId scope db.evidence.cursorHistory).map
          CursorHistoryRow.cursorDigest).length :=
        (List.subperm_of_subset hdistinct hlisted).length_le
    _ ≤ cursorHistoryWindow := by
        rw [List.length_map]
        exact hwindow.bounded

/-! ### The breaker -/

/-- What the breaker is for: no cycle among the retained cursors of a scope, no
free walk beyond the window, no advance beyond the budget, no new cursor once it
is spent, and nothing at all once it is exhausted. -/
structure BreaksCycles (rt : Runtime) (connectionId scope : String) (db : Database) : Prop where
  acyclic : Acyclic connectionId scope db.evidence.cursorHistory
  walks : ∀ {cursors : List Bytes} {db' : Database},
    FreeWalk rt connectionId scope db cursors db' → cursors.length ≤ cursorHistoryWindow
  budget : advancesOf connectionId scope db.evidence ≤ maxProviderCursorAdvances
  spent : advancesOf connectionId scope db.evidence = maxProviderCursorAdvances →
    ∀ {projection : Projection} {db' : Database},
      Commits rt connectionId scope projection db .inserted db' →
        ∃ r ∈ entries connectionId scope db.evidence.cursorHistory,
          r.cursorDigest = rt.sha256 projection.candidate
  closes : closed connectionId scope db.evidence = true →
    ∀ {projection : Projection} {result : CommitResult} {db' : Database},
      Commits rt connectionId scope projection db result db' →
        result ≠ .inserted ∧ closed connectionId scope db'.evidence = true

theorem Commits.of_inserted (h : Commits rt connectionId scope projection db .inserted db') :
    (∃ r ∈ entries connectionId scope db.evidence.cursorHistory,
        r.cursorDigest = rt.sha256 projection.candidate ∧
        r.baseCursorDigest = baseDigest rt projection) ∨
      advancesOf connectionId scope db.evidence < maxProviderCursorAdvances := by
  rcases h.accepted with ⟨hfound, -⟩ | ⟨hroom, -⟩
  · exact .inl hfound
  · exact .inr hroom

theorem Commits.of_closed (h : Commits rt connectionId scope projection db result db')
    (hclosed : closed connectionId scope db.evidence = true) :
    result ≠ .inserted ∧ closed connectionId scope db'.evidence = true := by
  obtain ⟨now, record, verdict, rfl, rfl, rfl, hcarries, haccepted, hmove⟩ := h.move
  cases hmove with
  | bare hbare => exact absurd hbare hcarries
  | refused _ hrefused _ _ hopen =>
    exact ⟨fun h => hrefused (haccepted h), by rwa [closed_of_open hopen]⟩
  | exhausts _ hrefused _ _ _ hupdate =>
    obtain ⟨row, -, hafter⟩ := shown_update hupdate
    exact ⟨fun h => hrefused (haccepted h), by rw [closed_eq, hafter]; rfl⟩
  | replays _ _ hwithin | advances _ _ hwithin => simp [hclosed] at hwithin

def NoPages (db : Database) : Prop :=
  db.evidence.cursorHistory = ∅ ∧ db.evidence.cursorBudgets = ∅

theorem NoPages.orderly (h : NoPages db) : Orderly db.evidence := by
  refine ⟨fun connectionId scope => ?_, fun connectionId scope => ?_⟩
  · rw [h.1]
    exact ⟨by simp [mem_entries], Nat.zero_le _⟩
  · rw [advancesOf, h.2]
    exact Nat.zero_le _

/-- In every run in which no cursor comes back behind a base while the window
keeps an entry that follows it, the breaker breaks every cycle. -/
theorem cursor_cycles_broken {db₀ : Database} {trace : List (Call × Reply)} (hnew : NoPages db₀)
    (hrun : Run (step rt) (fun db call => Ticks db call ∧ ReturnsLate rt db call) db₀ trace db)
    (connectionId scope : String) : BreaksCycles rt connectionId scope db := by
  have horderly : Orderly db.evidence :=
    hrun.invariant (P := fun db => Orderly db.evidence)
      (fun _ _ hallowed h => step_orderly hallowed.1 hallowed.2 h) hnew.orderly
  have hwindow := horderly.window connectionId scope
  exact
    { acyclic := hwindow.acyclic
      walks := fun hwalk => hwalk.length_le hwindow
      budget := horderly.budget connectionId scope
      spent := fun hspent _ _ hcommit => by
        rcases hcommit.of_inserted with ⟨r, hr, hcursor, -⟩ | hroom
        · exact ⟨r, hr, hcursor⟩
        · exact absurd hspent hroom.ne
      closes := fun hclosed _ _ _ hcommit => hcommit.of_closed hclosed }

/-! ### A cursor that comes back early -/

def pagingRuntime : Runtime :=
  { Dispatch.phoneRuntime with
    cursorUnmarshal := fun bytes =>
      some ⟨"item", bytes.foldl (fun code b => 256 * code + b.toNat) 0⟩
    cursorMarshal := fun cursor => [UInt8.ofNat cursor.lastItemTimestamp.toNat] }

/-- The answer to a request for a page of conversations; cursor zero asks for the
first page. -/
def conversationPage (response base cursor : Nat) : Envelope where
  connectionId := "phone"
  ownerId := "worker"
  fencingToken := 1
  providerResponseId := "page-" ++ toString response
  raw := [1]
  projection :=
    { cursorBase := if base = 0 then [] else [UInt8.ofNat base]
      cursorCandidate := [UInt8.ofNat cursor]
      cursorSource := some .listConversations
      cursorConversationId := providerPageCursorID }

def pageIds (response : Nat) : CommitIds :=
  { Dispatch.commitIds with
    inboxId := "inbox-" ++ toString response
    eventOutboxId := fun index => "page-" ++ toString response ++ "-" ++ toString index }

def pageCall (response base cursor : Nat) : Call :=
  (10 * response, .commitEnvelope (pageIds response)
    ((conversationPage response base cursor).record pagingRuntime "tenant" (10 * response)))

def twoPages : List Call := [Dispatch.leaseCall 1, pageCall 1 0 1, pageCall 2 1 2]

theorem twoPages_acyclic :
    (entries "phone" providerPageCursorID (execute (step pagingRuntime) twoPages
        Dispatch.phoneDatabase).2.evidence.cursorHistory).length = 2 ∧
      BreaksCycles pagingRuntime "phone" providerPageCursorID
        (execute (step pagingRuntime) twoPages Dispatch.phoneDatabase).2 :=
  ⟨by decide +kernel, cursor_cycles_broken ⟨rfl, rfl⟩ (Run.of_inputs _ (by decide +kernel))
    "phone" providerPageCursorID⟩

/-- Whatever the clock and the provider do, a scope keeps at most a window of cursors
and accepts at most the budget of advances. -/
theorem cursor_tables_bounded {db₀ : Database} {trace : List (Call × Reply)} (hnew : NoPages db₀)
    (hrun : Run (step rt) (fun _ _ => True) db₀ trace db) (connectionId scope : String) :
    (entries connectionId scope db.evidence.cursorHistory).length ≤ cursorHistoryWindow ∧
      advancesOf connectionId scope db.evidence ≤ maxProviderCursorAdvances := by
  refine hrun.invariant (P := fun db =>
    (entries connectionId scope db.evidence.cursorHistory).length ≤ cursorHistoryWindow ∧
      advancesOf connectionId scope db.evidence ≤ maxProviderCursorAdvances) ?_
    ⟨(hnew.orderly.window _ _).bounded, hnew.orderly.budget _ _⟩
  intro db call _ h
  have hturn := step_turn rt call db
  cases hturn with
  | same hsame => exact ⟨hsame.history ▸ h.1, by rw [advancesOf, hsame.budgets]; exact h.2⟩
  | commit _ hmove => exact ⟨hmove.length_entries_le h.1, hmove.budget h.2⟩

theorem twoPages_bounded : (entries "phone" providerPageCursorID (execute (step pagingRuntime)
    twoPages Dispatch.phoneDatabase).2.evidence.cursorHistory).length ≤ cursorHistoryWindow :=
  (cursor_tables_bounded ⟨rfl, rfl⟩
    (Run.of_inputs twoPages ⟨trivial, trivial, trivial, trivial⟩) _ _).1

/-- The window fills up with cursors behind bases of their own, the first of which
is cursor 1. The page after it evicts it, and it comes back behind that page. -/
def ring : List Call :=
  Dispatch.leaseCall 1 :: ((List.range 32).map fun n => pageCall (n + 1) (2 * n + 1) (2 * n + 2)) ++
    [pageCall 33 1 65, pageCall 34 65 1]

theorem ring_entries :
    (((execute (step pagingRuntime) ring Dispatch.phoneDatabase).2.evidence.cursorHistory.select
        fun r => inScope "phone" providerPageCursorID r && 330 < r.observedAt).map
      fun r => (r.baseCursorDigest, r.cursorDigest)) =
    [(some (pagingRuntime.sha256 [1]), pagingRuntime.sha256 [65]),
      (some (pagingRuntime.sha256 [65]), pagingRuntime.sha256 [1])] := by
  decide +kernel

/-- The entry of a cursor is evicted before that of its successor, and the cursor
is taken for a new one. -/
theorem evicted_cursor_closes_cycle :
    ∃ trace db, NoPages Dispatch.phoneDatabase ∧
      Run (step pagingRuntime) Ticks Dispatch.phoneDatabase trace db ∧
      ¬ Acyclic "phone" providerPageCursorID db.evidence.cursorHistory := by
  refine ⟨_, _, ⟨rfl, rfl⟩, Run.of_inputs ring (allAllowed_ticks ?_ ?_), fun hacyclic => ?_⟩
  · exact fun row hrow => absurd hrow (Table.not_mem_empty row)
  · decide +kernel
  · have hedge : ∀ a b, (some a, b) ∈ [(some (pagingRuntime.sha256 [1]), pagingRuntime.sha256 [65]),
        (some (pagingRuntime.sha256 [65]), pagingRuntime.sha256 [1])] →
        Edge "phone" providerPageCursorID (execute (step pagingRuntime) ring
          Dispatch.phoneDatabase).2.evidence.cursorHistory a b := by
      intro a b hab
      rw [← ring_entries] at hab
      obtain ⟨r, hr, heq⟩ := List.mem_map.1 hab
      obtain ⟨hmem, hrow⟩ := Table.mem_select.1 hr
      obtain ⟨hbase, hcursor⟩ := Prod.mk.inj heq
      exact ⟨r, Table.mem_select.2 ⟨hmem, (Bool.and_eq_true _ _ ▸ hrow).1⟩, hbase, hcursor⟩
    have hout := hedge (pagingRuntime.sha256 [1]) (pagingRuntime.sha256 [65]) (by simp)
    have hback := hedge (pagingRuntime.sha256 [65]) (pagingRuntime.sha256 [1]) (by simp)
    exact hacyclic _ (.tail (.single hout) hback)

end MessagingGateway.Cursors
