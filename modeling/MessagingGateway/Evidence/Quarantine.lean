import MessagingGateway.Cursors.Moves

/-!
# What a quarantined response leaves behind

A response that is quarantined should leave evidence, an alert and nothing
else. The decision is taken in the middle of one transaction that commits either
way, after the line snapshot, after the cursor stage and inside the loop that
binds attachments, so what those stages wrote stays. This module says, stage by
stage, when that is nothing: a snapshot that repeats the stored lines, a cursor
whose fingerprint is known, and no attachment bound before the disputed one.
-/

namespace MessagingGateway.Evidence

open Relational Domain Ingress Store Cursors

variable {rt : Runtime} {now : Time} {record : EnvelopeRecord} {db db' : Database}
  {connectionId : String} {row : LineRow} {lines lines' : Table LineRow.lineId}
  {attachments : Attachments} {ids : CommitIds} {result : CommitResult}

/-! ### All or nothing -/

/-- What the cursor stage compares is as it was; a budget may have been opened or
exhausted. -/
structure CursorsKept (ev ev' : EvidenceTables) : Prop where
  history : ev'.cursorHistory = ev.cursorHistory
  advances : ∀ connectionId scope,
    advancesOf connectionId scope ev' = advancesOf connectionId scope ev

structure Publishes (type : String) (events events' : EventTables) : Prop where
  kept : ∀ row ∈ events.gatewayEvents, row ∈ events'.gatewayEvents
  new : ∀ row ∈ events'.gatewayEvents, row ∈ events.gatewayEvents ∨ row.eventType = type
  outboxKept : ∀ row ∈ events.eventOutbox, row ∈ events'.eventOutbox
  outboxNew : ∀ row ∈ events'.eventOutbox, row ∈ events.eventOutbox ∨
    ∃ event ∈ events'.gatewayEvents, event.eventId = row.eventId ∧ event.eventType = type

/-- The effect a quarantine may have: the evidence of the response, the
exhausted flag of a budget, and the alert. -/
structure Quarantined (db db' : Database) : Prop where
  tenantId : db'.tenantId = db.tenantId
  fleet : db'.fleet = db.fleet
  /-- lines, conversations and their committed cursors, messages and their
  history, attachments and their identities, media and fetch jobs -/
  content : db'.content = db.content
  dispatch : db'.dispatch = db.dispatch
  cursors : CursorsKept db.evidence db'.evidence
  events : Publishes EventType.inboxPoisoned.text db.events db'.events

/-! ### When nothing was written before the decision -/

def Tripped (record : EnvelopeRecord) (db : Database) : Prop :=
  record.projection.candidate ≠ [] ∧
    closed record.connectionId record.projection.cursorConversationId db.evidence = true

def LinesStored (record : EnvelopeRecord) (db : Database) : Prop :=
  record.projection.lineSnapshot = true →
    (∀ line ∈ record.projection.lines, ∀ row, lineRecord record.connectionId db line = .ok row →
      db.content.lines.find? line.id = some row) ∧
    ∀ row ∈ db.content.lines, row.connectionId = record.connectionId → row.active = true →
      row.lineId ∈ record.projection.lines.map (·.id)

/-- The cursor stage quarantines the record: its cursor came back from another
page, or is new and the budget is spent. -/
def CursorRefused (rt : Runtime) (record : EnvelopeRecord) (db : Database) : Prop :=
  record.projection.candidate ≠ [] ∧
    match retained rt record db.evidence with
    | some stored => stored.baseCursorDigest ≠ baseDigest rt record.projection
    | none => maxProviderCursorAdvances ≤
        advancesOf record.connectionId record.projection.cursorConversationId db.evidence

/-- The cursor of a record, if it has one, is known, and its scope holds no more
fingerprints than the window keeps. -/
def CursorKnown (rt : Runtime) (record : EnvelopeRecord) (db : Database) : Prop :=
  record.projection.candidate = [] ∨
    ((retained rt record db.evidence).isSome = true ∧
      (db.evidence.cursorHistory.select fun r => r.connectionId == record.connectionId &&
        r.cursorScope == record.projection.cursorConversationId).length ≤ cursorHistoryWindow)

def existingAttachment (record : EnvelopeRecord) (db : Database) (locator : MediaLocator) :
    Option ExistingAttachment :=
  lockExistingAttachment record.connectionId locator.providerMessageId
    (((projectedMessageOf record.projection locator.providerMessageId).map
      (·.providerTmpId)).getD "") locator.position db

/-- The place of a locator is taken by another identity, or by none. -/
def disputed (rt : Runtime) (record : EnvelopeRecord) (db : Database) (locator : MediaLocator) :
    Bool :=
  (existingAttachment record db locator).any fun existing =>
    existing.identity != attachmentIdentityDigest rt locator

def bindable (record : EnvelopeRecord) (db : Database) (locator : MediaLocator) : Bool :=
  (existingAttachment record db locator).any fun existing =>
    existing.identity == [] && existing.direction == .outbound && existing.state == .ready

def BindsNone (rt : Runtime) (record : EnvelopeRecord) (db : Database) : Prop :=
  ∀ locator, record.media.find? (disputed rt record db) = some locator →
    bindable record db locator = false

/-- A quarantine of the record, with canonical cursors, finds nothing written. -/
def Undisturbed (rt : Runtime) (record : EnvelopeRecord) (db : Database) : Prop :=
  Tripped record db ∨
    (LinesStored record db ∧
      (CursorRefused rt record db ∨ (CursorKnown rt record db ∧ BindsNone rt record db)))

/-! ### Lines -/

theorem lineRecord_lineId {line : ProjectedLine} (h : lineRecord connectionId db line = .ok row) :
    row.lineId = line.id := by
  simp only [lineRecord, bind_ok, pure_ok] at h
  obtain ⟨-, -, -, -, rfl⟩ := h
  rfl

theorem upsertLine_ok (h : upsertLine row lines = .ok lines') :
    lines' = upsert lines row (fun r => { row with lineId := r.lineId }) := by
  simp only [upsertLine, bind_ok, pure_ok] at h
  obtain ⟨-, -, -, -, rfl⟩ := h
  rfl

theorem find?_upsertLine (h : upsertLine row lines = .ok lines') (k : String) :
    lines'.find? k = if row.lineId = k then some row else lines.find? k := by
  rw [upsertLine_ok h, find?_upsert]
  split
  case isTrue hk =>
    cases hrow : lines.find? k with
    | none => rfl
    | some r =>
      have hid : r.lineId = row.lineId := (Table.key_of_find? hrow).trans hk.symm
      simp [hid]
  case isFalse => rfl

theorem upsertLine_eq_self (h : upsertLine row lines = .ok lines')
    (hstored : lines.find? row.lineId = some row) : lines' = lines := by
  rw [upsertLine_ok h, upsert, if_pos (by simp [hstored])]
  refine Table.update_eq_self fun r hr hkey => ?_
  have hrow : r = row := Table.eq_of_key_eq hr (Table.mem_of_find? hstored) (by simpa using hkey)
  rw [hrow]

variable {rows : List LineRow} {operation : String} {event : EventRow} {reason : PoisonReason}
  {checked : Database}

theorem find?_upsertLines (h : upsertLines rows lines = .ok lines')
    (hids : (rows.map (·.lineId)).Nodup) :
    (∀ row ∈ rows, lines'.find? row.lineId = some row) ∧
      ∀ k ∉ rows.map (·.lineId), lines'.find? k = lines.find? k := by
  induction rows generalizing lines with
  | nil =>
    rw [upsertLines, pure_ok] at h
    subst h
    exact ⟨by simp, fun _ _ => rfl⟩
  | cons row rows ih =>
    simp only [upsertLines, bind_ok] at h
    obtain ⟨lines₁, hrow, hrest⟩ := h
    rw [List.map_cons, List.nodup_cons] at hids
    obtain ⟨hstored, hother⟩ := ih hrest hids.2
    constructor
    · intro r hr
      rcases List.mem_cons.1 hr with rfl | hr
      · rw [hother _ hids.1, find?_upsertLine hrow, if_pos rfl]
      · exact hstored r hr
    · intro k hk
      rw [List.map_cons, List.mem_cons, not_or] at hk
      rw [hother k hk.2, find?_upsertLine hrow, if_neg (Ne.symm hk.1)]

theorem upsertLines_eq_self (h : upsertLines rows lines = .ok lines')
    (hstored : ∀ row ∈ rows, lines.find? row.lineId = some row) : lines' = lines := by
  induction rows with
  | nil =>
    rw [upsertLines, pure_ok] at h
    exact h.symm
  | cons row rows ih =>
    simp only [upsertLines, bind_ok] at h
    obtain ⟨lines₁, hrow, hrest⟩ := h
    have hsame := upsertLine_eq_self hrow (hstored row List.mem_cons_self)
    subst hsame
    exact ih hrest fun r hr => hstored r (List.mem_cons_of_mem row hr)

theorem validateLines_ok {lineIds participantIds : List String} {lines : List ProjectedLine}
    (h : validateLines lineIds participantIds lines = .ok ()) :
    (lines.map (·.id)).Nodup ∧ ∀ line ∈ lines, line.id ∉ lineIds := by
  induction lines generalizing lineIds participantIds with
  | nil => exact ⟨List.nodup_nil, by simp⟩
  | cons line lines ih =>
    simp only [validateLines, bind_ok, require_ok] at h
    obtain ⟨-, -, -, -, -, hnew, -, -, hrest⟩ := h
    obtain ⟨hnodup, hapart⟩ := ih hrest
    have hnew : line.id ∉ lineIds := by simpa using hnew
    refine ⟨List.nodup_cons.2 ⟨?_, hnodup⟩, ?_⟩
    · intro hmem
      obtain ⟨other, hother, heq⟩ := List.mem_map.1 hmem
      exact hapart other hother (heq ▸ List.mem_cons_self)
    · intro other hother
      rcases List.mem_cons.1 hother with rfl | hother
      · exact hnew
      · exact fun hmem => hapart other hother (List.mem_cons_of_mem line.id hmem)

theorem mem_mapM {α β : Type} {f : α → Tx β} {items : List α} {results : List β}
    (h : items.mapM f = .ok results) {b : β} : b ∈ results ↔ ∃ a ∈ items, f a = .ok b := by
  induction items generalizing results with
  | nil =>
    rw [List.mapM_nil, pure_ok] at h
    simp [← h]
  | cons item items ih =>
    simp only [List.mapM_cons, bind_ok, pure_ok] at h
    obtain ⟨result, hresult, rest, hrest, rfl⟩ := h
    rw [List.mem_cons, ih hrest, List.exists_mem_cons_iff, hresult, Except.ok.injEq, eq_comm]

theorem lineRecords_ids {lines : List ProjectedLine}
    (h : lines.mapM (lineRecord connectionId db) = .ok rows) :
    rows.map (·.lineId) = lines.map (·.id) := by
  induction lines generalizing rows with
  | nil =>
    rw [List.mapM_nil, pure_ok] at h
    rw [← h]
    rfl
  | cons line lines ih =>
    simp only [List.mapM_cons, bind_ok, pure_ok] at h
    obtain ⟨row, hrow, rest, hrest, rfl⟩ := h
    rw [List.map_cons, List.map_cons, lineRecord_lineId hrow, ih hrest]

theorem replaceLines_kept_iff (hids : (record.projection.lines.map (·.id)).Nodup)
    (h : replaceLines record db = .ok db') :
    db'.content.lines = db.content.lines ↔ LinesStored record db := by
  unfold replaceLines at h
  unfold LinesStored
  split at h
  case isFalse hnone =>
    rw [pure_ok] at h
    simp [h, hnone]
  case isTrue hsnapshot =>
    simp only [bind_ok, pure_ok] at h
    obtain ⟨rows, hrows, -, -, lines, hlines, rfl⟩ := h
    have hlineIds := lineRecords_ids hrows
    rw [← hlineIds] at hids ⊢
    obtain ⟨hstored, hother⟩ := find?_upsertLines hlines hids
    have hretired : ∀ k, (retireLines record.connectionId (rows.map (·.lineId)) lines).find? k =
        (lines.find? k).map fun r => if r.connectionId == record.connectionId && r.active &&
          !(rows.map (·.lineId)).contains r.lineId then { r with active := false } else r :=
      fun k => Table.find?_update k
    simp only [hsnapshot, true_implies, Database.setLines]
    constructor
    · intro hsame
      rw [hsame] at hretired
      constructor
      · intro line hline row hrow
        have hmem : row ∈ rows := (mem_mapM hrows).2 ⟨line, hline, hrow⟩
        have hin : (rows.map (·.lineId)).contains row.lineId = true := by
          simpa using ⟨row, hmem, rfl⟩
        rw [← lineRecord_lineId hrow, hretired, hstored row hmem, Option.map_some, hin]
        simp only [Bool.not_true, Bool.and_false, Bool.false_eq_true, if_false]
      · intro row hrow hconnection hactive
        by_contra hgone
        have hfound := hretired row.lineId
        have hkey : db.content.lines.find? row.lineId = some row := Table.find?_of_mem hrow
        rw [hother _ hgone, hkey, Option.map_some,
          if_pos (by simpa [hconnection, hactive] using hgone),
          Option.some.injEq] at hfound
        rw [hfound] at hactive
        cases hactive
    · rintro ⟨hkept, hcurrent⟩
      have hsame : lines = db.content.lines := upsertLines_eq_self hlines fun row hrow => by
        obtain ⟨line, hline, hrecord⟩ := (mem_mapM hrows).1 hrow
        rw [lineRecord_lineId hrecord]
        exact hkept line hline row hrecord
      rw [hsame]
      refine Table.update_eq_self fun row hrow hselected => ?_
      simp only [Bool.and_eq_true, beq_iff_eq, Bool.not_eq_true', List.contains_eq_mem,
        decide_eq_false_iff_not] at hselected
      exact absurd (hcurrent row hrow hselected.1.1 hselected.1.2) hselected.2

/-! ### The cursor stage -/

theorem pruneCursorHistory_kept_iff {scope : String} {history : Table CursorHistoryRow.key} :
    pruneCursorHistory connectionId scope history = history ↔
      (history.select fun r => r.connectionId == connectionId && r.cursorScope == scope).length ≤
        cursorHistoryWindow := by
  rw [pruneCursorHistory, Table.delete_eq_self_iff,
    ← subset_take_orderByDesc_iff (f := CursorHistoryRow.observedAt)
      (g := CursorHistoryRow.cursorDigest) (history.nodup_select _)]
  constructor
  · intro h r hr
    obtain ⟨hr, hscope⟩ := Table.mem_select.1 hr
    simpa [hscope] using h r hr
  · intro h r hr
    by_cases hscope : (r.connectionId == connectionId && r.cursorScope == scope) = true
    · simpa [hscope] using h r (Table.mem_select.2 ⟨hr, hscope⟩)
    · simp [hscope]

theorem lockCursorBudget_tripped {budget : Option CursorBudgetRow}
    (h : lockCursorBudget record db = .ok (budget, db')) :
    budget.any (fun r => r.exhausted) = true ↔ Tripped record db := by
  rcases lockCursorBudget_cases h with ⟨hbare, rfl, -⟩ | ⟨hcarries, -, row, rfl, -, hrow⟩
  · simp [Tripped, hbare]
  · simp [Tripped, hcarries, hrow]

theorem CursorsKept.trans {ev ev' ev'' : EvidenceTables} (h : CursorsKept ev ev')
    (h' : CursorsKept ev' ev'') : CursorsKept ev ev'' :=
  ⟨h'.history.trans h.history, fun c scope => (h'.advances c scope).trans (h.advances c scope)⟩

theorem lockCursorBudget_kept {budget : Option CursorBudgetRow}
    (h : lockCursorBudget record db = .ok (budget, db')) :
    CursorsKept db.evidence db'.evidence := by
  rcases lockCursorBudget_cases h with ⟨-, -, rfl⟩ | ⟨-, rfl, -⟩
  · exact ⟨rfl, fun _ _ => rfl⟩
  · exact ⟨rfl, fun _ _ => advancesOf_open rfl⟩

theorem CursorsKept.of_same {ev ev' : EvidenceTables} (h : SameCursors ev ev') :
    CursorsKept ev ev' :=
  ⟨h.history, fun _ _ => by rw [advancesOf, h.budgets, advancesOf]⟩

/-- The decision of the cursor stage, and when it leaves no trace. -/
def Decided (rt : Runtime) (record : EnvelopeRecord) (db : Database) (verdict : Verdict)
    (ev' : EvidenceTables) : Prop :=
  (∃ reason, verdict = .poisoned reason ∧ CursorRefused rt record db ∧
      CursorsKept db.evidence ev') ∨
    (verdict = .accepted ∧ ¬ CursorRefused rt record db ∧
      (CursorsKept db.evidence ev' ↔ CursorKnown rt record db))

theorem decided_of_move {verdict : Verdict} {ev' : EvidenceTables}
    (h : CursorMove rt now record db.evidence ev' (some verdict)) :
    Decided rt record db verdict ev' := by
  have hpoisoned : some verdict ≠ some .accepted → ∃ reason, verdict = .poisoned reason := by
    cases verdict with
    | accepted => exact fun h => absurd rfl h
    | poisoned reason => exact fun _ => ⟨reason, rfl⟩
  cases h with
  | bare hbare hunpoisoned hsame =>
    have haccepted : verdict = .accepted := by
      by_contra hnot
      obtain ⟨reason, rfl⟩ := hpoisoned (fun h => hnot (Option.some.inj h))
      exact hunpoisoned reason rfl
    exact .inr ⟨haccepted, fun hrefused => hrefused.1 hbare, fun _ => .inl hbare,
      fun _ => .of_same hsame⟩
  | refused hcarries hrefused hforks hhistory hopen =>
    obtain ⟨reason, rfl⟩ := hpoisoned hrefused
    rcases hforks with hnone | ⟨stored, hfound, hbase⟩
    · cases hnone
    · refine .inl ⟨reason, rfl, ⟨hcarries, ?_⟩, hhistory, fun _ _ => advancesOf_open hopen⟩
      rw [hfound]
      exact hbase
  | exhausts hcarries hrefused hspent hfresh hhistory hupdate =>
    obtain ⟨reason, rfl⟩ := hpoisoned hrefused
    refine .inl ⟨reason, rfl, ⟨hcarries, ?_⟩, hhistory, fun _ _ => advancesOf_exhausted hupdate⟩
    rw [hfresh]
    exact hspent
  | replays hcarries haccepted _ hfound hbase hhistory hopen =>
    refine .inr ⟨Option.some.inj haccepted, ?_, ?_⟩
    · rintro ⟨-, hrefused⟩
      rw [hfound] at hrefused
      exact hrefused hbase
    · rw [CursorKnown, hfound, ← pruneCursorHistory_kept_iff, ← hhistory]
      simp only [hcarries, false_or, Option.isSome_some, true_and]
      exact ⟨fun hkept => hkept.history, fun hkept => ⟨hkept, fun _ _ => advancesOf_open hopen⟩⟩
  | advances hcarries haccepted _ hroom hfresh _ _ hupdate =>
    refine .inr ⟨Option.some.inj haccepted, ?_, fun hkept => ?_, ?_⟩
    · rintro ⟨-, hrefused⟩
      rw [hfresh] at hrefused
      exact absurd hroom (Nat.not_lt.2 hrefused)
    · -- a new fingerprint is paid for
      have hpaid := hkept.advances record.connectionId record.projection.cursorConversationId
      rw [advancesOf_advanced hupdate, if_pos rfl] at hpaid
      omega
    · rintro (hnone | ⟨hknown, -⟩)
      · exact absurd hnone hcarries
      · rw [hfresh] at hknown
        cases hknown

/-! ### Attachments -/

def Bound (db : Database) (place : String × Int) : Prop :=
  ∃ association, db.content.messageMedia.find? place = some association ∧
    association.providerIdentityDigest ≠ none

theorem bindOutboundAttachment_find? {providerMessageId providerTmpId : String} {position : Int}
    {identity : Bytes}
    (h : bindOutboundAttachment connectionId providerMessageId providerTmpId position identity db =
      .ok db') :
    ∃ picked : MessageMediaRow → Bool,
      (∀ r, picked r = true → r.providerIdentityDigest = none) ∧
      (∃ r ∈ db.content.messageMedia, picked r = true) ∧
      ∀ place, db'.content.messageMedia.find? place =
        (db.content.messageMedia.find? place).map fun r =>
          if picked r then { r with providerIdentityDigest := some identity } else r := by
  simp only [bindOutboundAttachment, bind_ok, pure_ok, require_ok, beq_iff_eq] at h
  obtain ⟨-, hone, rfl⟩ := h
  obtain ⟨association, hselected⟩ := List.length_eq_one_iff.1 hone
  obtain ⟨hmem, hpicked⟩ := Table.mem_select.1 (hselected ▸ List.mem_singleton_self association)
  refine ⟨fun r => r.position == position && r.providerIdentityDigest == none &&
    (db.content.messages.find? r.messageId).any fun m =>
      m.named connectionId providerMessageId providerTmpId,
    fun r hr => ?_, ⟨association, hmem, hpicked⟩, fun place => ?_⟩
  · simp only [Bool.and_eq_true, beq_iff_eq] at hr
    exact hr.1.2
  · rw [Database.setMessageMedia, Table.find?_update]

theorem bindOutboundAttachment_bound {providerMessageId providerTmpId : String} {position : Int}
    {identity : Bytes}
    (h : bindOutboundAttachment connectionId providerMessageId providerTmpId position identity db =
      .ok db') :
    (∀ place, Bound db place → Bound db' place) ∧ ∃ place, Bound db' place ∧ ¬ Bound db place := by
  obtain ⟨picked, hfree, ⟨r, hr, hpicked⟩, hfind⟩ := bindOutboundAttachment_find? h
  constructor
  · rintro place ⟨association, hfound, hbound⟩
    have hkept : ¬ picked association = true := fun hp => hbound (hfree association hp)
    exact ⟨association, by rw [hfind, hfound, Option.map_some, if_neg hkept], hbound⟩
  · have hstored : db.content.messageMedia.find? r.key = some r := Table.find?_of_mem hr
    refine ⟨r.key, ⟨_, by rw [hfind, hstored, Option.map_some, if_pos hpicked], by simp⟩, ?_⟩
    rintro ⟨other, hother, hbound⟩
    rw [hstored, Option.some.injEq] at hother
    exact hbound (hother ▸ hfree r hpicked)

theorem matchAttachments_bound {locators : List MediaLocator} {result : Option Attachments}
    (h : matchAttachments rt record locators attachments db = .ok (result, db'))
    {place : String × Int} (hbound : Bound db place) : Bound db' place := by
  induction locators generalizing attachments db with
  | nil =>
    simp only [matchAttachments, pure_pair] at h
    exact h.2 ▸ hbound
  | cons locator locators ih =>
    simp only [matchAttachments] at h
    split at h
    · exact ih h hbound
    · split at h
      · exact ih h hbound
      · split at h
        · simp only [bind_ok] at h
          obtain ⟨bound, hbind, h⟩ := h
          exact ih h ((bindOutboundAttachment_bound hbind).1 place hbound)
        · rw [pure_pair] at h
          exact h.2 ▸ hbound

/-- An identity conflict leaves the associations as they were exactly when the
first disputed place is the conflict. -/
theorem matchAttachments_kept_iff {locators : List MediaLocator}
    (h : matchAttachments rt record locators attachments db = .ok (none, db')) :
    db'.content.messageMedia = db.content.messageMedia ↔
      ∀ locator, locators.find? (disputed rt record db) = some locator →
        bindable record db locator = false := by
  induction locators generalizing attachments with
  | nil =>
    simp only [matchAttachments, pure_pair, reduceCtorEq, false_and] at h
  | cons locator locators ih =>
    simp only [matchAttachments] at h
    rw [List.find?_cons]
    split at h
    case h_1 hfree =>
      have hagreed : disputed rt record db locator = false := by
        simp only [disputed, existingAttachment, hfree, Option.any_none]
      rw [hagreed]
      exact ih h
    case h_2 existing hexisting =>
      have hplace : existingAttachment record db locator = some existing := hexisting
      split at h
      case isTrue hsame =>
        have hagreed : disputed rt record db locator = false := by
          simp [disputed, hplace, hsame]
        rw [hagreed]
        exact ih h
      case isFalse hdiffers =>
        have hdisputed : disputed rt record db locator = true := by
          simp [disputed, hplace, hdiffers]
        simp only [hdisputed, Option.some.injEq, forall_eq']
        split at h
        case isTrue hopen =>
          simp only [bind_ok] at h
          obtain ⟨bound, hbind, h⟩ := h
          obtain ⟨-, place, hplaced, hunplaced⟩ := bindOutboundAttachment_bound hbind
          have hbindable : bindable record db locator = true := by simp [bindable, hplace, hopen]
          rw [hbindable]
          refine ⟨fun hkept => ?_, by rintro ⟨⟩⟩
          obtain ⟨association, hfound, hbound⟩ := matchAttachments_bound h hplaced
          exact absurd ⟨association, hkept ▸ hfound, hbound⟩ hunplaced
        case isFalse hclash =>
          simp only [pure_pair, true_and] at h
          have hfixed : bindable record db locator = false := by
            simpa [bindable, hplace, and_assoc] using hclash
          subst h
          simp [hfixed]

/-! ### The alert -/

namespace Publishes

variable {type : String} {events events' events'' : EventTables}

theorem refl (type : String) (events : EventTables) : Publishes type events events :=
  ⟨fun _ h => h, fun _ h => .inl h, fun _ h => h, fun _ h => .inl h⟩

theorem trans (h : Publishes type events events') (h' : Publishes type events' events'') :
    Publishes type events events'' where
  kept row hrow := h'.kept row (h.kept row hrow)
  new row hrow := by
    rcases h'.new row hrow with hrow | hrow
    · exact h.new row hrow
    · exact .inr hrow
  outboxKept row hrow := h'.outboxKept row (h.outboxKept row hrow)
  outboxNew row hrow := by
    rcases h'.outboxNew row hrow with hrow | hrow
    · rcases h.outboxNew row hrow with hrow | ⟨event, hevent, hlinked⟩
      · exact .inl hrow
      · exact .inr ⟨event, h'.kept event hevent, hlinked⟩
    · exact .inr hrow

end Publishes

theorem insertGatewayEvent_publishes (h : db.insertGatewayEvent rt operation event = .ok db') :
    Publishes event.eventType db.events db'.events ∧ event ∈ db'.events.gatewayEvents := by
  simp only [Database.insertGatewayEvent, bind_ok, pure_ok, orFail_ok] at h
  obtain ⟨-, -, events, hevents, rfl⟩ := h
  obtain ⟨hinsert, houtbox⟩ := insertEvent_eq_some hevents
  refine ⟨⟨fun row hrow => (Table.mem_insert hinsert).2 (.inl hrow), fun row hrow => ?_,
    fun row hrow => houtbox ▸ hrow, fun row hrow => .inl (houtbox ▸ hrow)⟩,
    (Table.mem_insert hinsert).2 (.inr rfl)⟩
  rcases (Table.mem_insert hinsert).1 hrow with hrow | rfl
  · exact .inl hrow
  · exact .inr rfl

theorem insertOutboxRow_publishes {row : OutboxRow}
    (hevent : event ∈ db.events.gatewayEvents) (hid : event.eventId = row.eventId)
    (h : db.insertOutboxRow operation row = .ok db') :
    Publishes event.eventType db.events db'.events ∧ event ∈ db'.events.gatewayEvents := by
  simp only [Database.insertOutboxRow, bind_ok, pure_ok, orFail_ok] at h
  obtain ⟨-, -, events, hevents, rfl⟩ := h
  obtain ⟨hgateway, hinsert⟩ := insertOutbox_eq_some hevents
  refine ⟨⟨fun r hr => hgateway ▸ hr, fun r hr => .inl (hgateway ▸ hr),
    fun r hr => (Table.mem_insert hinsert).2 (.inl hr), fun r hr => ?_⟩, hgateway ▸ hevent⟩
  rcases (Table.mem_insert hinsert).1 hr with hr | rfl
  · exact .inl hr
  · exact .inr ⟨event, hgateway ▸ hevent, hid, rfl⟩

theorem publish_publishes {operation' outboxId : String}
    {stored : Database} (hevent : db.insertGatewayEvent rt operation event = .ok stored)
    (houtbox : stored.insertEventOutbox operation' outboxId event.eventId = .ok db') :
    Publishes event.eventType db.events db'.events := by
  simp only [Database.insertEventOutbox, bind_ok] at houtbox
  obtain ⟨webhook, hwebhook, hkafka⟩ := houtbox
  obtain ⟨hstored, hmem⟩ := insertGatewayEvent_publishes hevent
  obtain ⟨hfirst, hmem⟩ := insertOutboxRow_publishes hmem rfl hwebhook
  obtain ⟨hsecond, -⟩ := insertOutboxRow_publishes hmem rfl hkafka
  exact (hstored.trans hfirst).trans hsecond

/-! ### Quarantine -/

/-- The end of every quarantine: from a database that differs from the one found
in its reservations, inbox and cursor tables only, the effect is a quarantine
exactly when the cursors are as they were found. -/
theorem poisonEnvelope_quarantined_iff {labels : PoisonLabels}
    (found : Database) (h : poisonEnvelope rt now labels ids record reason db = .ok (result, db'))
    (htenant : db.tenantId = found.tenantId) (hfleet : db.fleet = found.fleet)
    (hdispatch : db.dispatch = found.dispatch) (hevents : db.events = found.events) :
    Quarantined found db' ↔ db.content = found.content ∧
      CursorsKept found.evidence db.evidence := by
  simp only [poisonEnvelope, bind_ok, pure_pair, mapError_ok] at h
  obtain ⟨evidence, hfinal, body, -, stored, hevent, published, houtbox, -, rfl⟩ := h
  have hfinal := CursorsKept.of_same (.of_finalizeProviderPoison hfinal)
  have hpublished := publish_publishes hevent houtbox
  obtain ⟨events, rfl⟩ := (insertGatewayEvent_ok hevent).trans (insertEventOutbox_ok houtbox)
  constructor
  · intro h
    exact ⟨h.content, hfinal.history.symm.trans h.cursors.history,
      fun c scope => (hfinal.advances c scope).symm.trans (h.cursors.advances c scope)⟩
  · rintro ⟨hcontent, hkept⟩
    exact ⟨htenant, hfleet, hcontent, hdispatch, hkept.trans hfinal, hevents ▸ hpublished⟩

/-- What the stages up to the cursor stage leave for the decision that follows. -/
structure Prepared (rt : Runtime) (record : EnvelopeRecord) (db : Database) (verdict : Verdict)
    (db' : Database) : Prop where
  untripped : ¬ Tripped record db
  shape : ∃ lines evidence, db' =
    { db with content := (db.setLines lines).content, evidence := evidence }
  lines : db'.content.lines = db.content.lines ↔ LinesStored record db
  cursor : Decided rt record db verdict db'.evidence

theorem Admitted.prepared {verdict : Verdict} (hids : (record.projection.lines.map (·.id)).Nodup)
    (h : Admitted rt now ids record db verdict db') : Prepared rt record db verdict db' := by
  have hdecided := decided_of_move (admitted_move h (.refl _))
  obtain ⟨budget, locked, stored, lined, hlock, -, hopen, hinsert, hlines, hcursor⟩ := h
  have htripped := lockCursorBudget_tripped hlock
  obtain ⟨budgets, rfl⟩ := lockCursorBudget_ok hlock
  obtain ⟨evidence, -, rfl⟩ := insertInbox_ok hinsert
  have hkept := replaceLines_kept_iff hids hlines
  obtain ⟨lines, rfl⟩ := replaceLines_ok hlines
  obtain ⟨budgets', history, rfl⟩ := advanceCursor_ok hcursor
  refine ⟨fun h => ?_, ⟨lines, _, rfl⟩, hkept, hdecided⟩
  rw [htripped.2 h] at hopen
  cases hopen

theorem content_eq_iff {media : Table MessageMediaRow.key} :
    ((db.setLines lines).setMessageMedia media).content = db.content ↔
      lines = db.content.lines ∧ media = db.content.messageMedia := by
  constructor
  · intro h
    exact ⟨congrArg ContentTables.lines h, congrArg ContentTables.messageMedia h⟩
  · rintro ⟨rfl, rfl⟩
    rfl

theorem cursorPoison_quarantined_iff (hprepared : Prepared rt record db (.poisoned reason) checked)
    (h : poisonEnvelope rt now cursorPoison ids record reason checked = .ok (result, db')) :
    Quarantined db db' ↔ Undisturbed rt record db := by
  obtain ⟨huntripped, ⟨lines, evidence, rfl⟩, hlines, hcursor⟩ := hprepared
  rw [poisonEnvelope_quarantined_iff db h rfl rfl rfl rfl]
  rcases hcursor with ⟨_, -, hrefused, hsame⟩ | ⟨hverdict, -⟩
  · have hcontent : (db.setLines lines).content = db.content ↔ lines = db.content.lines :=
      ⟨fun h => congrArg ContentTables.lines h, fun h => by rw [h]; rfl⟩
    simp only [Undisturbed, huntripped, false_or, hrefused, true_or, and_true, ← hlines]
    exact ⟨fun h => hcontent.1 h.1, fun h => ⟨hcontent.2 h, hsame⟩⟩
  · cases hverdict

theorem attachmentPoison_quarantined_iff {matched : Database}
    (hprepared : Prepared rt record db .accepted checked)
    (hmatch : matchAttachments rt record record.media {} checked = .ok (none, matched))
    (h : poisonEnvelope rt now attachmentPoison ids record .mediaIdentityConflict matched =
      .ok (result, db')) : Quarantined db db' ↔ Undisturbed rt record db := by
  obtain ⟨huntripped, ⟨lines, evidence, rfl⟩, hlines, hcursor⟩ := hprepared
  have hbinds : matched.content.messageMedia = db.content.messageMedia ↔ BindsNone rt record db :=
    have hkept := matchAttachments_kept_iff hmatch
    hkept
  obtain ⟨media, -, rfl⟩ := matchAttachments_ok hmatch
  rw [poisonEnvelope_quarantined_iff db h rfl rfl rfl rfl]
  rcases hcursor with ⟨_, hverdict, -⟩ | ⟨-, haccepted, hknown⟩
  · cases hverdict
  · simp only [Undisturbed, huntripped, false_or, haccepted, ← hlines, ← hbinds, ← hknown]
    constructor
    · rintro ⟨hcontent, hsame⟩
      have hparts := content_eq_iff.1 hcontent
      exact ⟨hparts.1, hsame, hparts.2⟩
    · rintro ⟨hline, hsame, hmedia⟩
      exact ⟨content_eq_iff.2 ⟨hline, hmedia⟩, hsame⟩

theorem projectEvents_publishes {outboxIds : Nat → String} {done : List Projected} {index : Nat}
    {events : List OutboxEvent} (type : EventType) (hsemantic : type.semantic = false)
    (hmedia : type ≠ .mediaPending) (htype : ∀ event ∈ events, event.type = type)
    (h : projectEvents rt outboxIds record done attachments index events db = .ok db') :
    Publishes type.text db.events db'.events := by
  induction events generalizing index db with
  | nil =>
    rw [projectEvents, pure_ok] at h
    exact h ▸ .refl _ _
  | cons event events ih =>
    have hevent : event.type = type := htype event List.mem_cons_self
    have hrest : ∀ event ∈ events, event.type = type := fun event h =>
      htype event (List.mem_cons_of_mem _ h)
    simp only [projectEvents, eventRow, hevent, hsemantic, hmedia, false_and, if_false,
      Bool.false_eq_true, bind_ok, pure_ok] at h
    obtain ⟨row, ⟨announced, -, rfl⟩, -, -, stored, hstored, published, houtbox, h⟩ := h
    exact (publish_publishes hstored houtbox).trans (ih hrest h)

/-- A poisoned record carries nothing to project and only its alert: what
`Process` makes of an envelope that it quarantines itself. -/
def Cleared (record : EnvelopeRecord) : Prop :=
  record.poisoned = true → record.projection = {} ∧ record.media = [] ∧
    ∀ event ∈ record.events, event.type = .inboxPoisoned

theorem record_cleared (envelope : Envelope) (tenantId : String) :
    Cleared (envelope.record rt tenantId now) := by
  intro hpoisoned
  unfold Envelope.record at hpoisoned ⊢
  simp only at hpoisoned ⊢
  split at hpoisoned
  case isTrue hpoison =>
    rw [if_pos hpoison]
    refine ⟨rfl, rfl, fun event hevent => ?_⟩
    rw [List.mem_singleton.1 hevent]
    rfl
  case isFalse => cases hpoisoned

theorem projected_quarantined {matched : Database}
    (hprepared : Prepared rt record db .accepted checked)
    (hmatch : matchAttachments rt record record.media {} checked = .ok (some attachments, matched))
    (h : projectEnvelope rt now ids record attachments matched = .ok (result, db'))
    (hempty : record.projection = {}) (hmedia : record.media = [])
    (hevents : ∀ event ∈ record.events, event.type = .inboxPoisoned) :
    Quarantined db db' ∧ Undisturbed rt record db := by
  have hnocursor : record.projection.candidate = [] := by rw [hempty]; rfl
  have hstored : LinesStored record db := fun hsnapshot => by
    rw [hempty] at hsnapshot
    cases hsnapshot
  obtain ⟨-, ⟨lines, evidence, rfl⟩, hlines, hcursor⟩ := hprepared
  have hlines : lines = db.content.lines := hlines.2 hstored
  subst hlines
  have hkept : CursorsKept db.evidence evidence := by
    rcases hcursor with ⟨_, hverdict, -⟩ | ⟨-, -, hknown⟩
    · cases hverdict
    · exact hknown.2 (.inl hnocursor)
  rw [hmedia, matchAttachments, pure_pair] at hmatch
  obtain ⟨-, rfl⟩ := hmatch
  simp only [projectEnvelope, hempty, hmedia, projectConversations, projectMessages, projectMedia,
    advanceCommittedCursor, bind_ok, pure_ok, if_true, Prod.mk.injEq] at h
  obtain ⟨_, rfl, _, rfl, _, rfl, published, hpublish, _, rfl, -, rfl⟩ := h
  have halert := projectEvents_publishes .inboxPoisoned rfl (by decide) hevents hpublish
  obtain ⟨events, rfl⟩ := projectEvents_ok hpublish
  refine ⟨⟨rfl, rfl, rfl, rfl, hkept, halert⟩,
    .inr ⟨hstored, .inr ⟨.inl hnocursor, fun locator hfirst => ?_⟩⟩⟩
  rw [hmedia] at hfirst
  cases hfirst

/-- A commit that quarantines its response has no other effect exactly when
nothing was written before the decision: the breaker had tripped, or the line
snapshot repeats what is stored and either the cursor stage took the decision or
the cursor was known and no attachment was bound before the disputed one. -/
theorem quarantine_all_or_nothing_iff {ids : CommitIds} (hcleared : Cleared record)
    (h : commitEnvelope rt now ids record db = .ok (.poisoned, db')) :
    Quarantined db db' ↔
      ∀ projection, canonicalizeProjectionCursors rt record.projection = .ok projection →
        Undisturbed rt (canonicalRecord record projection) db := by
  obtain ⟨projection, hcanonical, -, hvalid, -, hpath⟩ := commitEnvelope_ok h
  have honly : (∀ p, canonicalizeProjectionCursors rt record.projection = .ok p →
      Undisturbed rt (canonicalRecord record p) db) ↔
        Undisturbed rt (canonicalRecord record projection) db := by
    simp only [hcanonical, Except.ok.injEq, forall_eq']
  rw [honly]
  have hids : ((canonicalRecord record projection).projection.lines.map (·.id)).Nodup := by
    simp only [validateProjection, bind_ok] at hvalid
    obtain ⟨-, -, -, -, _, hlines, -⟩ := hvalid
    exact (validateLines_ok hlines).1
  cases hpath with
  | seen hlock hfound hagain => exact absurd rfl (seenAgain_ok hagain).2.1
  | exhausted hlock hfresh htripped hreject =>
    have hbreaker := (lockCursorBudget_tripped hlock).1 htripped
    have hopened : CursorsKept db.evidence _ := lockCursorBudget_kept hlock
    have hrejected := CursorsKept.of_same (SameCursors.of_rejectExhausted hreject).1
    obtain ⟨budgets, rfl⟩ := lockCursorBudget_ok hlock
    obtain ⟨-, row, evidence, -, rfl⟩ := rejectExhausted_ok hreject
    exact iff_of_true ⟨rfl, rfl, rfl, rfl, hopened.trans hrejected, .refl _ _⟩ (.inl hbreaker)
  | cursorPoison hadmitted hpoison =>
    exact cursorPoison_quarantined_iff (Admitted.prepared hids hadmitted) hpoison
  | attachmentPoison hadmitted hclash hpoison =>
    exact attachmentPoison_quarantined_iff (Admitted.prepared hids hadmitted) hclash hpoison
  | projected hadmitted hagree hproject =>
    have hpoisoned : record.poisoned = true := by
      have hresult := hproject
      simp only [projectEnvelope, bind_ok, pure_pair] at hresult
      obtain ⟨_, -, _, -, _, -, _, -, _, -, hresult, -⟩ := hresult
      by_contra hnot
      simp [canonicalRecord, hnot] at hresult
    obtain ⟨hempty, hmedia, hevents⟩ := hcleared hpoisoned
    have hcleared : projection = {} := by
      rw [hempty] at hcanonical
      have hsame : ({} : Projection) = projection := by
        simpa [canonicalizeProjectionCursors, bind_ok, pure_ok] using hcanonical
      exact hsame.symm
    subst hcleared
    obtain ⟨hquarantined, hquiet⟩ := projected_quarantined
      (Admitted.prepared hids hadmitted) hagree hproject rfl hmedia hevents
    exact iff_of_true hquarantined hquiet

/-! ### A picture that changed -/

def phoneLease : LeaseRow where
  connectionId := "phone"
  ownerId := some "worker"
  fencingToken := 1
  expiresAt := 1000

def pictureMessage (messageId providerTmpId : String) : MessageRow where
  messageId := messageId
  connectionId := "phone"
  orderingKey := "c1"
  direction := .outbound
  providerTmpId := some providerTmpId
  currentState := .sent
  createdAt := 1

/-- A phone that sent two messages with an uploaded picture each; an earlier echo
named the second picture. -/
def albumDatabase : Database where
  tenantId := "tenant"
  fleet :=
    { connections := .single (.connected "phone")
      leases := ⟨[phoneLease], by decide⟩ }
  content :=
    { messages := ⟨[pictureMessage "m1" "tmp-m1", pictureMessage "m2" "tmp-m2"], by decide⟩
      mediaObjects := ⟨["picture-1", "picture-2"].map ({ mediaId := ·, state := .ready }),
        by decide⟩
      messageMedia := ⟨[⟨"m1", "picture-1", 0, none⟩, ⟨"m2", "picture-2", 0, some zeroDigest⟩],
        by decide⟩ }

def picture (name : String) : MediaLocator where
  providerMessageId := "p" ++ name
  locator := "gmessages:picture"
  position := 0

def albumEcho (name : String) : ProjectedMessage where
  providerMessageId := "p" ++ name
  providerTmpId := "tmp-m" ++ name
  conversationId := "c1"
  direction := some .outbound

/-- Echoes of some of the messages with their pictures. -/
def albumEnvelope (names : List String) : Envelope where
  connectionId := "phone"
  ownerId := "worker"
  fencingToken := 1
  providerResponseId := "response"
  raw := [1]
  projection := { messages := names.map albumEcho }
  media := names.map picture

def albumIds : CommitIds where
  inboxId := "inbox"
  conflictId := "conflict"
  poisonOutboxId := "outbox"
  message _ := ⟨"message", "status", "transition"⟩
  media _ := ⟨"media", "job"⟩
  eventOutboxId _ := "event"

def albumRecord (names : List String) : EnvelopeRecord :=
  (albumEnvelope names).record Dispatch.phoneRuntime "tenant" 2

def albumCommit (names : List String) : Tx (CommitResult × Database) :=
  commitEnvelope Dispatch.phoneRuntime 3 albumIds (albumRecord names) albumDatabase

theorem changedPicture_quarantined : ∃ db', albumCommit ["2"] = .ok (.poisoned, db') ∧
    Quarantined albumDatabase db' := by
  have hpoisoned : (albumCommit ["2"]).toOption.map Prod.fst = some .poisoned := by decide +kernel
  cases hcommit : albumCommit ["2"] with
  | error e => simp [hcommit, Except.toOption] at hpoisoned
  | ok outcome =>
    obtain ⟨result, db'⟩ := outcome
    simp only [hcommit, Except.toOption, Option.map_some, Option.some.injEq] at hpoisoned
    subst hpoisoned
    refine ⟨db', rfl, (quarantine_all_or_nothing_iff (record_cleared _ _) hcommit).2 ?_⟩
    intro projection hcanonical
    have hsame : canonicalizeProjectionCursors Dispatch.phoneRuntime
        (albumRecord ["2"]).projection = .ok (albumRecord ["2"]).projection := by decide +kernel
    cases hsame.symm.trans hcanonical
    refine .inr ⟨nofun, .inr ⟨.inl (by decide +kernel), fun locator hfirst => ?_⟩⟩
    have hsecond : (albumRecord ["2"]).media.find?
        (disputed Dispatch.phoneRuntime (albumRecord ["2"]) albumDatabase) =
          some (picture "2") := by decide +kernel
    rw [← Option.some.inj (hsecond.symm.trans hfirst)]
    decide +kernel

theorem changedPicture_binds_another : ∃ db', albumCommit ["1", "2"] = .ok (.poisoned, db') ∧
    db'.content.messageMedia ≠ albumDatabase.content.messageMedia ∧
    ¬ Quarantined albumDatabase db' := by
  have hpoisoned : (albumCommit ["1", "2"]).toOption.any (fun outcome => outcome.1 = .poisoned ∧
      outcome.2.content.messageMedia ≠ albumDatabase.content.messageMedia) = true := by
    decide +kernel
  cases hcommit : albumCommit ["1", "2"] with
  | error e => simp [hcommit, Except.toOption] at hpoisoned
  | ok outcome =>
    obtain ⟨result, db'⟩ := outcome
    simp only [hcommit, Except.toOption, Option.any_some, decide_eq_true_eq] at hpoisoned
    obtain ⟨rfl, hbound⟩ := hpoisoned
    exact ⟨db', rfl, hbound, fun h => hbound (congrArg ContentTables.messageMedia h.content)⟩

end MessagingGateway.Evidence
