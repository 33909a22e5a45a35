import MessagingGateway.Evidence.Statements

/-!
# Inbox before ACK

Along every run the evidence tables hold a ledger, and no call drops an entry of
it. What the provider ACK callback is given is due at that moment, so it is
committed, not conflicted and not withheld; and what is conflicted or withheld
once is never given to the callback again.
-/

namespace MessagingGateway.Evidence

open Relational Domain Store Ingress Gateway Ledger

variable {rt : Runtime} {now : Time} {db db' db₀ : Database} {record : EnvelopeRecord}

/-! ### The ledger -/

theorem Statement.carries {ev ev' : EvidenceTables} (h : Statement ev ev') : Carries ev ev' := by
  cases h with
  | cursors budgets history h => exact h ▸ .of_cursors budgets history
  | insert settings h => exact insertProviderInbox_carries settings h
  | reject h => exact upsertRejected_carries h
  | reopen plain h => exact h ▸ reopenProviderACK_carries plain
  | conflict h => exact insertProviderInboxConflict_carries h
  | poison other h => exact finalizeProviderPoison_carries other h
  | acknowledge now connectionId ids h => exact h ▸ acknowledge_carries now connectionId ids

theorem step_carries {call : Call} (hop : FromProcess rt db.tenantId call.2) :
    Carries db.evidence (step rt call db).2.evidence :=
  (step_statements hop).invariant (P := Carries db.evidence) (fun _ _ h hcarried =>
    hcarried.trans h.carries) (.refl _)

/-! ### Withheld envelopes -/

variable {envelope : Envelope} {ids : CommitIds} {receivedAt : Time} {trace : List (Call × Reply)}

theorem record_withheld (rt : Runtime) {tenantId : String} (receivedAt : Time)
    (hadmissible : envelope.admissible tenantId = .ok ())
    (hwithheld : envelope.ackWithheld = true) :
    (envelope.record rt tenantId receivedAt).poisoned = true ∧
      (envelope.record rt tenantId receivedAt).poisonReason = .invalidSettingsSnapshot ∧
      (envelope.record rt tenantId receivedAt).projection = {} ∧
      (envelope.record rt tenantId receivedAt).media = [] := by
  simp only [Envelope.admissible, bind_ok, require_ok, hwithheld, Bool.not_true, Bool.false_or,
    Bool.and_eq_true, beq_iff_eq] at hadmissible
  obtain ⟨-, -, -, -, hdecode, hreason⟩ := hadmissible
  have hpoison : envelope.poison rt = true := by rw [Envelope.poison, hdecode, Bool.true_or]
  simp only [Envelope.record, hpoison, if_true, Envelope.recordedReason, hwithheld, hreason,
    and_self]

theorem emptyRecord_path {result : CommitResult}
    (hprojection : record.projection = {}) (hmedia : record.media = [])
    (h : commitEnvelope rt now ids record db = .ok (result, db')) :
    (∃ budget locked stored,
      lockCursorBudget (canonicalRecord record {}) db = .ok (budget, locked) ∧
      getProviderInbox (responseKey record) locked.evidence = some stored ∧
      seenAgain ids (canonicalRecord record {}) stored locked = .ok (result, db')) ∨
    ∃ locked evidence,
      insertProviderInbox ids.inboxId (canonicalRecord record {}) locked = .ok (some evidence) ∧
      db'.evidence.reservations = evidence.reservations ∧ db'.evidence.inbox = evidence.inbox := by
  obtain ⟨projection, hcanonical, -, -, -, hpath⟩ := commitEnvelope_ok h
  have hempty : ({} : Projection) = projection := by
    rw [hprojection] at hcanonical
    simpa [canonicalizeProjectionCursors, bind_ok, pure_ok] using hcanonical
  subst hempty
  -- without a cursor no budget is locked, so the cursor stage accepts
  have hnobudget : ∀ {budget locked},
      lockCursorBudget (canonicalRecord record {}) db = .ok (budget, locked) →
        none = budget := by
    intro budget locked hlock
    have hnone : none = budget ∧ db = locked := by
      simpa [lockCursorBudget, canonicalRecord, Projection.candidate, pure_ok] using hlock
    exact hnone.1
  cases hpath with
  | seen hlock hfound hagain => exact .inl ⟨_, _, _, hlock, hfound, hagain⟩
  | exhausted hlock _ htripped _ =>
    rw [← hnobudget hlock] at htripped
    cases htripped
  | cursorPoison hadmitted _ =>
    have hcursor := hadmitted.cursor
    rw [← hnobudget hadmitted.lock] at hcursor
    simp [advanceCursor, pure_ok] at hcursor
  | attachmentPoison _ hclash _ =>
    simp [canonicalRecord, hmedia, matchAttachments, pure_ok] at hclash
  | projected hadmitted hagree hproject =>
    obtain ⟨evidence, hinsert, hstored⟩ := insertInbox_ok hadmitted.insert
    obtain ⟨lines, hlined⟩ := replaceLines_ok hadmitted.lines
    obtain ⟨budgets, history, hchecked⟩ := advanceCursor_ok hadmitted.cursor
    obtain ⟨media, -, rfl⟩ := matchAttachments_ok hagree
    refine .inr ⟨_, evidence, hinsert, ?_⟩
    rw [(projectEnvelope_beside hproject).evidence, hchecked, hlined, hstored]
    exact ⟨rfl, rfl⟩

theorem commitEnvelope_withheld
    (hadmissible : envelope.admissible db.tenantId = .ok ())
    (hwithheld : envelope.ackWithheld = true)
    (h : commitEnvelope rt now ids (envelope.record rt db.tenantId receivedAt) db =
      .ok (.poisoned, db')) :
    ∃ row ∈ db'.evidence.inbox,
      row.key = responseKey (envelope.record rt db.tenantId receivedAt) ∧
        withheldRow row = true := by
  obtain ⟨hpoisoned, hreason, hprojection, hmedia⟩ :=
    record_withheld rt receivedAt hadmissible hwithheld
  generalize envelope.record rt db.tenantId receivedAt = record at *
  rcases emptyRecord_path hprojection hmedia h with ⟨_, _, _, -, -, hagain⟩ |
    ⟨locked, evidence, hinsert, -, hinbox⟩
  · exact absurd rfl (seenAgain_ok hagain).2.1
  · refine ⟨inboxRow ids.inboxId (canonicalRecord record {}), ?_, rfl, ?_⟩
    · rw [hinbox]
      obtain ⟨-, _, inbox, -, hstored, rfl⟩ := insertProviderInbox_ok hinsert
      exact (Table.mem_insert hstored).2 (.inr rfl)
    · simp [withheldRow, inboxRow, canonicalRecord, hpoisoned, hreason]

/-! ### The ACK callback -/

def calledBack : Operation → Reply → List ResponseKey
  | .coordinateProviderACKsFenced connectionId _ _ _ _ _, .coordinated result =>
    result.admittedIds.map fun id => (connectionId, id)
  | _, _ => []

theorem ackEligible_of_calledBack {call : Call} {key : ResponseKey}
    (h : key ∈ calledBack call.2 (step rt call db).1) : ackEligible db.evidence key = true := by
  revert h
  refine step_rule rt call db (fun e _ h => ?_) fun reply db' hperform h => ?_
  · cases hop : call.2 <;> simp [hop, calledBack] at h
  · obtain ⟨now, op⟩ := call
    cases op <;> simp only [calledBack, List.not_mem_nil] at h
    case coordinateProviderACKsFenced c o t ttl ids send =>
      simp only [perform] at hperform
      obtain ⟨result, hcall, rfl⟩ := replying_ok hperform
      obtain ⟨id, hid, rfl⟩ := List.mem_map.1 h
      have hadmitted : id ∈ admittedACKs c ids db.evidence := by
        simp only [coordinateProviderACKsFenced, bind_ok] at hcall
        obtain ⟨-, -, -, -, hcall⟩ := hcall
        split at hcall
        · rw [pure_pair] at hcall
          obtain ⟨rfl, -⟩ := hcall
          cases hid
        · split at hcall <;> rw [pure_pair] at hcall <;>
            obtain ⟨rfl, -⟩ := hcall <;> exact hid
      exact (List.mem_filter.1 hadmitted).2

/-! ### What the tables say of a response ID -/

/-- Exactly one evidence row, where the disposition says and with the digest of
the reservation; keys are unique in each table. -/
def Evidenced (ev : EvidenceTables) (r : ReservationRow) : Prop :=
  match r.disposition with
  | .inbox => (∃ row ∈ ev.inbox, row.key = r.key ∧ row.envelopeDigest = r.envelopeDigest) ∧
      ∀ row ∈ ev.rejected, row.key ≠ r.key
  | .rejected => (∃ row ∈ ev.rejected, row.key = r.key ∧ row.envelopeDigest = r.envelopeDigest) ∧
      ∀ row ∈ ev.inbox, row.key ≠ r.key

def Conflicted (ev : EvidenceTables) (key : ResponseKey) : Prop :=
  ∃ r ∈ ev.reservations, r.key = key ∧ r.conflicted = true

def Withheld (ev : EvidenceTables) (key : ResponseKey) : Prop :=
  ∃ row ∈ ev.inbox, row.key = key ∧ withheldRow row = true

def Silent (ev : EvidenceTables) (key : ResponseKey) : Prop :=
  (∀ row ∈ ev.inbox, row.key = key → row.ackPending = false) ∧
    ∀ row ∈ ev.rejected, row.key = key → row.ackPending = false

section

variable {ev : EvidenceTables} {key : ResponseKey} {e : Option (Obligation Bytes)}
  {r : ReservationRow}

theorem Records.evidenced (hr : r ∈ ev.reservations)
    (he : Records ev r.key e) : Evidenced ev r := by
  unfold Evidenced
  split
  case h_1 hd =>
    obtain ⟨row, o, hi, hj, -, hentry⟩ := he.of_inbox (Table.find?_of_mem hr) hd
    exact ⟨⟨row, Table.mem_of_find? hi, Table.key_of_find? hi, hentry.rowDigest⟩,
      Table.find?_eq_none.1 hj⟩
  case h_2 hd =>
    obtain ⟨row, o, hi, hj, -, hentry⟩ := he.of_rejected (Table.find?_of_mem hr) hd
    exact ⟨⟨row, Table.mem_of_find? hj, Table.key_of_find? hj, hentry.rowDigest⟩,
      Table.find?_eq_none.1 hi⟩

theorem Records.of_reserved (he : Records ev key e) (hr : ev.reservations.find? key = some r) :
    ∃ o, e = some o ∧ o.fenced = r.conflicted := by
  cases hd : r.disposition with
  | inbox =>
    obtain ⟨_, o, _, _, rfl, hentry⟩ := he.of_inbox hr hd
    exact ⟨o, rfl, hentry.fenced⟩
  | rejected =>
    obtain ⟨_, o, _, _, rfl, hentry⟩ := he.of_rejected hr hd
    exact ⟨o, rfl, hentry.fenced⟩

theorem Records.reserved {o : Obligation Bytes} (he : Records ev key (some o)) :
    ∃ r ∈ ev.reservations, r.key = key ∧ r.envelopeDigest = o.digest := by
  unfold Records at he
  generalize hr : ev.reservations.find? key = r, ev.inbox.find? key = i,
    ev.rejected.find? key = j at he
  cases he with
  | inbox h | rejected h =>
    exact ⟨_, Table.mem_of_find? hr, Table.key_of_find? hr, h.digest.symm⟩

theorem Records.digest (hr : r ∈ ev.reservations) (he : Records ev r.key e) :
    ∃ o, e = some o ∧ o.digest = r.envelopeDigest := by
  unfold Records at he
  rw [Table.find?_of_mem hr] at he
  generalize ev.inbox.find? r.key = i, ev.rejected.find? r.key = j at he
  cases he with
  | inbox h | rejected h => exact ⟨_, rfl, h.digest⟩

theorem Records.conflicted_iff (he : Records ev key e) :
    Conflicted ev key ↔ ∃ o, e = some o ∧ o.fenced = true := by
  constructor
  · rintro ⟨r, hr, rfl, hconflicted⟩
    obtain ⟨o, ho, hfenced⟩ := he.of_reserved (Table.find?_of_mem hr)
    exact ⟨o, ho, hfenced.trans hconflicted⟩
  · rintro ⟨o, rfl, hfenced⟩
    cases hr : ev.reservations.find? key with
    | none =>
      have habsent := (he.of_free hr).1
      cases habsent
    | some r =>
      obtain ⟨o', ho', hconflicted⟩ := he.of_reserved hr
      cases ho'
      exact ⟨r, Table.mem_of_find? hr, Table.key_of_find? hr, hconflicted.symm.trans hfenced⟩

theorem Records.barred (he : Records ev key e) (h : Conflicted ev key ∨ Withheld ev key) :
    Barred e := by
  rcases h with h | ⟨row, hrow, rfl, hwithheld⟩
  · obtain ⟨o, ho, hfenced⟩ := he.conflicted_iff.1 h
    exact ⟨o, ho, .inl hfenced⟩
  · obtain ⟨_, o, _, _, rfl, hentry⟩ := he.of_inbox_row (Table.find?_of_mem hrow)
    exact ⟨o, rfl, .inr (hentry.withheld.trans hwithheld)⟩

theorem Records.silent (he : Records ev key e) (h : Barred e) : Silent ev key := by
  have hquiet : ∀ o, e = some o → o.pending = false := fun o ho =>
    Bool.eq_false_iff.2 fun hpending => h.not_due ⟨o, ho, hpending⟩
  refine ⟨fun row hrow hkey => ?_, fun row hrow hkey => ?_⟩
  · subst hkey
    obtain ⟨_, o, _, _, rfl, hentry⟩ := he.of_inbox_row (Table.find?_of_mem hrow)
    exact hentry.pending.symm.trans (hquiet o rfl)
  · subst hkey
    obtain ⟨_, o, _, rfl, hentry⟩ := he.of_rejected_row (Table.find?_of_mem hrow)
    exact hentry.pending.symm.trans (hquiet o rfl)

end

/-! ### Runs -/

def Admits (rt : Runtime) (db : Database) (call : Call) : Prop :=
  FromProcess rt db.tenantId call.2

theorem admits_record {tenantId : String} (htenant : db.tenantId = tenantId)
    (hadmissible : envelope.admissible tenantId = .ok ()) :
    Admits rt db (now, .commitEnvelope ids (envelope.record rt tenantId receivedAt)) :=
  ⟨envelope, receivedAt, htenant ▸ hadmissible, by rw [htenant]⟩

theorem run_carries (hrun : Run (step rt) (Admits rt) db trace db') :
    Carries db.evidence db'.evidence :=
  hrun.invariant (P := fun s => Carries db.evidence s.evidence)
    (fun _ _ hcall h => h.trans (step_carries hcall)) (.refl _)

theorem step_withheld
    (hadmissible : envelope.admissible db.tenantId = .ok ())
    (hwithheld : envelope.ackWithheld = true)
    (hstep : step rt (now, .commitEnvelope ids (envelope.record rt db.tenantId receivedAt)) db =
      (.committed .poisoned, db')) :
    Withheld db'.evidence (envelope.connectionId, envelope.providerResponseId) := by
  revert hstep
  refine step_rule rt (now, .commitEnvelope ids (envelope.record rt db.tenantId receivedAt)) db
    nofun
    ?_
  rintro _ _ hperform ⟨⟩
  obtain ⟨result, hcommit, hreply⟩ := replying_ok hperform
  cases hreply
  have hkey : responseKey (envelope.record rt db.tenantId receivedAt) =
      (envelope.connectionId, envelope.providerResponseId) := by
    unfold Envelope.record
    split <;> rfl
  obtain ⟨row, hrow, hrowkey, hsettings⟩ := commitEnvelope_withheld hadmissible hwithheld hcommit
  exact ⟨row, hrow, hrowkey.trans hkey, hsettings⟩

theorem run_records (hempty : db₀.evidence = {})
    (hrun : Run (step rt) (Admits rt) db₀ trace db) (key : ResponseKey) :
    ∃ e, Records db.evidence key e := by
  have hinitial : Records db₀.evidence key none := by
    rw [hempty]
    exact .absent
  obtain ⟨e, he, -⟩ := run_carries hrun key none hinitial
  exact ⟨e, he⟩

theorem run_calledBack {key : ResponseKey}
    {e : Option (Obligation Bytes)} (he : Records db.evidence key e) (hbarred : Barred e)
    (hrun : Run (step rt) (Admits rt) db trace db') :
    (∃ e', Records db'.evidence key e' ∧ Barred e') ∧
      ∀ observation ∈ trace, key ∉ calledBack observation.1.2 observation.2 := by
  refine hrun.invariant_trace (P := fun trace s => (∃ e', Records s.evidence key e' ∧ Barred e') ∧
    ∀ observation ∈ trace, key ∉ calledBack observation.1.2 observation.2)
    (fun trace s call hcall h => ?_) ⟨⟨e, he, hbarred⟩, by simp⟩
  obtain ⟨⟨e', he', hbarred'⟩, hquiet⟩ := h
  obtain ⟨e'', he'', hcontinues⟩ := step_carries hcall key e' he'
  refine ⟨⟨e'', he'', hbarred'.continues hcontinues⟩, fun observation hmem hcalled => ?_⟩
  rcases List.mem_append.1 hmem with hmem | hmem
  · exact hquiet observation hmem hcalled
  · rw [List.mem_singleton.1 hmem] at hcalled
    exact hbarred'.not_due (due_of_ackEligible he' (ackEligible_of_calledBack hcalled))

/-- Every reserved response ID has its one evidence row. The ACK callback is given
only committed responses that are neither conflicted nor withheld. A conflicted
one is never pending or given to the callback again, and neither is one whose
first envelope was withheld. -/
theorem acks_follow_evidence {trace : List (Call × Reply)}
    (hempty : db₀.evidence = {}) (hrun : Run (step rt) (Admits rt) db₀ trace db) :
    (∀ r ∈ db.evidence.reservations, Evidenced db.evidence r) ∧
    (∀ call, ∀ key ∈ calledBack call.2 (step rt call db).1,
      (∃ r ∈ db.evidence.reservations, r.key = key) ∧ ¬ Conflicted db.evidence key ∧
        ¬ Withheld db.evidence key) ∧
    (∀ key, Conflicted db.evidence key → ∀ later db', Run (step rt) (Admits rt) db later db' →
      Conflicted db'.evidence key ∧ Silent db'.evidence key ∧
        ∀ observation ∈ later, key ∉ calledBack observation.1.2 observation.2) ∧
    ∀ now ids envelope receivedAt db₁, Envelope.admissible envelope db.tenantId = .ok () →
      envelope.ackWithheld = true →
      step rt (now, .commitEnvelope ids (envelope.record rt db.tenantId receivedAt)) db =
        (.committed .poisoned, db₁) →
      ∀ later db', Run (step rt) (Admits rt) db₁ later db' →
        Silent db'.evidence (envelope.connectionId, envelope.providerResponseId) ∧
          ∀ observation ∈ later, (envelope.connectionId, envelope.providerResponseId) ∉
            calledBack observation.1.2 observation.2 := by
  refine ⟨fun r hr => ?_, fun call key hcalled => ?_, fun key hconflicted later db' hlater => ?_,
    fun now ids envelope receivedAt db₁ hadmissible hwithheld hstep later db' hlater => ?_⟩
  · obtain ⟨e, he⟩ := run_records hempty hrun r.key
    exact he.evidenced hr
  · obtain ⟨e, he⟩ := run_records hempty hrun key
    have heligible := ackEligible_of_calledBack hcalled
    have hdue := due_of_ackEligible he heligible
    obtain ⟨r, hr, -⟩ := (Option.any_eq_true _ _).1 heligible
    exact ⟨⟨r, Table.mem_of_find? hr, Table.key_of_find? hr⟩,
      fun h => (he.barred (.inl h)).not_due hdue, fun h => (he.barred (.inr h)).not_due hdue⟩
  · obtain ⟨e, he⟩ := run_records hempty hrun key
    obtain ⟨o, rfl, hfenced⟩ := he.conflicted_iff.1 hconflicted
    obtain ⟨e', he', hcontinues⟩ := run_carries hlater key (some o) he
    obtain ⟨o', rfl, hbecomes⟩ := hcontinues o rfl
    have hfenced' := hbecomes.fenced hfenced
    refine ⟨he'.conflicted_iff.2 ⟨o', rfl, hfenced'⟩, he'.silent ⟨o', rfl, .inl hfenced'⟩, ?_⟩
    exact (run_calledBack he ⟨o, rfl, .inl hfenced⟩ hlater).2
  · have hcall :
      Admits rt db (now, .commitEnvelope ids (envelope.record rt db.tenantId receivedAt)) :=
      ⟨envelope, receivedAt, hadmissible, rfl⟩
    have hcommitted : Run (step rt) (Admits rt) db₀ (trace ++ _) db₁ :=
      congrArg Prod.snd hstep ▸ Run.snoc hrun hcall
    obtain ⟨e, he⟩ :=
      run_records hempty hcommitted (envelope.connectionId, envelope.providerResponseId)
    have hbarred : Barred e := he.barred (.inr (step_withheld hadmissible hwithheld hstep))
    obtain ⟨⟨e', he', hbarred'⟩, hquiet⟩ := run_calledBack he hbarred hlater
    exact ⟨he'.silent hbarred', hquiet⟩

def ackCall (now : Time) : Call :=
  (now, .coordinateProviderACKsFenced "phone" "worker" 1 600000000 ["response-tmp-m1"] fun _ =>
    true)

/-- A response is acknowledged, and delivered again with other bytes. -/
def redelivered : List Call :=
  [Dispatch.leaseCall 1, Dispatch.receiptCall "tmp-m1" none 2, ackCall 3,
    (4, .commitEnvelope Dispatch.commitIds (Envelope.record Dispatch.phoneRuntime "tenant" 4
      { Dispatch.receipt "tmp-m1" none with raw := [2] }))]

theorem redelivered_run : Run (step Dispatch.phoneRuntime) (Admits Dispatch.phoneRuntime)
    Dispatch.phoneDatabase
      (execute (step Dispatch.phoneRuntime) redelivered Dispatch.phoneDatabase).1
    (execute (step Dispatch.phoneRuntime) redelivered Dispatch.phoneDatabase).2 :=
  Run.of_inputs redelivered
    ⟨trivial, admits_record (by decide +kernel) (by decide +kernel), trivial,
    admits_record (by decide +kernel) (by decide +kernel), trivial⟩

theorem redelivered_never_acked :
    (∃ observation ∈ (execute (step Dispatch.phoneRuntime) redelivered Dispatch.phoneDatabase).1,
      ("phone", "response-tmp-m1") ∈ calledBack observation.1.2 observation.2) ∧
    ∀ observation ∈ (execute (step Dispatch.phoneRuntime) [ackCall 5]
      (execute (step Dispatch.phoneRuntime) redelivered Dispatch.phoneDatabase).2).1,
      ("phone", "response-tmp-m1") ∉ calledBack observation.1.2 observation.2 := by
  refine ⟨by decide +kernel, ?_⟩
  exact ((acks_follow_evidence rfl redelivered_run).2.2.1 ("phone", "response-tmp-m1")
    (by unfold Conflicted; decide +kernel) _ _
    (Run.of_inputs [ackCall 5] ⟨trivial, trivial⟩)).2.2

/-- No evidence is lost or replaced: in every later state a response keeps the digest
it was first received with, and a row for it. -/
theorem evidence_permanent {later : List (Call × Reply)}
    (hempty : db₀.evidence = {}) (hrun : Run (step rt) (Admits rt) db₀ trace db)
    (hlater : Run (step rt) (Admits rt) db later db') :
    ∀ r ∈ db.evidence.reservations, ∃ r' ∈ db'.evidence.reservations, r'.key = r.key ∧
      r'.envelopeDigest = r.envelopeDigest ∧ Evidenced db'.evidence r' := by
  intro r hr
  obtain ⟨e, he⟩ := run_records hempty hrun r.key
  obtain ⟨o, rfl, hdigest⟩ := he.digest hr
  obtain ⟨e', he', hcontinues⟩ := run_carries hlater r.key _ he
  obtain ⟨o', rfl, hbecomes⟩ := hcontinues o rfl
  obtain ⟨r', hr', hkey, hdigest'⟩ := he'.reserved
  exact ⟨r', hr', hkey, hdigest'.trans (hbecomes.digest.trans hdigest), (hkey ▸ he').evidenced hr'⟩

theorem redelivered_kept : ∃ r ∈ (execute (step Dispatch.phoneRuntime) [ackCall 5] (execute
    (step Dispatch.phoneRuntime) redelivered Dispatch.phoneDatabase).2).2.evidence.reservations,
    r.key = ("phone", "response-tmp-m1") := by
  obtain ⟨r, hr, hkey⟩ : ∃ r ∈ (execute (step Dispatch.phoneRuntime) redelivered
      Dispatch.phoneDatabase).2.evidence.reservations, r.key = ("phone", "response-tmp-m1") := by
    decide +kernel
  obtain ⟨r', hr', hkept, -⟩ := evidence_permanent rfl redelivered_run
    (.of_inputs [ackCall 5] ⟨trivial, trivial⟩) r hr
  exact ⟨r', hr', hkept.trans hkey⟩

end MessagingGateway.Evidence
