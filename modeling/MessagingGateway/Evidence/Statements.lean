import MessagingGateway.Dispatch.Guarantees
import MessagingGateway.Evidence.Records

/-!
# The statements of a call on the evidence

A call changes the evidence tables by a sequence of the statements of
`Store.Evidence`, each under the condition its caller has established. What each
statement keeps, every call keeps; later modules argue statement by statement.
-/

namespace MessagingGateway.Evidence

open Relational Domain Store Ingress Gateway Ledger

variable {rt : Runtime} {now : Time} {db db' : Database} {record : EnvelopeRecord}

inductive Statement (ev ev' : EvidenceTables) : Prop
  | cursors (budgets : Table CursorBudgetRow.key) (history : Table CursorHistoryRow.key)
      (h : ev' = { ev with cursorBudgets := budgets, cursorHistory := history })
  | insert {inboxId : String} {record : EnvelopeRecord} (settings : WithholdsSettings record)
      (h : insertProviderInbox inboxId record ev = .ok (some ev'))
  | reject {record : EnvelopeRecord} {row : RejectedRow}
      (h : upsertRejectedProviderResponse record ev = some (row, ev'))
  | reopen {key : ResponseKey}
      (plain : ∀ r row, ev.reservations.find? key = some r → r.disposition = .inbox →
        ev.inbox.find? key = some row → withheldRow row = false)
      (h : ev' = reopenProviderACK key ev)
  | conflict {conflictId : String} {record : EnvelopeRecord}
      (h : insertProviderInboxConflict conflictId record ev = .ok ev')
  | poison {key : ResponseKey} {reason : PoisonReason} (other : reason ≠ .invalidSettingsSnapshot)
      (h : finalizeProviderPoison key reason ev = .ok ev')
  | acknowledge (now : Time) (connectionId : String) (ids : List String)
      (h : ev' = Store.acknowledge now connectionId ids ev)

abbrev Statements : EvidenceTables → EvidenceTables → Prop := Relation.ReflTransGen Statement

namespace Statements

variable {ev ev' : EvidenceTables}

theorem of_cursors (budgets : Table CursorBudgetRow.key) (history : Table CursorHistoryRow.key) :
    Statements ev { ev with cursorBudgets := budgets, cursorHistory := history } :=
  .single (.cursors budgets history rfl)

theorem invariant {P : EvidenceTables → Prop} (hstep : ∀ ev ev', Statement ev ev' → P ev → P ev')
    (h : Statements ev ev') (hP : P ev) : P ev' := by
  induction h with
  | refl => exact hP
  | tail _ hstatement ih => exact hstep _ _ hstatement ih

end Statements

/-! ### CommitEnvelope -/

theorem getProviderInbox_eq {ev : EvidenceTables} {key : ResponseKey} {stored : StoredResponse}
    {r : ReservationRow} {row : InboxRow} (h : getProviderInbox key ev = some stored)
    (hr : ev.reservations.find? key = some r) (hd : r.disposition = .inbox)
    (hi : ev.inbox.find? key = some row) :
    stored = ⟨r.envelopeDigest, .inbox, row.ackPending, row.poisoned, row.poisonReason⟩ := by
  simp only [getProviderInbox, hr] at h
  cases hc : r.conflicted with
  | true => simp [Option.filter_some, hc] at h
  | false => simpa [Option.filter_some, hc, hd, hi, eq_comm] using h

variable {ids : CommitIds} {result : CommitResult}

theorem seenAgain_statements {stored : StoredResponse}
    (hstored : getProviderInbox (responseKey record) db.evidence = some stored)
    (h : seenAgain ids record stored db = .ok (result, db')) :
    Statements db.evidence db'.evidence := by
  obtain ⟨-, -, evidence, rfl, rfl | ⟨hplain, rfl⟩ | ⟨fenced, hconflict, hrest⟩⟩ := seenAgain_ok h
  · exact .refl
  · refine .single (.reopen (fun r row hr hd hi => ?_) rfl)
    obtain rfl := getProviderInbox_eq hstored hr hd hi
    simpa [withheldRow] using hplain
  · have hfenced : Statements db.evidence fenced := .single (.conflict hconflict)
    rcases hrest with rfl | hpoison
    · exact hfenced
    · exact hfenced.tail (.poison (by simp) hpoison)

theorem advanceCursor_reason {budget : Option CursorBudgetRow} {reason : PoisonReason}
    (h : advanceCursor rt now record budget db = .ok (.poisoned reason, db')) :
    reason ≠ .invalidSettingsSnapshot := by
  unfold advanceCursor at h
  split at h
  · simp [pure_ok] at h
  · simp only at h
    split at h
    · split at h <;> simp only [pure_pair, Verdict.poisoned.injEq, reduceCtorEq,
        false_and] at h
      simp [← h.1]
    · split at h
      · simp only [pure_pair, Verdict.poisoned.injEq] at h
        simp [← h.1]
      · simp only [bind_ok, pure_pair, reduceCtorEq, false_and, and_false,
          exists_false] at h

theorem Admitted.statements {verdict : Verdict} (hsettings : WithholdsSettings record)
    (h : Admitted rt now ids record db verdict db') : Statements db.evidence db'.evidence := by
  obtain ⟨budgets, hlocked⟩ := lockCursorBudget_ok h.lock
  obtain ⟨evidence, hinsert, hstored⟩ := insertInbox_ok h.insert
  obtain ⟨lines, hlined⟩ := replaceLines_ok h.lines
  obtain ⟨budgets', history, hchecked⟩ := advanceCursor_ok h.cursor
  have hbudget : Statements db.evidence h.locked.evidence := by
    rw [hlocked]
    exact .of_cursors budgets _
  have hstore : Statements h.locked.evidence evidence := .single (.insert hsettings hinsert)
  have hcursor : Statements evidence db'.evidence := by
    rw [hchecked, hlined, hstored]
    exact .of_cursors budgets' history
  exact (hbudget.trans hstore).trans hcursor

theorem poisonEnvelope_statements {labels : PoisonLabels} {reason : PoisonReason}
    (hreason : reason ≠ .invalidSettingsSnapshot)
    (h : poisonEnvelope rt now labels ids record reason db = .ok (result, db')) :
    Statements db.evidence db'.evidence := by
  obtain ⟨evidence, events, hfinal, -, rfl⟩ := poisonEnvelope_ok h
  exact .single (.poison hreason hfinal)

theorem commitEnvelope_statements (hsettings : WithholdsSettings record)
    (h : commitEnvelope rt now ids record db = .ok (result, db')) :
    Statements db.evidence db'.evidence := by
  obtain ⟨projection, -, -, -, -, hpath⟩ := commitEnvelope_ok h
  have hsettings' : WithholdsSettings (canonicalRecord record projection) := hsettings
  cases hpath with
  | seen hlock hfound hagain =>
    obtain ⟨budgets, rfl⟩ := lockCursorBudget_ok hlock
    have hbudget : Statements db.evidence (db.setBudgets budgets).evidence := .of_cursors budgets _
    exact hbudget.trans (seenAgain_statements hfound hagain)
  | exhausted hlock _ _ hreject =>
    obtain ⟨budgets, rfl⟩ := lockCursorBudget_ok hlock
    have hbudget : Statements db.evidence (db.setBudgets budgets).evidence := .of_cursors budgets _
    obtain ⟨-, row, evidence, hupsert, rfl⟩ := rejectExhausted_ok hreject
    exact hbudget.tail (.reject hupsert)
  | cursorPoison hadmitted hpoison =>
    exact (Admitted.statements hsettings' hadmitted).trans
      (poisonEnvelope_statements (advanceCursor_reason hadmitted.cursor) hpoison)
  | attachmentPoison hadmitted hclash hpoison =>
    obtain ⟨media, -, rfl⟩ := matchAttachments_ok hclash
    have hkept := poisonEnvelope_statements (by simp) hpoison
    have hstored := Admitted.statements hsettings' hadmitted
    exact hstored.trans hkept
  | projected hadmitted hagree hproject =>
    obtain ⟨media, -, rfl⟩ := matchAttachments_ok hagree
    have hkept : db'.evidence = _ := (projectEnvelope_beside hproject).evidence
    have hstored := Admitted.statements hsettings' hadmitted
    rw [hkept]
    exact hstored

/-! ### Every call -/

/-- Records are those that `Process` makes of the envelopes it admits. -/
def FromProcess (rt : Runtime) (tenantId : String) : Operation → Prop
  | .commitEnvelope _ record => ∃ envelope receivedAt,
      Envelope.admissible envelope tenantId = .ok () ∧
        record = envelope.record rt tenantId receivedAt
  | _ => True

theorem record_withholdsSettings (envelope : Envelope) (tenantId : String) (receivedAt : Time) :
    WithholdsSettings (envelope.record rt tenantId receivedAt) := by
  intro hpoisoned hreason
  unfold Envelope.record at *
  split at hpoisoned
  case isFalse => cases hpoisoned
  case isTrue hpoison =>
    simp only [hpoison, if_true, Envelope.recordedReason] at hreason ⊢
    split at hreason
    case isTrue hwithheld => exact hwithheld
    case isFalse => split at hreason <;> cases hreason

def acknowledges : Operation → Option String
  | .markProviderACKedFenced connectionId _ _ _ => some connectionId
  | .coordinateProviderACKsFenced connectionId _ _ _ _ _ => some connectionId
  | _ => none

inductive EvidenceCall (rt : Runtime) (now : Time) (db db' : Database) : Operation → Prop
  | same {op : Operation} (h : db'.evidence = db.evidence) : EvidenceCall rt now db db' op
  | commit {ids : CommitIds} {record : EnvelopeRecord} {result : CommitResult}
      (h : commitEnvelope rt now ids record db = .ok (result, db')) :
      EvidenceCall rt now db db' (.commitEnvelope ids record)
  | acknowledge {op : Operation} (connectionId : String) (ids : List String)
      (hop : acknowledges op = some connectionId)
      (h : db'.evidence = Store.acknowledge now connectionId ids db.evidence) :
      EvidenceCall rt now db db' op

theorem perform_evidence {op : Operation} {reply : Reply}
    (h : perform rt now op db = .ok (reply, db')) : EvidenceCall rt now db db' op := by
  have hfleet (hop : op.onFleet = true) : EvidenceCall rt now db db' op := by
    obtain ⟨fleet, events, rfl⟩ := perform_fleetOnly hop h
    exact .same rfl
  have hbeside (hop : op.onMessages = true) : EvidenceCall rt now db db' op :=
    .same (perform_beside hop h).evidence
  cases op <;> simp only [perform] at h <;> obtain ⟨result, hcall, rfl⟩ := replying_ok h
  any_goals first | exact hfleet rfl | exact hbeside rfl
  case commitEnvelope => exact .commit hcall
  case markProviderACKedFenced =>
    obtain rfl | rfl := markProviderACKedFenced_ok hcall
    · exact .same rfl
    · exact .acknowledge _ _ rfl rfl
  case coordinateProviderACKsFenced =>
    obtain rfl | rfl | ⟨_, rfl⟩ := coordinateProviderACKsFenced_ok hcall
    · exact .same rfl
    · exact .same rfl
    · exact .acknowledge _ _ rfl rfl
  case listPendingProviderACKsFenced =>
    obtain rfl := listPendingProviderACKsFenced_ok hcall
    exact .same rfl

theorem perform_statements {op : Operation} {reply : Reply} (hop : FromProcess rt db.tenantId op)
    (h : perform rt now op db = .ok (reply, db')) : Statements db.evidence db'.evidence := by
  cases perform_evidence h with
  | same hsame => rw [hsame]
  | commit hcommit =>
    obtain ⟨envelope, receivedAt, -, rfl⟩ := hop
    exact commitEnvelope_statements (record_withholdsSettings envelope _ receivedAt) hcommit
  | acknowledge connectionId ids _ hacked =>
    exact .single (.acknowledge now connectionId ids hacked)

theorem step_statements {call : Call} (hop : FromProcess rt db.tenantId call.2) :
    Statements db.evidence (step rt call db).2.evidence := by
  refine step_rule rt call db (fun _ _ => .refl) fun reply db' hperform => ?_
  exact perform_statements hop hperform

end MessagingGateway.Evidence
