import MessagingGateway.Ledger.Obligations
import MessagingGateway.Store.Evidence

/-!
# The ledger behind the evidence tables

The reservation, inbox and rejected rows of a response ID together hold one
entry of a ledger: nothing, or an obligation whose digest and fence are those of
the reservation, and whose pending flag is that of the one evidence row. Each
statement on the tables leaves such entries behind and continues the old ones.
-/

namespace MessagingGateway.Evidence

open Relational Store Ingress Ledger

/-- The raw evidence of a malformed settings snapshot, whose ACK is withheld. -/
def withheldRow (row : InboxRow) : Bool :=
  row.poisoned && row.poisonReason == .invalidSettingsSnapshot

structure InInbox (r : ReservationRow) (row : InboxRow) (o : Obligation Bytes) : Prop where
  disposition : r.disposition = .inbox
  rowDigest : row.envelopeDigest = r.envelopeDigest
  digest : o.digest = r.envelopeDigest
  fenced : o.fenced = r.conflicted
  withheld : o.withheld = withheldRow row
  pending : o.pending = row.ackPending

structure InRejected (r : ReservationRow) (row : RejectedRow) (o : Obligation Bytes) : Prop where
  disposition : r.disposition = .rejected
  rowDigest : row.envelopeDigest = r.envelopeDigest
  rowConflicted : row.conflicted = r.conflicted
  digest : o.digest = r.envelopeDigest
  fenced : o.fenced = r.conflicted
  withheld : o.withheld = false
  pending : o.pending = row.ackPending

inductive Entry : Option ReservationRow → Option InboxRow → Option RejectedRow →
    Option (Obligation Bytes) → Prop
  | absent : Entry none none none none
  | inbox {r : ReservationRow} {row : InboxRow} {o : Obligation Bytes} (h : InInbox r row o) :
      Entry (some r) (some row) none (some o)
  | rejected {r : ReservationRow} {row : RejectedRow} {o : Obligation Bytes}
      (h : InRejected r row o) : Entry (some r) none (some row) (some o)

def Records (evidence : EvidenceTables) (key : ResponseKey) (e : Option (Obligation Bytes)) :
    Prop :=
  Entry (evidence.reservations.find? key) (evidence.inbox.find? key) (evidence.rejected.find? key) e

namespace Records

variable {ev : EvidenceTables} {key : ResponseKey} {e : Option (Obligation Bytes)}

theorem of_find? {a : Option ReservationRow} {b : Option InboxRow} {c : Option RejectedRow}
    (hr : ev.reservations.find? key = a) (hi : ev.inbox.find? key = b)
    (hj : ev.rejected.find? key = c) (h : Entry a b c e) : Records ev key e := by
  rw [Records, hr, hi, hj]
  exact h

theorem of_free (h : Records ev key e) (hr : ev.reservations.find? key = none) :
    e = none ∧ ev.inbox.find? key = none ∧ ev.rejected.find? key = none := by
  rw [Records, hr] at h
  generalize ev.inbox.find? key = inbox at h
  generalize ev.rejected.find? key = rejected at h
  cases h
  exact ⟨rfl, rfl, rfl⟩

theorem of_inbox {r : ReservationRow} (h : Records ev key e)
    (hr : ev.reservations.find? key = some r) (hd : r.disposition = .inbox) :
    ∃ row o, ev.inbox.find? key = some row ∧ ev.rejected.find? key = none ∧ e = some o ∧
      InInbox r row o := by
  rw [Records, hr] at h
  generalize ev.inbox.find? key = inbox at h
  generalize ev.rejected.find? key = rejected at h
  cases h with
  | inbox h => exact ⟨_, _, rfl, rfl, rfl, h⟩
  | rejected h => simp [h.disposition] at hd

theorem of_rejected {r : ReservationRow} (h : Records ev key e)
    (hr : ev.reservations.find? key = some r) (hd : r.disposition = .rejected) :
    ∃ row o, ev.inbox.find? key = none ∧ ev.rejected.find? key = some row ∧ e = some o ∧
      InRejected r row o := by
  rw [Records, hr] at h
  generalize ev.inbox.find? key = inbox at h
  generalize ev.rejected.find? key = rejected at h
  cases h with
  | inbox h => simp [h.disposition] at hd
  | rejected h => exact ⟨_, _, rfl, rfl, rfl, h⟩

theorem of_inbox_row {row : InboxRow} (h : Records ev key e)
    (hi : ev.inbox.find? key = some row) : ∃ r o, ev.reservations.find? key = some r ∧
      ev.rejected.find? key = none ∧ e = some o ∧ InInbox r row o := by
  rw [Records, hi] at h
  generalize ev.reservations.find? key = reservation at h
  generalize ev.rejected.find? key = rejected at h
  cases h with
  | inbox h => exact ⟨_, _, rfl, rfl, rfl, h⟩

variable {reason : PoisonReason} {row : RejectedRow}

theorem of_rejected_row (h : Records ev key e) (hj : ev.rejected.find? key = some row) :
    ∃ r o, ev.reservations.find? key = some r ∧ e = some o ∧ InRejected r row o := by
  rw [Records, hj] at h
  generalize ev.reservations.find? key = reservation at h
  generalize ev.inbox.find? key = inbox at h
  cases h with
  | rejected h => exact ⟨_, _, rfl, rfl, h⟩

end Records

def OnlyKey (k₀ : ResponseKey) (ev ev' : EvidenceTables) : Prop :=
  ∀ key, key ≠ k₀ → ev'.reservations.find? key = ev.reservations.find? key ∧
    ev'.inbox.find? key = ev.inbox.find? key ∧ ev'.rejected.find? key = ev.rejected.find? key

def Carries (evidence evidence' : EvidenceTables) : Prop :=
  ∀ key e, Records evidence key e → ∃ e', Records evidence' key e' ∧ Continues e e'

namespace Carries

variable {ev ev' ev'' : EvidenceTables}

theorem refl (ev : EvidenceTables) : Carries ev ev := fun _ e h => ⟨e, h, .refl e⟩

theorem trans (h : Carries ev ev') (h' : Carries ev' ev'') : Carries ev ev'' := by
  intro key e he
  obtain ⟨e', he', hc⟩ := h key e he
  obtain ⟨e'', he'', hc'⟩ := h' key e' he'
  exact ⟨e'', he'', hc.trans hc'⟩

theorem of_key (k₀ : ResponseKey) (hother : OnlyKey k₀ ev ev')
    (hkey : ∀ e, Records ev k₀ e → ∃ e', Records ev' k₀ e' ∧ Continues e e') : Carries ev ev' := by
  intro key e he
  by_cases hk : key = k₀
  · subst hk
    exact hkey e he
  · obtain ⟨hr, hi, hj⟩ := hother key hk
    exact ⟨e, .of_find? hr hi hj he, .refl e⟩

theorem of_cursors (budgets : Table CursorBudgetRow.key) (history : Table CursorHistoryRow.key) :
    Carries ev { ev with cursorBudgets := budgets, cursorHistory := history } :=
  fun _ e h => ⟨e, h, .refl e⟩

end Carries

variable {ev ev' : EvidenceTables} {record : EnvelopeRecord} {key : ResponseKey}

/-! ### First delivery -/

/-- Only a withheld envelope is stored as a malformed settings snapshot. -/
def WithholdsSettings (record : EnvelopeRecord) : Prop :=
  record.poisoned = true → record.poisonReason = .invalidSettingsSnapshot →
    record.ackWithheld = true

theorem insertProviderInbox_carries {inboxId : String} (hsettings : WithholdsSettings record)
    (h : insertProviderInbox inboxId record ev = .ok (some ev')) : Carries ev ev' := by
  obtain ⟨-, reservations, inbox, hreserve, hinbox, rfl⟩ := insertProviderInbox_ok h
  refine .of_key (responseKey record) (fun key hk => ?_) fun e he => ?_
  · exact ⟨Table.find?_insert_of_ne hreserve (Ne.symm hk),
      Table.find?_insert_of_ne hinbox (Ne.symm hk), rfl⟩
  obtain ⟨rfl, -, hj⟩ := he.of_free (Table.insert_eq_some.1 hreserve).1
  let o : Obligation Bytes :=
    { digest := record.digest
      fenced := false
      withheld := withheldRow (inboxRow inboxId record)
      pending := !record.ackWithheld
      fenced_silent := fun hf => absurd hf (by simp)
      withheld_silent := fun hw => by
        simp only [withheldRow, inboxRow, Bool.and_eq_true, beq_iff_eq] at hw
        simp [hsettings hw.1 hw.2] }
  refine ⟨some o, ?_, .of_none⟩
  have hr : reservations.find? (responseKey record) =
      some ⟨record.connectionId, record.providerResponseId, record.digest, .inbox, false, 1⟩ :=
    Table.find?_insert_self hreserve
  have hrow : inbox.find? (responseKey record) = some (inboxRow inboxId record) :=
    Table.find?_insert_self hinbox
  exact .of_find? hr hrow hj (.inbox ⟨rfl, rfl, rfl, rfl, rfl, rfl⟩)

def received (digest : Bytes) (pending : Bool) : Obligation Bytes :=
  ⟨digest, false, false, pending, fun hf => absurd hf (by simp), fun hw => absurd hw (by simp)⟩

theorem upsertRejected_find? {reservation : ReservationRow}
    (h : upsertRejectedProviderResponse record ev = some (row, ev')) (hreservation : reservation =
      rejectReservation record (ev.reservations.find? (responseKey record))) :
    reservation.disposition = .rejected ∧ ev'.inbox = ev.inbox ∧ ∀ key,
      (ev'.reservations.find? key =
        if responseKey record = key then some reservation else ev.reservations.find? key) ∧
      (ev'.rejected.find? key =
        if responseKey record = key then some (((ev.rejected.find? key).map fun r =>
          r.again reservation).getD (rejectedRow record reservation))
        else ev.rejected.find? key) := by
  obtain ⟨-, hdisposition, rfl⟩ := upsertRejected_ok h
  rw [← hreservation] at hdisposition ⊢
  have hkey : reservation.key = responseKey record := by
    rw [hreservation]
    cases hr : ev.reservations.find? (responseKey record) with
    | none => rfl
    | some r =>
      have hkey : r.key = responseKey record := Table.key_of_find? hr
      exact hkey
  refine ⟨hdisposition, rfl, fun key => ⟨?_, find?_upsert _ _ _ _ key⟩⟩
  refine (find?_upsert _ _ _ _ key).trans ?_
  rw [hkey]
  split
  case isTrue hk =>
    subst hk
    rw [hreservation]
    cases ev.reservations.find? (responseKey record) <;> rfl
  case isFalse => rfl

theorem upsertRejected_onlyKey (h : upsertRejectedProviderResponse record ev = some (row, ev')) :
    OnlyKey (responseKey record) ev ev' := by
  obtain ⟨-, hinbox, hfind⟩ := upsertRejected_find? h rfl
  intro key hk
  rw [(hfind key).1, (hfind key).2, if_neg (Ne.symm hk), if_neg (Ne.symm hk), hinbox]
  exact ⟨rfl, rfl, rfl⟩

theorem upsertRejected_carries
    (h : upsertRejectedProviderResponse record ev = some (row, ev')) : Carries ev ev' := by
  obtain ⟨hdisposition, hinbox, hfind⟩ := upsertRejected_find? h rfl
  refine .of_key _ (upsertRejected_onlyKey h) fun e he => ?_
  have hreserved := (hfind (responseKey record)).1
  have hrejected := (hfind (responseKey record)).2
  rw [if_pos rfl] at hreserved hrejected
  cases hr : ev.reservations.find? (responseKey record) with
  | none =>
    obtain ⟨rfl, hi, hj⟩ := he.of_free hr
    rw [hr] at hreserved
    rw [hr, hj] at hrejected
    exact ⟨some (received record.digest true), .of_find? hreserved (hinbox ▸ hi) hrejected
      (.rejected ⟨rfl, rfl, rfl, rfl, rfl, rfl, rfl⟩), .of_none⟩
  | some r =>
    rw [hr] at hdisposition hreserved
    obtain ⟨row, o, hi, hj, rfl, hentry⟩ := he.of_rejected hr hdisposition
    rw [hr, hj] at hrejected
    cases hconflicted : (rejectReservation record (some r)).conflicted with
    | true =>
      refine ⟨some o.fence, .of_find? hreserved (hinbox ▸ hi) hrejected (.rejected ?_),
        .of_becomes o.fence_becomes⟩
      exact ⟨hdisposition, hentry.rowDigest, rfl, hentry.digest, hconflicted.symm,
        hentry.withheld, by simp [RejectedRow.again, hconflicted, Obligation.fence]⟩
    | false =>
      have hopen : o.Open := by
        simp only [rejectReservation, Bool.or_eq_false_iff] at hconflicted
        exact ⟨hentry.fenced.trans hconflicted.1, hentry.withheld⟩
      refine ⟨some (o.reopen hopen), .of_find? hreserved (hinbox ▸ hi) hrejected
        (.rejected ?_), .of_becomes (o.reopen_becomes hopen)⟩
      exact ⟨hdisposition, hentry.rowDigest, rfl, hentry.digest,
        hopen.1.trans hconflicted.symm, hentry.withheld,
        by simp [RejectedRow.again, hconflicted, Obligation.reopen]⟩

/-! ### Redelivery -/

theorem reopenProviderACK_onlyKey (key : ResponseKey) (ev : EvidenceTables) :
    OnlyKey key ev (reopenProviderACK key ev) := by
  intro k hk
  unfold reopenProviderACK
  split
  case h_1 => exact ⟨rfl, rfl, rfl⟩
  case h_2 =>
    split
    case h_1 =>
      rw [Table.find?_update_key, if_neg hk]
      exact ⟨rfl, rfl, rfl⟩
    case h_2 =>
      rw [Table.find?_update_of_ne (fun r hr => beq_iff_eq.1 (Bool.and_eq_true_iff.1 hr).1) hk]
      exact ⟨rfl, rfl, rfl⟩

theorem reopenProviderACK_carries
    (hstored : ∀ r row, ev.reservations.find? key = some r → r.disposition = .inbox →
      ev.inbox.find? key = some row → withheldRow row = false) :
    Carries ev (reopenProviderACK key ev) := by
  refine .of_key _ (reopenProviderACK_onlyKey key ev) fun e he => ?_
  unfold reopenProviderACK
  split
  case h_1 => exact ⟨e, he, .refl e⟩
  case h_2 r hr =>
    obtain ⟨hr, hopen⟩ := Option.filter_eq_some_iff.1 hr
    simp only [Bool.not_eq_true'] at hopen
    split
    case h_1 hd =>
      obtain ⟨row, o, hi, hj, rfl, hentry⟩ := he.of_inbox hr hd
      have hopen : o.Open :=
        ⟨hentry.fenced.trans hopen, hentry.withheld.trans (hstored r row hr hd hi)⟩
      refine ⟨some (o.reopen hopen), ?_, .of_becomes (o.reopen_becomes hopen)⟩
      simp only [Records, Table.find?_update_key, if_true, hr, hi, hj, Option.map_some]
      exact .inbox ⟨hd, hentry.rowDigest, hentry.digest, hentry.fenced, hentry.withheld, rfl⟩
    case h_2 hd =>
      obtain ⟨row, o, hi, hj, rfl, hentry⟩ := he.of_rejected hr hd
      have hkey : row.key = key := Table.key_of_find? hj
      have hcalm : row.conflicted = false := hentry.rowConflicted.trans hopen
      have hopen : o.Open := ⟨hentry.fenced.trans hopen, hentry.withheld⟩
      refine ⟨some (o.reopen hopen), ?_, .of_becomes (o.reopen_becomes hopen)⟩
      simp only [Records, Table.find?_update, hr, hi, hj, Option.map_some, hkey, hcalm,
        beq_self_eq_true, Bool.not_false, Bool.and_self, if_true]
      exact .rejected ⟨hd, hentry.rowDigest, hcalm.symm.trans hentry.rowConflicted, hentry.digest,
        hentry.fenced, hentry.withheld, rfl⟩

theorem insertProviderInboxConflict_carries {conflictId : String}
    (h : insertProviderInboxConflict conflictId record ev = .ok ev') : Carries ev ev' := by
  refine .of_key (responseKey record) (fun k hk => ?_) fun e he => ?_
  · obtain ⟨-, rfl⟩ | ⟨r, -, ⟨-, _, rfl⟩ | ⟨-, rfl⟩⟩ := insertProviderInboxConflict_ok h <;>
      simp only [conflictReservation, Table.find?_update_key, if_neg hk, and_self]
  · rcases insertProviderInboxConflict_ok h with ⟨hr, rfl⟩ | ⟨r, hr, ⟨hd, _, rfl⟩ | ⟨hd, rfl⟩⟩ <;>
      simp only [Records, conflictReservation, Table.find?_update_key, if_true, hr]
    · obtain ⟨rfl, hi, hj⟩ := he.of_free hr
      rw [hi, hj]
      exact ⟨none, .absent, .refl none⟩
    · obtain ⟨row, o, hi, hj, rfl, hentry⟩ := he.of_inbox hr hd
      rw [hi, hj]
      exact ⟨some o.fence, .inbox ⟨hd, hentry.rowDigest, hentry.digest, rfl, hentry.withheld, rfl⟩,
        .of_becomes o.fence_becomes⟩
    · obtain ⟨row, o, hi, hj, rfl, hentry⟩ := he.of_rejected hr hd
      rw [hi, hj]
      exact ⟨some o.fence, .rejected ⟨hd, hentry.rowDigest, rfl, hentry.digest, rfl,
        hentry.withheld, rfl⟩, .of_becomes o.fence_becomes⟩

/-! ### Poison -/

theorem finalizePoison_carries
    (hreason : reason ≠ .invalidSettingsSnapshot) (h : finalizePoison key reason ev = some ev') :
    Carries ev ev' := by
  obtain ⟨row, hi, hsound, -, -, rfl⟩ := finalizePoison_ok h
  refine .of_key key (fun k hk => ?_) fun e he => ?_
  · rw [Table.find?_update_key, if_neg hk]
    exact ⟨rfl, rfl, rfl⟩
  obtain ⟨r, o, hr, hj, rfl, hentry⟩ := he.of_inbox_row hi
  refine ⟨some o, ?_, .refl _⟩
  simp only [Records, Table.find?_update_key, if_true, hr, hi, hj, Option.map_some]
  have hwithheld : o.withheld = false := by
    rw [hentry.withheld, withheldRow, hsound, Bool.false_and]
  exact .inbox ⟨hentry.disposition, hentry.rowDigest, hentry.digest, hentry.fenced,
    by simp [withheldRow, hwithheld, hreason], hentry.pending⟩

theorem compactPoison_carries (h : compactPoison key reason ev = some ev') : Carries ev ev' := by
  obtain ⟨row, r, rejected, hi, hsound, hr, -, -, hinsert, rfl⟩ := compactPoison_ok h
  have hkey : row.key = key := Table.key_of_find? hi
  refine .of_key key (fun k hk => ?_) fun e he => ?_
  · rw [Table.find?_update_key, if_neg hk,
      Table.find?_delete_of_ne (fun r hr => beq_iff_eq.1 hr) hk,
      Table.find?_insert_of_ne hinsert fun hsame => hk (hsame.symm.trans hkey)]
    exact ⟨rfl, rfl, rfl⟩
  obtain ⟨r', o, hr', hj, rfl, hentry⟩ := he.of_inbox_row hi
  obtain rfl := Option.mem_unique hr hr'
  have hwithheld : o.withheld = false := by
    rw [hentry.withheld, withheldRow, hsound, Bool.false_and]
  have hstored : rejected.find? key = some (compactedRow row r reason) :=
    hkey ▸ Table.find?_insert_self hinsert
  have hgone : (ev.inbox.delete fun r => r.key == key).find? key = none := by
    rw [Table.find?_delete, hi]
    simp [Option.filter_some, hkey]
  have hreserved : (ev.reservations.update (fun r => r.key == key)
      (fun r => { r with disposition := .rejected })).find? key =
        some { r with disposition := .rejected } := by
    rw [Table.find?_update_key, if_pos rfl, hr, Option.map_some]
  cases hconflicted : r.conflicted with
  | true =>
    have hfenced : o.fenced = true := hentry.fenced.trans hconflicted
    refine ⟨some o, .of_find? hreserved hgone hstored (.rejected ?_), .refl _⟩
    exact ⟨rfl, rfl, rfl, hentry.digest, hentry.fenced, hwithheld,
      by simp [compactedRow, hconflicted, o.fenced_silent hfenced]⟩
  | false =>
    have hopen : o.Open := ⟨hentry.fenced.trans hconflicted, hwithheld⟩
    refine ⟨some (o.reopen hopen), .of_find? hreserved hgone hstored (.rejected ?_),
      .of_becomes (o.reopen_becomes hopen)⟩
    exact ⟨rfl, rfl, rfl, hentry.digest, hentry.fenced, hwithheld,
      by simp [compactedRow, hconflicted, Obligation.reopen]⟩

theorem finalizeProviderPoison_carries (hreason : reason ≠ .invalidSettingsSnapshot)
    (h : finalizeProviderPoison key reason ev = .ok ev') : Carries ev ev' := by
  rcases finalizeProviderPoison_ok h with h | h
  · exact finalizePoison_carries hreason h
  · exact compactPoison_carries h

/-! ### Acknowledgements -/

theorem acknowledge_carries (now : Time) (connectionId : String) (ids : List String) :
    Carries ev (acknowledge now connectionId ids ev) := by
  intro key e he
  simp only [Records, acknowledge, Table.find?_update]
  cases hr : ev.reservations.find? key with
  | none =>
    obtain ⟨rfl, hi, hj⟩ := he.of_free hr
    rw [hi, hj]
    exact ⟨none, .absent, .refl none⟩
  | some r =>
    cases hd : r.disposition with
    | inbox =>
      obtain ⟨row, o, hi, hj, rfl, hentry⟩ := he.of_inbox hr hd
      rw [hi, hj, Option.map_some]
      split
      · exact ⟨some o.settle, .inbox ⟨hd, hentry.rowDigest, hentry.digest, hentry.fenced,
          hentry.withheld, rfl⟩, .of_becomes o.settle_becomes⟩
      · exact ⟨some o, .inbox hentry, .refl _⟩
    | rejected =>
      obtain ⟨row, o, hi, hj, rfl, hentry⟩ := he.of_rejected hr hd
      rw [hi, hj, Option.map_some]
      split
      · exact ⟨some o.settle, .rejected ⟨hd, hentry.rowDigest, hentry.rowConflicted,
          hentry.digest, hentry.fenced, hentry.withheld, rfl⟩, .of_becomes o.settle_becomes⟩
      · exact ⟨some o, .rejected hentry, .refl _⟩

theorem due_of_ackEligible {e : Option (Obligation Bytes)}
    (he : Records ev key e) (h : ackEligible ev key = true) : Due e := by
  obtain ⟨r, hr, h⟩ := (Option.any_eq_true _ _).1 h
  simp only [Bool.and_eq_true] at h
  cases hd : r.disposition with
  | inbox =>
    rw [hd] at h
    obtain ⟨row, o, hi, -, rfl, hentry⟩ := he.of_inbox hr hd
    exact ⟨o, rfl, hentry.pending.trans (by simpa [hi] using h.2)⟩
  | rejected =>
    rw [hd] at h
    obtain ⟨row, o, -, hj, rfl, hentry⟩ := he.of_rejected hr hd
    refine ⟨o, rfl, hentry.pending.trans ?_⟩
    have heligible := h.2
    simp only [hj, Option.any_some, Bool.and_eq_true] at heligible
    exact heligible.1

end MessagingGateway.Evidence
