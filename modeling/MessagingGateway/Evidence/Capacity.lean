import MessagingGateway.Evidence.Acknowledgement
import MessagingGateway.Relational.Aggregates

/-!
# The quarantine is bounded

Poison is kept raw in the inbox, within a number of rows and of bytes for each
connection, or as a digest among the rejected responses, within a number of
rows. Four statements admit evidence to one of the two families or move it from
the first to the second, and each checks the bound of the family it adds to;
what a check counts is what the family holds because every row of either family
has its reservation.
-/

namespace MessagingGateway.Evidence

open Relational Domain Store Ingress Gateway Ledger

variable {rt : Runtime} {now : Time} {db db' : Database} {record : EnvelopeRecord}
  {ev ev' : EvidenceTables}

/-! ### What is counted -/

def rejectedShare (connectionId : String) (r : ReservationRow) : Nat :=
  if r.connectionId == connectionId && r.disposition == .rejected then 1 else 0

def poisonShare (connectionId : String) (w : Bytes → Nat) (r : InboxRow) : Nat :=
  if r.connectionId == connectionId && r.poisoned then w r.rawEnvelope else 0

theorem rejectedUsage_eq (connectionId : String) (ev : EvidenceTables) :
    rejectedUsage connectionId ev = ev.reservations.total (rejectedShare connectionId) :=
  Table.length_select _ _

theorem length_poisonRows (connectionId : String) (ev : EvidenceTables) :
    (poisonRows connectionId ev).length = ev.inbox.total (poisonShare connectionId fun _ => 1) :=
  Table.length_select _ _

theorem poisonBytes_eq (connectionId : String) (ev : EvidenceTables) :
    poisonBytes connectionId ev =
      ev.inbox.total (poisonShare connectionId List.length) :=
  Table.sum_select _ _ _

structure Bounded (ev : EvidenceTables) : Prop where
  rejected : ∀ c, rejectedUsage c ev ≤ maxRejectedProviderResponses
  rows : ∀ c, (poisonRows c ev).length ≤ maxPoisonedProviderInboxEntries
  bytes : ∀ c, poisonBytes c ev ≤ maxPoisonedProviderInboxBytes

theorem Bounded.of_le (h : Bounded ev)
    (hreserved : ∀ c, ev'.reservations.total (rejectedShare c) ≤
      ev.reservations.total (rejectedShare c))
    (hinbox : ∀ c w, ev'.inbox.total (poisonShare c w) ≤ ev.inbox.total (poisonShare c w)) :
    Bounded ev' := by
  refine ⟨fun c => ?_, fun c => ?_, fun c => ?_⟩
  · rw [rejectedUsage_eq]
    exact (hreserved c).trans (rejectedUsage_eq c ev ▸ h.rejected c)
  · rw [length_poisonRows]
    exact (hinbox c _).trans (length_poisonRows c ev ▸ h.rows c)
  · rw [poisonBytes_eq]
    exact (hinbox c _).trans (poisonBytes_eq c ev ▸ h.bytes c)

/-- Every row of the inbox and of the rejected responses has its reservation. -/
def Reserved (ev : EvidenceTables) : Prop := ∀ key, ∃ e, Records ev key e

theorem Reserved.carries (h : Reserved ev) (hcarries : Carries ev ev') : Reserved ev' := by
  intro key
  obtain ⟨e, he⟩ := h key
  obtain ⟨e', he', -⟩ := hcarries key e he
  exact ⟨e', he'⟩

/-! ### First delivery -/

theorem Reserved.poisonRows_filter (h : Reserved ev) (connectionId : String) :
    ((poisonRows connectionId ev).filter fun r =>
      (ev.reservations.find? r.key).any fun s => s.disposition == .inbox) =
        poisonRows connectionId ev := by
  refine List.filter_eq_self.2 fun r hr => ?_
  obtain ⟨e, he⟩ := h r.key
  obtain ⟨s, _, hs, -, -, hentry⟩ :=
    he.of_inbox_row (Table.find?_of_mem (Table.mem_select.1 hr).1)
  rw [hs, Option.any_some, hentry.disposition]
  rfl

theorem insertProviderInbox_bounded {inboxId : String} (hreserved : Reserved ev)
    (hbounded : Bounded ev) (h : insertProviderInbox inboxId record ev = .ok (some ev')) :
    Bounded ev' := by
  obtain ⟨hadmits, reservations, inbox, hreserve, hinbox, rfl⟩ := insertProviderInbox_ok h
  have hshare : ∀ c, reservations.total (rejectedShare c) =
      ev.reservations.total (rejectedShare c) := fun c => by
    rw [Table.total_insert hreserve]
    simp [rejectedShare]
  have hrow : ∀ c w, inbox.total (poisonShare c w) = ev.inbox.total (poisonShare c w) +
      poisonShare c w (inboxRow inboxId record) := fun c w => Table.total_insert hinbox
  simp only [admitsInbox, hreserved.poisonRows_filter, Bool.or_eq_true, Bool.not_eq_true',
    Bool.and_eq_true, decide_eq_true_eq] at hadmits
  -- a row that adds to the poison of a connection was admitted for it
  have hroom : ∀ c, (∀ w, poisonShare c w (inboxRow inboxId record) = 0) ∨
      (c = record.connectionId ∧ (poisonRows c ev).length < maxPoisonedProviderInboxEntries ∧
        poisonBytes c ev + record.raw.length ≤ maxPoisonedProviderInboxBytes) := fun c => by
    by_cases hc : c = record.connectionId
    · rcases hadmits with hsound | hroom
      · exact .inl fun w => by simp [poisonShare, inboxRow, hsound]
      · exact .inr ⟨hc, hc ▸ hroom⟩
    · exact .inl fun w => by simp [poisonShare, inboxRow, Ne.symm hc]
  refine ⟨fun c => ?_, fun c => ?_, fun c => ?_⟩
  · rw [rejectedUsage_eq, hshare, ← rejectedUsage_eq]
    exact hbounded.rejected c
  · rw [length_poisonRows, hrow, ← length_poisonRows]
    rcases hroom c with hnone | ⟨-, hrows, -⟩
    · rw [hnone]
      exact hbounded.rows c
    · have hone : poisonShare c (fun _ => 1) (inboxRow inboxId record) ≤ 1 := by
        unfold poisonShare
        split <;> simp
      omega
  · rw [poisonBytes_eq, hrow, ← poisonBytes_eq]
    rcases hroom c with hnone | ⟨-, -, hbytes⟩
    · rw [hnone]
      exact hbounded.bytes c
    · have hraw : poisonShare c List.length (inboxRow inboxId record) ≤
          record.raw.length := by
        unfold poisonShare
        split
        · exact Nat.le_refl _
        · exact Nat.zero_le _
      omega

theorem upsertRejected_bounded {row : RejectedRow} (hbounded : Bounded ev)
    (h : upsertRejectedProviderResponse record ev = some (row, ev')) : Bounded ev' := by
  obtain ⟨hroom, hdisposition, rfl⟩ := upsertRejected_ok h
  cases hr : ev.reservations.find? (responseKey record) with
  | none =>
    simp only [hr, Option.any_none, Bool.or_false, decide_eq_true_eq] at hroom
    -- a new reservation is counted once, for its own connection
    have hfree : ev.reservations.find? (rejectReservation record none).key = none := hr
    obtain ⟨reservations, hinsert⟩ := Table.exists_insert hfree
    have hupsert : upsert ev.reservations (rejectReservation record none)
        (fun r => { rejectReservation record (some r) with
          connectionId := r.connectionId, providerResponseId := r.providerResponseId }) =
        reservations := by
      rw [upsert, hfree, Option.isSome_none, if_neg (by simp), Table.insertIgnore, hinsert,
        Option.getD_some]
    refine ⟨fun c => ?_, hbounded.rows, hbounded.bytes⟩
    rw [rejectedUsage_eq, hupsert, Table.total_insert hinsert, ← rejectedUsage_eq]
    by_cases hc : record.connectionId = c
    · have hone : rejectedShare c (rejectReservation record none) ≤ 1 := by
        unfold rejectedShare
        split <;> omega
      rw [← hc] at hone ⊢
      omega
    · have hnone : rejectedShare c (rejectReservation record none) = 0 := by
        simp [rejectedShare, rejectReservation, hc]
      rw [hnone]
      exact hbounded.rejected c
  | some r =>
    refine hbounded.of_le (fun c => ?_) fun _ _ => Nat.le_refl _
    rw [hr] at hdisposition
    have hkey : (rejectReservation record (some r)).key = responseKey record := by
      have hkey : r.key = responseKey record := Table.key_of_find? hr
      exact hkey
    rw [upsert, hkey, hr, Option.isSome_some, if_pos rfl]
    rw [Table.total_update_of_eq]
    exact fun _ _ _ => rfl

/-! ### Redelivery -/

variable {key : ResponseKey} {reason : PoisonReason}

theorem reopenProviderACK_bounded (hbounded : Bounded ev) : Bounded (reopenProviderACK key ev) := by
  unfold reopenProviderACK
  split
  case h_1 => exact hbounded
  case h_2 =>
    split
    case h_1 =>
      refine hbounded.of_le (fun _ => Nat.le_refl _) fun _ _ => ?_
      rw [Table.total_update_of_eq]
      exact fun _ _ _ => rfl
    case h_2 => exact hbounded.of_le (fun _ => Nat.le_refl _) fun _ _ => Nat.le_refl _

theorem insertProviderInboxConflict_bounded {conflictId : String} (hbounded : Bounded ev)
    (h : insertProviderInboxConflict conflictId record ev = .ok ev') : Bounded ev' := by
  have hfenced : ∀ c, (conflictReservation (responseKey record) ev).total (rejectedShare c) ≤
      ev.reservations.total (rejectedShare c) := fun c => by
    rw [conflictReservation, Table.total_update_of_eq]
    exact fun _ _ _ => rfl
  rcases insertProviderInboxConflict_ok h with ⟨-, rfl⟩ | ⟨r, -, ⟨-, _, rfl⟩ | ⟨-, rfl⟩⟩
  · exact hbounded.of_le hfenced fun _ _ => Nat.le_refl _
  · refine hbounded.of_le hfenced fun _ _ => ?_
    rw [Table.total_update_of_eq]
    exact fun _ _ _ => rfl
  · exact hbounded.of_le hfenced fun _ _ => Nat.le_refl _

/-! ### Poison -/

theorem finalizePoison_bounded
    (hbounded : Bounded ev) (h : finalizePoison key reason ev = some ev') : Bounded ev' := by
  obtain ⟨row, hi, hsound, hrows, hbytes, rfl⟩ := finalizePoison_ok h
  have hkey : row.connectionId = key.1 := congrArg Prod.fst (Table.key_of_find? hi)
  have htotal : ∀ c w, (ev.inbox.update (fun r => r.key == key)
      (fun r => { r with poisoned := true, poisonReason := reason })).total (poisonShare c w) =
      ev.inbox.total (poisonShare c w) +
        poisonShare c w { row with poisoned := true, poisonReason := reason } := fun c w => by
    have htrade := Table.total_update_key (w := poisonShare c w)
      (f := fun r => { r with poisoned := true, poisonReason := reason }) (fun _ => rfl) hi
    have hnone : poisonShare c w row = 0 := by simp [poisonShare, hsound]
    omega
  refine ⟨hbounded.rejected, fun c => ?_, fun c => ?_⟩
  · rw [length_poisonRows, htotal, ← length_poisonRows]
    by_cases hc : key.1 = c
    · have hone : poisonShare c (fun _ => 1)
          { row with poisoned := true, poisonReason := reason } ≤ 1 := by
        unfold poisonShare
        split <;> simp
      rw [← hc] at hone ⊢
      omega
    · simpa [poisonShare, hkey, hc] using hbounded.rows c
  · rw [poisonBytes_eq, htotal, ← poisonBytes_eq]
    by_cases hc : key.1 = c
    · have hraw : poisonShare c List.length
          { row with poisoned := true, poisonReason := reason } ≤ row.rawEnvelope.length := by
        unfold poisonShare
        split
        · exact Nat.le_refl _
        · exact Nat.zero_le _
      rw [← hc] at hraw ⊢
      omega
    · simpa [poisonShare, hkey, hc] using hbounded.bytes c

theorem compactPoison_bounded
    (hbounded : Bounded ev) (h : compactPoison key reason ev = some ev') : Bounded ev' := by
  obtain ⟨row, r, rejected, -, -, hr, hinbox, hroom, hinsert, rfl⟩ := compactPoison_ok h
  have hkey : r.connectionId = key.1 := congrArg Prod.fst (Table.key_of_find? hr)
  have htotal : ∀ c, (ev.reservations.update (fun r => r.key == key)
      (fun r => { r with disposition := .rejected })).total (rejectedShare c) =
      ev.reservations.total (rejectedShare c) +
        rejectedShare c { r with disposition := .rejected } := fun c => by
    have htrade := Table.total_update_key (w := rejectedShare c)
      (f := fun r => { r with disposition := .rejected }) (fun _ => rfl) hr
    have hnone : rejectedShare c r = 0 := by simp [rejectedShare, hinbox]
    omega
  refine ⟨fun c => ?_, fun c => ?_, fun c => ?_⟩
  · rw [rejectedUsage_eq, htotal, ← rejectedUsage_eq]
    by_cases hc : key.1 = c
    · have hone : rejectedShare c { r with disposition := .rejected } ≤ 1 := by
        unfold rejectedShare
        split <;> omega
      rw [← hc] at hone ⊢
      omega
    · simpa [rejectedShare, hkey, hc] using hbounded.rejected c
  · rw [length_poisonRows]
    exact (Table.total_delete_le _ _).trans (length_poisonRows c ev ▸ hbounded.rows c)
  · rw [poisonBytes_eq]
    exact (Table.total_delete_le _ _).trans (poisonBytes_eq c ev ▸ hbounded.bytes c)

theorem finalizeProviderPoison_bounded
    (hbounded : Bounded ev) (h : finalizeProviderPoison key reason ev = .ok ev') : Bounded ev' := by
  rcases finalizeProviderPoison_ok h with h | h
  · exact finalizePoison_bounded hbounded h
  · exact compactPoison_bounded hbounded h

theorem acknowledge_bounded (connectionId : String) (ids : List String) (hbounded : Bounded ev) :
    Bounded (acknowledge now connectionId ids ev) := by
  refine hbounded.of_le (fun _ => Nat.le_refl _) fun _ _ => ?_
  rw [acknowledge, Table.total_update_of_eq]
  exact fun _ _ _ => rfl

/-! ### Every call -/

theorem Statement.bounded (h : Statement ev ev') (hreserved : Reserved ev) (hbounded : Bounded ev) :
    Bounded ev' := by
  cases h with
  | cursors budgets history h =>
    subst h
    exact hbounded.of_le (fun _ => Nat.le_refl _) fun _ _ => Nat.le_refl _
  | insert _ h => exact insertProviderInbox_bounded hreserved hbounded h
  | reject h => exact upsertRejected_bounded hbounded h
  | reopen _ h => exact h ▸ reopenProviderACK_bounded hbounded
  | conflict h => exact insertProviderInboxConflict_bounded hbounded h
  | poison _ h => exact finalizeProviderPoison_bounded hbounded h
  | acknowledge now connectionId ids h => exact h ▸ acknowledge_bounded connectionId ids hbounded

theorem step_bounded {call : Call} (hop : FromProcess rt db.tenantId call.2)
    (h : Reserved db.evidence ∧ Bounded db.evidence) :
    Reserved (step rt call db).2.evidence ∧ Bounded (step rt call db).2.evidence :=
  (step_statements hop).invariant (P := fun ev => Reserved ev ∧ Bounded ev)
    (fun _ _ hstatement h => ⟨h.1.carries hstatement.carries, hstatement.bounded h.1 h.2⟩) h

def rejectedRows (connectionId : String) (ev : EvidenceTables) : List RejectedRow :=
  ev.rejected.select fun r => r.connectionId == connectionId

theorem Reserved.length_rejectedRows_le (h : Reserved ev) (connectionId : String) :
    (rejectedRows connectionId ev).length ≤ rejectedUsage connectionId ev := by
  refine Table.length_select_le ReservationRow.key fun row hrow hconnection => ?_
  obtain ⟨e, he⟩ := h row.key
  obtain ⟨r, _, hr, -, hentry⟩ := he.of_rejected_row (Table.find?_of_mem hrow)
  have hkey : r.key = row.key := Table.key_of_find? hr
  have hsame : r.connectionId = row.connectionId := congrArg Prod.fst hkey
  refine ⟨r, Table.mem_of_find? hr, ?_, hkey⟩
  rw [hsame, hconnection, hentry.disposition]
  rfl

/-- A response refused for lack of room leaves no trace. A conflict is an error as
well, and is committed; it is told apart by its sentinel. -/
theorem process_capacity {receivedAt : Time} {ids : CommitIds} {envelope : Envelope} {e : Err}
    (h : process rt receivedAt now ids envelope db = (.error e, db'))
    (hcapacity : e.isSentinel .providerResponseCapacity = true) : db' = db := by
  unfold process at h
  split at h
  · exact (congrArg Prod.snd h).symm
  · simp only at h
    split at h
    · exact (congrArg Prod.snd h).symm
    · rename_i result _ _
      cases result <;> simp only [CommitResult.processed, Prod.mk.injEq, reduceCtorEq, false_and,
        Except.error.injEq] at h
      obtain ⟨rfl, -⟩ := h
      cases hcapacity

/-- In every state reached from a tenant without evidence each connection has at
most 256 rejected responses, 256 poisoned inbox rows and 32 MiB of raw poison, and
a response refused for lack of room leaves the database as it was. -/
theorem quarantine_bounded {db₀ : Database} {trace : List (Call × Reply)}
    (hempty : db₀.evidence = {}) (hrun : Run (step rt) (Admits rt) db₀ trace db) :
    (∀ c, (rejectedRows c db.evidence).length ≤ 256 ∧ (poisonRows c db.evidence).length ≤ 256 ∧
      poisonBytes c db.evidence ≤ 32 * 1024 * 1024) ∧
    ∀ receivedAt now ids envelope e db',
      process rt receivedAt now ids envelope db = (.error e, db') →
        e.isSentinel .providerResponseCapacity = true → db' = db := by
  have hinitial : Reserved db₀.evidence ∧ Bounded db₀.evidence := by
    rw [hempty]
    exact ⟨fun _ => ⟨none, .absent⟩, fun _ => Nat.zero_le _, fun _ => Nat.zero_le _,
      fun _ => Nat.zero_le _⟩
  obtain ⟨hreserved, hbounded⟩ :=
    hrun.invariant (P := fun s => Reserved s.evidence ∧ Bounded s.evidence)
      (fun _ _ hcall h => step_bounded hcall h) hinitial
  refine ⟨fun c => ⟨?_, hbounded.rows c, hbounded.bytes c⟩, ?_⟩
  · exact (hreserved.length_rejectedRows_le c).trans (hbounded.rejected c)
  · intro receivedAt now ids envelope e db' h hcapacity
    exact process_capacity h hcapacity

theorem redelivered_bounded :
    (poisonRows "phone" (execute (step Dispatch.phoneRuntime) redelivered
      Dispatch.phoneDatabase).2.evidence).length = 1 ∧
    poisonBytes "phone" (execute (step Dispatch.phoneRuntime) redelivered
      Dispatch.phoneDatabase).2.evidence ≤ 32 * 1024 * 1024 := by
  refine ⟨by decide +kernel, ?_⟩
  exact ((quarantine_bounded rfl redelivered_run).1 "phone").2.2

end MessagingGateway.Evidence
