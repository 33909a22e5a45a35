import MessagingGateway.Ingress.Record

/-!
# Evidence of provider responses

A response ID is reserved once, with the digest of its bytes, and the
reservation says where the evidence is: the raw envelope in the inbox, or the
digest alone among the rejected responses. The statements here keep the three
tables together. Raw poison is bounded in rows and in bytes; what does not fit
is compacted into the rejected responses, which are bounded in rows.
-/

namespace MessagingGateway.Store

open Relational Domain Ingress

def nextOccurrence (count : Nat) : Nat := min (count + 1) 2147483647

def responseKey (record : EnvelopeRecord) : ResponseKey :=
  (record.connectionId, record.providerResponseId)

/-! ### Reading -/

/-- The row `getProviderInboxSQL` returns for a reservation that is not
conflicted. -/
structure StoredResponse where
  digest : Bytes
  disposition : Disposition
  ackPending : Bool
  poisoned : Bool
  poisonReason : PoisonReason
  deriving DecidableEq

def getProviderInbox (key : ResponseKey) (evidence : EvidenceTables) : Option StoredResponse :=
  match (evidence.reservations.find? key).filter fun r => !r.conflicted with
  | none => none
  | some reservation =>
    match reservation.disposition with
    | .inbox => (evidence.inbox.find? key).map fun row =>
      ⟨reservation.envelopeDigest, .inbox, row.ackPending, row.poisoned, row.poisonReason⟩
    | .rejected => (evidence.rejected.find? key).map fun row =>
      ⟨reservation.envelopeDigest, .rejected, row.ackPending, true, row.reason⟩

def poisonRows (connectionId : String) (evidence : EvidenceTables) : List InboxRow :=
  evidence.inbox.select fun r => r.connectionId == connectionId && r.poisoned

def poisonBytes (connectionId : String) (evidence : EvidenceTables) : Nat :=
  ((poisonRows connectionId evidence).map (·.rawEnvelope.length)).sum

def rejectedUsage (connectionId : String) (evidence : EvidenceTables) : Nat :=
  (evidence.reservations.select fun r =>
    r.connectionId == connectionId && r.disposition == .rejected).length

/-! ### A response seen for the first time -/

/-- The admission clause of `insertProviderInboxSQL`: raw poison must fit. -/
def admitsInbox (record : EnvelopeRecord) (evidence : EvidenceTables) : Bool :=
  !record.poisoned ||
    (((poisonRows record.connectionId evidence).filter fun r =>
        (evidence.reservations.find? r.key).any fun s => s.disposition == .inbox).length
        < maxPoisonedProviderInboxEntries &&
      poisonBytes record.connectionId evidence + record.raw.length ≤ maxPoisonedProviderInboxBytes)

def inboxRow (inboxId : String) (record : EnvelopeRecord) : InboxRow :=
  { inboxId := inboxId
    connectionId := record.connectionId
    providerResponseId := record.providerResponseId
    envelopeDigest := record.digest
    rawEnvelope := record.raw
    poisoned := record.poisoned
    poisonReason := record.poisonReason
    ackPending := !record.ackWithheld
    ownerId := record.ownerId
    fencingToken := record.fencingToken
    receivedAt := record.receivedAt }

/-- `insertProviderInboxSQL`; `none` when no row was inserted. -/
def insertProviderInbox (inboxId : String) (record : EnvelopeRecord) (evidence : EvidenceTables) :
    Tx (Option EvidenceTables) :=
  if admitsInbox record evidence then
    match evidence.reservations.insert
        ⟨record.connectionId, record.providerResponseId, record.digest, .inbox, false, 1⟩ with
    | none => pure none
    | some reservations => do
        require (evidence.inbox.rows.all fun r => r.inboxId != inboxId)
          (uniqueViolation "insert provider inbox")
        let inbox ← orFail (evidence.inbox.insert (inboxRow inboxId record))
          (uniqueViolation "insert provider inbox")
        pure (some { evidence with reservations := reservations, inbox := inbox })
  else pure none

/-- The reservation `upsertRejectedProviderResponseSQL` leaves. -/
def rejectReservation (record : EnvelopeRecord) (reservation : Option ReservationRow) :
    ReservationRow :=
  match reservation with
  | none => ⟨record.connectionId, record.providerResponseId, record.digest, .rejected, false, 1⟩
  | some r => { r with
      occurrenceCount := nextOccurrence r.occurrenceCount
      conflicted := r.conflicted || r.envelopeDigest != record.digest }

def upsert {κ ρ : Type} [DecidableEq κ] {key : ρ → κ} (table : Table key) (row : ρ)
    (merge : ρ → ρ) (hmerge : ∀ r, key (merge r) = key r := by exact fun _ => id rfl) : Table key :=
  if (table.find? (key row)).isSome then table.update (fun r => key r = key row) merge hmerge
  else table.insertIgnore row

theorem find?_upsert {κ ρ : Type} [DecidableEq κ] {key : ρ → κ} (table : Table key) (row : ρ)
    (merge : ρ → ρ) (hmerge : ∀ r, key (merge r) = key r) (k : κ) :
    (upsert table row merge hmerge).find? k =
      if key row = k then some (((table.find? k).map merge).getD row) else table.find? k := by
  unfold upsert
  cases h : table.find? (key row) with
  | none =>
    rw [Option.isSome_none, if_neg (by simp), Table.find?_insertIgnore]
    split
    case isTrue hk => simp [← hk, h]
    case isFalse => rfl
  | some old =>
    rw [Option.isSome_some, if_pos rfl, Table.find?_update]
    split
    case isTrue hk => simp [← hk, h, Table.key_of_find? h]
    case isFalse hk =>
      cases hrow : table.find? k with
      | none => rfl
      | some r => simp [Table.key_of_find? hrow, Ne.symm hk]

def rejectedRow (record : EnvelopeRecord) (reservation : ReservationRow) : RejectedRow :=
  { connectionId := record.connectionId
    providerResponseId := record.providerResponseId
    envelopeDigest := reservation.envelopeDigest
    reason := .providerCursorBudgetExhausted
    ackPending := !reservation.conflicted
    conflicted := reservation.conflicted
    occurrenceCount := reservation.occurrenceCount
    firstSeenAt := record.receivedAt }

def RejectedRow.again (r : RejectedRow) (reservation : ReservationRow) : RejectedRow :=
  { r with
    occurrenceCount := reservation.occurrenceCount
    conflicted := reservation.conflicted
    ackPending := !reservation.conflicted
    ackedAt := if reservation.conflicted then r.ackedAt else none }

/-- `upsertRejectedProviderResponseSQL`: the stored row, or `none` when the
capacity is exhausted or the response is an inbox response. -/
def upsertRejectedProviderResponse (record : EnvelopeRecord) (evidence : EvidenceTables) :
    Option (RejectedRow × EvidenceTables) :=
  let key := responseKey record
  let existing := evidence.reservations.find? key
  if rejectedUsage record.connectionId evidence < maxRejectedProviderResponses ||
      existing.any fun r => r.disposition == .rejected then
    let reservation := rejectReservation record existing
    if reservation.disposition = .rejected then
      let reservations := upsert evidence.reservations reservation
        (fun r => { rejectReservation record (some r) with
          connectionId := r.connectionId, providerResponseId := r.providerResponseId })
      let rejected := upsert evidence.rejected (rejectedRow record reservation)
        (fun r => r.again reservation)
      (rejected.find? key).map fun row =>
        (row, { evidence with reservations := reservations, rejected := rejected })
    else none
  else none

/-! ### A response seen again -/

def reopenProviderACK (key : ResponseKey) (evidence : EvidenceTables) : EvidenceTables :=
  match (evidence.reservations.find? key).filter fun r => !r.conflicted with
  | none => evidence
  | some reservation =>
    match reservation.disposition with
    | .inbox => { evidence with
        inbox := evidence.inbox.update (fun r => r.key == key)
          (fun r => { r with ackPending := true, ackedAt := none }) }
    | .rejected => { evidence with
        rejected := evidence.rejected.update (fun r => r.key == key && !r.conflicted)
          (fun r => { r with ackPending := true, ackedAt := none }) }

def conflictReservation (key : ResponseKey) (evidence : EvidenceTables) :
    Table ReservationRow.key :=
  evidence.reservations.update (fun r => r.key == key)
    (fun r => { r with
      conflicted := true, occurrenceCount := nextOccurrence r.occurrenceCount })

def conflictRow (conflictId : String) (record : EnvelopeRecord) : ConflictRow :=
  { conflictId := conflictId
    connectionId := record.connectionId
    providerResponseId := record.providerResponseId
    conflictingDigest := record.digest
    conflictingRawEnvelope := record.raw.take 256
    conflictingEnvelopeSize := record.raw.length }

/-- `insertProviderInboxConflictSQL`: the reservation is conflicted, its
evidence is fenced from ACK, and an inbox response keeps one sample of the
conflicting bytes. -/
def insertProviderInboxConflict (conflictId : String) (record : EnvelopeRecord)
    (evidence : EvidenceTables) : Tx EvidenceTables :=
  let key := responseKey record
  let reservations := conflictReservation key evidence
  match evidence.reservations.find? key with
  | none => pure { evidence with reservations := reservations }
  | some reservation =>
    match reservation.disposition with
    | .inbox => do
        let fresh := (evidence.conflicts.find? key).isNone
        require (!fresh || evidence.conflicts.rows.all fun r => r.conflictId != conflictId)
          (uniqueViolation "quarantine conflicting envelope")
        pure { evidence with
          reservations := reservations
          inbox := evidence.inbox.update (fun r => r.key == key)
            (fun r => { r with ackPending := false })
          conflicts := upsert evidence.conflicts (conflictRow conflictId record)
            (fun r => { r with occurrenceCount := nextOccurrence r.occurrenceCount }) }
    | .rejected => pure { evidence with
        reservations := reservations
        rejected := evidence.rejected.update (fun r => r.key == key)
          (fun r => { r with conflicted := true, ackPending := false }) }

/-! ### Poison -/

/-- `finalizeProviderPoisonSQL`: the inbox row becomes raw poison if it fits. -/
def finalizePoison (key : ResponseKey) (reason : PoisonReason) (evidence : EvidenceTables) :
    Option EvidenceTables :=
  match (evidence.inbox.find? key).filter fun r => !r.poisoned with
  | none => none
  | some candidate =>
    if (poisonRows key.1 evidence).length < maxPoisonedProviderInboxEntries ∧
        poisonBytes key.1 evidence + candidate.rawEnvelope.length ≤
          maxPoisonedProviderInboxBytes then
      some { evidence with
        inbox := evidence.inbox.update (fun r => r.key == key)
          (fun r => { r with poisoned := true, poisonReason := reason }) }
    else none

def compactedRow (row : InboxRow) (reservation : ReservationRow) (reason : PoisonReason) :
    RejectedRow :=
  { connectionId := row.connectionId
    providerResponseId := row.providerResponseId
    envelopeDigest := reservation.envelopeDigest
    reason := reason
    ackPending := !reservation.conflicted
    conflicted := reservation.conflicted
    occurrenceCount := reservation.occurrenceCount
    firstSeenAt := row.receivedAt }

/-- `compactProviderPoisonSQL`: the raw bytes go, the digest stays. -/
def compactPoison (key : ResponseKey) (reason : PoisonReason) (evidence : EvidenceTables) :
    Option EvidenceTables :=
  match (evidence.inbox.find? key).filter (fun r => !r.poisoned),
      (evidence.reservations.find? key).filter fun r => r.disposition == .inbox with
  | some row, some reservation =>
    if rejectedUsage key.1 evidence < maxRejectedProviderResponses ∧
        reservation.envelopeDigest = row.envelopeDigest then
      (evidence.rejected.insert (compactedRow row reservation reason)).map fun rejected =>
        { evidence with
          conflicts := evidence.conflicts.delete fun r => r.key == key
          inbox := evidence.inbox.delete fun r => r.key == key
          reservations := evidence.reservations.update (fun r => r.key == key)
            (fun r => { r with disposition := .rejected })
          rejected := rejected }
    else none
  | _, _ => none

def finalizeProviderPoison (key : ResponseKey) (reason : PoisonReason)
    (evidence : EvidenceTables) : Tx EvidenceTables :=
  orFail (finalizePoison key reason evidence <|> compactPoison key reason evidence)
    Sentinel.providerResponseCapacity.err

/-! ### What the statements leave -/

section

variable {record : EnvelopeRecord} {key : ResponseKey} {reason : PoisonReason}
  {ev ev' : EvidenceTables}

theorem insertProviderInbox_ok {inboxId : String}
    (h : insertProviderInbox inboxId record ev = .ok (some ev')) :
    admitsInbox record ev = true ∧ ∃ reservations inbox,
      ev.reservations.insert ⟨record.connectionId, record.providerResponseId, record.digest, .inbox,
        false, 1⟩ = some reservations ∧
      ev.inbox.insert (inboxRow inboxId record) = some inbox ∧
      ev' = { ev with reservations := reservations, inbox := inbox } := by
  unfold insertProviderInbox at h
  split at h
  case isFalse => simp [pure_ok] at h
  case isTrue hadmits =>
    split at h
    case h_1 => simp [pure_ok] at h
    case h_2 reservations hreserve =>
      simp only [bind_ok, pure_ok, orFail_ok, Option.some.injEq] at h
      obtain ⟨-, -, inbox, hinbox, rfl⟩ := h
      exact ⟨hadmits, reservations, inbox, hreserve, hinbox, rfl⟩

theorem upsertRejected_ok {row : RejectedRow}
    (h : upsertRejectedProviderResponse record ev = some (row, ev')) :
    (rejectedUsage record.connectionId ev < maxRejectedProviderResponses ||
      (ev.reservations.find? (responseKey record)).any fun r => r.disposition == .rejected) = true ∧
    (rejectReservation record (ev.reservations.find? (responseKey record))).disposition =
      .rejected ∧
    ev' = { ev with
      reservations := upsert ev.reservations
        (rejectReservation record (ev.reservations.find? (responseKey record)))
        (fun r => { rejectReservation record (some r) with
          connectionId := r.connectionId, providerResponseId := r.providerResponseId })
      rejected := upsert ev.rejected
        (rejectedRow record (rejectReservation record (ev.reservations.find? (responseKey record))))
        (fun r => r.again
          (rejectReservation record (ev.reservations.find? (responseKey record)))) } := by
  simp only [upsertRejectedProviderResponse] at h
  split at h
  case isFalse => cases h
  case isTrue hroom =>
    split at h
    case isFalse => cases h
    case isTrue hdisposition =>
      obtain ⟨_, -, heq⟩ := Option.map_eq_some_iff.1 h
      cases heq
      exact ⟨hroom, hdisposition, rfl⟩

theorem insertProviderInboxConflict_ok {conflictId : String}
    (h : insertProviderInboxConflict conflictId record ev = .ok ev') :
    (ev.reservations.find? (responseKey record) = none ∧
      ev' = { ev with reservations := conflictReservation (responseKey record) ev }) ∨
    ∃ r, ev.reservations.find? (responseKey record) = some r ∧
      ((r.disposition = .inbox ∧ ∃ conflicts, ev' = { ev with
          reservations := conflictReservation (responseKey record) ev
          inbox := ev.inbox.update (fun r => r.key == responseKey record)
            (fun r => { r with ackPending := false })
          conflicts := conflicts }) ∨
        r.disposition = .rejected ∧ ev' = { ev with
          reservations := conflictReservation (responseKey record) ev
          rejected := ev.rejected.update (fun r => r.key == responseKey record)
            (fun r => { r with conflicted := true, ackPending := false }) }) := by
  simp only [insertProviderInboxConflict] at h
  split at h
  case h_1 hr => exact .inl ⟨hr, (pure_ok.1 h).symm⟩
  case h_2 r hr =>
    refine .inr ⟨r, hr, ?_⟩
    split at h
    case h_1 hd =>
      simp only [bind_ok, pure_ok] at h
      obtain ⟨-, -, rfl⟩ := h
      exact .inl ⟨hd, _, rfl⟩
    case h_2 hd => exact .inr ⟨hd, (pure_ok.1 h).symm⟩

theorem finalizePoison_ok (h : finalizePoison key reason ev = some ev') :
    ∃ row, ev.inbox.find? key = some row ∧ row.poisoned = false ∧
      (poisonRows key.1 ev).length < maxPoisonedProviderInboxEntries ∧
      poisonBytes key.1 ev + row.rawEnvelope.length ≤ maxPoisonedProviderInboxBytes ∧
      ev' = { ev with
        inbox := ev.inbox.update (fun r => r.key == key)
          (fun r => { r with poisoned := true, poisonReason := reason }) } := by
  unfold finalizePoison at h
  split at h
  case h_1 => cases h
  case h_2 row hrow =>
    obtain ⟨hi, hsound⟩ := Option.filter_eq_some_iff.1 hrow
    split at h <;> cases h
    next hroom => exact ⟨row, hi, by simpa using hsound, hroom.1, hroom.2, rfl⟩

theorem compactPoison_ok (h : compactPoison key reason ev = some ev') :
    ∃ row r rejected, ev.inbox.find? key = some row ∧ row.poisoned = false ∧
      ev.reservations.find? key = some r ∧ r.disposition = .inbox ∧
      rejectedUsage key.1 ev < maxRejectedProviderResponses ∧
      ev.rejected.insert (compactedRow row r reason) = some rejected ∧
      ev' = { ev with
        conflicts := ev.conflicts.delete fun r => r.key == key
        inbox := ev.inbox.delete fun r => r.key == key
        reservations := ev.reservations.update (fun r => r.key == key)
          (fun r => { r with disposition := .rejected })
        rejected := rejected } := by
  unfold compactPoison at h
  split at h
  case h_2 => cases h
  case h_1 row r hrow hr =>
    obtain ⟨hi, hsound⟩ := Option.filter_eq_some_iff.1 hrow
    obtain ⟨hr, hinbox⟩ := Option.filter_eq_some_iff.1 hr
    split at h
    case isFalse => cases h
    case isTrue hroom =>
      obtain ⟨rejected, hinsert, rfl⟩ := Option.map_eq_some_iff.1 h
      exact ⟨row, r, rejected, hi, by simpa using hsound, hr, beq_iff_eq.1 hinbox, hroom.1, hinsert,
        rfl⟩

theorem finalizeProviderPoison_ok (h : finalizeProviderPoison key reason ev = .ok ev') :
    finalizePoison key reason ev = some ev' ∨ compactPoison key reason ev = some ev' := by
  rw [finalizeProviderPoison, orFail_ok] at h
  exact ((Option.orElse_eq_some _ _ _).1 h).imp_right And.right

theorem finalizeProviderPoison_cursors (h : finalizeProviderPoison key reason ev = .ok ev') :
    ev'.cursorHistory = ev.cursorHistory ∧ ev'.cursorBudgets = ev.cursorBudgets := by
  rcases finalizeProviderPoison_ok h with h | h
  · obtain ⟨_, -, -, -, -, rfl⟩ := finalizePoison_ok h
    exact ⟨rfl, rfl⟩
  · obtain ⟨_, _, _, -, -, -, -, -, -, rfl⟩ := compactPoison_ok h
    exact ⟨rfl, rfl⟩

end

/-! ### Provider ACKs -/

/-- The evidence of a response awaits its ACK under a reservation that is not
conflicted. -/
def ackEligible (evidence : EvidenceTables) (key : ResponseKey) : Bool :=
  (evidence.reservations.find? key).any fun reservation =>
    !reservation.conflicted &&
      match reservation.disposition with
      | .inbox => (evidence.inbox.find? key).any fun r => r.ackPending
      | .rejected => (evidence.rejected.find? key).any fun r => r.ackPending && !r.conflicted

/-- The two updates of `markProviderACKedSQL` and of
`completeCoordinatedProviderACKSQL`. -/
def acknowledge (now : Time) (connectionId : String) (ids : List String)
    (evidence : EvidenceTables) : EvidenceTables :=
  let acked (disposition : Disposition) (key : ResponseKey) : Bool :=
    key.1 == connectionId && ids.contains key.2 && ackEligible evidence key &&
      (evidence.reservations.find? key).any fun r => r.disposition == disposition
  { evidence with
    inbox := evidence.inbox.update (fun r => acked .inbox r.key)
      (fun r => { r with ackPending := false, ackedAt := some now })
    rejected := evidence.rejected.update (fun r => acked .rejected r.key)
      (fun r => { r with ackPending := false, ackedAt := some now }) }

def validACKCall (connectionId ownerId : String) (fencingToken : Nat) (ids : List String)
    (db : Database) : Bool :=
  db.tenantId != "" && connectionId != "" && ownerId != "" && fencingToken != 0 &&
    0 < ids.length && ids.length ≤ 256 && ids.all validProviderResponseID && decide ids.Nodup

/-- `MarkProviderACKedFenced`: whether every response was awaiting its ACK. -/
def markProviderACKedFenced (now : Time) (connectionId ownerId : String) (fencingToken : Nat)
    (ids : List String) (db : Database) : Tx (Bool × Database) := do
  require (validACKCall connectionId ownerId fencingToken ids db) Sentinel.invalidIdentifier.err
  if db.ownsLease now connectionId ownerId fencingToken then
    pure (ids.all fun id => ackEligible db.evidence (connectionId, id),
      { db with evidence := acknowledge now connectionId ids db.evidence })
  else pure (false, db)

/-- `ProviderACKCoordinationHardTimeout`, in microseconds. -/
def providerACKCoordinationHardTimeout : Nat := 5000000

structure ACKCoordinationResult where
  admittedIds : List String
  providerError : Bool := false
  deriving DecidableEq

/-- The IDs `coordinateProviderACKBatchSQL` admits, in the order of the call;
they are what the provider callback is given. -/
def admittedACKs (connectionId : String) (ids : List String) (evidence : EvidenceTables) :
    List String :=
  ids.filter fun id => ackEligible evidence (connectionId, id)

/-- The lease is extended while the batch is locked. -/
def Database.extendLease (db : Database) (connectionId : String) (expiry : Time) : Database :=
  db.setLeases (db.fleet.leases.update (fun r => r.connectionId == connectionId)
    (fun r => { r with expiresAt := max r.expiresAt expiry }))

/-- `CoordinateProviderACKsFenced`. The callback is an input; it is called only
on a batch that is not empty, and its failure rolls the transaction back. The
rows stay locked across it, so exactly the admitted ones are acknowledged. -/
def coordinateProviderACKsFenced (now : Time) (connectionId ownerId : String) (fencingToken : Nat)
    (leaseTTL : Nat) (ids : List String) (send : List String → Bool) (db : Database) :
    Tx (ACKCoordinationResult × Database) := do
  require (validACKCall connectionId ownerId fencingToken ids db &&
    providerACKCoordinationHardTimeout < leaseTTL && leaseTTL ≤ maximumLeaseTTL)
    Sentinel.invalidIdentifier.err
  require (db.ownsLease now connectionId ownerId fencingToken) Sentinel.connectionLeaseLost.err
  let extended := db.extendLease connectionId (now + leaseTTL)
  let admitted := admittedACKs connectionId ids db.evidence
  if admitted = [] then pure (⟨[], false⟩, extended)
  else if send admitted then
    pure (⟨admitted, false⟩,
      { extended with evidence := acknowledge now connectionId admitted extended.evidence })
  else pure (⟨admitted, true⟩, db)

structure PendingACK where
  receivedAt : Time
  inboxId : String
  providerResponseId : String

def pendingACKs (connectionId : String) (limit : Nat) (evidence : EvidenceTables) : List String :=
  let pending (key : ResponseKey) (disposition : Disposition) : Bool :=
    key.1 == connectionId && ackEligible evidence key &&
      (evidence.reservations.find? key).any fun s => s.disposition == disposition
  let oldest (rows : List PendingACK) : List PendingACK :=
    (orderBy PendingACK.receivedAt PendingACK.inboxId rows).take limit
  let inboxPending := (evidence.inbox.select fun r => pending r.key .inbox).map fun r =>
    (⟨r.receivedAt, r.inboxId, r.providerResponseId⟩ : PendingACK)
  let rejectedPending := (evidence.rejected.select fun r => pending r.key .rejected).map fun r =>
    (⟨r.firstSeenAt, "rejected:" ++ r.providerResponseId, r.providerResponseId⟩ : PendingACK)
  (oldest (oldest inboxPending ++ oldest rejectedPending)).map (·.providerResponseId)

def listPendingProviderACKsFenced (now : Time) (connectionId ownerId : String)
    (fencingToken limit : Nat) (db : Database) : Tx (List String × Database) := do
  require (db.tenantId != "" && connectionId != "" && ownerId != "" && fencingToken != 0 &&
    1 ≤ limit && limit ≤ 256) Sentinel.invalidIdentifier.err
  require ((db.fleet.leases.find? connectionId).any fun r => r.heldBy now ownerId fencingToken)
    Sentinel.connectionLeaseLost.err
  let ids := pendingACKs connectionId limit db.evidence
  require (ids.all validProviderResponseID)
    ⟨Sentinel.invalidProviderResponseID.text, [.invalidProviderResponseID, .invalidIdentifier]⟩
  pure (ids, db)

end MessagingGateway.Store
