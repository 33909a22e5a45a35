import MessagingGateway.Pairing.Store

/-!
# What an operation can do to a connection

Seen from one connection, every call is one of the turns below. `Turn` carries the
status of the tenant before and after the call and the attempt that a successful
`BeginPairing` on the connection has recorded. The guarantees about attempts and
about suspension are read off the turns, not off the statements.
-/

namespace MessagingGateway.Pairing

open Relational Store

def ConnectionRecord.phone (record : ConnectionRecord) : Phone :=
  ({ connectionId := record.connectionId, state := record.state
     suspensionState := record.unsuspended },
    { connectionId := record.connectionId
      name := record.name
      providerDeviceFingerprint :=
        if record.providerDeviceFingerprint = [] then none
        else some record.providerDeviceFingerprint })

def begunPhone (now : Time) (attemptId : String) (p : Phone) : Phone :=
  (setState p.1 .pairing,
    { p.2 with
      pairingPriorState := priorState p.1 p.2
      pairingAttemptId := some attemptId
      pairingStartedAt := some now })

def restoredPhone (p : Phone) : Phone := (restoredRow p.1 p.2, p.2.clear)

def committedPhone (fingerprint : Bytes) (p : Phone) : Phone :=
  (setState { p.1 with reauthorizationEventId := none } .connected,
    { p.2.clear with providerDeviceFingerprint := some fingerprint })

def quarantinedPhone (p : Phone) : Phone :=
  ({ p.1 with state := .suspended, suspensionState := .inr rfl }, p.2)

def suspendedPhone (p : Phone) : Phone :=
  (if p.1.tenantSuspendPriorState.isNone then p.1.suspend else p.1, p.2)

def resumedPhone (p : Phone) : Phone :=
  (if p.1.state == .suspended && p.1.tenantSuspendPriorState.isSome then p.1.resume else p.1, p.2)

def Operation.givesUp : Operation → Bool
  | .restorePairing _ _ | .reconcileStalePairings _ => true
  | _ => false

def Operation.marks : Operation → Option String
  | .markReauthorizationRequired _ connectionId _ => some connectionId
  | .markReauthorizationRequiredFenced _ connectionId _ _ _ => some connectionId
  | _ => none

/-- `Turn c operation status status' begun p p'`: the operation can lead the row of
connection `c` from `p` to `p'` and the tenant from `status` to `status'`, and
`begun` is the attempt it has recorded for the connection. -/
inductive Turn (c : String) : Operation → TenantStatus → TenantStatus → Option String →
    Option Phone → Option Phone → Prop
  | stay (operation : Operation) (status : TenantStatus) (p : Option Phone) :
      Turn c operation status status none p p
  | absentSuspended : Turn c (.changeSuspension true) .active .suspended none none none
  | absentResumed : Turn c (.changeSuspension false) .suspended .active none none none
  | created (record : ConnectionRecord) :
      record.connectionId = c → record.state ≠ .pairing →
      Turn c (.saveConnection record) .active .active none none (some record.phone)
  | overwritten {record : ConnectionRecord} {p p' : Phone} :
      record.connectionId = c → p.1.state ≠ .pairing → p'.1.state ≠ .pairing →
      Turn c (.saveConnection record) .active .active none (some p) (some p')
  | begun (now : Time) (attemptId : String) (ttl : Nat) {p : Phone} :
      (pairable p.1.state = true ∨
        p.1.state = .pairing ∧ p.2.pairingPriorState.any pairable = true) →
      Turn c (.beginPairing c attemptId ttl) .active .active (some attemptId) (some p)
        (some (begunPhone now attemptId p))
  | restored {operation : Operation} (status : TenantStatus) {p : Phone} :
      operation.givesUp = true → p.1.state = .pairing →
      p.2.pairingPriorState.any pairable = true →
      Turn c operation status status none (some p) (some (restoredPhone p))
  | committed (status : TenantStatus) {attemptId : String} {envelope : SessionEnvelope}
      (fingerprint : Bytes) {p : Phone} :
      p.1.state = .pairing →
      Turn c (.commitPairedSession c attemptId envelope fingerprint) status status none (some p)
        (some (committedPhone fingerprint p))
  | quarantined {safeReason : SafeReason} (status : TenantStatus) {p : Phone} :
      p.1.state.paired = true →
      Turn c (.quarantineBackfillConnection c safeReason) status status none (some p)
        (some (quarantinedPhone p))
  | marked {operation : Operation} (status : TenantStatus) {p : Phone} {eventId : String}
      {r : ConnectionRow} :
      operation.marks = some c → p.1.state.markable = true →
      p.1.requireReauthorization eventId = some r →
      Turn c operation status status none (some p) (some (r, p.2))
  | suspended {p : Phone} :
      p.1.state ≠ .pairing →
      Turn c (.changeSuspension true) .active .suspended none (some p) (some (suspendedPhone p))
  | resumed (p : Phone) :
      Turn c (.changeSuspension false) .suspended .active none (some p) (some (resumedPhone p))

/-! ### The statements on the table -/

section

variable {db db' : PhoneDatabase} {c connectionId : String} {operation : String} {p : Phone}
  {statement : ConnectionUpdate}

theorem store_ok {gateway : Database} {columns : Table PairingColumns.connectionId}
    (h : db.store operation gateway columns = .ok db') :
    db'.gateway = gateway ∧ db'.columns = columns := by
  unfold PhoneDatabase.store at h
  split at h
  · split at h
    · cases h
      exact ⟨rfl, rfl⟩
    · exact absurd h nofun
  · exact absurd h nofun

theorem phone_eq_some :
    db.phone c = some p ↔ db.connections.find? c = some p.1 ∧ db.columns.find? c = some p.2 := by
  simp only [PhoneDatabase.phone, Option.bind_eq_some_iff, Option.map_eq_some_iff]
  constructor
  · rintro ⟨r, hr, k, hk, rfl⟩
    exact ⟨hr, hk⟩
  · rintro ⟨hr, hk⟩
    exact ⟨p.1, hr, p.2, hk, rfl⟩

variable {r : ConnectionRow} {record : ConnectionRecord} {attemptId : String}

theorem rowsChecked_iff {connections : Table ConnectionRow.connectionId}
    {columns : Table PairingColumns.connectionId} :
    rowsChecked connections columns = true ↔
      (∀ c r, connections.find? c = some r →
        ∃ k, columns.find? c = some k ∧ rowChecked r k = true) ∧
      ∀ c k, columns.find? c = some k → ∃ r, connections.find? c = some r := by
  simp only [rowsChecked, Bool.and_eq_true, List.all_eq_true, Option.any_eq_true,
    Option.isSome_iff_exists]
  constructor
  · rintro ⟨hrows, hcolumns⟩
    refine ⟨fun c r hr => ?_, fun c k hk => ?_⟩
    · exact Table.key_of_find? hr ▸ hrows r (Table.mem_of_find? hr)
    · exact Table.key_of_find? hk ▸ hcolumns k (Table.mem_of_find? hk)
  · rintro ⟨hrows, hcolumns⟩
    exact ⟨fun r hr => hrows _ r (Table.find?_of_mem hr),
      fun k hk => hcolumns _ k (Table.find?_of_mem hk)⟩

theorem columns_of_connection (h : db.connections.find? c = some r) :
    ∃ k, db.columns.find? c = some k ∧ rowChecked r k = true :=
  (rowsChecked_iff.1 db.checked).1 c r h

theorem connection_of_columns {k : PairingColumns} (h : db.columns.find? c = some k) :
    ∃ r, db.connections.find? c = some r :=
  (rowsChecked_iff.1 db.checked).2 c k h

theorem phone_of_connection (h : db.connections.find? c = some r) :
    ∃ k, db.phone c = some (r, k) := by
  obtain ⟨k, hk, -⟩ := columns_of_connection h
  exact ⟨k, phone_eq_some.2 ⟨h, hk⟩⟩

theorem phone_eq_none : db.phone c = none ↔ db.connections.find? c = none := by
  constructor
  · intro h
    cases hrow : db.connections.find? c with
    | none => rfl
    | some r =>
      obtain ⟨k, hk⟩ := phone_of_connection hrow
      rw [h] at hk
      exact absurd hk nofun
  · intro h
    simp [PhoneDatabase.phone, h]

theorem phone_checked (h : db.phone c = some p) : rowChecked p.1 p.2 = true := by
  obtain ⟨hr, hk⟩ := phone_eq_some.1 h
  obtain ⟨k, hk', hchecked⟩ := columns_of_connection hr
  rw [hk, Option.some.injEq] at hk'
  rwa [hk']

theorem phone_connectionId (h : db.phone c = some p) : p.1.connectionId = c :=
  Table.key_of_find? (phone_eq_some.1 h).1

theorem update_ok (h : db.update operation statement = .ok db') :
    db'.gateway.fleet.tenantStatus = db.gateway.fleet.tenantStatus ∧
      ∀ c, db'.phone c = (db.phone c).map fun p =>
        if statement.selects p.1 p.2 then (statement.row p.1 p.2, statement.columns p.1 p.2)
        else p := by
  obtain ⟨hgateway, hcolumns⟩ := store_ok h
  refine ⟨by rw [hgateway]; rfl, fun c => ?_⟩
  simp only [PhoneDatabase.phone, PhoneDatabase.connections, hgateway, hcolumns,
    Database.setConnections, Table.find?_update]
  cases hr : db.gateway.fleet.connections.find? c with
  | none => rfl
  | some r =>
    obtain ⟨k, hk, -⟩ : ∃ k, db.columns.find? c = some k ∧ rowChecked r k = true :=
      columns_of_connection hr
    have hrId : r.connectionId = c := Table.key_of_find? hr
    have hkId : k.connectionId = c := Table.key_of_find? hk
    simp only [hk, hrId, hkId, hr, Option.map_some, Option.bind_some, Option.any_some,
      Option.getD_some]
    split <;> rfl

def ConnectionUpdate.after (statement : ConnectionUpdate) (p : Phone) : PairingColumns :=
  if statement.selects p.1 p.2 then statement.columns p.1 p.2 else p.2

theorem fingerprint_unique {d : String} {q : Phone} (hp : db.phone c = some p)
    (hq : db.phone d = some q) (hsome : p.2.providerDeviceFingerprint.isSome = true)
    (hsame : p.2.providerDeviceFingerprint = q.2.providerDeviceFingerprint) : c = d := by
  obtain ⟨-, hk⟩ := phone_eq_some.1 hp
  obtain ⟨-, hl⟩ := phone_eq_some.1 hq
  have hunique := db.unique
  simp only [fingerprintsUnique, List.all_eq_true, Bool.or_eq_true, bne_iff_ne, beq_iff_eq,
    Option.isNone_iff_eq_none] at hunique
  rcases hunique p.2 (Table.mem_of_find? hk) q.2 (Table.mem_of_find? hl) with (hnone | hne) | hid
  · rw [hnone] at hsome
    exact absurd hsome nofun
  · exact absurd hsame hne
  · rwa [Table.key_of_find? hk, Table.key_of_find? hl] at hid

theorem update_succeeds (operation : String)
    (hchecked : ∀ c p, db.phone c = some p → statement.selects p.1 p.2 = true →
      rowChecked (statement.row p.1 p.2) (statement.columns p.1 p.2) = true)
    (hunique : ∀ c p d q, db.phone c = some p → db.phone d = some q →
      (statement.after p).providerDeviceFingerprint.isSome = true →
      (statement.after p).providerDeviceFingerprint =
        (statement.after q).providerDeviceFingerprint → c = d) :
    ∃ db', db.update operation statement = .ok db' := by
  unfold PhoneDatabase.update PhoneDatabase.store
  rw [dif_pos, dif_pos]
  · exact ⟨_, rfl⟩
  · -- both halves of a row are rewritten together
    rw [rowsChecked_iff]
    simp only [Database.setConnections, Table.find?_update]
    refine ⟨fun c r' hr' => ?_, fun c k' hk' => ?_⟩
    · obtain ⟨r, hr, rfl⟩ := Option.map_eq_some_iff.1 hr'
      obtain ⟨k, hk, hold⟩ := columns_of_connection hr
      have hrId : r.connectionId = c := Table.key_of_find? hr
      have hkId : k.connectionId = c := Table.key_of_find? hk
      simp only [hk, hr, hrId, hkId, Option.map_some, Option.any_some, Option.getD_some,
        Option.some.injEq, exists_eq_left']
      split
      · next hselects => exact hchecked c (r, k) (phone_eq_some.2 ⟨hr, hk⟩) hselects
      · exact hold
    · obtain ⟨k, hk, -⟩ := Option.map_eq_some_iff.1 hk'
      obtain ⟨r, hr⟩ := connection_of_columns hk
      rw [PhoneDatabase.connections] at hr
      exact ⟨_, by rw [hr]; rfl⟩
  · -- each row of the new half is what the statement makes of a phone
    have hphone : ∀ k' ∈ (db.columns.update
        (fun k => (db.connections.find? k.connectionId).any (statement.selects · k))
        (fun k => ((db.connections.find? k.connectionId).map (statement.columns · k)).getD k)
        (fun k => by
          cases db.connections.find? k.connectionId <;>
            simp [statement.columns_connectionId])).rows,
        ∃ p, db.phone k'.connectionId = some p ∧ k' = statement.after p := fun k' hk' => by
      obtain ⟨k, hk, rfl⟩ := Table.mem_update.1 hk'
      have hfound := Table.find?_of_mem hk
      obtain ⟨r, hr⟩ := connection_of_columns hfound
      simp only [hr, Option.any_some, Option.map_some, Option.getD_some]
      refine ⟨(r, k), ?_, rfl⟩
      rw [apply_ite PairingColumns.connectionId, statement.columns_connectionId, ite_self]
      exact phone_eq_some.2 ⟨hr, hfound⟩
    simp only [fingerprintsUnique, List.all_eq_true, Bool.or_eq_true, bne_iff_ne, beq_iff_eq,
      Option.isNone_iff_eq_none]
    intro k' hk' l' hl'
    obtain ⟨p, hp, hk⟩ := hphone k' hk'
    obtain ⟨q, hq, hl⟩ := hphone l' hl'
    by_cases hsome : k'.providerDeviceFingerprint.isSome = true
    · by_cases hsame : k'.providerDeviceFingerprint = l'.providerDeviceFingerprint
      · exact .inr (hunique _ p _ q hp hq (hk ▸ hsome) (hk ▸ hl ▸ hsame))
      · exact .inl (.inr hsame)
    · exact .inl (.inl (by simpa using hsome))

theorem unique_of_kept
    (hkept : ∀ r k, (statement.columns r k).providerDeviceFingerprint = k.providerDeviceFingerprint)
    (c : String) (p : Phone) (d : String) (q : Phone) (hp : db.phone c = some p)
    (hq : db.phone d = some q) (hsome : (statement.after p).providerDeviceFingerprint.isSome = true)
    (hsame : (statement.after p).providerDeviceFingerprint =
      (statement.after q).providerDeviceFingerprint) : c = d := by
  have hafter : ∀ p, (statement.after p).providerDeviceFingerprint =
      p.2.providerDeviceFingerprint := fun p => by
    unfold ConnectionUpdate.after
    split
    · exact hkept p.1 p.2
    · rfl
  rw [hafter] at hsome hsame
  rw [hafter] at hsame
  exact fingerprint_unique hp hq hsome hsame

theorem update_one_ok (h : db.update operation statement = .ok db')
    (hphone : db.phone connectionId = some p) (hselects : statement.selects p.1 p.2 = true)
    (honly : ∀ r k, r.connectionId ≠ connectionId → statement.selects r k = false) (c : String) :
    db'.phone c =
      if connectionId = c then some (statement.row p.1 p.2, statement.columns p.1 p.2)
      else db.phone c := by
  rw [(update_ok h).2 c]
  split
  · next hc => rw [← hc, hphone, Option.map_some, if_pos hselects]
  · next hc =>
    cases hother : db.phone c with
    | none => rfl
    | some q =>
      have hid : q.1.connectionId ≠ connectionId := by
        rw [phone_connectionId hother]
        exact Ne.symm hc
      rw [Option.map_some, honly q.1 q.2 hid]
      rfl

theorem onGateway_ok {α : Type} {reply : α → Reply} {tx : Database → Tx (α × Database)}
    {answer : Reply} (h : onGateway operation reply tx db = .ok (answer, db')) :
    ∃ a, tx db.gateway = .ok (a, db'.gateway) ∧ answer = reply a ∧ db'.columns = db.columns := by
  simp only [onGateway, bind_ok, pure_pair] at h
  obtain ⟨⟨a, gateway⟩, htx, db₁, hstore, rfl, rfl⟩ := h
  obtain ⟨hgateway, hcolumns⟩ := store_ok hstore
  exact ⟨a, by rw [hgateway]; exact htx, rfl, hcolumns⟩

theorem phone_of_map {f : ConnectionRow → ConnectionRow} (hcolumns : db'.columns = db.columns)
    (h : db'.connections.find? c = (db.connections.find? c).map f) :
    db'.phone c = (db.phone c).map fun p => (f p.1, p.2) := by
  simp only [PhoneDatabase.phone, hcolumns, h]
  cases db.connections.find? c <;> cases db.columns.find? c <;> rfl

/-! ### One call -/

theorem setState_of_pairing (h : r.state ≠ .suspended)
    (state : ConnectionState) : (setState r state).state = state := by
  have hnone : r.tenantSuspendPriorState = none := r.suspensionState.resolve_right h
  simp [setState, hnone]

theorem insert_ok (h : record.insert db = .ok db') :
    db'.gateway.fleet.tenantStatus = db.gateway.fleet.tenantStatus ∧
      db.phone record.connectionId = none ∧
      ∀ c, db'.phone c = if record.connectionId = c then some record.phone else db.phone c := by
  simp only [ConnectionRecord.insert, bind_ok, orFail_ok] at h
  obtain ⟨connections, hrows, columns, hcols, hstore⟩ := h
  obtain ⟨hgateway, hcolumns⟩ := store_ok hstore
  refine ⟨by rw [hgateway]; rfl, phone_eq_none.2 (Table.insert_eq_some.1 hrows).1, fun c => ?_⟩
  simp only [PhoneDatabase.phone, PhoneDatabase.connections, hgateway, hcolumns,
    Database.setConnections, Table.find?_insert hrows, Table.find?_insert hcols]
  split <;> rfl

/-- A connection that is being paired cannot be overwritten: its attempt would be
left behind in a row that is not pairing. -/
theorem overwrite_ok
    (h : db.update "save connection" record.overwrite = .ok db') (hstate : record.state ≠ .pairing)
    (hphone : db.phone record.connectionId = some p) : p.1.state ≠ .pairing := by
  intro hpairing
  have hnext := (update_ok h).2 record.connectionId
  have hselects : record.overwrite.selects p.1 p.2 = true := by
    simp [ConnectionRecord.overwrite, phone_connectionId hphone]
  rw [hphone, Option.map_some, if_pos hselects] at hnext
  have hchecked := phone_checked hnext
  have hold := phone_checked hphone
  have hset : (setState p.1 record.state).state = record.state :=
    setState_of_pairing (by rw [hpairing]; decide) record.state
  simp only [rowChecked, Bool.and_eq_true, pairingMetadataRequired] at hchecked hold
  have hattempt := hold.1.2
  rw [if_pos hpairing] at hattempt
  have hmetadata := hchecked.1.2
  simp only [ConnectionRecord.overwrite, hset, if_neg hstate, Bool.and_eq_true,
    Option.isNone_iff_eq_none] at hmetadata
  simp [hmetadata.1.1] at hattempt

abbrev Turned (c : String) (operation : Operation) (db db' : PhoneDatabase) : Prop :=
  Turn c operation db.gateway.fleet.tenantStatus db'.gateway.fleet.tenantStatus none (db.phone c)
    (db'.phone c)

theorem saveConnection_turn (h : saveConnection record db = .ok db') (c : String) :
    Turned c (.saveConnection record) db db' := by
  simp only [saveConnection, bind_ok, require_ok, Bool.and_eq_true, bne_iff_ne] at h
  obtain ⟨-, -, -, -, -, hstate, -, -, -, hstatus, -, -, -, -, h⟩ := h
  have hactive : db.gateway.fleet.tenantStatus = .active := by
    cases hcase : db.gateway.fleet.tenantStatus <;> simp_all
  split at h
  · next hexisting =>
    obtain ⟨hkept, hphones⟩ := update_ok h
    rw [Turned, hkept, hactive, hphones c]
    cases hphone : db.phone c with
    | none => exact .stay _ _ _
    | some p =>
      rw [Option.map_some]
      split
      · next hselects =>
        have hid : record.connectionId = c := by
          rw [ConnectionRecord.overwrite, beq_iff_eq, phone_connectionId hphone] at hselects
          exact hselects.symm
        have hnot := overwrite_ok h hstate.1 (hid ▸ hphone)
        refine .overwritten hid hnot ?_
        simp only [ConnectionRecord.overwrite, setState]
        split
        · exact hstate.1
        · exact hnot
      · exact .stay _ _ _
  · obtain ⟨hkept, hnone, hphones⟩ := insert_ok h
    rw [Turned, hkept, hactive, hphones c]
    split
    · next hid =>
      subst hid
      rw [hnone]
      exact .created record rfl hstate.1
    · exact .stay _ _ _

theorem beginPairing_ok {now : Time} {ttl : Nat} {prior : Option ConnectionState}
    (h : beginPairing now connectionId attemptId ttl db = .ok (prior, db')) :
    db.gateway.fleet.tenantStatus = .active ∧ db'.gateway.fleet.tenantStatus = .active ∧
      ∃ p, db.phone connectionId = some p ∧ prior = priorState p.1 p.2 ∧
        (pairable p.1.state = true ∨
          p.1.state = .pairing ∧ p.2.pairingPriorState.any pairable = true) ∧
        ∀ c, db'.phone c =
          if connectionId = c then some (begunPhone now attemptId p) else db.phone c := by
  simp only [beginPairing, bind_ok, require_ok, orFail_ok, beq_iff_eq] at h
  obtain ⟨-, -, -, hactive, ⟨r, k⟩, hphone, h⟩ := h
  dsimp only at h
  split at h
  · next hselects =>
    simp only [bind_ok, pure_pair] at h
    obtain ⟨db₁, hupdate, rfl, rfl⟩ := h
    obtain ⟨hkept, -⟩ := update_ok hupdate
    refine ⟨hactive, hkept.trans hactive, (r, k), hphone, rfl, ?_, fun c => ?_⟩
    · simp only [beginPairingSQL, stale, Bool.and_eq_true, Bool.or_eq_true, beq_iff_eq] at hselects
      rcases hselects.2 with hpairable | ⟨⟨hpairing, -⟩, hprior⟩
      · exact .inl hpairable
      · exact .inr ⟨hpairing, hprior⟩
    · exact update_one_ok hupdate hphone hselects (fun r k hr => by simp [beginPairingSQL, hr]) c
  · split at h <;> cases h

theorem restorePairing_ok {state : ConnectionState}
    (h : restorePairing connectionId attemptId db = .ok (state, db')) :
    db'.gateway.fleet.tenantStatus = db.gateway.fleet.tenantStatus ∧
      ∃ p, db.phone connectionId = some p ∧ p.1.state = .pairing ∧
        p.2.pairingAttemptId = some attemptId ∧ p.2.pairingPriorState.any pairable = true ∧
        ∀ c, db'.phone c = if connectionId = c then some (restoredPhone p) else db.phone c := by
  simp only [restorePairing, bind_ok, orFail_ok, pure_pair] at h
  obtain ⟨-, -, p, hfilter, db₁, hupdate, -, rfl⟩ := h
  obtain ⟨hphone, hselects⟩ := Option.filter_eq_some_iff.1 hfilter
  refine ⟨(update_ok hupdate).1, p, hphone, ?_⟩
  have hrow := hselects
  simp only [restorePairingSQL, restoring, Bool.and_eq_true, beq_iff_eq] at hrow
  exact ⟨hrow.1.1.2, hrow.1.2, hrow.2, update_one_ok hupdate hphone hselects
    fun r k hr => by simp [restorePairingSQL, restoring, hr]⟩

theorem reconcileStalePairings_ok {now : Time} {ttl count : Nat}
    (h : reconcileStalePairings now ttl db = .ok (count, db')) :
    db'.gateway.fleet.tenantStatus = db.gateway.fleet.tenantStatus ∧
      ∀ c, db'.phone c = (db.phone c).map fun p =>
        if stale now ttl p.1 p.2 then restoredPhone p else p := by
  simp only [reconcileStalePairings, bind_ok, pure_pair] at h
  obtain ⟨-, -, db₁, hupdate, -, rfl⟩ := h
  exact update_ok hupdate

theorem commitEncryptedSession_ok {envelope : SessionEnvelope} {gateway gateway' : Database}
    (h : commitEncryptedSession connectionId envelope gateway = .ok gateway') :
    ∃ sessions, gateway' = gateway.setSessions sessions := by
  simp only [commitEncryptedSession, bind_ok] at h
  obtain ⟨-, -, h⟩ := h
  split at h
  · simp only [bind_ok, pure_ok] at h
    obtain ⟨sessions, -, rfl⟩ := h
    exact ⟨sessions, rfl⟩
  · exact ⟨_, (pure_ok.1 h).symm⟩

theorem phone_of_session {sessions : Table SessionRow.connectionId}
    (h : db.store operation (db.gateway.setSessions sessions) db.columns = .ok db') (c : String) :
    db'.phone c = db.phone c := by
  obtain ⟨hgateway, hcolumns⟩ := store_ok h
  simp only [PhoneDatabase.phone, PhoneDatabase.connections, hgateway, hcolumns,
    Database.setSessions]

theorem affected_ne_zero (h : db.affected statement ≠ 0) :
    ∃ c p, db.phone c = some p ∧ statement.selects p.1 p.2 = true := by
  obtain ⟨r, hr⟩ := List.exists_mem_of_length_pos (Nat.pos_of_ne_zero h)
  obtain ⟨hmem, hany⟩ := Table.mem_select.1 hr
  obtain ⟨k, hk, hselects⟩ := (Option.any_eq_true _ _).1 hany
  exact ⟨r.connectionId, (r, k), phone_eq_some.2 ⟨Table.find?_of_mem hmem, hk⟩, hselects⟩

theorem commitPairedSession_ok {envelope : SessionEnvelope} {fingerprint : Bytes}
    (h : commitPairedSession connectionId attemptId envelope fingerprint db = .ok db') :
    db'.gateway.fleet.tenantStatus = db.gateway.fleet.tenantStatus ∧
      ∃ p, db.phone connectionId = some p ∧ p.1.state = .pairing ∧
        p.2.pairingAttemptId = some attemptId ∧
        ∀ c, db'.phone c =
          if connectionId = c then some (committedPhone fingerprint p) else db.phone c := by
  simp only [commitPairedSession, bind_ok, require_ok, bne_iff_ne, pure_ok] at h
  obtain ⟨-, -, gateway, hsession, db₁, hstore, db₂, hupdate, -, haffected, rfl⟩ := h
  obtain ⟨sessions, rfl⟩ := commitEncryptedSession_ok hsession
  have hphones := phone_of_session hstore
  obtain ⟨c₀, p, hphone, hselects⟩ := affected_ne_zero haffected
  have hrow := hselects
  simp only [commitConnectionStateSQL, Bool.and_eq_true, beq_iff_eq] at hrow
  obtain rfl : c₀ = connectionId := (phone_connectionId hphone).symm.trans hrow.1.1
  refine ⟨?_, p, hphones c₀ ▸ hphone, hrow.1.2, hrow.2, fun c => ?_⟩
  · rw [(update_ok hupdate).1, (store_ok hstore).1]
    rfl
  · rw [update_one_ok hupdate hphone hselects
      (fun r k hr => by simp [commitConnectionStateSQL, hr]) c, hphones c]
    rfl

end

/-! ### One call on the gateway tables -/

section

variable {rt : Runtime} {now occurredAt : Time} {connectionId ownerId newEventId : String}
  {fencingToken ttl : Nat} {db db' : Database} {r : ConnectionRow} {attemptId : String}

structure SameFleet (db db' : Database) : Prop where
  connections : db'.fleet.connections = db.fleet.connections
  tenantStatus : db'.fleet.tenantStatus = db.fleet.tenantStatus
  events : db'.events = db.events

theorem SameFleet.of_leases (h : ∃ leases, db' = db.setLeases leases) : SameFleet db db' := by
  obtain ⟨leases, rfl⟩ := h
  exact ⟨rfl, rfl, rfl⟩

theorem quarantineBackfillConnection_row {safeReason : SafeReason}
    (h : quarantineBackfillConnection now connectionId safeReason db = .ok ((), db')) :
    db'.fleet.tenantStatus = db.fleet.tenantStatus ∧
      ∃ r, db.fleet.connections.find? connectionId = some r ∧ r.state.paired = true ∧
        ∀ c, db'.fleet.connections.find? c = (db.fleet.connections.find? c).map fun r =>
          if connectionId = c then { r with state := .suspended, suspensionState := .inr rfl }
          else r := by
  obtain ⟨r, health, hrow, hpaired, rfl⟩ := quarantineBackfillConnection_ok h
  refine ⟨rfl, r, hrow, hpaired, fun c => ?_⟩
  simp only [Database.setHealth, Database.setConnections]
  rw [Table.find?_update_key]
  split
  · next hc => simp [hc]
  · next hc => simp [Ne.symm hc]

/-- What a reauthorization mark does to the fleet: nothing, or it rewrites the row
of a connection it may mark. -/
inductive Marking (connectionId newEventId : String) (db db' : Database) : Prop
  | same (hconnections : db'.fleet.connections = db.fleet.connections)
      (htenant : db'.fleet.tenantStatus = db.fleet.tenantStatus)
  | row {r r' : ConnectionRow} {eventId : String}
      (hrow : db.fleet.connections.find? connectionId = some r) (hstate : r.state.markable = true)
      (hevent : r.reauthorizationEventId = some eventId ∨ eventId = newEventId)
      (hmark : r.requireReauthorization eventId = some r')
      (htenant : db'.fleet.tenantStatus = db.fleet.tenantStatus)
      (hrows : ∀ c, db'.fleet.connections.find? c =
        if connectionId = c then some r' else db.fleet.connections.find? c)

theorem requireReauthorization_connectionId {r' : ConnectionRow} {eventId : String}
    (h : r.requireReauthorization eventId = some r') : r'.connectionId = r.connectionId := by
  obtain ⟨_, rfl⟩ := ConnectionRow.requireReauthorization_ok h
  rfl

theorem putConnection_find? {r' : ConnectionRow} {eventId : String}
    (hrow : db.fleet.connections.find? connectionId = some r)
    (hmark : r.requireReauthorization eventId = some r') (c : String) :
    (db.putConnection r').fleet.connections.find? c =
      if connectionId = c then some r' else db.fleet.connections.find? c := by
  have hid : r'.connectionId = connectionId :=
    (requireReauthorization_connectionId hmark).trans (Table.key_of_find? hrow)
  simp only [Database.putConnection, Database.setConnections, hid]
  rw [Table.find?_update_key]
  split
  · next hc =>
    have hr : r.connectionId = r'.connectionId := (Table.key_of_find? hrow).trans hid.symm
    rw [hc, hrow, if_pos rfl, Option.map_some, hr]
  · next hc => rw [if_neg (Ne.symm hc)]

theorem markReauthorizationRequiredFenced_marking {marked : Bool}
    (h : markReauthorizationRequiredFenced rt now occurredAt connectionId ownerId fencingToken
      newEventId db = .ok (marked, db')) : Marking connectionId newEventId db db' := by
  obtain ⟨-, rfl⟩ | ⟨r, r', hrow, hmarkable, hmark, hevent⟩ :=
    markReauthorizationRequiredFenced_ok h
  · exact .same rfl rfl
  · obtain ⟨events, rfl⟩ := insertReauthorizationEvent_ok hevent
    refine .row hrow hmarkable ?_ hmark rfl (putConnection_find? hrow hmark)
    -- `COALESCE(NULLIF(reauthorization_event_id, ''), $5)`
    cases hstored : r.reauthorizationEventId with
    | none => exact .inr rfl
    | some stored =>
      by_cases hblank : stored = ""
      · exact .inr (by simp [nullIf, hblank])
      · exact .inl (by simp [nullIf, hblank])

theorem markReauthorizationRequired_marking {transition : AuthorizationTransition}
    (h : markReauthorizationRequired rt now occurredAt connectionId newEventId db =
      .ok (transition, db')) : Marking connectionId newEventId db db' := by
  obtain ⟨r, hrow, ⟨_, -, -, hevent⟩ | ⟨r', hmarkable, -, hmark, hevent⟩⟩ :=
    markReauthorizationRequired_ok h <;>
    obtain ⟨events, rfl⟩ := insertReauthorizationEvent_ok hevent
  · exact .same rfl rfl
  · exact .row hrow hmarkable (.inr rfl) hmark rfl (putConnection_find? hrow hmark)

inductive Suspending (suspend : Bool) (db db' : Database) : Prop
  | same (h : db' = db)
      (hstatus : db.fleet.tenantStatus = if suspend then .suspended else .active)
  | suspended (hsuspend : suspend = true) (hbefore : db.fleet.tenantStatus = .active)
      (hafter : db'.fleet.tenantStatus = .suspended)
      (hstates : ∀ r ∈ db.fleet.connections, r.state ≠ .pairing)
      (hrows : ∀ c, db'.fleet.connections.find? c = (db.fleet.connections.find? c).map fun r =>
        if r.tenantSuspendPriorState.isNone then r.suspend else r)
  | resumed (hsuspend : suspend = false) (hbefore : db.fleet.tenantStatus = .suspended)
      (hafter : db'.fleet.tenantStatus = .active)
      (hrows : ∀ c, db'.fleet.connections.find? c = (db.fleet.connections.find? c).map fun r =>
        if r.state == .suspended && r.tenantSuspendPriorState.isSome then r.resume else r)

theorem changeSuspension_suspending {suspend : Bool}
    (h : changeSuspension now suspend db = .ok ((), db')) : Suspending suspend db db' := by
  obtain ⟨rfl, hstatus⟩ | ⟨hsuspend, hstatus, hstates, rfl⟩ | ⟨hsuspend, hstatus, rfl⟩ :=
    changeSuspension_ok h
  · exact .same rfl hstatus
  · refine .suspended hsuspend ?_ rfl hstates fun c => ?_
    · cases hcase : db.fleet.tenantStatus with
      | active => rfl
      | suspended => exact absurd hcase hstatus
    · simp only [Table.find?_update]
      cases hrow : db.fleet.connections.find? c with
      | none => rfl
      | some r => simp [hstates r (Table.mem_of_find? hrow)]
  · refine .resumed hsuspend ?_ rfl fun c => ?_
    · cases hcase : db.fleet.tenantStatus with
      | active => exact absurd hcase hstatus
      | suspended => rfl
    · simp only [Table.find?_update]

end

/-! ### Every call is a turn of every connection -/

def begunBy (connectionId : String) : Operation → Reply → Option String
  | .beginPairing c attemptId _, .prior _ => if c = connectionId then some attemptId else none
  | _, _ => none

section

variable {rt : Runtime} {now : Time} {db db' : PhoneDatabase}

theorem turn_of_same (hconnections : db'.connections = db.connections)
    (htenant : db'.gateway.fleet.tenantStatus = db.gateway.fleet.tenantStatus)
    (hcolumns : db'.columns = db.columns) (operation : Operation) (c : String) :
    Turned c operation db db' := by
  have hphone : db'.phone c = db.phone c := by
    simp only [PhoneDatabase.phone, hconnections, hcolumns]
  rw [Turned, hphone, htenant]
  exact .stay _ _ _

theorem SameFleet.turn (h : SameFleet db.gateway db'.gateway) (hcolumns : db'.columns = db.columns)
    (operation : Operation) (c : String) : Turned c operation db db' :=
  turn_of_same h.connections h.tenantStatus hcolumns operation c

theorem Marking.turn {operation : Operation} {connectionId newEventId : String}
    (h : Marking connectionId newEventId db.gateway db'.gateway)
    (hmarks : operation.marks = some connectionId)
    (hcolumns : db'.columns = db.columns) (c : String) : Turned c operation db db' := by
  cases h with
  | same hconnections htenant => exact turn_of_same hconnections htenant hcolumns _ c
  | @row r r' eventId hrow hstate _ hmark htenant hrows =>
    rw [Turned, htenant]
    by_cases hc : connectionId = c
    · subst hc
      obtain ⟨k, hk⟩ : ∃ k, db.phone connectionId = some (r, k) := phone_of_connection hrow
      have hafter : db'.phone connectionId = some (r', k) := by
        rw [phone_eq_some, hcolumns, PhoneDatabase.connections, hrows, if_pos rfl]
        exact ⟨rfl, (phone_eq_some.1 hk).2⟩
      rw [hk, hafter]
      exact Turn.marked (p := (r, k)) _ hmarks hstate hmark
    · have hafter : db'.phone c = db.phone c := by
        simp only [PhoneDatabase.phone, PhoneDatabase.connections, hrows, if_neg hc, hcolumns]
      rw [hafter]
      exact .stay _ _ _

theorem quarantine_turn {connectionId : String} {safeReason : SafeReason}
    (h : quarantineBackfillConnection now connectionId safeReason db.gateway =
      .ok ((), db'.gateway)) (hcolumns : db'.columns = db.columns) (c : String) :
    Turned c (.quarantineBackfillConnection connectionId safeReason) db db' := by
  obtain ⟨htenant, r, hrow, hpaired, hrows⟩ := quarantineBackfillConnection_row h
  rw [Turned, htenant, phone_of_map hcolumns (hrows c)]
  cases hphone : db.phone c with
  | none => exact .stay _ _ _
  | some p =>
    rw [Option.map_some]
    split
    · next hc =>
      subst hc
      have hp := (phone_eq_some.1 hphone).1
      rw [PhoneDatabase.connections, hrow, Option.some.injEq] at hp
      exact .quarantined _ (hp ▸ hpaired)
    · exact .stay _ _ _

theorem Suspending.turn {suspend : Bool} (h : Suspending suspend db.gateway db'.gateway)
    (hcolumns : db'.columns = db.columns) (c : String) :
    Turned c (.changeSuspension suspend) db db' := by
  cases h with
  | same h =>
    exact turn_of_same (by rw [PhoneDatabase.connections, h]) (by rw [h]) hcolumns _ c
  | suspended hsuspend hbefore hafter hstates hrows =>
    subst hsuspend
    rw [Turned, hbefore, hafter, phone_of_map hcolumns (hrows c)]
    cases hphone : db.phone c with
    | none => exact .absentSuspended
    | some p => exact .suspended (hstates p.1 (Table.mem_of_find? (phone_eq_some.1 hphone).1))
  | resumed hsuspend hbefore hafter hrows =>
    subst hsuspend
    rw [Turned, hbefore, hafter, phone_of_map hcolumns (hrows c)]
    cases hphone : db.phone c with
    | none => exact .absentResumed
    | some p => exact .resumed p

theorem perform_turn {operation : Operation} {reply : Reply}
    (h : perform rt now operation db = .ok (reply, db')) (c : String) :
    Turn c operation db.gateway.fleet.tenantStatus db'.gateway.fleet.tenantStatus
      (begunBy c operation reply) (db.phone c) (db'.phone c) := by
  cases operation with
  | saveConnection record => exact saveConnection_turn (finishing_ok h).1 c
  | beginPairing connectionId attemptId ttl =>
    obtain ⟨prior, hok, rfl⟩ := replying_ok h
    obtain ⟨hbefore, hafter, p, hphone, -, hstate, hphones⟩ := beginPairing_ok hok
    rw [hbefore, hafter, hphones c, begunBy]
    split
    · next hc =>
      subst hc
      rw [hphone]
      exact .begun _ _ _ hstate
    · exact .stay _ _ _
  | restorePairing connectionId attemptId =>
    obtain ⟨state, hok, rfl⟩ := replying_ok h
    obtain ⟨htenant, p, hphone, hstate, -, hprior, hphones⟩ := restorePairing_ok hok
    rw [htenant, hphones c]
    split
    · next hc =>
      rw [← hc, hphone]
      exact .restored _ rfl hstate hprior
    · exact .stay _ _ _
  | reconcileStalePairings ttl =>
    obtain ⟨count, hok, rfl⟩ := replying_ok h
    obtain ⟨htenant, hphones⟩ := reconcileStalePairings_ok hok
    rw [htenant, hphones c]
    cases db.phone c with
    | none => exact .stay _ _ _
    | some p =>
      rw [Option.map_some]
      split
      · next hstale =>
        simp only [stale, Bool.and_eq_true, beq_iff_eq] at hstale
        exact .restored _ rfl hstale.1.1 hstale.2
      · exact .stay _ _ _
  | commitPairedSession connectionId attemptId envelope fingerprint =>
    obtain ⟨htenant, p, hphone, hstate, -, hphones⟩ := commitPairedSession_ok (finishing_ok h).1
    rw [htenant, hphones c]
    split
    · next hc =>
      subst hc
      rw [hphone]
      exact .committed _ _ hstate
    · exact .stay _ _ _
  | changeSuspension suspend =>
    rw [perform] at h
    obtain ⟨_, hok, rfl, hcolumns⟩ := onGateway_ok h
    exact (changeSuspension_suspending hok).turn hcolumns c
  | quarantineBackfillConnection connectionId safeReason =>
    rw [perform] at h
    obtain ⟨_, hok, rfl, hcolumns⟩ := onGateway_ok h
    exact quarantine_turn hok hcolumns c
  | markReauthorizationRequired occurredAt connectionId newEventId =>
    rw [perform] at h
    obtain ⟨transition, hok, rfl, hcolumns⟩ := onGateway_ok h
    exact (markReauthorizationRequired_marking hok).turn rfl hcolumns c
  | markReauthorizationRequiredFenced occurredAt connectionId ownerId fencingToken newEventId =>
    rw [perform] at h
    obtain ⟨marked, hok, rfl, hcolumns⟩ := onGateway_ok h
    exact (markReauthorizationRequiredFenced_marking hok).turn rfl hcolumns c
  | acquireConnectionLease connectionId ownerId ttl =>
    rw [perform] at h
    obtain ⟨granted, hok, rfl, hcolumns⟩ := onGateway_ok h
    exact (SameFleet.of_leases (acquireConnectionLease_ok hok)).turn hcolumns _ c
  | renewConnectionLease connectionId ownerId fencingToken ttl =>
    rw [perform] at h
    obtain ⟨held, hok, rfl, hcolumns⟩ := onGateway_ok h
    exact (SameFleet.of_leases (renewConnectionLease_ok hok)).turn hcolumns _ c
  | releaseConnectionLease connectionId ownerId fencingToken =>
    rw [perform] at h
    obtain ⟨held, hok, rfl, hcolumns⟩ := onGateway_ok h
    exact (SameFleet.of_leases (releaseConnectionLease_ok hok)).turn hcolumns _ c

@[elab_as_elim]
theorem step_rule (rt : Runtime) (call : Call) (db : PhoneDatabase)
    {motive : Reply × PhoneDatabase → Prop}
    (failed : ∀ e, perform rt call.1 call.2 db = .error e → motive (.failed e, db))
    (committed : ∀ reply db', perform rt call.1 call.2 db = .ok (reply, db') →
      motive (reply, db')) : motive (step rt call db) :=
  outcome_rule _ failed committed

theorem step_turn (rt : Runtime) (call : Call) (db : PhoneDatabase) (c : String) :
    Turn c call.2 db.gateway.fleet.tenantStatus (step rt call db).2.gateway.fleet.tenantStatus
      (begunBy c call.2 (step rt call db).1) (db.phone c) ((step rt call db).2.phone c) := by
  refine step_rule rt call db (fun e _ => ?_) fun _ _ hperform => perform_turn hperform c
  rw [show begunBy c call.2 (.failed e) = none by unfold begunBy; split <;> simp_all]
  exact .stay _ _ _

end

end MessagingGateway.Pairing
