import MessagingGateway.Pairing.Attempts

/-!
# Suspension and quarantine

A tenant's suspension and a quarantine both leave a connection suspended and share
the column that remembers the state to return to. The rules here say what survives
that: while no quarantine and no reauthorization mark meets a connection that is
already suspended, the two never meet in the column, every connection comes back
to the state it had, and a quarantined one stays suspended.
-/

namespace MessagingGateway.Pairing

open Relational Store

/-! ### Rows -/

/-- The row a connection goes back to when its attempt is given up, or its tenant
resumed. -/
def homePhone (p : Phone) : Phone :=
  if p.1.state = .pairing then restoredPhone p else resumedPhone p

/-- A row in step with the status of its tenant, whose way back passes the checks. -/
structure Settled (status : TenantStatus) (p : Phone) : Prop where
  suspended : status = .suspended →
    p.1.state = .suspended ∧ p.1.tenantSuspendPriorState.isSome = true
  active : status = .active → p.1.tenantSuspendPriorState = none
  home : rowChecked (homePhone p).1 (homePhone p).2 = true
  event : ∀ eventId, p.1.reauthorizationEventId = some eventId → notBlank eventId = true

theorem homePhone_self {p : Phone} (hstate : p.1.state ≠ .pairing)
    (hprior : p.1.tenantSuspendPriorState = none) : homePhone p = p := by
  simp [homePhone, hstate, resumedPhone, hprior]

section

variable {p : Phone}

theorem setState_reauthorizationEventId (r : ConnectionRow) (state : ConnectionState) :
    (setState r state).reauthorizationEventId = r.reauthorizationEventId := by
  unfold setState
  split <;> rfl

theorem begun_unsuspended (hstate : pairable p.1.state = true ∨
    p.1.state = .pairing ∧ p.2.pairingPriorState.any pairable = true) : p.1.state ≠ .suspended := by
  intro hsuspended
  rw [hsuspended] at hstate
  rcases hstate with h | h
  · exact absurd h nofun
  · exact absurd h.1 nofun

/-- An attempt that is given up leaves a row that is neither pairing nor held by its
tenant. -/
theorem restoredPhone_state (hstate : p.1.state = .pairing)
    (hprior : p.2.pairingPriorState.any pairable = true) :
    (restoredPhone p).1.state ≠ .pairing ∧ (restoredPhone p).1.tenantSuspendPriorState = none := by
  obtain ⟨prior, hp, hpairable⟩ := (Option.any_eq_true _ _).1 hprior
  have hnew : (restoredPhone p).1.state = prior := by
    rw [restoredPhone, restoredRow, hp, Option.getD_some]
    exact setState_of_pairing (by rw [hstate]; decide) _
  refine ⟨?_, (restoredPhone p).1.suspensionState.resolve_right ?_⟩
  all_goals
    rw [hnew]
    rintro rfl
    cases hpairable

theorem committedPhone_state (fingerprint : Bytes) (hstate : p.1.state = .pairing) :
    (committedPhone fingerprint p).1.state = .connected :=
  setState_of_pairing (r := { p.1 with reauthorizationEventId := none })
    (by rw [hstate]; decide) _

theorem begunPhone_checked (now : Time) {attemptId : String}
    (hvalid : validPairingID attemptId = true) (hchecked : rowChecked p.1 p.2 = true)
    (hstate : pairable p.1.state = true ∨
      p.1.state = .pairing ∧ p.2.pairingPriorState.any pairable = true) :
    rowChecked (begunPhone now attemptId p).1 (begunPhone now attemptId p).2 = true := by
  obtain ⟨⟨c, state, event, prior, hs⟩, k⟩ := p
  obtain rfl : prior = none := hs.resolve_right (begun_unsuspended hstate)
  cases state <;>
    simp_all [rowChecked, begunPhone, setState, fingerprintMatchesState, priorState, pairable,
      reauthorizationEventRequired, pairingMetadataRequired, suspendPriorState,
      PairingColumns.fingerprinted]

theorem committedPhone_checked {fingerprint : Bytes} (hlength : fingerprint.length = 32)
    (hstate : p.1.state = .pairing) :
    rowChecked (committedPhone fingerprint p).1 (committedPhone fingerprint p).2 = true := by
  obtain ⟨⟨c, state, event, prior, hs⟩, k⟩ := p
  obtain rfl : state = .pairing := hstate
  have hnone : prior = none := hs.resolve_right nofun
  subst hnone
  simp [rowChecked, committedPhone, setState, fingerprintMatchesState, hlength,
    reauthorizationEventRequired, pairingMetadataRequired, suspendPriorState,
    PairingColumns.fingerprinted, PairingColumns.clear]

theorem quarantinedPhone_checked (hchecked : rowChecked p.1 p.2 = true)
    (hstate : p.1.state.paired = true) :
    rowChecked (quarantinedPhone p).1 (quarantinedPhone p).2 = true := by
  obtain ⟨⟨c, state, event, prior, hs⟩, k⟩ := p
  cases state <;>
    simp_all [rowChecked, quarantinedPhone, fingerprintMatchesState, ConnectionState.paired,
      reauthorizationEventRequired, pairingMetadataRequired, suspendPriorState]

/-- A quarantine finds a connection that its tenant holds suspended as it leaves it. -/
theorem quarantinedPhone_of_held {prior : ConnectionState}
    (hprior : p.1.tenantSuspendPriorState = some prior) : quarantinedPhone p = p := by
  have hsuspended : p.1.state = .suspended := p.1.suspensionState.resolve_left (by simp [hprior])
  obtain ⟨⟨c, state, event, prior', hs⟩, k⟩ := p
  obtain rfl : state = .suspended := hsuspended
  rfl

theorem marked_checked {r : ConnectionRow} {eventId : String} (hchecked : rowChecked p.1 p.2 = true)
    (hstate : p.1.state.markable = true) (hevent : notBlank eventId = true)
    (hmark : p.1.requireReauthorization eventId = some r) : rowChecked r p.2 = true := by
  obtain ⟨⟨c, state, event, prior, hs⟩, k⟩ := p
  obtain ⟨hnone, rfl⟩ := ConnectionRow.requireReauthorization_ok hmark
  obtain rfl : prior = none := hnone
  cases state <;>
    simp_all [rowChecked, fingerprintMatchesState, ConnectionState.markable,
      ConnectionState.paired, reauthorizationEventRequired, pairingMetadataRequired,
      suspendPriorState]

theorem requireReauthorization_state {r r' : ConnectionRow} {eventId : String}
    (h : r.requireReauthorization eventId = some r') :
    r'.state = .reauthorizationRequired ∧ r'.tenantSuspendPriorState = none := by
  obtain ⟨hnone, rfl⟩ := ConnectionRow.requireReauthorization_ok h
  exact ⟨rfl, hnone⟩

theorem suspendedPhone_checked (hchecked : rowChecked p.1 p.2 = true)
    (hstate : p.1.state ≠ .pairing) :
    rowChecked (suspendedPhone p).1 (suspendedPhone p).2 = true := by
  obtain ⟨⟨c, state, event, prior, hs⟩, k⟩ := p
  cases prior with
  | some prior => simpa [suspendedPhone] using hchecked
  | none =>
    cases state <;>
      simp_all [rowChecked, suspendedPhone, ConnectionRow.suspend, fingerprintMatchesState,
        reauthorizationEventRequired, pairingMetadataRequired, suspendPriorState]

theorem recordPhone_checked {record : ConnectionRecord} (hstate : record.state = .unpaired)
    (hvalid : validFingerprintForState record.state record.providerDeviceFingerprint = true) :
    rowChecked record.phone.1 record.phone.2 = true := by
  obtain ⟨c, name, state, fingerprint⟩ := record
  obtain rfl : state = .unpaired := hstate
  have hempty : fingerprint = [] := by simpa [validFingerprintForState] using hvalid
  subst hempty
  simp [rowChecked, ConnectionRecord.phone, fingerprintMatchesState,
    reauthorizationEventRequired, pairingMetadataRequired, suspendPriorState]

theorem resumedPhone_suspendedPhone (hprior : p.1.tenantSuspendPriorState = none) :
    resumedPhone (suspendedPhone p) = p := by
  obtain ⟨⟨c, state, event, prior, hs⟩, k⟩ := p
  obtain rfl : prior = none := hprior
  simp [resumedPhone, suspendedPhone, ConnectionRow.suspend, ConnectionRow.resume]

theorem resumedPhone_state (hprior : p.1.tenantSuspendPriorState.isSome = true)
    (hstate : p.1.state = .suspended) :
    (resumedPhone p).1.tenantSuspendPriorState = none ∧
      p.1.tenantSuspendPriorState = some (resumedPhone p).1.state := by
  obtain ⟨⟨c, state, event, prior, hs⟩, k⟩ := p
  obtain ⟨prior, rfl⟩ := Option.isSome_iff_exists.1 hprior
  obtain rfl : state = .suspended := hstate
  simp [resumedPhone, ConnectionRow.resume]

end

theorem Settled.not_pairing {status : TenantStatus} {p : Phone} {Q : Prop} (h : Settled status p)
    (hstate : p.1.state = .pairing) (hstatus : status = .suspended) : Q := by
  have hwas := (h.suspended hstatus).1
  rw [hstate] at hwas
  exact absurd hwas nofun

/-! ### The environment -/

def reauthorizationEnvelope (tenantId : String) (occurredAt : Time)
    (connectionId eventId : String) : EventContract.Envelope where
  eventId := eventId
  type := "connection.reauthorization_required"
  occurredAt := occurredAt
  tenantId := tenantId
  connectionId := connectionId
  status := "reauthorization-required"
  state := "reauthorization-required"

/-- Callers create connections unpaired and under a new identifier. -/
def NewConnection (db : PhoneDatabase) (record : ConnectionRecord) : Prop :=
  record.state = .unpaired ∧ db.phone record.connectionId = none

def MarkFits (rt : Runtime) (db : PhoneDatabase) (occurredAt : Time) (connectionId : String) :
    Prop :=
  ∀ eventId body, EventContract.marshal (reauthorizationEnvelope db.gateway.tenantId occurredAt
    connectionId eventId) = some body → rt.jsonSize body ≤ maxEventBodyBytes

/-- What the callers and `newID()` promise: a connection is new when it is created, a
session is committed and a lease acquired for a connection that is stored, and the
event of a mark has an identifier and fits its column. -/
def Promised (rt : Runtime) (db : PhoneDatabase) (call : Call) : Prop :=
  match call.2 with
  | .saveConnection record => NewConnection db record
  | .commitPairedSession connectionId _ _ _ => (db.phone connectionId).isSome = true
  | .acquireConnectionLease connectionId _ _ => (db.phone connectionId).isSome = true
  | .markReauthorizationRequired occurredAt connectionId newEventId
  | .markReauthorizationRequiredFenced occurredAt connectionId _ _ newEventId =>
    notBlank newEventId = true ∧ MarkFits rt db occurredAt connectionId
  | _ => True

/-- The tenant's suspension does not hold a connection, or it was quarantined before. -/
abbrev Unheld (p : Phone) : Prop :=
  p.1.tenantSuspendPriorState = none ∨ p.1.tenantSuspendPriorState = some .suspended

/-- The two reasons for a suspension are kept apart, and a device is paired with one
connection: no first quarantine meets a connection that the tenant's suspension holds,
no mark that passes its fence meets a suspended connection, and no attempt commits the
fingerprint of another connection. -/
def Apart (db : PhoneDatabase) (call : Call) : Prop :=
  match call.2 with
  | .quarantineBackfillConnection connectionId _ =>
    ∀ p, db.phone connectionId = some p → Unheld p
  | .markReauthorizationRequired _ connectionId _ =>
    ∀ p, db.phone connectionId = some p → p.1.state ≠ .suspended
  | .markReauthorizationRequiredFenced _ connectionId ownerId fencingToken _ =>
    db.gateway.ownsLease call.1 connectionId ownerId fencingToken = true →
      ∀ p, db.phone connectionId = some p → p.1.state ≠ .suspended
  | .commitPairedSession connectionId _ _ fingerprint =>
    ∀ c p, db.phone c = some p → p.2.providerDeviceFingerprint = some fingerprint →
      c = connectionId
  | _ => True

/-- A mark meets no suspended connection, or does not pass its fence and changes nothing. -/
theorem Apart.unsuspended (rt : Runtime) {db : PhoneDatabase} {call : Call} (h : Apart db call) :
    (∀ c p, call.2.marks = some c → db.phone c = some p → p.1.state ≠ .suspended) ∨
      (step rt call db).2.gateway = db.gateway ∧ ∀ c, (step rt call db).2.phone c = db.phone c := by
  obtain ⟨now, operation⟩ := call
  cases operation with
  | markReauthorizationRequired occurredAt connectionId newEventId =>
    exact .inl fun c p hmarks hphone => h p (Option.some.inj hmarks ▸ hphone)
  | markReauthorizationRequiredFenced occurredAt connectionId ownerId fencingToken newEventId =>
    cases howns : db.gateway.ownsLease now connectionId ownerId fencingToken with
    | true => exact .inl fun c p hmarks hphone => h howns p (Option.some.inj hmarks ▸ hphone)
    | false =>
      right
      refine step_rule rt _ db (fun _ _ => ⟨rfl, fun _ => rfl⟩) fun reply db' hperform => ?_
      rw [perform] at hperform
      obtain ⟨marked, hok, -, hcolumns⟩ := onGateway_ok hperform
      have hsame : db'.gateway = db.gateway := by
        simp only [markReauthorizationRequiredFenced, bind_ok, howns, Bool.and_false,
          Bool.false_eq_true, if_false] at hok
        obtain ⟨-, -, -, -, hok⟩ := hok
        split at hok <;> rw [pure_pair] at hok <;> exact hok.2.symm
      refine ⟨hsame, fun c => ?_⟩
      simp only [PhoneDatabase.phone, PhoneDatabase.connections, hsame, hcolumns]
  | _ => exact .inl fun c p hmarks => by cases hmarks

theorem paired_ne_pairing {state : ConnectionState} (h : state.paired = true) :
    state ≠ .pairing := by
  rintro rfl
  exact absurd h nofun

theorem step_settled {rt : Runtime} {db : PhoneDatabase} {call : Call}
    (h : ∀ c p, db.phone c = some p → Settled db.gateway.fleet.tenantStatus p)
    (hpromised : Promised rt db call) (hapart : Apart db call) (c : String) (q : Phone)
    (hq : (step rt call db).2.phone c = some q) :
    Settled (step rt call db).2.gateway.fleet.tenantStatus q := by
  rcases hapart.unsuspended rt with hunsuspended | ⟨hgateway, hphones⟩
  case inr =>
    rw [hgateway]
    exact h c q ((hphones c).symm.trans hq)
  have hturn := step_turn rt call db c
  have hcheckedq := phone_checked hq
  have hsettled := h c
  have hchecked : ∀ p, db.phone c = some p → rowChecked p.1 p.2 = true := fun p => phone_checked
  rw [hq] at hturn
  obtain ⟨now, operation⟩ := call
  generalize hbefore : db.phone c = before at hturn hsettled hchecked
  generalize (step rt (now, operation) db).2.gateway.fleet.tenantStatus = status' at hturn
  generalize db.gateway.fleet.tenantStatus = status at hturn hsettled
  generalize begunBy c (now, operation).2 (step rt (now, operation) db).1 = begun at hturn
  dsimp only at hturn
  cases hturn with
  | stay => exact hsettled q rfl
  | created record _ hstate =>
    refine ⟨by rintro ⟨⟩, fun _ => rfl, ?_, by rintro _ ⟨⟩⟩
    rwa [homePhone_self (p := record.phone) hstate rfl]
  | @overwritten record p _ hid =>
    subst hid
    rw [hpromised.2] at hbefore
    cases hbefore
  | @begun now attemptId ttl p hstate =>
    have hpairing : (begunPhone now attemptId p).1.state = .pairing :=
      setState_of_pairing (begun_unsuspended hstate) _
    have hprior : (begunPhone now attemptId p).1.tenantSuspendPriorState = none :=
      (begunPhone now attemptId p).1.suspensionState.resolve_right (by rw [hpairing]; decide)
    have hevent : (begunPhone now attemptId p).1.reauthorizationEventId =
        p.1.reauthorizationEventId := setState_reauthorizationEventId _ _
    refine ⟨by rintro ⟨⟩, fun _ => hprior, ?_, hevent ▸ (hsettled p rfl).event⟩
    rw [homePhone, if_pos hpairing]
    rcases hstate with hpairable | ⟨hwas, hpriorState⟩
    · rw [restoredPhone_begunPhone now attemptId (hchecked p rfl) hpairable]
      exact hchecked p rfl
    · rw [restoredPhone_takeover now attemptId hwas hpriorState]
      have hhome := (hsettled p rfl).home
      rwa [homePhone, if_pos hwas] at hhome
  | @restored _ _ p _ hstate hpriorState =>
    obtain ⟨hpairing, hprior⟩ := restoredPhone_state hstate hpriorState
    have hevent : (restoredPhone p).1.reauthorizationEventId = p.1.reauthorizationEventId :=
      setState_reauthorizationEventId _ _
    refine ⟨(hsettled p rfl).not_pairing hstate, fun _ => hprior, ?_,
      hevent ▸ (hsettled p rfl).event⟩
    rwa [homePhone_self hpairing hprior]
  | @committed _ _ _ fingerprint p hstate =>
    have hnew := committedPhone_state fingerprint hstate
    have hprior : (committedPhone fingerprint p).1.tenantSuspendPriorState = none :=
      (committedPhone fingerprint p).1.suspensionState.resolve_right (by rw [hnew]; decide)
    have hevent : (committedPhone fingerprint p).1.reauthorizationEventId = none :=
      setState_reauthorizationEventId _ _
    refine ⟨(hsettled p rfl).not_pairing hstate, fun _ => hprior, ?_, by simp [hevent]⟩
    rwa [homePhone_self (by rw [hnew]; decide) hprior]
  | @quarantined _ _ p hstate =>
    refine ⟨fun hs => ⟨rfl, ((hsettled p rfl).suspended hs).2⟩, (hsettled p rfl).active, ?_,
      (hsettled p rfl).event⟩
    rcases hapart p hbefore with hprior | hprior
    · rwa [homePhone_self (p := quarantinedPhone p) (by simp [quarantinedPhone]) hprior]
    · rw [quarantinedPhone_of_held hprior]
      exact (hsettled p rfl).home
  | @marked _ _ p eventId r hmarks hstate hmark =>
    have hnot := hunsuspended c p hmarks hbefore
    obtain ⟨hnew, hprior⟩ := requireReauthorization_state hmark
    refine ⟨fun hs => absurd ((hsettled p rfl).suspended hs).1 hnot, fun _ => hprior, ?_, ?_⟩
    · rwa [homePhone_self (p := (r, p.2)) (by rw [hnew]; decide) hprior]
    · intro eventId hevent
      change r.reauthorizationEventId = some eventId at hevent
      simp only [rowChecked, reauthorizationEventRequired, hnew, hevent, Bool.and_eq_true]
        at hcheckedq
      simpa using hcheckedq.1.1.2
  | @suspended p hstate =>
    have hprior := (hsettled p rfl).active rfl
    refine ⟨fun _ => ?_, by rintro ⟨⟩, ?_, ?_⟩
    · simp [suspendedPhone, hprior, ConnectionRow.suspend]
    · have hpairing : (suspendedPhone p).1.state ≠ .pairing := by
        simp [suspendedPhone, hprior, ConnectionRow.suspend]
      rw [homePhone, if_neg hpairing, resumedPhone_suspendedPhone hprior]
      exact hchecked p rfl
    · simpa [suspendedPhone, hprior, ConnectionRow.suspend] using (hsettled p rfl).event
  | resumed p =>
    obtain ⟨hstate, hsome⟩ := (hsettled p rfl).suspended rfl
    obtain ⟨hprior, hpriorState⟩ := resumedPhone_state hsome hstate
    have hpairing : (resumedPhone p).1.state ≠ .pairing := by
      intro hpairing
      have hold := hchecked p rfl
      simp [rowChecked, suspendPriorState, hpriorState, hpairing] at hold
    refine ⟨by rintro ⟨⟩, fun _ => hprior, by rwa [homePhone_self hpairing hprior], ?_⟩
    simpa [resumedPhone, hstate, hsome, ConnectionRow.resume] using (hsettled p rfl).event

/-! ### Constraint violations -/

def isViolation (e : Err) : Bool :=
  ": duplicate key value violates unique constraint".toList.isSuffixOf e.text.toList ||
    ": new row violates check constraint".toList.isSuffixOf e.text.toList

@[simp] def plainErrors : List Err :=
  [Sentinel.invalidIdentifier, .invalidConnectionState, .invalidEncryptedSession, .invalidLease,
    .invalidTenantAdminInput, .tenantPairingActive, .connectionNotFound].map Sentinel.err ++
  [errInvalidTenantID, errInvalidFingerprint, errTenantSuspended, errConnectionQuotaExceeded,
    errAttemptActive, errAttemptSuperseded, ⟨"stored tenant connection quota is invalid", []⟩,
    ⟨"quarantine backfill connection: sql: no rows in result set", []⟩,
    ⟨"generate authorization event ID", []⟩,
    ⟨"encode reauthorization event: invalid event envelope", []⟩,
    ⟨"validate reauthorization event: sql: no rows in result set", []⟩,
    ⟨"reauthorization event identity conflict", []⟩]

theorem isViolation_plain : ∀ e ∈ plainErrors, isViolation e = false := by
  decide +kernel

def Unrejected {α : Type} (tx : Tx α) : Prop :=
  ∀ e, tx = .error e → isViolation e = false

namespace Unrejected

variable {α β : Type} {x : Tx α} {f : α → Tx β} {e : Err}

theorem of_ok (h : ∃ a, x = .ok a) : Unrejected x := by
  rintro e rfl
  obtain ⟨a, h⟩ := h
  exact absurd h nofun

theorem fail (h : isViolation e = false) : Unrejected (.error e : Tx α) := by
  rintro _ ⟨⟩
  exact h

theorem bind (hx : Unrejected x) (hf : ∀ a, x = .ok a → Unrejected (f a)) :
    Unrejected (x >>= f) := by
  intro e h
  rcases bind_error.1 h with h | ⟨a, hok, h⟩
  · exact hx e h
  · exact hf a hok e h

theorem require_bind {p : Bool} {f : Unit → Tx β} (h : e ∈ plainErrors)
    (hf : p = true → Unrejected (f ())) : Unrejected (require p e >>= f) := by
  cases p with
  | false => exact fail (isViolation_plain e h)
  | true => exact hf rfl

theorem orFail_bind {o : Option α} (h : e ∈ plainErrors)
    (hf : ∀ a, o = some a → Unrejected (f a)) : Unrejected (orFail o e >>= f) := by
  cases o with
  | none => exact fail (isViolation_plain e h)
  | some a => exact hf a rfl

theorem map {f : α → β} (h : Unrejected x) : Unrejected (x.map f) := by
  cases x with
  | error e => exact fail (h e rfl)
  | ok a => exact .of_ok ⟨f a, rfl⟩

end Unrejected

def OutboxNamed (events : EventTables) : Prop :=
  ∀ r ∈ events.eventOutbox, r.outboxId = r.eventId ++ ":" ++ r.destination.text

section

variable {rt : Runtime} {occurredAt : Time} {connectionId eventId : String} {db db' : Database}

theorem ensureOutboxRow_named (db : Database) (operation : String) (destination : Destination)
    (hlinked : (db.events.gatewayEvents.find? eventId).isSome = true)
    (hnamed : OutboxNamed db.events) :
    ∃ db', db.ensureOutboxRow operation
        ⟨eventId ++ ":" ++ destination.text, eventId, destination⟩ = .ok db' ∧
      (db'.events.gatewayEvents.find? eventId).isSome = true ∧ OutboxNamed db'.events := by
  unfold Database.ensureOutboxRow
  split
  · exact ⟨db, rfl, hlinked, hnamed⟩
  · next hnone =>
    have hkey : ∀ row ∈ db.events.eventOutbox,
        row.key ≠ (⟨eventId ++ ":" ++ destination.text, eventId, destination⟩ : OutboxRow).key :=
      Table.find?_eq_none.1 (Option.not_isSome_iff_eq_none.1 hnone)
    have hid : ∀ row ∈ db.events.eventOutbox,
        row.outboxId ≠ eventId ++ ":" ++ destination.text := fun row hrow hsame => by
      rw [hnamed row hrow] at hsame
      have hevent := outboxId_inj hsame
      have hlast := outboxId_getLast? row.eventId row.destination
      rw [hsame, outboxId_getLast?] at hlast
      refine hkey row hrow (Prod.ext hevent ?_)
      show row.destination = destination
      cases hrowed : row.destination <;> cases destination <;>
        simp_all [Destination.text]
    obtain ⟨events, hok, hinsert⟩ := insertOutboxRow_succeeds db operation hlinked hid hkey
    obtain ⟨hgateway, houtbox⟩ := insertOutbox_eq_some hinsert
    refine ⟨_, hok, by rw [hgateway]; exact hlinked, fun r hr => ?_⟩
    rcases (Table.mem_insert houtbox).1 hr with hr | rfl
    · exact hnamed r hr
    · rfl

theorem ensureEvent_named {events : EventTables} (event : EventRow) (hnamed : OutboxNamed events) :
    OutboxNamed (events.ensureEvent event) := by
  unfold EventTables.ensureEvent
  cases hinsert : events.insertEvent event with
  | none => exact hnamed
  | some events' =>
    intro r hr
    rw [Option.getD_some, (insertEvent_eq_some hinsert).2] at hr
    exact hnamed r hr

theorem insertReauthorizationEvent_named
    (h : insertReauthorizationEvent rt occurredAt connectionId eventId db = .ok db')
    (hnamed : OutboxNamed db.events) : OutboxNamed db'.events := by
  simp only [insertReauthorizationEvent, bind_ok, orFail_ok] at h
  obtain ⟨body, -, -, -, stored, hstored, -, -, db₁, h₁, h₂⟩ := h
  obtain ⟨db₁', hok₁, hlinked₁, hnamed₁⟩ := ensureOutboxRow_named
    { db with events := db.events.ensureEvent _ } "ensure reauthorization outbox" .webhook
    (by rw [hstored]; rfl) (ensureEvent_named _ hnamed)
  rw [hok₁, Except.ok.injEq] at h₁
  subst h₁
  obtain ⟨db₂', hok₂, -, hnamed₂⟩ := ensureOutboxRow_named db₁'
    "ensure reauthorization outbox" .kafka hlinked₁ hnamed₁
  rw [hok₂, Except.ok.injEq] at h₂
  exact h₂ ▸ hnamed₂

theorem insertReauthorizationEvent_unrejected (hnamed : OutboxNamed db.events)
    (hsize : ∀ body, EventContract.marshal (reauthorizationEnvelope db.tenantId occurredAt
      connectionId eventId) = some body → rt.jsonSize body ≤ maxEventBodyBytes) :
    Unrejected (insertReauthorizationEvent rt occurredAt connectionId eventId db) := by
  unfold insertReauthorizationEvent
  refine .orFail_bind (by simp) fun body hbody => .bind (.of_ok ⟨(), ?_⟩) fun _ _ =>
    .orFail_bind (by simp) fun stored hstored => .require_bind (by simp) fun _ => ?_
  · exact require_ok.2 (decide_eq_true (hsize body hbody))
  obtain ⟨db₁, hok₁, hlinked₁, hnamed₁⟩ := ensureOutboxRow_named
    { db with events := db.events.ensureEvent _ } "ensure reauthorization outbox" .webhook
    (by rw [hstored]; rfl) (ensureEvent_named _ hnamed)
  obtain ⟨db₂, hok₂, -, -⟩ := ensureOutboxRow_named db₁
    "ensure reauthorization outbox" .kafka hlinked₁ hnamed₁
  refine .bind (.of_ok ⟨db₁, hok₁⟩) fun db' hok => ?_
  obtain rfl : db₁ = db' := Except.ok.inj (hok₁.symm.trans hok)
  exact .of_ok ⟨db₂, hok₂⟩

end

section

variable {rt : Runtime} {now : Time} {db : PhoneDatabase} {gateway : Database}

theorem store_succeeds (operation : String)
    (hrows : ∀ c, gateway.fleet.connections.find? c = none ↔ db.phone c = none)
    (hchecked : ∀ c p r, db.phone c = some p → gateway.fleet.connections.find? c = some r →
      rowChecked r p.2 = true) : ∃ db', db.store operation gateway db.columns = .ok db' := by
  unfold PhoneDatabase.store
  rw [dif_pos db.unique, dif_pos]
  · exact ⟨_, rfl⟩
  · rw [rowsChecked_iff]
    constructor
    · intro c r hr
      cases hphone : db.phone c with
      | none =>
        rw [(hrows c).2 hphone] at hr
        exact absurd hr nofun
      | some p => exact ⟨p.2, (phone_eq_some.1 hphone).2, hchecked c p r hphone hr⟩
    · intro c k hk
      obtain ⟨r, hr⟩ := connection_of_columns hk
      cases hnew : gateway.fleet.connections.find? c with
      | some r' => exact ⟨r', rfl⟩
      | none =>
        rw [hrows, phone_eq_none, hr] at hnew
        exact absurd hnew nofun

theorem store_mapped (operation : String) {f : String → ConnectionRow → ConnectionRow}
    (hrows : ∀ c, gateway.fleet.connections.find? c = (db.connections.find? c).map (f c))
    (hchecked : ∀ c p, db.phone c = some p → rowChecked (f c p.1) p.2 = true) :
    ∃ db', db.store operation gateway db.columns = .ok db' := by
  refine store_succeeds operation (fun c => ?_) fun c p r hp hr => ?_
  · rw [hrows, Option.map_eq_none_iff, phone_eq_none]
  · rw [hrows, (phone_eq_some.1 hp).1, Option.map_some, Option.some.injEq] at hr
    exact hr ▸ hchecked c p hp

theorem stored_of_same (operation : String) (h : gateway.fleet.connections = db.connections) :
    ∃ db', db.store operation gateway db.columns = .ok db' :=
  store_mapped operation (fun c => by rw [h, Option.map_id']) fun _ _ => phone_checked

theorem Marking.stored {connectionId newEventId : String} (operation : String)
    (h : Marking connectionId newEventId db.gateway gateway)
    (hsettled : ∀ c p, db.phone c = some p → Settled db.gateway.fleet.tenantStatus p)
    (hnew : notBlank newEventId = true) :
    ∃ db', db.store operation gateway db.columns = .ok db' := by
  cases h with
  | same hconnections => exact stored_of_same operation hconnections
  | @row r r' eventId hrow hstate hid hmark htenant hrows =>
    have hevent : notBlank eventId = true := by
      rcases hid with hstored | rfl
      · obtain ⟨k, hk⟩ : ∃ k, db.phone connectionId = some (r, k) := phone_of_connection hrow
        exact (hsettled connectionId (r, k) hk).event eventId hstored
      · exact hnew
    refine store_succeeds operation (fun c => ?_) fun c p s hp hs => ?_
    · rw [hrows, phone_eq_none]
      split
      · next hc =>
        subst hc
        simp [PhoneDatabase.connections, hrow]
      · exact Iff.rfl
    · rw [hrows] at hs
      have hconnection := (phone_eq_some.1 hp).1
      split at hs
      · next hc =>
        subst hc
        rw [PhoneDatabase.connections, hrow, Option.some.injEq] at hconnection
        cases hs
        exact marked_checked (phone_checked hp) (hconnection ▸ hstate) hevent
          (hconnection ▸ hmark)
      · rw [PhoneDatabase.connections, hs, Option.some.injEq] at hconnection
        exact hconnection ▸ phone_checked hp

end

end MessagingGateway.Pairing
