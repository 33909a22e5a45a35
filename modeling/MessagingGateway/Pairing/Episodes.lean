import MessagingGateway.Pairing.Survival

/-!
# Episodes of reauthorization

A connection requires reauthorization from its first mark until an attempt to
pair it commits, also while an attempt is under way or its tenant is suspended.
The row keeps the identifier of the event that announced the episode, so every
further mark finds it, and the commit clears it.
-/

namespace MessagingGateway.Pairing

open Relational Store

/-! ### Rows -/

/-- The connection is, or goes back to, `reauthorization-required`. -/
def Required (p : Phone) : Prop := (homePhone p).1.state = .reauthorizationRequired

instance (p : Phone) : Decidable (Required p) :=
  inferInstanceAs (Decidable ((homePhone p).1.state = _))

/-- The row names an event exactly as long as the connection requires
reauthorization. -/
def Named (p : Phone) : Prop := Required p ↔ p.1.reauthorizationEventId.isSome = true

variable {p : Phone} {events : EventTables} {stored : String} {trace : List (Call × Reply)}

theorem Named.of_event {p' : Phone} (h : Named p)
    (hevent : p'.1.reauthorizationEventId = p.1.reauthorizationEventId)
    (hhome : (homePhone p').1.state = (homePhone p).1.state) : Named p' := by
  unfold Named Required at h ⊢
  rw [hevent, hhome]
  exact h

theorem homePhone_resumedPhone (hchecked : rowChecked p.1 p.2 = true) :
    homePhone (resumedPhone p) = homePhone p := by
  by_cases hheld : p.1.state = .suspended ∧ p.1.tenantSuspendPriorState.isSome = true
  · obtain ⟨hprior, hback⟩ := resumedPhone_state hheld.2 hheld.1
    have hpairing : (resumedPhone p).1.state ≠ .pairing := by
      intro hpairing
      simp [rowChecked, suspendPriorState, hback, hpairing] at hchecked
    rw [homePhone_self hpairing hprior, homePhone, if_neg (by rw [hheld.1]; decide)]
  · have hsame : resumedPhone p = p := by
      unfold resumedPhone
      rw [if_neg]
      simpa using hheld
    rw [hsame]

theorem homePhone_restoredPhone (hstate : p.1.state = .pairing)
    (hprior : p.2.pairingPriorState.any pairable = true) :
    homePhone (restoredPhone p) = homePhone p := by
  obtain ⟨hpairing, hnone⟩ := restoredPhone_state hstate hprior
  rw [homePhone_self hpairing hnone, homePhone, if_pos hstate]

theorem homePhone_begunPhone (now : Time) (attemptId : String)
    (hchecked : rowChecked p.1 p.2 = true) (hstate : pairable p.1.state = true ∨
      p.1.state = .pairing ∧ p.2.pairingPriorState.any pairable = true) :
    homePhone (begunPhone now attemptId p) = homePhone p := by
  have hsuspended := begun_unsuspended hstate
  have hpairing : (begunPhone now attemptId p).1.state = .pairing :=
    setState_of_pairing hsuspended _
  have hprior : p.1.tenantSuspendPriorState = none := p.1.suspensionState.resolve_right hsuspended
  rw [homePhone, if_pos hpairing]
  rcases hstate with hpairable | ⟨hwas, hpriorState⟩
  · have hnot : p.1.state ≠ .pairing := fun h => by rw [h] at hpairable; cases hpairable
    rw [restoredPhone_begunPhone now attemptId hchecked hpairable, homePhone_self hnot hprior]
  · rw [restoredPhone_takeover now attemptId hwas hpriorState, homePhone, if_pos hwas]

theorem homePhone_suspendedPhone (hstate : p.1.state ≠ .pairing) :
    homePhone (suspendedPhone p) = homePhone p := by
  cases hprior : p.1.tenantSuspendPriorState with
  | none =>
    have hpairing : (suspendedPhone p).1.state ≠ .pairing := by
      simp [suspendedPhone, hprior, ConnectionRow.suspend]
    rw [homePhone, if_neg hpairing, resumedPhone_suspendedPhone hprior,
      homePhone_self hstate hprior]
  | some prior =>
    have hsame : suspendedPhone p = p := by simp [suspendedPhone, hprior]
    rw [hsame]

theorem Named.quarantined (h : Named p) (hstate : p.1.state.paired = true) :
    Named (quarantinedPhone p) := by
  cases hprior : p.1.tenantSuspendPriorState with
  | none =>
    have hpairing : p.1.state ≠ .pairing := paired_ne_pairing hstate
    have hnot : ¬ Required p := by
      unfold Required
      rw [homePhone_self hpairing hprior]
      intro hrequired
      rw [hrequired] at hstate
      cases hstate
    have hnone : ¬ p.1.reauthorizationEventId.isSome = true := fun hsome => hnot (h.2 hsome)
    constructor
    · intro hrequired
      unfold Required at hrequired
      rw [homePhone_self (p := quarantinedPhone p) (by simp [quarantinedPhone]) hprior]
        at hrequired
      cases hrequired
    · exact fun hsome => absurd hsome hnone
  | some prior =>
    rw [quarantinedPhone_of_held hprior]
    exact h

theorem requireReauthorization_event {r r' : ConnectionRow} {eventId : String}
    (h : r.requireReauthorization eventId = some r') :
    r'.reauthorizationEventId = some eventId := by
  obtain ⟨_, rfl⟩ := ConnectionRow.requireReauthorization_ok h
  rfl

theorem suspendedPhone_event (p : Phone) :
    (suspendedPhone p).1.reauthorizationEventId = p.1.reauthorizationEventId := by
  unfold suspendedPhone
  dsimp only
  split <;> rfl

theorem resumedPhone_event (p : Phone) :
    (resumedPhone p).1.reauthorizationEventId = p.1.reauthorizationEventId := by
  unfold resumedPhone
  dsimp only
  split <;> rfl

/-- Connections are new when they are created, and `newID()` returns an identifier that
no event has. -/
def Drawn (db : PhoneDatabase) (call : Call) : Prop :=
  match call.2 with
  | .saveConnection record => NewConnection db record
  | .markReauthorizationRequired _ _ newEventId
  | .markReauthorizationRequiredFenced _ _ _ _ newEventId =>
    db.gateway.events.gatewayEvents.find? newEventId = none
  | _ => True

instance (db : PhoneDatabase) (call : Call) : Decidable (Drawn db call) := by
  unfold Drawn NewConnection
  split <;> infer_instance

theorem step_named {rt : Runtime} {db : PhoneDatabase} {call : Call} {c : String} {p' : Phone}
    (hnamed : ∀ p, db.phone c = some p → Named p) (hdrawn : Drawn db call)
    (hafter : (step rt call db).2.phone c = some p') : Named p' := by
  have hturn := step_turn rt call db c
  rw [hafter] at hturn
  generalize hp : db.phone c = p at hturn hnamed
  generalize hcall : call.2 = operation at hturn
  generalize db.gateway.fleet.tenantStatus = status at hturn
  generalize (step rt call db).2.gateway.fleet.tenantStatus = status' at hturn
  generalize begunBy c operation (step rt call db).1 = begun at hturn
  cases hturn with
  | stay => exact hnamed p' rfl
  | created record hid hstate =>
    have hunpaired : record.state = .unpaired := by
      simp only [Drawn, hcall] at hdrawn
      exact hdrawn.1
    unfold Named Required
    rw [homePhone_self hstate rfl]
    simp [ConnectionRecord.phone, hunpaired]
  | @overwritten record p p' hid _ _ =>
    simp only [Drawn, NewConnection, hcall, hid, hp] at hdrawn
    cases hdrawn.2
  | begun now attemptId ttl hstate =>
    refine (hnamed _ rfl).of_event (setState_reauthorizationEventId _ _) ?_
    rw [homePhone_begunPhone now attemptId (phone_checked hp) hstate]
  | restored status hgives hstate hprior =>
    refine (hnamed _ rfl).of_event (setState_reauthorizationEventId _ _) ?_
    rw [homePhone_restoredPhone hstate hprior]
  | committed status fingerprint hstate =>
    have hconnected := committedPhone_state fingerprint hstate
    have hprior := (committedPhone fingerprint _).1.suspensionState.resolve_right
      (by rw [hconnected]; decide)
    unfold Named Required
    rw [homePhone_self (by rw [hconnected]; decide) hprior, hconnected, committedPhone,
      setState_reauthorizationEventId]
    simp
  | quarantined status hstate => exact (hnamed _ rfl).quarantined hstate
  | marked status hmarks hmarkable hmark =>
    obtain ⟨hstate, hprior⟩ := requireReauthorization_state hmark
    unfold Named Required
    rw [homePhone_self (by rw [hstate]; decide) hprior, requireReauthorization_event hmark]
    simp [hstate]
  | suspended hstate =>
    refine (hnamed _ rfl).of_event (suspendedPhone_event _) ?_
    rw [homePhone_suspendedPhone hstate]
  | resumed p =>
    refine (hnamed _ rfl).of_event (resumedPhone_event _) ?_
    rw [homePhone_resumedPhone (phone_checked hp)]

/-! ### Events -/

def announcement (c : String) (event : EventRow) : Bool :=
  event.eventType == "connection.reauthorization_required" &&
    event.aggregateType == "connection" && event.aggregateId == c

def announcements (c : String) (db : PhoneDatabase) : List EventRow :=
  db.gateway.events.gatewayEvents.select (announcement c)

/-- An event that announces for connection `c` is stored and has its outbox rows;
it is new unless its identifier is stored already. -/
structure Published (c eventId : String) (events events' : EventTables) : Prop where
  stored : (events.gatewayEvents.find? eventId).isSome = true →
    events'.gatewayEvents = events.gatewayEvents
  fresh : events.gatewayEvents.find? eventId = none →
    ∃ event, event.eventId = eventId ∧ announcement c event = true ∧
      events.gatewayEvents.insert event = some events'.gatewayEvents
  outbox : ∀ destination, (events'.eventOutbox.find? (eventId, destination)).isSome = true
  kept : ∀ key, (events.eventOutbox.find? key).isSome = true →
    (events'.eventOutbox.find? key).isSome = true

section

variable {rt : Runtime} {now occurredAt : Time} {c newEventId eventId : String} {db db' : Database}

theorem ensureOutboxRow_stored {operation : String} {row : OutboxRow}
    (h : db.ensureOutboxRow operation row = .ok db') :
    db'.events.gatewayEvents = db.events.gatewayEvents ∧
      (db'.events.eventOutbox.find? row.key).isSome = true ∧
      ∀ key, (db.events.eventOutbox.find? key).isSome = true →
        (db'.events.eventOutbox.find? key).isSome = true := by
  unfold Database.ensureOutboxRow at h
  split at h
  · next hstored =>
    cases h
    exact ⟨rfl, hstored, fun _ hkey => hkey⟩
  · simp only [Database.insertOutboxRow, bind_ok, orFail_ok, pure_ok] at h
    obtain ⟨-, -, events, hinsert, rfl⟩ := h
    obtain ⟨hgateway, houtbox⟩ := insertOutbox_eq_some hinsert
    refine ⟨hgateway, ?_, fun key hkey => ?_⟩
    · show (events.eventOutbox.find? row.key).isSome = true
      rw [Table.find?_insert_self houtbox]
      rfl
    · show (events.eventOutbox.find? key).isSome = true
      rw [Table.find?_insert houtbox]
      split
      · rfl
      · exact hkey

theorem ensureEvent_of_stored {event : EventRow}
    (h : (events.gatewayEvents.find? event.eventId).isSome = true) :
    events.ensureEvent event = events := by
  unfold EventTables.ensureEvent
  cases hinsert : events.insertEvent event with
  | none => rfl
  | some events' =>
    have hnone := (Table.insert_eq_some.1 (insertEvent_eq_some hinsert).1).1
    rw [Option.isSome_iff_exists] at h
    obtain ⟨stored, hstored⟩ := h
    rw [hnone] at hstored
    exact absurd hstored nofun

theorem ensureEvent_of_fresh {event : EventRow}
    (h : events.gatewayEvents.find? event.eventId = none) :
    events.gatewayEvents.insert event = some (events.ensureEvent event).gatewayEvents ∧
      (events.ensureEvent event).eventOutbox = events.eventOutbox := by
  obtain ⟨events', hinsert⟩ := exists_insertEvent h
  rw [EventTables.ensureEvent, hinsert, Option.getD_some]
  exact insertEvent_eq_some hinsert

theorem insertReauthorizationEvent_published
    (h : insertReauthorizationEvent rt occurredAt c eventId db = .ok db') :
    Published c eventId db.events db'.events := by
  simp only [insertReauthorizationEvent, bind_ok, orFail_ok] at h
  obtain ⟨body, -, -, -, stored, -, -, -, db₁, h₁, h₂⟩ := h
  obtain ⟨hevents₁, hwebhook, hkept₁⟩ := ensureOutboxRow_stored h₁
  obtain ⟨hevents₂, hkafka, hkept₂⟩ := ensureOutboxRow_stored h₂
  have hafter := hevents₂.trans hevents₁
  dsimp only at hafter hkept₁
  refine ⟨fun hstored => ?_, fun hnone => ?_, fun destination => ?_, fun key hkey => ?_⟩
  · rw [hafter, ensureEvent_of_stored hstored]
  · rw [hafter]
    refine ⟨_, ?_, ?_, (ensureEvent_of_fresh hnone).1⟩
    · rfl
    · simp [announcement]
  · cases destination
    · exact hkept₂ _ hwebhook
    · exact hkafka
  · refine hkept₂ _ (hkept₁ _ ?_)
    cases hevent : db.events.gatewayEvents.find? eventId with
    | none => rwa [(ensureEvent_of_fresh hevent).2]
    | some stored => rwa [ensureEvent_of_stored (by rw [hevent]; rfl)]

/-- What a mark does: nothing, or the row of the connection gets, or has, the event
that is published. -/
inductive Announcing (c newEventId : String) (db db' : Database) : Prop
  | refused (hevents : db'.events = db.events)
      (hconnections : db'.fleet.connections = db.fleet.connections)
  | announced {r r' : ConnectionRow} {eventId : String}
      (hrow : db.fleet.connections.find? c = some r) (hstate : r.state.markable = true)
      (hprior : r.tenantSuspendPriorState = none)
      (hagain : ∀ stored, r.state = .reauthorizationRequired →
        r.reauthorizationEventId.bind nullIf = some stored → eventId = stored)
      (hnew : r.reauthorizationEventId = none → eventId = newEventId)
      (hevent : r'.reauthorizationEventId = some eventId)
      (hrows : ∀ d, db'.fleet.connections.find? d =
        if c = d then some r' else db.fleet.connections.find? d)
      (hpublished : Published c eventId db.events db'.events)

theorem requireReauthorization_prior {r r' : ConnectionRow} {eventId : String}
    (h : r.requireReauthorization eventId = some r') : r.tenantSuspendPriorState = none :=
  (ConnectionRow.requireReauthorization_ok h).1

theorem markReauthorizationRequiredFenced_announcing {ownerId : String} {fencingToken : Nat}
    {marked : Bool}
    (h : markReauthorizationRequiredFenced rt now occurredAt c ownerId fencingToken newEventId db =
      .ok (marked, db')) : Announcing c newEventId db db' := by
  obtain ⟨-, rfl⟩ | ⟨r, r', hrow, hmarkable, hmark, hevent⟩ :=
    markReauthorizationRequiredFenced_ok h
  · exact .refused rfl rfl
  · have hpublished := insertReauthorizationEvent_published hevent
    obtain ⟨events, rfl⟩ := insertReauthorizationEvent_ok hevent
    -- `COALESCE(NULLIF(reauthorization_event_id, ''), $5)`
    refine .announced hrow hmarkable (requireReauthorization_prior hmark)
      (fun stored _ hstored => ?_) (fun hnone => ?_)
      (requireReauthorization_event hmark) (putConnection_find? hrow hmark) hpublished
    · rw [hstored, Option.getD_some]
    · rw [hnone, Option.bind_none, Option.getD_none]

theorem markReauthorizationRequired_announcing {transition : AuthorizationTransition}
    (h : markReauthorizationRequired rt now occurredAt c newEventId db = .ok (transition, db')) :
    Announcing c newEventId db db' := by
  obtain ⟨r, hrow, ⟨eventId, hstate, hstored, hevent⟩ | ⟨r', hmarkable, hfirst, hmark, hevent⟩⟩ :=
    markReauthorizationRequired_ok h <;>
    have hpublished := insertReauthorizationEvent_published hevent <;>
    obtain ⟨events, rfl⟩ := insertReauthorizationEvent_ok hevent
  · have hsame : r.reauthorizationEventId = some eventId := by
      obtain ⟨stored, hr, hnull⟩ := Option.bind_eq_some_iff.1 hstored
      unfold nullIf at hnull
      split at hnull
      · cases hnull
      · rw [hr, hnull]
    refine .announced hrow (by rw [hstate]; rfl)
      (r.suspensionState.resolve_right (by rw [hstate]; decide)) (fun stored _ hagain => ?_)
      (fun hnone => ?_) hsame (fun d => ?_) hpublished
    · rw [hstored, Option.some.injEq] at hagain
      exact hagain
    · rw [hnone] at hsame
      cases hsame
    · show db.fleet.connections.find? d = _
      split
      · next hd => rw [← hd, hrow]
      · rfl
  · exact .announced hrow hmarkable (requireReauthorization_prior hmark)
      (fun stored hstate hstored => absurd hstored (hfirst stored hstate)) (fun _ => rfl)
      (requireReauthorization_event hmark) (putConnection_find? hrow hmark) hpublished

end

/-! ### Runs -/

def eventOf (c : String) (db : PhoneDatabase) : Option String :=
  (db.phone c).bind fun p => p.1.reauthorizationEventId

def commits (c : String) : Call × Reply → Bool
  | ((_, .commitPairedSession connectionId _ _ _), .done) => connectionId == c
  | _ => false

inductive Passage (db : PhoneDatabase) (entry : Call × Reply) (db' : PhoneDatabase) : Prop
  | silent (hevents : db'.gateway.events = db.gateway.events)
      (hrows : ∀ c, eventOf c db' = eventOf c db ∨
        commits c entry = true ∧ eventOf c db' = none)
  | announced {c eventId : String}
      (hchoice : eventOf c db = some eventId ∨
        eventOf c db = none ∧ db.gateway.events.gatewayEvents.find? eventId = none)
      (hevent : eventOf c db' = some eventId) (hothers : ∀ d, d ≠ c → eventOf d db' = eventOf d db)
      (hpublished : Published c eventId db.gateway.events db'.gateway.events)

section

variable {rt : Runtime} {db db' : PhoneDatabase} {call : Call} {c : String}

theorem eventOf_eq (c : String) (db : PhoneDatabase) :
    eventOf c db = (db.connections.find? c).bind fun r => r.reauthorizationEventId := by
  unfold eventOf
  cases hphone : db.phone c with
  | none =>
    rw [phone_eq_none] at hphone
    rw [hphone]
    rfl
  | some p =>
    rw [(phone_eq_some.1 hphone).1]
    rfl

theorem eventOf_of_phone (h : db.phone c = some p) : eventOf c db = p.1.reauthorizationEventId := by
  rw [eventOf, h, Option.bind_some]

theorem Announcing.passage {newEventId : String} (entry : Call × Reply)
    (h : Announcing c newEventId db.gateway db'.gateway)
    (hnamed : ∀ p, db.phone c = some p → Named p)
    (hfresh : db.gateway.events.gatewayEvents.find? newEventId = none) : Passage db entry db' := by
  cases h with
  | refused hevents hconnections =>
    exact .silent hevents fun d => .inl (by
      rw [eventOf_eq, eventOf_eq, PhoneDatabase.connections, hconnections])
  | @announced r r' eventId hrow hstate hprior hagain hnew hevent hrows hpublished =>
    obtain ⟨k, hphone⟩ : ∃ k, db.phone c = some (r, k) := phone_of_connection hrow
    have hbefore := eventOf_of_phone hphone
    refine .announced ?_ ?_ (fun d hd => ?_) hpublished
    · cases hstored : r.reauthorizationEventId with
      | none => exact .inr ⟨hbefore.trans hstored, by rw [hnew hstored]; exact hfresh⟩
      | some stored =>
        -- such a row requires reauthorization, and its event is not blank
        have hpairing : r.state ≠ .pairing := by
          intro hpairing
          rw [hpairing] at hstate
          cases hstate
        have hrequired : r.state = .reauthorizationRequired := by
          have hrequired : Required (r, k) := (hnamed _ hphone).2 (by rw [hstored]; rfl)
          unfold Required at hrequired
          rwa [homePhone_self hpairing hprior] at hrequired
        have hblank : stored ≠ "" := by
          rintro rfl
          have hchecked := phone_checked hphone
          simp [rowChecked, reauthorizationEventRequired, hrequired, hstored, notBlank]
            at hchecked
        refine .inl (hbefore.trans ?_)
        rw [hagain stored hrequired (by simp [hstored, nullIf, hblank]), hstored]
    · rw [eventOf_eq, PhoneDatabase.connections, hrows, if_pos rfl, Option.bind_some, hevent]
    · rw [eventOf_eq, eventOf_eq, PhoneDatabase.connections, hrows, if_neg (Ne.symm hd)]

theorem perform_event {now : Time} {operation : Operation} {reply : Reply}
    (hperform : perform rt now operation db = .ok (reply, db')) (hmarks : operation.marks = none)
    (hdrawn : Drawn db (now, operation)) (c : String) :
    eventOf c db' = eventOf c db ∨
      commits c ((now, operation), reply) = true ∧ eventOf c db' = none := by
  have hturn := perform_turn hperform c
  unfold eventOf
  generalize hp : db.phone c = p at hturn
  generalize hp' : db'.phone c = p' at hturn
  generalize db.gateway.fleet.tenantStatus = status at hturn
  generalize db'.gateway.fleet.tenantStatus = status' at hturn
  generalize begunBy c operation reply = begun at hturn
  cases hturn with
  | @overwritten record p p' hid _ _ =>
    simp only [Drawn, NewConnection, hid, hp] at hdrawn
    cases hdrawn.2
  | begun now attemptId ttl | restored => exact .inl (setState_reauthorizationEventId _ _)
  | committed status fingerprint =>
    obtain ⟨-, rfl⟩ := finishing_ok hperform
    exact .inr ⟨by simp [commits], setState_reauthorizationEventId _ _⟩
  | marked status hmarked =>
    rw [hmarks] at hmarked
    cases hmarked
  | suspended => exact .inl (suspendedPhone_event _)
  | resumed => exact .inl (resumedPhone_event _)
  | _ => exact .inl rfl

theorem step_passage (hnamed : ∀ c p, db.phone c = some p → Named p) (hdrawn : Drawn db call) :
    Passage db (call, (step rt call db).1) (step rt call db).2 := by
  refine step_rule rt call db (fun _ _ => .silent rfl fun c => .inl rfl)
    fun reply db' hperform => ?_
  obtain ⟨now, operation⟩ := call
  by_cases hmarks : operation.marks = none
  · exact .silent (perform_events hmarks hperform) (perform_event hperform hmarks hdrawn)
  · cases operation with
    | markReauthorizationRequired occurredAt connectionId newEventId =>
      obtain ⟨_, hok, -⟩ := onGateway_ok hperform
      exact (markReauthorizationRequired_announcing hok).passage _ (hnamed _) hdrawn
    | markReauthorizationRequiredFenced occurredAt connectionId ownerId fencingToken newEventId =>
      obtain ⟨_, hok, -⟩ := onGateway_ok hperform
      exact (markReauthorizationRequiredFenced_announcing hok).passage _ (hnamed _) hdrawn
    | _ => exact absurd rfl hmarks

theorem Published.grows {eventId : String} {events' : EventTables}
    (h : Published c eventId events events')
    (hstored : (events.gatewayEvents.find? stored).isSome = true) :
    (events'.gatewayEvents.find? stored).isSome = true := by
  cases hevent : events.gatewayEvents.find? eventId with
  | some event => rwa [h.stored (by rw [hevent]; rfl)]
  | none =>
    obtain ⟨event, -, -, hinsert⟩ := h.fresh hevent
    rw [Table.find?_insert hinsert]
    split
    · rfl
    · exact hstored

theorem Published.event {eventId : String} {events' : EventTables}
    (h : Published c eventId events events') :
    (events'.gatewayEvents.find? eventId).isSome = true := by
  cases hevent : events.gatewayEvents.find? eventId with
  | some event =>
    rw [h.stored (by rw [hevent]; rfl), hevent]
    rfl
  | none =>
    obtain ⟨event, hid, -, hinsert⟩ := h.fresh hevent
    rw [← hid, Table.find?_insert_self hinsert]
    rfl

structure Registered (db : PhoneDatabase) : Prop where
  named : ∀ c p, db.phone c = some p → Named p
  published : ∀ c eventId, eventOf c db = some eventId →
    (db.gateway.events.gatewayEvents.find? eventId).isSome = true ∧ ∀ destination,
      (db.gateway.events.eventOutbox.find? (eventId, destination)).isSome = true

theorem newTenant_registered (tenantId : String) : Registered (newTenant tenantId) where
  named c p hp := by cases hp
  published c eventId h := by cases h

theorem step_registered (h : Registered db) (hdrawn : Drawn db call) :
    Registered (step rt call db).2 := by
  have hpassage : Passage db (call, (step rt call db).1) (step rt call db).2 :=
    step_passage h.named hdrawn
  refine ⟨fun c p => step_named (h.named c) hdrawn, fun c eventId hc => ?_⟩
  cases hpassage with
  | silent hevents hrows =>
    rw [hevents]
    rcases hrows c with hsame | ⟨-, hnone⟩
    · exact h.published c eventId (hsame ▸ hc)
    · rw [hnone] at hc
      cases hc
  | @announced d eventId' hchoice hevent hothers hpublished =>
    by_cases hd : c = d
    · subst hd
      rw [hevent, Option.some.injEq] at hc
      exact hc ▸ ⟨hpublished.event, hpublished.outbox⟩
    · obtain ⟨hstored, houtbox⟩ := h.published c eventId (hothers c hd ▸ hc)
      exact ⟨hpublished.grows hstored, fun destination => hpublished.kept _ (houtbox destination)⟩

theorem step_grows (h : Registered db) (hdrawn : Drawn db call)
    (hstored : (db.gateway.events.gatewayEvents.find? stored).isSome = true) :
    ((step rt call db).2.gateway.events.gatewayEvents.find? stored).isSome = true := by
  have hpassage : Passage db (call, (step rt call db).1) (step rt call db).2 :=
    step_passage h.named hdrawn
  cases hpassage with
  | silent hevents hrows => rwa [hevents]
  | announced hchoice hevent hothers hpublished => exact hpublished.grows hstored

/-- A call keeps the episode of a connection, ends it with a committed pairing, or
starts one with one new event. -/
theorem step_episode (h : Registered db) (hdrawn : Drawn db call) (c : String) :
    (eventOf c (step rt call db).2 = eventOf c db ∨
        commits c (call, (step rt call db).1) = true ∧ eventOf c (step rt call db).2 = none) ∧
      announcements c (step rt call db).2 = announcements c db ∨
    ∃ event, eventOf c db = none ∧
      db.gateway.events.gatewayEvents.find? event.eventId = none ∧
      eventOf c (step rt call db).2 = some event.eventId ∧
      announcements c (step rt call db).2 = announcements c db ++ [event] := by
  have hpassage : Passage db (call, (step rt call db).1) (step rt call db).2 :=
    step_passage h.named hdrawn
  unfold announcements
  cases hpassage with
  | silent hevents hrows => exact .inl ⟨hrows c, by rw [hevents]⟩
  | @announced d eventId hchoice hevent hothers hpublished =>
    rcases hchoice with hstored | ⟨hnone, hfresh⟩
    · refine .inl ⟨.inl ?_, by rw [hpublished.stored (h.published d eventId hstored).1]⟩
      by_cases hd : c = d
      · rw [hd, hevent, hstored]
      · exact hothers c hd
    · obtain ⟨event, rfl, hannounces, hinsert⟩ := hpublished.fresh hfresh
      rw [Table.select_insert hinsert]
      by_cases hd : c = d
      · subst hd
        exact .inr ⟨event, hnone, hfresh, hevent, by rw [if_pos hannounces]⟩
      · refine .inl ⟨.inl (hothers c hd), ?_⟩
        have hother : announcement c event = false := by
          simp only [announcement, Bool.and_eq_true, beq_iff_eq] at hannounces
          simp [announcement, hannounces.2, Ne.symm hd]
        rw [hother, if_neg nofun, List.append_nil]

def RequiredAt (db : PhoneDatabase) (c : String) : Prop := ∃ p ∈ db.phone c, Required p

instance (db : PhoneDatabase) (c : String) : Decidable (RequiredAt db c) :=
  decidable_of_iff ((db.phone c).any fun p => decide (Required p)) (by
    rw [Option.any_eq_true]
    simp [RequiredAt])

theorem Registered.requiredAt_iff (h : Registered db) :
    RequiredAt db c ↔ (eventOf c db).isSome = true := by
  unfold RequiredAt
  cases hphone : db.phone c with
  | none => simp [eventOf, hphone]
  | some p =>
    have hnamed : Required p ↔ p.1.reauthorizationEventId.isSome = true := h.named c p hphone
    simpa [eventOf_of_phone hphone] using hnamed

/-- `db'` is in the episode of connection `c` that began after `db` and that `event`
announces. -/
structure Episode (c : String) (db : PhoneDatabase) (event : EventRow) (db' : PhoneDatabase) :
    Prop where
  required : RequiredAt db' c
  named : eventOf c db' = some event.eventId
  once : announcements c db' = announcements c db ++ [event]
  sent : ∀ destination, (db'.gateway.events.eventOutbox.select fun r =>
    r.eventId == event.eventId && r.destination == destination).length = 1

theorem Registered.episode {event : EventRow} (h : Registered db')
    (hevent : eventOf c db' = some event.eventId)
    (honce : announcements c db' = announcements c db ++ [event]) : Episode c db event db' where
  required := h.requiredAt_iff.2 (by rw [hevent]; rfl)
  named := hevent
  once := honce
  sent destination := by
    obtain ⟨-, houtbox⟩ := h.published c event.eventId hevent
    obtain ⟨row, hrow⟩ := Option.isSome_iff_exists.1 (houtbox destination)
    refine Table.length_select_key hrow fun r => ?_
    rw [Bool.and_eq_true, beq_iff_eq, beq_iff_eq, OutboxRow.key, Prod.mk.injEq]

theorem episode_starts (h : Registered db) (hdrawn : Drawn db call) (hbefore : ¬ RequiredAt db c)
    (hafter : RequiredAt (step rt call db).2 c) :
    ∃ event, db.gateway.events.gatewayEvents.find? event.eventId = none ∧
      eventOf c (step rt call db).2 = some event.eventId ∧
      announcements c (step rt call db).2 = announcements c db ++ [event] := by
  rw [(step_registered h hdrawn).requiredAt_iff] at hafter
  rw [h.requiredAt_iff] at hbefore
  rcases @step_episode rt db call h hdrawn c with ⟨hsame | ⟨-, hnone⟩, -⟩ |
    ⟨event, -, hfresh, hevent, honce⟩
  · rw [hsame] at hafter
    exact absurd hafter hbefore
  · rw [hnone] at hafter
    cases hafter
  · exact ⟨event, hfresh, hevent, honce⟩

theorem run_registered {tenantId : String}
    (hrun : Run (step rt) Drawn (newTenant tenantId) trace db) : Registered db :=
  hrun.invariant (P := Registered) (fun _ _ hdrawn h => step_registered h hdrawn)
    (newTenant_registered tenantId)

theorem run_episode {event : EventRow} {db₁ db₂ : PhoneDatabase}
    (hrun : Run (step rt) Drawn db₁ trace db₂) (h : Registered db₁)
    (hevent : eventOf c db₁ = some event.eventId)
    (honce : announcements c db₁ = announcements c db ++ [event])
    (hopen : ∀ entry ∈ trace, commits c entry = false) :
    Registered db₂ ∧ eventOf c db₂ = some event.eventId ∧
      announcements c db₂ = announcements c db ++ [event] := by
  induction hrun with
  | nil => exact ⟨h, hevent, honce⟩
  | @snoc trace db₂ call hrun hdrawn ih =>
    obtain ⟨hregistered, hnow, hannounced⟩ :=
      ih fun entry hentry => hopen entry (List.mem_append_left _ hentry)
    refine ⟨step_registered hregistered hdrawn, ?_⟩
    have hlast := hopen _ (List.mem_append_right _ (List.mem_singleton_self _))
    rcases @step_episode rt db₂ call hregistered hdrawn c with
      ⟨hsame | ⟨hcommits, -⟩, hkept⟩ | ⟨_, hnone, -⟩
    · exact ⟨hsame.trans hnow, hkept.trans hannounced⟩
    · rw [hlast] at hcommits
      cases hcommits
    · rw [hnow] at hnone
      cases hnone

theorem run_grows {db₁ db₂ : PhoneDatabase}
    (hrun : Run (step rt) Drawn db₁ trace db₂) (h : Registered db₁)
    (hstored : (db₁.gateway.events.gatewayEvents.find? stored).isSome = true) :
    Registered db₂ ∧ (db₂.gateway.events.gatewayEvents.find? stored).isSome = true := by
  induction hrun with
  | nil => exact ⟨h, hstored⟩
  | snoc hrun hdrawn ih => exact ⟨step_registered ih.1 hdrawn, step_grows ih.1 hdrawn ih.2⟩

/-- From the call with which a connection comes to require reauthorization to the
next committed pairing there is one event that announces it, with one outbox row
for each destination, and no later episode has its identifier. -/
theorem reauthorization_announced_once (rt : Runtime) {tenantId : String}
    {trace : List (Call × Reply)} {db : PhoneDatabase}
    (hrun : Run (step rt) Drawn (newTenant tenantId) trace db) {c : String} {call : Call}
    (hdrawn : Drawn db call) (hbefore : ¬ RequiredAt db c)
    (hafter : RequiredAt (step rt call db).2 c) :
    ∃ event,
      (∀ trace' db', Run (step rt) Drawn (step rt call db).2 trace' db' →
        (∀ entry ∈ trace', commits c entry = false) → Episode c db event db') ∧
      ∀ trace' db' call', Run (step rt) Drawn (step rt call db).2 trace' db' → Drawn db' call' →
        ¬ RequiredAt db' c → RequiredAt (step rt call' db').2 c →
        eventOf c (step rt call' db').2 ≠ some event.eventId := by
  have hregistered := run_registered hrun
  obtain ⟨event, -, hevent, honce⟩ := episode_starts hregistered hdrawn hbefore hafter
  have hstart : Registered (step rt call db).2 := step_registered hregistered hdrawn
  refine ⟨event, fun trace' db' hrun' hopen => ?_,
    fun trace' db' call' hrun' hdrawn' hbefore' hafter' hsame => ?_⟩
  · obtain ⟨hlater, hnow, hannounced⟩ := run_episode hrun' hstart hevent honce hopen
    exact hlater.episode hnow hannounced
  · -- the event of the first episode is still stored when the next one draws its own
    obtain ⟨hlater, hstored⟩ :=
      run_grows hrun' hstart (hstart.published c event.eventId hevent).1
    obtain ⟨event', hfresh, hevent', -⟩ := episode_starts hlater hdrawn' hbefore' hafter'
    rw [hevent', Option.some.injEq] at hsame
    rw [hsame] at hfresh
    rw [hfresh] at hstored
    cases hstored

end

/-- Marks, an attempt that is given up and a suspension within one episode. -/
def phoneMarked : List Call :=
  [(6, .markReauthorizationRequired 6 "phone" "event-2"), (7, .beginPairing "phone" "attempt-2" 10),
    (8, .restorePairing "phone" "attempt-2"), (9, .changeSuspension true),
    (10, .changeSuspension false),
    (11, .markReauthorizationRequired 11 "phone" "event-3")]

def phonePairedAgain : List Call :=
  [(12, .beginPairing "phone" "attempt-3" 10),
    (13, .commitPairedSession "phone" "attempt-3" phoneSecret (List.replicate 32 1))]

theorem phoneMarked_announced_once :
    ∃ event db db₁ db₂ db₃,
      (execute (step phoneRuntime) phonePaired (newTenant "tenant")).2 = db ∧
      (step phoneRuntime (5, .markReauthorizationRequiredFenced 5 "phone" "replica" 1 "event-1")
        db).2 = db₁ ∧
      (execute (step phoneRuntime) phoneMarked db₁).2 = db₂ ∧
      (execute (step phoneRuntime) phonePairedAgain db₂).2 = db₃ ∧
      Episode "phone" db event db₂ ∧
      eventOf "phone" (step phoneRuntime (14, .markReauthorizationRequired 14 "phone" "event-4")
        db₃).2 ≠ some event.eventId := by
  have hrun : Run (step phoneRuntime) Drawn (newTenant "tenant") _ _ :=
    .of_inputs phonePaired (by decide +kernel)
  obtain ⟨event, hepisode, hnext⟩ := @reauthorization_announced_once phoneRuntime _ _ _ hrun
    "phone" (5, .markReauthorizationRequiredFenced 5 "phone" "replica" 1 "event-1")
    (by decide +kernel) (by decide +kernel) (by decide +kernel)
  refine ⟨event, _, _, _, _, rfl, rfl, rfl, rfl, ?_, ?_⟩
  · exact hepisode _ _ (.of_inputs phoneMarked (by decide +kernel)) (by decide +kernel)
  · exact hnext _ _ _ (.trans (.of_inputs phoneMarked (by decide +kernel))
      (.of_inputs phonePairedAgain (by decide +kernel))) (by decide +kernel) (by decide +kernel)
      (by decide +kernel)

end MessagingGateway.Pairing
