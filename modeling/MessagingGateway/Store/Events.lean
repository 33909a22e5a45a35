import MessagingGateway.Store.Transaction

/-!
# Immutable events and the outbox

Every domain change that consumers learn of is one row of `gateway_events` and
one outbox row for each destination, written in the transaction of the change.
-/

namespace MessagingGateway.Store

open Relational

structure ProviderCursor where
  lastItemId : String
  lastItemTimestamp : Int
  deriving DecidableEq

/-- What the gateway takes from its runtime: the hash that names responses and
events, the length of the JSON text of an event body, and the wire format of a
provider cursor. -/
structure Runtime where
  sha256 : Bytes → Bytes
  sha256_length : ∀ bytes, (sha256 bytes).length = 32
  jsonSize : EventContract.Envelope → Nat
  cursorUnmarshal : Bytes → Option ProviderCursor
  cursorMarshal : ProviderCursor → Bytes

theorem zeros_length (_ : Bytes) : (List.replicate 32 (0 : UInt8)).length = 32 :=
  List.length_replicate

/-- The bound on an event body, in the code and in the schema. -/
def maxEventBodyBytes : Nat := 1048576

def nullIf (value : String) : Option String := if value = "" then none else some value

namespace EventTables

def insertEvent (events : EventTables) (event : EventRow) : Option EventTables :=
  match h : events.gatewayEvents.insert event with
  | none => none
  | some gatewayEvents => some
      { gatewayEvents := gatewayEvents
        eventOutbox := events.eventOutbox
        outboxLinked := fun r hr => by
          rw [Table.find?_insert h]
          split
          · rfl
          · exact events.outboxLinked r hr }

/-- `INSERT INTO gateway_events ... ON CONFLICT DO NOTHING`. -/
def ensureEvent (events : EventTables) (event : EventRow) : EventTables :=
  (events.insertEvent event).getD events

/-- `INSERT INTO event_outbox`, rejected for an event that is not stored. -/
def insertOutbox (events : EventTables) (row : OutboxRow) : Option EventTables :=
  if hlinked : (events.gatewayEvents.find? row.eventId).isSome then
    match h : events.eventOutbox.insert row with
    | none => none
    | some eventOutbox => some
        { gatewayEvents := events.gatewayEvents
          eventOutbox := eventOutbox
          outboxLinked := fun r hr => by
            rcases (Table.mem_insert h).1 hr with hr | rfl
            · exact events.outboxLinked r hr
            · exact hlinked }
  else none

end EventTables

namespace Database

def insertGatewayEvent (db : Database) (rt : Runtime) (operation : String) (event : EventRow) :
    Tx Database := do
  require (rt.jsonSize event.canonicalBody ≤ maxEventBodyBytes) (checkViolation operation)
  let events ← orFail (db.events.insertEvent event) (uniqueViolation operation)
  pure { db with events := events }

/-- One outbox row; both unique keys of the table are checked. -/
def insertOutboxRow (db : Database) (operation : String) (row : OutboxRow) : Tx Database := do
  require (db.events.eventOutbox.rows.all fun r => r.outboxId != row.outboxId)
    (uniqueViolation operation)
  let events ← orFail (db.events.insertOutbox row) (uniqueViolation operation)
  pure { db with events := events }

/-- `INSERT ... ON CONFLICT (tenant_id, event_id, destination) DO NOTHING`. -/
def ensureOutboxRow (db : Database) (operation : String) (row : OutboxRow) : Tx Database :=
  if (db.events.eventOutbox.find? row.key).isSome then pure db
  else db.insertOutboxRow operation row

def insertEventOutbox (db : Database) (operation outboxId eventId : String) : Tx Database := do
  let db ← db.insertOutboxRow operation
    ⟨outboxId ++ ":" ++ Destination.webhook.text, eventId, .webhook⟩
  db.insertOutboxRow operation ⟨outboxId ++ ":" ++ Destination.kafka.text, eventId, .kafka⟩

end Database

/-! ### Frames -/

def EventsOnly (db db' : Database) : Prop := ∃ events, db' = { db with events := events }

theorem EventsOnly.refl (db : Database) : EventsOnly db db := ⟨db.events, rfl⟩

variable {db db' : Database} {operation outboxId : String} {row : OutboxRow} {event : EventRow}

theorem EventsOnly.trans {db'' : Database} (h : EventsOnly db db')
    (h' : EventsOnly db' db'') : EventsOnly db db'' := by
  obtain ⟨events, rfl⟩ := h
  obtain ⟨events', rfl⟩ := h'
  exact ⟨events', rfl⟩

theorem insertGatewayEvent_ok {rt : Runtime}
    (h : db.insertGatewayEvent rt operation event = .ok db') : EventsOnly db db' := by
  simp only [Database.insertGatewayEvent, bind_ok, pure_ok] at h
  obtain ⟨-, -, events, -, rfl⟩ := h
  exact ⟨_, rfl⟩

theorem insertOutboxRow_ok (h : db.insertOutboxRow operation row = .ok db') :
    EventsOnly db db' := by
  simp only [Database.insertOutboxRow, bind_ok, pure_ok] at h
  obtain ⟨-, -, events, -, rfl⟩ := h
  exact ⟨_, rfl⟩

theorem ensureOutboxRow_ok (h : db.ensureOutboxRow operation row = .ok db') :
    EventsOnly db db' := by
  unfold Database.ensureOutboxRow at h
  split at h
  · cases h
    exact .refl db
  · exact insertOutboxRow_ok h

theorem insertEventOutbox_ok {eventId : String}
    (h : db.insertEventOutbox operation outboxId eventId = .ok db') : EventsOnly db db' := by
  simp only [Database.insertEventOutbox, bind_ok] at h
  obtain ⟨db₁, h₁, h₂⟩ := h
  exact (insertOutboxRow_ok h₁).trans (insertOutboxRow_ok h₂)

/-! ### Publishing -/

section

variable {events events' : EventTables}

theorem insertEvent_eq_some (h : events.insertEvent event = some events') :
    events.gatewayEvents.insert event = some events'.gatewayEvents ∧
      events'.eventOutbox = events.eventOutbox := by
  unfold EventTables.insertEvent at h
  split at h
  · cases h
  · cases h
    exact ⟨‹_›, rfl⟩

theorem exists_insertEvent (h : events.gatewayEvents.find? event.eventId = none) :
    ∃ events', events.insertEvent event = some events' := by
  obtain ⟨table, htable⟩ := Table.exists_insert h
  unfold EventTables.insertEvent
  split
  · simp_all
  · exact ⟨_, rfl⟩

theorem insertOutbox_eq_some (h : events.insertOutbox row = some events') :
    events'.gatewayEvents = events.gatewayEvents ∧
      events.eventOutbox.insert row = some events'.eventOutbox := by
  unfold EventTables.insertOutbox at h
  split at h
  · split at h
    · cases h
    · cases h
      exact ⟨rfl, ‹_›⟩
  · cases h

theorem exists_insertOutbox (hlinked : (events.gatewayEvents.find? row.eventId).isSome)
    (h : events.eventOutbox.find? row.key = none) :
    ∃ events', events.insertOutbox row = some events' := by
  obtain ⟨table, htable⟩ := Table.exists_insert h
  unfold EventTables.insertOutbox
  rw [dif_pos hlinked]
  split
  · simp_all
  · exact ⟨_, rfl⟩

def outboxRow (outboxId eventId : String) (destination : Destination) : OutboxRow :=
  ⟨outboxId ++ ":" ++ destination.text, eventId, destination⟩

structure Unused (eventId outboxId : String) (events : EventTables) : Prop where
  event : events.gatewayEvents.find? eventId = none
  outbox : ∀ r ∈ events.eventOutbox, ∀ destination,
    r.outboxId ≠ (outboxRow outboxId eventId destination).outboxId

instance {P : Destination → Prop} [DecidablePred P] : Decidable (∀ destination, P destination) :=
  decidable_of_iff (P .webhook ∧ P .kafka)
    ⟨fun h destination => by cases destination; exacts [h.1, h.2], fun h => ⟨h _, h _⟩⟩

instance (eventId outboxId : String) (events : EventTables) :
    Decidable (Unused eventId outboxId events) :=
  decidable_of_iff (_ ∧ _) ⟨fun h => ⟨h.1, h.2⟩, fun h => ⟨h.event, h.outbox⟩⟩

theorem outboxId_getLast? (outboxId : String) (destination : Destination) :
    (outboxId ++ ":" ++ destination.text).toList.getLast? = destination.text.toList.getLast? := by
  cases destination <;> simp [Destination.text]

theorem outboxId_inj {outboxId' : String} {destination destination' : Destination}
    (h : outboxId ++ ":" ++ destination.text = outboxId' ++ ":" ++ destination'.text) :
    outboxId = outboxId' := by
  have hsame : destination = destination' := by
    have hlast := outboxId_getLast? outboxId destination
    rw [h, outboxId_getLast?] at hlast
    cases destination <;> cases destination' <;> simp_all [Destination.text]
  subst hsame
  rwa [String.append_left_inj, String.append_left_inj] at h

theorem insertOutboxRow_succeeds (db : Database) (operation : String) {r : OutboxRow}
    (hlinked : (db.events.gatewayEvents.find? r.eventId).isSome)
    (hid : ∀ row ∈ db.events.eventOutbox, row.outboxId ≠ r.outboxId)
    (hkey : ∀ row ∈ db.events.eventOutbox, row.key ≠ r.key) :
    ∃ events, db.insertOutboxRow operation r = .ok { db with events := events } ∧
      db.events.insertOutbox r = some events := by
  obtain ⟨events, hevents⟩ := exists_insertOutbox hlinked (Table.find?_eq_none.2 hkey)
  refine ⟨events, ?_, hevents⟩
  simp only [Database.insertOutboxRow, bind_ok, pure_ok, orFail_ok, require_ok, List.all_eq_true,
    bne_iff_ne]
  exact ⟨(), hid, events, hevents, rfl⟩

theorem publish_succeeds (rt : Runtime) (db : Database) {operation' : String}
    (event : EventRow) (hsize : rt.jsonSize event.canonicalBody ≤ maxEventBodyBytes)
    (hunused : Unused event.eventId outboxId db.events) :
    ∃ events, (do
      let db ← db.insertGatewayEvent rt operation event
      db.insertEventOutbox operation' outboxId event.eventId) = .ok { db with events := events } ∧
      ∀ eventId' outboxId', Unused eventId' outboxId' db.events → eventId' ≠ event.eventId →
        outboxId' ≠ outboxId → Unused eventId' outboxId' events := by
  obtain ⟨events₁, h₁⟩ := exists_insertEvent hunused.event
  obtain ⟨hgateway, houtbox⟩ := insertEvent_eq_some h₁
  have hstored : events₁.gatewayEvents.find? event.eventId = some event :=
    Table.find?_insert_self hgateway
  -- an outbox row of the event would be linked to it
  have hnew : ∀ r ∈ events₁.eventOutbox, r.eventId ≠ event.eventId := by
    intro r hr heq
    rw [houtbox] at hr
    have hlinked := db.events.outboxLinked r hr
    rw [heq, hunused.event] at hlinked
    cases hlinked
  obtain ⟨events₂, hok₂, h₂⟩ := insertOutboxRow_succeeds
    { db with events := events₁ } operation' (r := outboxRow outboxId event.eventId .webhook)
    (by simp [outboxRow, hstored]) (fun r hr => hunused.outbox r (houtbox ▸ hr) .webhook)
    fun r hr hkey => hnew r hr (congrArg Prod.fst hkey)
  obtain ⟨hgateway₂, houtbox₂⟩ := insertOutbox_eq_some h₂
  have hwebhook : ∀ r ∈ events₂.eventOutbox,
      r ∈ events₁.eventOutbox ∨ r = outboxRow outboxId event.eventId .webhook :=
    fun r hr => (Table.mem_insert houtbox₂).1 hr
  have hdistinct : outboxId ++ ":" ++ Destination.webhook.text ≠
      outboxId ++ ":" ++ Destination.kafka.text := by
    rw [Ne, String.append_right_inj]
    decide
  obtain ⟨events₃, hok₃, h₃⟩ := insertOutboxRow_succeeds
    { db with events := events₂ } operation' (r := outboxRow outboxId event.eventId .kafka)
    (by simp [outboxRow, hgateway₂, hstored])
    (fun r hr => by
      rcases hwebhook r hr with hr | rfl
      · exact hunused.outbox r (houtbox ▸ hr) .kafka
      · exact hdistinct)
    fun r hr hkey => by
      rcases hwebhook r hr with hr | rfl
      · exact hnew r hr (congrArg Prod.fst hkey)
      · cases hkey
  obtain ⟨hgateway₃, houtbox₃⟩ := insertOutbox_eq_some h₃
  refine ⟨events₃, ?_, fun eventId' outboxId' hother hne hapart => ⟨?_, fun r hr destination => ?_⟩⟩
  · simp only [Database.insertGatewayEvent, Database.insertEventOutbox, bind_ok, pure_ok, orFail_ok,
      require_ok, decide_eq_true_eq]
    exact ⟨_, ⟨(), hsize, events₁, h₁, rfl⟩, _, hok₂, hok₃⟩
  · rw [hgateway₃, hgateway₂, Table.find?_insert_of_ne hgateway (Ne.symm hne)]
    exact hother.event
  · rcases (Table.mem_insert houtbox₃).1 hr with hr | rfl
    · rcases hwebhook r hr with hr | rfl
      · exact hother.outbox r (houtbox ▸ hr) destination
      · exact fun heq => hapart (outboxId_inj heq).symm
    · exact fun heq => hapart (outboxId_inj heq).symm

end

end MessagingGateway.Store
