import MessagingGateway.Store.Leases

/-!
# The tables of webhook delivery

An endpoint receives every event of its tenant through one delivery for each
event. A delivery is claimed by a worker under a token, one attempt at a time,
and ends as succeeded or dead; a dead one leaves a dead letter, from which it
can be replayed. The foreign keys between the four tables are fields of
`DeliveryTables`, so every statement below proves that it keeps them.
-/

namespace MessagingGateway.Webhook

open Relational Domain Store

inductive DeliveryState
  | pending
  | delivering
  | succeeded
  | dead
  deriving DecidableEq

def DeliveryState.isOpen : DeliveryState → Bool
  | .pending | .delivering => true
  | .succeeded | .dead => false

structure EndpointRow where
  endpointId : String
  destination : String
  keyId : String
  secret : SessionEnvelope
  previousKeyId : Option String := none
  previousSecret : Option SessionEnvelope := none
  previousValidUntil : Option Time := none
  active : Bool := true
  generation : Nat := 1
  createdAt : Time
  deriving DecidableEq

structure DeliveryRow where
  deliveryId : String
  endpointId : String
  eventId : String
  canonicalBody : EventContract.Envelope
  state : DeliveryState := .pending
  attemptCount : Nat := 0
  cycleAttemptCount : Nat := 0
  availableAt : Time
  claimedBy : Option String := none
  claimExpiresAt : Option Time := none
  claimToken : Nat := 0
  endpointGeneration : Nat := 1
  httpStartedAt : Option Time := none
  completedAt : Option Time := none
  deriving DecidableEq

/-- The table is keyed by `UNIQUE (tenant_id, delivery_id, attempt_number)`; the
primary key `attempt_id` is checked on insertion. -/
structure HttpAttemptRow where
  attemptId : String
  deliveryId : String
  attemptNumber : Nat
  startedAt : Time
  finishedAt : Option Time := none
  statusCode : Option Int := none
  safeError : String := ""
  deriving DecidableEq

def HttpAttemptRow.key (r : HttpAttemptRow) : String × Nat := (r.deliveryId, r.attemptNumber)

/-- The table is keyed by `UNIQUE (tenant_id, delivery_id)`; the primary key
`dlq_id` is checked on insertion. -/
structure DeadLetterRow where
  dlqId : String
  deliveryId : String
  eventId : String
  canonicalBody : EventContract.Envelope
  safeError : String
  deadAt : Time
  replayedAt : Option Time := none
  deriving DecidableEq

def DeadLetterRow.replayed (r : DeadLetterRow) (now : Time) : DeadLetterRow :=
  { r with replayedAt := some now }

@[simp] theorem DeadLetterRow.deliveryId_replayed (r : DeadLetterRow) (now : Time) :
    (r.replayed now).deliveryId = r.deliveryId := rfl

@[simp] theorem DeadLetterRow.dlqId_replayed (r : DeadLetterRow) (now : Time) :
    (r.replayed now).dlqId = r.dlqId := rfl

structure OutboxProgress where
  outboxId : String
  availableAt : Time
  claimedBy : Option String := none
  claimExpiresAt : Option Time := none
  publishedAt : Option Time := none
  deriving DecidableEq

structure DeliveryTables where
  endpoints : Table EndpointRow.endpointId := ∅
  deliveries : Table DeliveryRow.deliveryId := ∅
  attempts : Table HttpAttemptRow.key := ∅
  dlq : Table DeadLetterRow.deliveryId := ∅
  /-- the foreign key from a delivery to its endpoint -/
  deliveryLinked : ∀ r ∈ deliveries, (endpoints.find? r.endpointId).isSome := by simp
  /-- the foreign key from a dead letter to its delivery -/
  letterLinked : ∀ r ∈ dlq, (deliveries.find? r.deliveryId).isSome := by simp
  /-- the primary key of the dead letters -/
  letterIdUnique : ∀ r ∈ dlq, ∀ s ∈ dlq, r.dlqId = s.dlqId → r.deliveryId = s.deliveryId := by simp
  deriving DecidableEq

namespace DeliveryTables

def insertEndpoint (tables : DeliveryTables) (row : EndpointRow) : Option DeliveryTables :=
  match h : tables.endpoints.insert row with
  | none => none
  | some endpoints => some
      { tables with
        endpoints := endpoints
        deliveryLinked := fun r hr => by
          rw [Table.find?_insert h]
          split
          · rfl
          · exact tables.deliveryLinked r hr }

def updateEndpoints (tables : DeliveryTables) (p : EndpointRow → Bool)
    (f : EndpointRow → EndpointRow)
    (hf : ∀ r, (f r).endpointId = r.endpointId := by exact fun _ => id rfl) : DeliveryTables :=
  { tables with
    endpoints := tables.endpoints.update p f hf
    deliveryLinked := fun r hr => by
      rw [Table.find?_update, Option.isSome_map]
      exact tables.deliveryLinked r hr }

/-- `INSERT INTO webhook_deliveries`, rejected for an endpoint that is not stored. -/
def insertDelivery (tables : DeliveryTables) (row : DeliveryRow) : Option DeliveryTables :=
  if hlinked : (tables.endpoints.find? row.endpointId).isSome then
    match h : tables.deliveries.insert row with
    | none => none
    | some deliveries => some
        { tables with
          deliveries := deliveries
          deliveryLinked := fun r hr => by
            rcases (Table.mem_insert h).1 hr with hr | rfl
            · exact tables.deliveryLinked r hr
            · exact hlinked
          letterLinked := fun r hr => by
            rw [Table.find?_insert h]
            split
            · rfl
            · exact tables.letterLinked r hr }
  else none

def updateDeliveries (tables : DeliveryTables) (p : DeliveryRow → Bool)
    (f : DeliveryRow → DeliveryRow)
    (hf : ∀ r, (f r).deliveryId = r.deliveryId := by exact fun _ => id rfl)
    (hendpoint : ∀ r, (f r).endpointId = r.endpointId := by exact fun _ => id rfl) :
    DeliveryTables :=
  { tables with
    deliveries := tables.deliveries.update p f hf
    deliveryLinked := fun r hr => by
      obtain ⟨s, hs, rfl⟩ := Table.mem_update.1 hr
      split
      · rw [hendpoint]
        exact tables.deliveryLinked s hs
      · exact tables.deliveryLinked s hs
    letterLinked := fun r hr => by
      rw [Table.find?_update, Option.isSome_map]
      exact tables.letterLinked r hr }

def setAttempts (tables : DeliveryTables) (attempts : Table HttpAttemptRow.key) : DeliveryTables :=
  { tables with attempts := attempts }

def updateAttempts (tables : DeliveryTables) (p : HttpAttemptRow → Bool)
    (f : HttpAttemptRow → HttpAttemptRow)
    (hf : ∀ a, (f a).key = a.key := by exact fun _ => id rfl) : DeliveryTables :=
  tables.setAttempts (tables.attempts.update p f hf)

/-- `INSERT INTO webhook_dlq`, rejected for a delivery that is not stored and for
a primary key in use. -/
def insertLetter (tables : DeliveryTables) (row : DeadLetterRow) : Option DeliveryTables :=
  if hrow : (tables.deliveries.find? row.deliveryId).isSome ∧
      ∀ r ∈ tables.dlq.rows, r.dlqId ≠ row.dlqId then
    match h : tables.dlq.insert row with
    | none => none
    | some dlq => some
        { tables with
          dlq := dlq
          letterLinked := fun r hr => by
            rcases (Table.mem_insert h).1 hr with hr | rfl
            · exact tables.letterLinked r hr
            · exact hrow.1
          letterIdUnique := fun r hr s hs hid => by
            rcases (Table.mem_insert h).1 hr with hr | rfl <;>
              rcases (Table.mem_insert h).1 hs with hs | rfl
            · exact tables.letterIdUnique r hr s hs hid
            · exact absurd hid (hrow.2 r hr)
            · exact absurd hid.symm (hrow.2 s hs)
            · rfl }
  else none

def markReplayed (tables : DeliveryTables) (now : Time) (p : DeadLetterRow → Bool) :
    DeliveryTables :=
  { tables with
    dlq := tables.dlq.update p (fun r => r.replayed now)
    letterLinked := fun r hr => by
      obtain ⟨s, hs, rfl⟩ := Table.mem_update.1 hr
      rw [apply_ite DeadLetterRow.deliveryId, DeadLetterRow.deliveryId_replayed, ite_self]
      exact tables.letterLinked s hs
    letterIdUnique := fun r hr s hs hid => by
      obtain ⟨r₀, hr₀, rfl⟩ := Table.mem_update.1 hr
      obtain ⟨s₀, hs₀, rfl⟩ := Table.mem_update.1 hs
      simp only [apply_ite DeadLetterRow.dlqId, apply_ite DeadLetterRow.deliveryId,
        DeadLetterRow.dlqId_replayed, DeadLetterRow.deliveryId_replayed, ite_self] at hid ⊢
      exact tables.letterIdUnique r₀ hr₀ s₀ hs₀ hid }

end DeliveryTables

structure WebhookDatabase extends DeliveryTables where
  tenantId : String
  events : EventTables := .empty
  progress : Table OutboxProgress.outboxId := ∅
  deriving DecidableEq

def WebhookDatabase.setTables (db : WebhookDatabase) (tables : DeliveryTables) : WebhookDatabase :=
  { db with toDeliveryTables := tables }

end MessagingGateway.Webhook
