import MessagingGateway.Actor.Joins
import MessagingGateway.Ownership.Leases
import MessagingGateway.Pairing.Store

/-!
# An actor and its store

A run of an actor beside the database of its tenant. Each store call of the run
is a transaction on the database; it can also fail before it does anything, or
fail after it has committed. Between two steps of the run anyone else may call
the repository, other writers of the session row included.

The context of the run is handed to most calls, and a call under a cancelled
context fails. The session writes of a run have a context of their own.
-/

namespace MessagingGateway.Actor

open Relational Store

structure Vault where
  sealSession : Nat → Bytes → Option SessionEnvelope
  openSession : SessionEnvelope → Option Bytes
  opens : ∀ {nonce plaintext envelope}, sealSession nonce plaintext = some envelope →
    openSession envelope = some plaintext

structure Setting where
  rt : Runtime
  vault : Vault
  ownerId : String
  leaseTTL : Nat

inductive Fault
  | none
  /-- the call fails and has no effect -/
  | failed (causes : List Cause)
  /-- the transaction commits but its reply is lost -/
  | lost (causes : List Cause)
  deriving DecidableEq

structure Moment where
  now : Time
  occurredAt : Time := 0
  nonce : Nat := 0
  eventId : String := ""
  fault : Fault := .none
  deriving DecidableEq

/-! ### The store calls of a run -/

inductive StoreCall
  | acquire
  | check
  | load
  | renew
  | writeHealth (health : ConnectionActorHealth)
  | writeSession (plaintext : Bytes)
  | mark
  deriving DecidableEq

def Control.calls (c : Control) (input : Input) : Option StoreCall :=
  match input, c.phase with
  | .acquire _, .acquiring => some .acquire
  | .check _, .checking => some .check
  | .load _, .loading => some .load
  | .announce _, .announcing | .announce _, .resuming => some (.writeHealth c.health)
  | .renew _, .looping | .renew _, .waiting => some .renew
  | .event kind now _, .looping => some (.writeHealth (c.observed kind now).health)
  | .report delay _, .reporting => some (.writeHealth (c.backedOff delay).health)
  | .debounce _, .looping =>
    if c.debouncing && !c.cancelled && c.collect.pending != [] then
      some (.writeSession c.collect.pending)
    else none
  | .flush _, .flushing => if c.pending = [] then none else some (.writeSession c.pending)
  | .settle _, .settling swap =>
    if c.exit.marks c.disconnectJoined c.connectJoined swap then some .mark else none
  | _, _ => none

inductive Answer
  | granted (reply : Except (List Cause) (Option Nat))
  | state (reply : Except (List Cause) ConnectionState)
  | snapshot (reply : Except (List Cause) SessionSnapshot)
  | done (reply : StoreReply)

def Input.answered : Input → Answer → Input
  | .acquire _, .granted reply => .acquire reply
  | .check _, .state reply => .check reply
  | .load _, .snapshot reply => .load reply
  | .announce _, .done reply => .announce reply
  | .renew _, .done reply => .renew reply
  | .event kind now _, .done reply => .event kind now reply
  | .report delay _, .done reply => .report delay reply
  | .debounce _, .done reply => .debounce reply
  | .flush _, .done reply => .flush reply
  | .settle _, .done reply => .settle reply
  | input, _ => input

/-- A transaction under a fault. The errors of the repository carry no cause of
the actor. -/
def Fault.call {α : Type} (fault : Fault) (tx : Tx (α × Database)) (db : Database) :
    Except (List Cause) α × Database :=
  match fault, tx with
  | .none, .ok (a, db') => (.ok a, db')
  | .none, .error _ => (.error [], db)
  | .failed causes, _ => (.error causes, db)
  | .lost causes, .ok (_, db') => (.error causes, db')
  | .lost causes, .error _ => (.error causes, db)

def getConnectionState (connectionId : String) (db : Database) :
    Tx (ConnectionState × Database) := do
  let connection ← orFail (db.fleet.connections.find? connectionId) Sentinel.connectionNotFound.err
  pure (connection.state, db)

def loadVersioned (vault : Vault) (connectionId : String) (db : Database) :
    Tx (SessionSnapshot × Database) := do
  let row ← orFail (db.fleet.sessions.find? connectionId)
    ⟨"encrypted session store operation failed", []⟩
  require (row.revision != 0) ⟨"encrypted session store operation failed", []⟩
  let plaintext ← orFail (vault.openSession row.envelope) ⟨"open session envelope", []⟩
  pure (⟨plaintext, row.revision⟩, db)

def compareAndSwapFenced (s : Setting) (m : Moment) (c : Control) (plaintext : Bytes)
    (db : Database) : Tx (Bool × Database) := do
  let envelope ← orFail (s.vault.sealSession m.nonce plaintext) ⟨"seal session", []⟩
  compareAndSwapEncryptedSessionFenced m.now c.key.connectionId s.ownerId c.token
    c.snapshot.revision
    envelope db

def Control.underContext {α : Type} (c : Control) (fault : Fault) (tx : Tx (α × Database))
    (db : Database) : Except (List Cause) α × Database :=
  if c.cancelled then (.error [.canceled], db) else fault.call tx db

def StoreCall.perform (s : Setting) (m : Moment) (c : Control) (db : Database) :
    StoreCall → Answer × Database
  | .acquire =>
    let result := c.underContext m.fault
      (acquireConnectionLease m.now c.key.connectionId s.ownerId s.leaseTTL db) db
    (.granted (result.1.map fun lease => lease.map (·.fencingToken)), result.2)
  | .check =>
    let result := c.underContext m.fault (getConnectionState c.key.connectionId db) db
    (.state result.1, result.2)
  | .load =>
    let result := c.underContext m.fault (loadVersioned s.vault c.key.connectionId db) db
    (.snapshot result.1, result.2)
  | .renew =>
    let result := c.underContext m.fault
      (renewConnectionLease m.now c.key.connectionId s.ownerId c.token s.leaseTTL db) db
    (.done result.1, result.2)
  | .writeHealth health =>
    let result := c.underContext m.fault
      (writeConnectionHealthFenced m.now c.key.connectionId s.ownerId c.token health db) db
    (.done result.1, result.2)
  | .writeSession plaintext =>
    let result := m.fault.call (compareAndSwapFenced s m c plaintext db) db
    (.done result.1, result.2)
  | .mark =>
    let result := c.underContext m.fault
      (markReauthorizationRequiredFenced s.rt m.now m.occurredAt c.key.connectionId s.ownerId
        c.token m.eventId db) db
    (.done result.1, result.2)

/-! ### The system -/

structure World where
  control : Control
  db : Database
  /-- what `Connect` of the current generation has returned -/
  reported : Option Failure := none

inductive WorldInput
  | run (moment : Moment) (input : Input)
  | gateway (call : Gateway.Call)
  /-- `SaveEncryptedSession`, and the session write of a pairing -/
  | saveSession (connectionId : String) (envelope : SessionEnvelope)
  /-- `CompareAndSwapEncryptedSession`, of the key rotation -/
  | swapSession (connectionId : String) (expectedRevision : Nat) (envelope : SessionEnvelope)

def compareAndSwapEncryptedSession (connectionId : String) (expectedRevision : Nat)
    (envelope : SessionEnvelope) (db : Database) : Tx (Bool × Database) := do
  require (db.tenantId != "" && connectionId != "" && expectedRevision != 0 && envelope.valid)
    Sentinel.invalidEncryptedSession.err
  if (db.fleet.sessions.find? connectionId).any fun r => r.revision == expectedRevision then
    pure (true, db.setSessions (db.fleet.sessions.update (fun r => r.connectionId == connectionId)
      (fun r => { r with envelope := envelope, revision := r.revision + 1 })
      (SessionRow.rewrite_key envelope)))
  else pure (false, db)

def settled {α : Type} (db : Database) (tx : Tx α) (database : α → Database) : Database :=
  match tx with
  | .ok result => database result
  | .error _ => db

/-- The health that a run writes on its way out, without a look at the reply; only
`finalizeGeneration` writes it under a context of its own. -/
def Control.parting (c : Control) (input : Input) : Option ConnectionActorHealth :=
  match input, c.phase with
  | .restore false, .restoring =>
    if c.cancelled then none else some (ended c.health .stopped .degraded .providerConfig)
  | .renew reply, .waiting =>
    if c.cancelled || reply == .ok true then none
    else some { c.health with actorState := .leaseLost, lastSafeReason := .leaseLost }
  | .settle mark, .settling swap =>
    (finalizeGeneration c.health c.exit c.disconnectJoined c.connectJoined swap mark).2
  | _, _ => none

/-- What a step leaves in the store besides its call: the last health, and the
lease released when the run returns. -/
def Control.partWith (s : Setting) (m : Moment) (c c' : Control) (input : Input) (db : Database) :
    Database :=
  let db := match c.parting input with
    | some health =>
      settled db (writeConnectionHealthFenced m.now c.key.connectionId s.ownerId c.token health db)
        Prod.snd
    | none => db
  if c'.phase.isReturned && !c.phase.isReturned && c.phase != .acquiring then
    settled db (releaseConnectionLease m.now c.key.connectionId s.ownerId c.token db) Prod.snd
  else db

def Control.lateResult (c : Control) : Input → Option Failure
  | .looseReturns goroutine result =>
    if goroutine = (.connect, c.generation) ∧ goroutine ∈ c.loose then some result else none
  | _ => none

def reportedAfter (c c' : Control) (input : Input) (reported : Option Failure) : Option Failure :=
  match c'.connect with
  | some (.ended result) => some result
  | _ => if c'.generation = c.generation then reported.or (c.lateResult input) else none

namespace World

def resolve (s : Setting) (m : Moment) (input : Input) (w : World) : Input × Database :=
  match w.control.calls input with
  | none => (input, w.db)
  | some call =>
    let result := call.perform s m w.control w.db
    (input.answered result.1, result.2)

def step (s : Setting) : WorldInput → World → Output × World
  | .run m input, w =>
    let called := w.resolve s m input
    let result := Control.step called.1 w.control
    (result.1,
      { control := result.2
        db := w.control.partWith s m result.2 called.1 called.2
        reported := reportedAfter w.control result.2 called.1 w.reported })
  | .gateway call, w => (.quiet, { w with db := (Gateway.step s.rt call w.db).2 })
  | .saveSession connectionId envelope, w =>
    let tx := Pairing.commitEncryptedSession connectionId envelope w.db
    (.quiet, { w with db := settled w.db tx id })
  | .swapSession connectionId expectedRevision envelope, w =>
    let tx := compareAndSwapEncryptedSession connectionId expectedRevision envelope w.db
    (.quiet, { w with db := settled w.db tx Prod.snd })

end World

abbrev Worlds (s : Setting) : World → List (WorldInput × Output) → World → Prop :=
  Run (World.step s) fun _ _ => True

/-! ### Frames -/

def SameRows (db db' : Database) : Prop :=
  db'.fleet.connections = db.fleet.connections ∧ db'.fleet.sessions = db.fleet.sessions

theorem SameRows.trans {db db' db'' : Database} (h : SameRows db db') (h' : SameRows db' db'') :
    SameRows db db'' :=
  ⟨h'.1.trans h.1, h'.2.trans h.2⟩

theorem settled_sameRows {α : Type} {db : Database} {tx : Tx (α × Database)}
    (h : ∀ result, tx = .ok result → SameRows db result.2) :
    SameRows db (settled db tx Prod.snd) := by
  cases tx with
  | error e => exact ⟨rfl, rfl⟩
  | ok result => exact h result rfl

theorem writeConnectionHealthFenced_sameRows {now : Time} {connectionId ownerId : String}
    {fencingToken : Nat} {health : ConnectionActorHealth} {db : Database} {result : Bool × Database}
    (h : writeConnectionHealthFenced now connectionId ownerId fencingToken health db = .ok result) :
    SameRows db result.2 := by
  obtain ⟨_, hwritten⟩ := writeConnectionHealthFenced_ok h
  exact hwritten ▸ ⟨rfl, rfl⟩

theorem releaseConnectionLease_sameRows {now : Time} {connectionId ownerId : String}
    {fencingToken : Nat} {db : Database} {result : Bool × Database}
    (h : releaseConnectionLease now connectionId ownerId fencingToken db = .ok result) :
    SameRows db result.2 := by
  obtain ⟨_, hreleased⟩ := releaseConnectionLease_ok h
  exact hreleased ▸ ⟨rfl, rfl⟩

theorem partWith_sameRows (s : Setting) (m : Moment) (c c' : Control) (input : Input)
    (db : Database) : SameRows db (c.partWith s m c' input db) := by
  have hhealth : SameRows db (match c.parting input with
      | some health => settled db
          (writeConnectionHealthFenced m.now c.key.connectionId s.ownerId c.token health db)
            Prod.snd
      | none => db) := by
    split
    · exact settled_sameRows fun _ h => writeConnectionHealthFenced_sameRows h
    · exact ⟨rfl, rfl⟩
  unfold Control.partWith
  dsimp only
  split
  · exact hhealth.trans (settled_sameRows fun _ h => releaseConnectionLease_sameRows h)
  · exact hhealth

/-! ### An actor of one phone -/

def phoneVault : Vault where
  sealSession _ plaintext := some
    { version := 1
      provider := "google-messages"
      ciphertext := List.replicate 16 0 ++ plaintext
      wrappedDEK := [0]
      nonce := List.replicate 12 0
      keyId := "kek"
      keyVersion := 1 }
  openSession envelope := some (envelope.ciphertext.drop 16)
  opens h := by
    cases h
    rfl

def phoneSetting : Setting where
  rt := Dispatch.phoneRuntime
  vault := phoneVault
  ownerId := "worker"
  leaseTTL := 600000000

def phoneSession : SessionRow where
  connectionId := "phone"
  envelope := { ciphertext := List.replicate 16 0 ++ [1] }
  revision := 1

def phoneWorld : World where
  control := { key := { tenantId := "tenant", connectionId := "phone" } }
  db :=
    { tenantId := "tenant"
      fleet :=
        { connections := .single (.connected "phone")
          sessions := ⟨[phoneSession], by decide⟩ } }

def phoneMoment (now : Time) : Moment :=
  { now := now, occurredAt := now, eventId := "reauthorization" }

def atTime (now : Time) (input : Input) : WorldInput := .run (phoneMoment now) input

def phoneConnecting : List WorldInput :=
  [atTime 1 (.acquire (.ok none)), atTime 2 (.begin (some 1)), atTime 3 (.check (.ok .connected)),
    atTime 4 (.load (.ok ⟨[], 0⟩)), atTime 5 (.announce (.ok true)), atTime 6 (.restore true)]

end MessagingGateway.Actor
