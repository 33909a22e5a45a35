import MessagingGateway.Actor.Joins

/-!
# The pool of actors

The pool maps a connection to an entry: a running actor, or a tombstone that
keeps another one from being started. `Start`, `Quarantine`, `Resume` and
`Shutdown` change the entries under the lock of the pool; the goroutine that
`Start` spawns runs the actor and settles the entry when the run has returned.

An actor is an object with a desk of its own, at which callers of `Execute` leave
their requests. A run opens the desk at its beginning and closes it when it
returns.
-/

namespace MessagingGateway.Actor

/-- The fields of an actor under `operationMu`, and its queue of requests. -/
structure Desk where
  runId : Nat := 0
  active : Bool := false
  ready : Bool := false
  key : Option Key := none
  queue : List Request := []
  deriving DecidableEq

def Desk.beginOperationRun (desk : Desk) (key : Key) : Option Desk :=
  if desk.active then none
  else some
    { runId := desk.runId + 1, active := true, ready := false, key := some key, queue := [] }

/-- `setOperationReady` as the run sets it, and `endOperationRun` when it returns. -/
def Desk.follow (desk : Desk) (control : Control) : Desk :=
  if desk.active && desk.runId == control.runId then
    if control.phase.isReturned then { desk with active := false, ready := false, queue := [] }
    else { desk with ready := control.admitting }
  else desk

/-- `poolEntry`; a tombstone of `Quarantine` has no run. -/
structure Entry where
  run : Option Nat
  terminalErr : Failure := none
  quarantined : Bool := false
  /-- the channel `done` is closed -/
  done : Bool := false
  deriving DecidableEq

/-- A quarantined entry; it is weaker than a terminal error of the run. -/
def Entry.quarantine (entry : Entry) : Entry :=
  { entry with
    quarantined := true
    terminalErr :=
      if entry.terminalErr = none then some [.providerUnavailable] else entry.terminalErr }

/-- The entry after its run has returned; `none` where it is deleted. -/
def Entry.settle (entry : Entry) (runErr : Failure) : Option Entry :=
  if is runErr .providerJoinTimeout then
    some { entry with terminalErr := some [.providerJoinTimeout], done := true }
  else if is runErr .sharedInfrastructure || is runErr .staleGeneration ||
      is runErr .providerPermanentProtocol then
    some
      { entry with
        terminalErr := runErr
        quarantined := entry.quarantined || is runErr .providerPermanentProtocol
        done := true }
  else if entry.quarantined then some { entry with done := true }
  else none

/-- A run that `Start` has spawned, of the actor with this number. -/
structure ActorRun where
  actor : Nat
  control : Control
  deriving DecidableEq

/-- A caller of `Execute` that holds an actor, or a request it is about to send. -/
inductive Caller
  | holding (actor : Nat) (key : Key)
  | sending (actor : Nat) (request : Request)
  deriving DecidableEq

structure Pool where
  entries : Key → Option Entry := fun _ => none
  closed : Bool := false
  runs : List ActorRun := []
  desks : Nat → Desk := fun _ => {}
  callers : List Caller := []

inductive PoolInput
  /-- `Start`, with the actor that `NewActor` returns -/
  | start (key : Key) (actor : Nat)
  | quarantine (key : Key)
  | resume (key : Key)
  | shutdown
  /-- `Execute` of the pool, then of the actor: the request is made and sent -/
  | execute (key : Key)
  | request (caller : Nat) (live : Bool)
  | send (caller : Nat)
  | withdraw (caller : Nat)
  /-- `beginOperationRun` of a run, and the arm of the loop that reads the queue -/
  | begin (run : Nat)
  | receive (run : Nat)
  /-- any other step of a run -/
  | run (run : Nat) (input : Input)
  /-- the end of the goroutine of `Start` -/
  | finish (run : Nat)

namespace Pool

def setEntry (pool : Pool) (key : Key) (entry : Option Entry) : Pool :=
  { pool with entries := fun k => if k = key then entry else pool.entries k }

def setDesk (pool : Pool) (actor : Nat) (desk : Desk) : Pool :=
  { pool with desks := fun a => if a = actor then desk else pool.desks a }

def advance (pool : Pool) (run : Nat) (input : Input) : Pool :=
  match pool.runs[run]? with
  | none => pool
  | some r =>
    let control := (Control.step input r.control).2
    { pool with runs := pool.runs.set run { r with control := control } }.setDesk r.actor
      ((pool.desks r.actor).follow control)

def start (pool : Pool) (key : Key) (actor : Nat) : Failure × Pool :=
  if pool.closed then (some [.providerUnavailable], pool)
  else
    match pool.entries key with
    | some entry => (entry.terminalErr, pool)
    | none =>
      let run : ActorRun := { actor := actor, control := { key := key } }
      (none,
        { pool with runs := pool.runs ++ [run] }.setEntry key
          (some { run := some pool.runs.length }))

/-- `Quarantine` up to its wait for the end of the run. -/
def quarantine (pool : Pool) (key : Key) : Pool :=
  match pool.entries key with
  | none =>
    pool.setEntry key (some
      { run := none
        terminalErr := some [.providerUnavailable]
        quarantined := true
        done := true })
  | some entry =>
    let pool := pool.setEntry key (some entry.quarantine)
    match entry.run with
    | none => pool
    | some run => pool.advance run .cancel

def resume (pool : Pool) (key : Key) : Failure × Pool :=
  match pool.entries key with
  | none => (some [.providerUnavailable], pool)
  | some entry =>
    if !entry.quarantined then (some [.providerUnavailable], pool)
    else if is entry.terminalErr .providerJoinTimeout then (some [.providerJoinTimeout], pool)
    else if entry.done then (none, pool.setEntry key none)
    else (some [.providerJoinTimeout], pool)

def cancel (pool : Pool) (run : Nat) : Pool :=
  match pool.runs[run]? with
  | none => pool
  | some r =>
    if (pool.entries r.control.key).bind (·.run) = some run then pool.advance run .cancel
    else pool

/-- `Shutdown` up to its wait: every run with an entry is cancelled. -/
def shutdown (pool : Pool) : Pool :=
  (List.range pool.runs.length).foldl cancel { pool with closed := true }

/-- `Execute` of the pool finds the actor to ask. -/
def execute (pool : Pool) (key : Key) : Pool :=
  match pool.entries key with
  | none => pool
  | some entry =>
    if entry.quarantined || entry.terminalErr.isSome || entry.done then pool
    else
      match entry.run.bind (pool.runs[·]?) with
      | none => pool
      | some r => { pool with callers := pool.callers ++ [.holding r.actor key] }

/-- `Execute` of the actor up to the send: a desk that is not ready refuses. -/
def request (pool : Pool) (caller : Nat) (live : Bool) : Pool :=
  match pool.callers[caller]? with
  | some (.holding actor key) =>
    let desk := pool.desks actor
    if desk.active && desk.ready && desk.key == some key then
      let made := Caller.sending actor { runId := desk.runId, key := key, live := live }
      { pool with callers := pool.callers.set caller made }
    else { pool with callers := pool.callers.eraseIdx caller }
  | _ => pool

def send (pool : Pool) (caller : Nat) : Pool :=
  match pool.callers[caller]? with
  | some (.sending actor request) =>
    let desk := pool.desks actor
    { pool with callers := pool.callers.eraseIdx caller }.setDesk actor
      { desk with queue := desk.queue ++ [request] }
  | _ => pool

def begin (pool : Pool) (run : Nat) : Pool :=
  match pool.runs[run]? with
  | none => pool
  | some r =>
    if r.control.phase = .beginning then
      match (pool.desks r.actor).beginOperationRun r.control.key with
      | none => pool.advance run (.begin none)
      | some desk => (pool.setDesk r.actor desk).advance run (.begin (some desk.runId))
    else pool

def receive (pool : Pool) (run : Nat) : Pool :=
  match pool.runs[run]? with
  | none => pool
  | some r =>
    let desk := pool.desks r.actor
    match desk.queue with
    | [] => pool
    | request :: queue =>
      if r.control.phase = .looping ∧ r.control.operation = none ∧
          r.control.health.actorState = .ready then
        (pool.setDesk r.actor { desk with queue := queue }).advance run (.request request)
      else pool

def finish (pool : Pool) (run : Nat) : Pool :=
  match pool.runs[run]? with
  | none => pool
  | some r =>
    match r.control.phase, pool.entries r.control.key with
    | .returned err, some entry =>
      if entry.run = some run ∧ entry.done = false then
        pool.setEntry r.control.key (entry.settle err)
      else pool
    | _, _ => pool

/-- One step of the process; the output is the error of the call. -/
def step : PoolInput → Pool → Failure × Pool
  | .start key actor, pool => pool.start key actor
  | .quarantine key, pool => (none, pool.quarantine key)
  | .resume key, pool => pool.resume key
  | .shutdown, pool => (none, pool.shutdown)
  | .execute key, pool => (none, pool.execute key)
  | .request caller live, pool => (none, pool.request caller live)
  | .send caller, pool => (none, pool.send caller)
  | .withdraw caller, pool => (none, { pool with callers := pool.callers.eraseIdx caller })
  | .begin run, pool => (none, pool.begin run)
  | .receive run, pool => (none, pool.receive run)
  | .run _ (.begin _), pool | .run _ (.request _), pool => (none, pool)
  | .run run input, pool => (none, pool.advance run input)
  | .finish run, pool => (none, pool.finish run)

end Pool

end MessagingGateway.Actor
