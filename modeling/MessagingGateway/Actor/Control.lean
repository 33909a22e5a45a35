import MessagingGateway.Store.Leases

/-!
# The control of a connection actor

`Actor.Run` acquires the lease of a connection and runs provider generations
until one of them stops it. A generation starts `Connect` in a goroutine of its
own, serves one provider operation at a time while the provider is ready, and
collects changed sessions in a mailbox of one place. When it ends it cancels and
joins the operation, `Disconnect` and `Connect`, each within a time limit, writes
the last session, and decides from what it saw whether the run goes on.

`Control.step` is one atomic step of a run or of the goroutines around it. The
replies of the store are inputs, as is every choice that timing makes: which arm
of a `select` is taken, and whether a join ends or times out.
-/

namespace MessagingGateway.Actor

open Store

/-! ### Errors -/

/-- The sentinels that `errors.Is` finds in an error of the actor. -/
inductive Cause
  | leaseUnavailable
  | providerAuthorization
  | providerTransient
  | providerPermanentConfig
  | providerPermanentProtocol
  | providerUnavailable
  | providerJoinTimeout
  | sharedInfrastructure
  | staleGeneration
  | invalidConfig
  | canceled
  deriving DecidableEq

/-- An error as the sentinels it wraps; `none` is `nil`. -/
abbrev Failure := Option (List Cause)

def is (failure : Failure) (cause : Cause) : Bool := failure.any (·.contains cause)

def join : Failure → Failure → Failure
  | none, failure => failure
  | failure, none => failure
  | some causes, some causes' => some (causes ++ causes')

@[simp] theorem is_join (failure failure' : Failure) (cause : Cause) :
    is (join failure failure') cause = (is failure cause || is failure' cause) := by
  cases failure with
  | none => rfl
  | some causes =>
    cases failure' with
    | none => simp [join, is]
    | some causes' => simp [join, is, List.contains_eq_mem, List.mem_append]

@[simp] theorem is_singleton (cause : Cause) : is (some [cause]) cause = true := by
  simp [is]

def terminalProviderError (failure : Failure) : Bool :=
  is failure .staleGeneration || is failure .sharedInfrastructure ||
    is failure .providerAuthorization || is failure .providerPermanentConfig ||
    is failure .providerPermanentProtocol

def joinError (disconnectJoined connectJoined : Bool) : Failure :=
  if disconnectJoined && connectJoined then none else some [.providerJoinTimeout]

/-- What a store call that answers `(bool, error)` returns. -/
abbrev StoreReply := Except (List Cause) Bool

/-! ### State -/

structure Key where
  tenantId : String
  connectionId : String
  deriving DecidableEq

structure SessionSnapshot where
  plaintext : Bytes
  revision : Nat
  deriving DecidableEq

/-- `providerOperationRequest`; `live` is `request.ctx.Err() == nil`. -/
structure Request where
  runId : Nat
  key : Key
  live : Bool
  deriving DecidableEq

inductive ExitKind
  | shutdown
  | leaseLost
  | sessionConflict
  | provider
  deriving DecidableEq

structure Exit where
  kind : ExitKind
  err : Failure := none
  providerErr : Failure := none
  providerJoined : Bool := false
  deriving DecidableEq

inductive Phase
  | acquiring
  | beginning
  | checking
  | loading
  | announcing
  | restoring
  | looping
  | joiningOperation
  | disconnecting
  | joiningConnect
  | stoppingCallbacks
  | flushing
  | settling (swap : StoreReply)
  | reporting
  | waiting
  | resuming
  | returned (err : Failure)
  deriving DecidableEq

inductive Goroutine
  | connect
  | operation
  | disconnect
  deriving DecidableEq

inductive Errand
  | running
  | ended (result : Failure)
  deriving DecidableEq

structure Control where
  key : Key
  /-- the context of the run is cancelled -/
  cancelled : Bool := false
  phase : Phase := .acquiring
  token : Nat := 0
  runId : Nat := 0
  snapshot : SessionSnapshot := ⟨[], 0⟩
  health : ConnectionActorHealth := { actorState := .connecting, connectionState := .disconnected }
  /-- counts the generations of the run -/
  generation : Nat := 0
  /-- `operationReady` as this run set it last -/
  admitting : Bool := false
  /-- the generation's `Connect`, until its result is received -/
  connect : Option Errand := none
  /-- `activeOperation` -/
  operation : Option Errand := none
  /-- `callbacks.active` -/
  accepting : Bool := false
  /-- `callbacks.sessions` -/
  mailbox : Option Bytes := none
  /-- `nil` is the empty list -/
  pending : Bytes := []
  debouncing : Bool := false
  exit : Exit := { kind := .shutdown }
  disconnectJoined : Bool := false
  connectJoined : Bool := false
  /-- the goroutines that were not joined and still run, with their generation -/
  loose : List (Goroutine × Nat) := []
  deriving DecidableEq

def Phase.isReturned : Phase → Bool
  | .returned _ => true
  | _ => false

/-! ### The end of a generation -/

/-- `applyTerminalProviderHealth`; `none` where it returns `false`. -/
def applyTerminalProviderHealth (health : ConnectionActorHealth) (providerErr : Failure) :
    Option ConnectionActorHealth :=
  if is providerErr .staleGeneration then some
    { health with
      actorState := .leaseLost
      connectionState := .disconnected
      lastSafeReason := .leaseLost
      currentBackoff := 0 }
  else
    let stopped (reason : SafeReason) : Option ConnectionActorHealth := some
      { health with
        actorState := .stopped
        connectionState := .degraded
        lastSafeReason := reason
        currentBackoff := 0 }
    if is providerErr .sharedInfrastructure then stopped .sharedInfrastructure
    else if is providerErr .providerAuthorization then stopped .providerAuth
    else if is providerErr .providerPermanentConfig then stopped .providerConfig
    else if is providerErr .providerPermanentProtocol then stopped .providerProtocol
    else none

inductive Outcome
  | retry
  | stop (err : Failure)
  deriving DecidableEq

def ended (health : ConnectionActorHealth) (actorState : ActorState)
    (connectionState : ConnectionState) (reason : SafeReason) : ConnectionActorHealth :=
  { health with
    actorState := actorState
    connectionState := connectionState
    lastSafeReason := reason }

/-- The exit kind after the normalization: a terminal provider failure wins. -/
def Exit.finalKind (exit : Exit) : ExitKind :=
  if terminalProviderError exit.providerErr then .provider else exit.kind

def Exit.transient (exit : Exit) : Bool :=
  exit.kind == .provider && !terminalProviderError exit.providerErr

def Exit.joined (exit : Exit) (disconnectJoined connectJoined : Bool) : Bool :=
  disconnectJoined && connectJoined && !is exit.err .providerJoinTimeout

/-- `finalizeGeneration` reaches `MarkReauthorizationRequiredFenced`. -/
def Exit.marks (exit : Exit) (disconnectJoined connectJoined : Bool) (swap : StoreReply) : Bool :=
  swap == .ok true && exit.joined disconnectJoined connectJoined && exit.finalKind == .provider &&
    !is exit.providerErr .staleGeneration && !is exit.providerErr .sharedInfrastructure &&
    is exit.providerErr .providerAuthorization

/-- `finalizeGeneration` after the final session write, with the reply of the
mark where it is made: the outcome, and the health that is written. -/
def finalizeGeneration (health : ConnectionActorHealth) (exit : Exit)
    (disconnectJoined connectJoined : Bool) (swap mark : StoreReply) :
    Outcome × Option ConnectionActorHealth :=
  let unjoined := joinError disconnectJoined connectJoined
  let failed (swapErr : Failure) : Outcome × Option ConnectionActorHealth :=
    let health := (applyTerminalProviderHealth health exit.providerErr).getD
      (if exit.kind = .leaseLost then ended health .leaseLost .disconnected .leaseLost
        else ended health .stopped .degraded .sessionConflict)
    (.stop (join (join (join swapErr exit.err) exit.providerErr) unjoined),
      some { health with currentBackoff := 0 })
  match swap with
  | .error causes => failed (some causes)
  | .ok false => failed none
  | .ok true =>
    if !exit.joined disconnectJoined connectJoined then
      let health := (applyTerminalProviderHealth health exit.providerErr).getD
        (ended health .stopped .degraded .providerProtocol)
      (.stop (join (join exit.err exit.providerErr) unjoined),
        some { health with currentBackoff := 0 })
    else
      match exit.finalKind with
      | .shutdown =>
        (.stop none,
          some { ended health .stopped .disconnected .shutdown with currentBackoff := 0 })
      | .leaseLost =>
        (.stop exit.err,
          some { ended health .leaseLost .disconnected .leaseLost with currentBackoff := 0 })
      | .sessionConflict =>
        (.stop exit.err,
          some { ended health .stopped .degraded .sessionConflict with currentBackoff := 0 })
      | .provider =>
        if is exit.providerErr .staleGeneration then
          (.stop exit.providerErr,
            some { ended health .leaseLost .disconnected .leaseLost with currentBackoff := 0 })
        else if is exit.providerErr .sharedInfrastructure then
          (.stop exit.providerErr, some (ended health .stopped .degraded .sharedInfrastructure))
        else if is exit.providerErr .providerAuthorization then
          match mark with
          | .ok true =>
            (.stop none,
              some { ended health .stopped .reauthorizationRequired .providerAuth with
                requiresReauthorization := true })
          | .ok false => (.stop none, none)
          | .error causes => (.stop (some causes), none)
        else if is exit.providerErr .providerPermanentConfig then
          (.stop none, some (ended health .stopped .degraded .providerConfig))
        else if is exit.providerErr .providerPermanentProtocol then
          (.stop exit.providerErr, some (ended health .stopped .degraded .providerProtocol))
        else (.retry, none)

/-! ### Steps -/

inductive EventKind
  | ready
  | frame
  | phoneResponse
  deriving DecidableEq

inductive Input
  /-- the context of the run is cancelled -/
  | cancel
  /-- `AcquireConnectionLease`, with the token of the lease -/
  | acquire (reply : Except (List Cause) (Option Nat))
  /-- `beginOperationRun`; `none` while another run of the actor is active -/
  | begin (runId : Option Nat)
  | check (reply : Except (List Cause) ConnectionState)
  | load (reply : Except (List Cause) SessionSnapshot)
  /-- the write of the health "connecting", before the first and a later generation -/
  | announce (reply : StoreReply)
  | restore (restored : Bool)
  /-- the arms of the loop -/
  | shutdown
  | renew (reply : StoreReply)
  | event (kind : EventKind) (now : Time) (reply : StoreReply)
  | request (request : Request)
  | operationResult
  | takeSession
  | debounce (reply : StoreReply)
  | connectResult
  /-- the joins; `giveUp` is the time limit -/
  | joinOperation
  | giveUpOperation
  | disconnect (joined : Bool)
  | joinConnect
  | giveUpConnect
  | stopCallbacks
  | flush (reply : StoreReply)
  | settle (mark : StoreReply)
  /-- the pause between generations -/
  | report (delay : Int) (reply : StoreReply)
  | backoffTimer
  /-- the goroutines of the provider -/
  | connectReturns (result : Failure)
  | operationReturns (result : Failure)
  | looseReturns (goroutine : Goroutine × Nat) (result : Failure)
  | sessionChanged (generation : Nat) (plaintext : Bytes)

inductive Output
  | quiet
  /-- `SessionChanged` put the session into the mailbox -/
  | accepted (plaintext : Bytes)
  /-- a session was written by compare-and-swap -/
  | written (plaintext : Bytes)
  deriving DecidableEq

namespace Control

def returns (c : Control) (err : Failure) : Control :=
  { c with phase := .returned err, admitting := false }

/-- A health write that a run needs: `writeErr != nil || !owned` ends it. -/
def afterWrite (c : Control) (reply : StoreReply) (next : Control) : Control :=
  match reply with
  | .ok true => next
  | .ok false => c.returns none
  | .error causes => c.returns (some causes)

def prepare (c : Control) : Control :=
  { c with
    phase := .restoring
    generation := c.generation + 1
    accepting := true
    mailbox := none }

def start (c : Control) : Control :=
  { c with
    phase := .looping
    admitting := false
    connect := some .running
    operation := none
    pending := []
    debouncing := false }

/-- `break generationLoop`, and the cancellation of the active operation. -/
def leave (c : Control) (exit : Exit) : Control :=
  { c with
    phase := if c.operation.isSome then .joiningOperation else .disconnecting
    exit := exit
    admitting := false }

theorem leave_phase (c : Control) (exit : Exit) :
    (c.leave exit).phase = .disconnecting ∨ (c.leave exit).phase = .joiningOperation := by
  cases hoperation : c.operation <;> simp [leave, hoperation]

def lose (c : Control) (err : Failure) : Control :=
  if c.cancelled then c.leave { kind := .shutdown } else c.leave { kind := .leaseLost, err := err }

def keepSession (c : Control) (session : Bytes) : Control :=
  { c with pending := session, debouncing := true }

/-- `takeLatest`: an empty session does not replace the pending one. -/
def takeLatest (c : Control) : Control :=
  { c with
    mailbox := none
    pending := match c.mailbox with
      | some (byte :: bytes) => byte :: bytes
      | _ => c.pending }

def stored (c : Control) : Control :=
  { c with snapshot := ⟨c.pending, c.snapshot.revision + 1⟩, pending := [] }

def flushSession (c : Control) (reply : StoreReply) : Output × StoreReply × Control :=
  if c.pending = [] then (.quiet, .ok true, c)
  else
    match reply with
    | .ok true => (.written c.pending, .ok true, c.stored)
    | failed => (.quiet, failed, { c with pending := [] })

def replyErr : StoreReply → Failure
  | .ok _ => none
  | .error causes => some causes

/-- The debounce timer has fired: the latest session is the one to write. -/
def collect (c : Control) : Control := { c.takeLatest with debouncing := false }

def debounce (c : Control) (reply : StoreReply) : Output × Control :=
  if c.cancelled then (.quiet, c.collect.leave { kind := .shutdown })
  else
    match c.collect.flushSession reply with
    | (output, .ok true, c) => (output, c)
    | (output, failed, c) => (output, c.leave { kind := .sessionConflict, err := replyErr failed })

def observed (c : Control) (kind : EventKind) (now : Time) : Control :=
  match kind with
  | .ready =>
    { c with health :=
      { c.health with
        actorState := .ready
        connectionState := .connected
        connectedAt := some now
        currentBackoff := 0
        lastSafeReason := .none } }
  | .frame => { c with health := { c.health with lastFrameAt := some now } }
  | .phoneResponse => { c with health := { c.health with lastPhoneResponseAt := some now } }

/-- The arm of a liveness event, with the reply of the health write. -/
def observe (c : Control) (kind : EventKind) (now : Time) (reply : StoreReply) : Control :=
  match reply with
  | .ok true =>
    if kind = .ready then { c.observed kind now with admitting := true } else c.observed kind now
  | failed => (c.observed kind now).lose (replyErr failed)

def serve (c : Control) (request : Request) : Control :=
  if c.operation.isNone && c.health.actorState == .ready && request.runId == c.runId &&
      request.key == c.key && request.live then
    { c with operation := some .running }
  else c

def disconnected (c : Control) (result : Failure) : Control :=
  let c := { c with connect := none }
  if !terminalProviderError result && (c.cancelled || is result .canceled) then
    c.leave { kind := .shutdown, providerJoined := true }
  else c.leave { kind := .provider, providerErr := result, providerJoined := true }

def joinConnect (c : Control) (result : Failure) : Control :=
  { c with
    phase := .stoppingCallbacks
    connect := none
    connectJoined := true
    exit := if terminalProviderError result then
      { c.exit with kind := .provider, providerErr := join c.exit.providerErr result } else c.exit }

def backedOff (c : Control) (delay : Int) : Control :=
  { c with health :=
    { c.health with
      actorState := .backoff
      connectionState := .degraded
      reconnectCount := c.health.reconnectCount + 1
      currentBackoff := delay
      lastSafeReason := .transientNetwork } }

def settle (c : Control) (swap mark : StoreReply) : Control :=
  match finalizeGeneration c.health c.exit c.disconnectJoined c.connectJoined swap mark with
  | (.retry, health) => { c with phase := .reporting, health := health.getD c.health }
  | (.stop err, health) => { c with health := health.getD c.health }.returns err

/-- One step; a step that is not enabled changes nothing. -/
def step (input : Input) (c : Control) : Output × Control :=
  match input, c.phase with
  | .cancel, _ => (.quiet, { c with cancelled := true })
  | .acquire reply, .acquiring =>
    (.quiet, match c.cancelled, reply with
      | true, _ => c.returns (some [.canceled])
      | false, .error causes => c.returns (some causes)
      | false, .ok none => c.returns (some [.leaseUnavailable])
      | false, .ok (some token) => { c with phase := .beginning, token := token })
  | .begin none, .beginning => (.quiet, c.returns (some [.invalidConfig]))
  | .begin (some runId), .beginning => (.quiet, { c with phase := .checking, runId := runId })
  | .check reply, .checking =>
    (.quiet, match reply with
      | .error causes => c.returns (some causes)
      | .ok .connected | .ok .degraded | .ok .disconnected => { c with phase := .loading }
      | .ok _ => c.returns none)
  | .load reply, .loading =>
    (.quiet, match reply with
      | .error causes => c.returns (some causes)
      | .ok snapshot =>
        if snapshot.plaintext = [] ∨ snapshot.revision = 0 then c.returns (some [.invalidConfig])
        else { c with phase := .announcing, snapshot := snapshot })
  | .announce reply, .announcing => (.quiet, c.afterWrite reply c.prepare)
  | .restore false, .restoring =>
    (.quiet, { c with health := ended c.health .stopped .degraded .providerConfig }.returns none)
  | .restore true, .restoring => (.quiet, c.start)
  | .shutdown, .looping =>
    (.quiet, if c.cancelled then c.leave { kind := .shutdown } else c)
  | .renew (.ok true), .looping => (.quiet, c)
  | .renew reply, .looping => (.quiet, c.lose (replyErr reply))
  | .event kind now reply, .looping => (.quiet, c.observe kind now reply)
  | .request request, .looping => (.quiet, c.serve request)
  | .operationResult, .looping =>
    (.quiet, match c.operation with
      | some (.ended _) => { c with operation := none }
      | _ => c)
  | .takeSession, .looping =>
    (.quiet, match c.mailbox with
      | some session => { c with mailbox := none }.keepSession session
      | none => c)
  | .debounce reply, .looping => if c.debouncing then c.debounce reply else (.quiet, c)
  | .connectResult, .looping =>
    (.quiet, match c.connect with
      | some (.ended result) => c.disconnected result
      | _ => c)
  | .joinOperation, .joiningOperation =>
    (.quiet, match c.operation with
      | some (.ended _) => { c with phase := .disconnecting, operation := none }
      | _ => c)
  | .giveUpOperation, .joiningOperation =>
    (.quiet,
      { c with
        phase := .disconnecting
        operation := none
        loose := (if c.operation = some .running then [(.operation, c.generation)] else []) ++
          c.loose
        exit := { c.exit with err := join c.exit.err (some [.providerJoinTimeout]) } })
  | .disconnect joined, .disconnecting =>
    (.quiet,
      { c with
        phase := if c.exit.providerJoined then .stoppingCallbacks else .joiningConnect
        disconnectJoined := joined
        connectJoined := c.exit.providerJoined
        loose := (if joined then [] else [(.disconnect, c.generation)]) ++ c.loose })
  | .joinConnect, .joiningConnect =>
    (.quiet, match c.connect with
      | some (.ended result) => c.joinConnect result
      | _ => c)
  | .giveUpConnect, .joiningConnect =>
    (.quiet,
      { c with
        phase := .stoppingCallbacks
        connect := none
        loose := (if c.connect = some .running then [(.connect, c.generation)] else []) ++
          c.loose })
  | .stopCallbacks, .stoppingCallbacks =>
    (.quiet, { c.takeLatest with phase := .flushing, accepting := false })
  | .flush reply, .flushing =>
    match c.flushSession reply with
    | (output, swap, c) => (output, { c with phase := .settling swap })
  | .settle mark, .settling swap => (.quiet, c.settle swap mark)
  | .report delay reply, .reporting =>
    (.quiet, (c.backedOff delay).afterWrite reply { c.backedOff delay with phase := .waiting })
  | .shutdown, .waiting => (.quiet, if c.cancelled then c.returns none else c)
  | .renew (.ok true), .waiting => (.quiet, c)
  | .renew reply, .waiting =>
    let c := { c with health :=
      { c.health with actorState := .leaseLost, lastSafeReason := .leaseLost } }
    (.quiet, c.returns (match reply with
      | .error causes => if is (some causes) .canceled then none else some causes
      | .ok _ => some [.leaseUnavailable]))
  | .backoffTimer, .waiting =>
    (.quiet, { c with
      phase := .resuming
      health := { c.health with actorState := .connecting, currentBackoff := 0 } })
  | .announce reply, .resuming => (.quiet, c.afterWrite reply c.prepare)
  | .connectReturns result, _ =>
    (.quiet, if c.connect = some .running then { c with connect := some (.ended result) } else c)
  | .operationReturns result, _ =>
    (.quiet,
      if c.operation = some .running then { c with operation := some (.ended result) } else c)
  | .looseReturns goroutine _, _ => (.quiet, { c with loose := c.loose.erase goroutine })
  | .sessionChanged generation plaintext, _ =>
    if c.accepting && generation == c.generation then
      (.accepted plaintext, { c with mailbox := some plaintext })
    else (.quiet, c)
  | _, _ => (.quiet, c)

theorem step_settle {c : Control} {swap : StoreReply} (mark : StoreReply)
    (h : c.phase = .settling swap) : step (.settle mark) c = (.quiet, c.settle swap mark) := by
  simp only [step, h]

end Control

end MessagingGateway.Actor
