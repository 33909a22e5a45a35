import MessagingGateway.Webhook.Store

/-!
# Workers, and delivery as a transition system

A worker claims deliveries, asks for admission right before each HTTP request,
renews the claim while the request runs and reports how it ended. Any number of
workers and administrators interleave; a crash is the absence of a further call.
-/

namespace MessagingGateway.Webhook

open Relational Domain Store

structure HTTPResult where
  statusCode : Int
  retryAfter : Int
  deriving DecidableEq

inductive Report
  | secretUnavailable
  | delivered (result : HTTPResult)
  | failed (result : HTTPResult)
  deriving DecidableEq

def maxRetryAfter : Int := 3600000000

structure Worker where
  maxAttempts : Nat
  /-- `worker.now()` at the start of the attempt -/
  now : Time
  jitter : Int → Int

def reportOf (delivery : Delivery) : AttemptResult :=
  { deliveryId := delivery.deliveryId
    attempt := delivery.attempt
    ownerId := delivery.ownerId
    claimToken := delivery.claimToken }

/-- `completeFailureWithRetryAfter`: the last attempt of a cycle makes the
delivery dead, an earlier one is tried again after a bounded pause. -/
def Worker.completeFailureWithRetryAfter (worker : Worker) (delivery : Delivery) (statusCode : Int)
    (safeError : String) (retryAfter : Int) : AttemptResult :=
  let dead : Bool := worker.maxAttempts ≤ delivery.attempt
  let retryAfter := if retryAfter < 0 then 0 else retryAfter
  let retryAfter := if maxRetryAfter < retryAfter then maxRetryAfter else retryAfter
  let backoff : Int := 1000000 * 2 ^ min (delivery.attempt - 1) 10
  let jitter := worker.jitter backoff
  let jitter := if jitter < 0 ∨ maxRetryAfter < jitter then maxRetryAfter else jitter
  { reportOf delivery with
    dead := dead
    statusCode := statusCode
    safeError := safeError
    nextAvailableAt := if dead then none else some (worker.now + (max retryAfter jitter).toNat) }

/-- What `attempt` reports to `CompleteAttempt`. -/
def Worker.result (worker : Worker) (delivery : Delivery) : Report → AttemptResult
  | .secretUnavailable =>
    worker.completeFailureWithRetryAfter delivery 0 "secret unavailable" 0
  | .delivered result =>
    if 200 ≤ result.statusCode ∧ result.statusCode < 300 then
      { reportOf delivery with succeeded := true, statusCode := result.statusCode }
    else
      worker.completeFailureWithRetryAfter delivery result.statusCode
        ("webhook returned HTTP " ++ toString result.statusCode) result.retryAfter
  | .failed result =>
    worker.completeFailureWithRetryAfter delivery result.statusCode "delivery failed"
      result.retryAfter

@[simp] theorem Worker.completeFailure_succeeded (worker : Worker) (delivery : Delivery)
    (statusCode : Int) (safeError : String) (retryAfter : Int) :
    (worker.completeFailureWithRetryAfter delivery statusCode safeError retryAfter).succeeded =
      false := rfl

theorem Worker.result_not_both (worker : Worker) (delivery : Delivery) (report : Report)
    (h : (worker.result delivery report).succeeded = true) :
    (worker.result delivery report).dead = false := by
  cases report with
  | secretUnavailable => cases h
  | failed result => cases h
  | delivered result =>
    by_cases hstatus : 200 ≤ result.statusCode ∧ result.statusCode < 300
    · simp only [Worker.result, if_pos hstatus, reportOf]
    · simp only [Worker.result, if_neg hstatus, completeFailure_succeeded, reduceCtorEq] at h

inductive Operation
  | publish (event : EventRow) (outboxId : String)
  | createEndpoint (endpoint : Endpoint) (secret : SessionEnvelope) (maxEndpoints : Nat)
  | rotateEndpoint (endpointId keyId : String) (secret : SessionEnvelope)
      (previousValidUntil : Option Time)
  | purgeExpiredSecrets
  | claim (again : Time) (ownerId : String) (limit : Nat)
  | admitClaim (delivery : Delivery)
  | renewClaim (deliveryId ownerId : String) (claimToken : Nat)
  | completeAttempt (dlqId : String) (worker : Worker) (delivery : Delivery) (report : Report)
  | deleteEndpoint (endpointId : String)
  | replayDLQ (dlqId : String)

inductive Reply
  | failed (error : Err)
  | done
  | answered (yes : Bool)
  | claimed (deliveries : List Delivery)
  deriving DecidableEq

def perform (rt : Runtime) (now : Time) : Operation → WebhookDatabase → Tx (Reply × WebhookDatabase)
  | .publish event outboxId, db => finishing .done (publish rt now event outboxId db)
  | .createEndpoint endpoint secret maxEndpoints, db =>
    finishing .done (createEndpoint endpoint secret maxEndpoints db)
  | .rotateEndpoint endpointId keyId secret previousValidUntil, db =>
    finishing .done (rotateEndpoint endpointId keyId secret previousValidUntil db)
  | .purgeExpiredSecrets, db => finishing .done (purgeExpiredSecrets now db)
  | .claim again ownerId limit, db => replying .claimed (claim now again ownerId limit db)
  | .admitClaim delivery, db => replying .answered (admitClaim now delivery db)
  | .renewClaim deliveryId ownerId claimToken, db =>
    replying .answered (renewClaim now deliveryId ownerId claimToken db)
  | .completeAttempt dlqId worker delivery report, db =>
    finishing .done (completeAttempt now dlqId (worker.result delivery report) db)
  | .deleteEndpoint endpointId, db => replying .answered (deleteEndpoint now endpointId db)
  | .replayDLQ dlqId, db => finishing .done (replayDLQ now dlqId db)

abbrev Call := Time × Operation

def step (rt : Runtime) (call : Call) (db : WebhookDatabase) : Reply × WebhookDatabase :=
  outcome .failed db (perform rt call.1 call.2 db)

abbrev Deliveries (rt : Runtime) : WebhookDatabase → List (Call × Reply) → WebhookDatabase → Prop :=
  Run (step rt) fun _ _ => True

@[elab_as_elim]
theorem step_rule (rt : Runtime) (call : Call) (db : WebhookDatabase)
    {motive : Reply × WebhookDatabase → Prop}
    (failed : ∀ e, perform rt call.1 call.2 db = .error e → motive (.failed e, db))
    (committed : ∀ reply db', perform rt call.1 call.2 db = .ok (reply, db') →
      motive (reply, db')) : motive (step rt call db) :=
  outcome_rule _ failed committed

end MessagingGateway.Webhook
