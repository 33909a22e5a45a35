import MessagingGateway.Relational.Runs
import MessagingGateway.Store.Commit

/-!
# The gateway as a transition system

The state is the database of a tenant, the inputs are the repository operations
with the instant at which their transaction reads the clock, and the outputs are
what the callers see. Owners, workers and the provider are the environment: any
of them may call any operation at any moment, and a crash is the absence of a
further call.
-/

namespace MessagingGateway.Gateway

open Relational Domain Store Ingress

inductive Operation
  | createOutbound (ids : CreateIds) (command : CreateOutbound)
  | acquireConnectionLease (connectionId ownerId : String) (ttl : Nat)
  | renewConnectionLease (connectionId ownerId : String) (fencingToken ttl : Nat)
  | releaseConnectionLease (connectionId ownerId : String) (fencingToken : Nat)
  | quarantineBackfillConnection (connectionId : String) (safeReason : SafeReason)
  | markReauthorizationRequired (occurredAt : Time) (connectionId newEventId : String)
  | markReauthorizationRequiredFenced (occurredAt : Time) (connectionId ownerId : String)
      (fencingToken : Nat) (newEventId : String)
  | changeSuspension (suspend : Bool)
  | writeConnectionHealthFenced (connectionId ownerId : String) (fencingToken : Nat)
      (health : ConnectionActorHealth)
  | compareAndSwapEncryptedSessionFenced (connectionId ownerId : String)
      (fencingToken expectedRevision : Nat) (envelope : SessionEnvelope)
  /-- `locked` are the messages whose rows other transactions hold -/
  | claimNext (ids : ClaimIds) (locked : List String) (connectionId orderingKey ownerId : String)
  | beginProviderIo (claim : DispatchClaim) (ownerId : String)
  | renewProviderIo (claim : DispatchClaim) (ownerId : String)
  | completeDispatch (ids : Nat → StatusIds) (claim : DispatchClaim) (states : List MessageState)
      (safeReason : String)
  | releaseBeforeDispatch (statusId : String) (claim : DispatchClaim) (safeReason : String)
  | recordCreatedConversationFenced (connectionId messageId conversationId
      defaultOutgoingId : String) (isGroup : Bool) (ownerId : String) (fencingToken : Nat)
  | commitEnvelope (ids : CommitIds) (record : EnvelopeRecord)
  | markProviderACKedFenced (connectionId ownerId : String) (fencingToken : Nat)
      (ids : List String)
  | coordinateProviderACKsFenced (connectionId ownerId : String) (fencingToken leaseTTL : Nat)
      (ids : List String) (send : List String → Bool)
  | listPendingProviderACKsFenced (connectionId ownerId : String) (fencingToken limit : Nat)

inductive Reply
  | failed (error : Err)
  | done
  | answered (yes : Bool)
  | created (result : CreateResult)
  | granted (lease : Option ConnectionLease)
  | transitioned (transition : AuthorizationTransition)
  | claimed (claim : Option DispatchClaim)
  | committed (result : CommitResult)
  | coordinated (result : ACKCoordinationResult)
  | pending (ids : List String)
  deriving DecidableEq

def perform (rt : Runtime) (now : Time) : Operation → Database → Tx (Reply × Database)
  | .createOutbound ids command, db => replying .created (createOutbound rt now ids command db)
  | .acquireConnectionLease connectionId ownerId ttl, db =>
    replying .granted (acquireConnectionLease now connectionId ownerId ttl db)
  | .renewConnectionLease connectionId ownerId fencingToken ttl, db =>
    replying .answered (renewConnectionLease now connectionId ownerId fencingToken ttl db)
  | .releaseConnectionLease connectionId ownerId fencingToken, db =>
    replying .answered (releaseConnectionLease now connectionId ownerId fencingToken db)
  | .quarantineBackfillConnection connectionId safeReason, db =>
    replying (fun _ => .done) (quarantineBackfillConnection now connectionId safeReason db)
  | .markReauthorizationRequired occurredAt connectionId newEventId, db =>
    replying .transitioned
      (markReauthorizationRequired rt now occurredAt connectionId newEventId db)
  | .markReauthorizationRequiredFenced occurredAt connectionId ownerId fencingToken newEventId,
    db =>
    replying .answered (markReauthorizationRequiredFenced rt now occurredAt connectionId ownerId
      fencingToken newEventId db)
  | .changeSuspension suspend, db => replying (fun _ => .done) (changeSuspension now suspend db)
  | .writeConnectionHealthFenced connectionId ownerId fencingToken health, db =>
    replying .answered
      (writeConnectionHealthFenced now connectionId ownerId fencingToken health db)
  | .compareAndSwapEncryptedSessionFenced connectionId ownerId fencingToken expectedRevision
      envelope, db =>
      replying .answered (compareAndSwapEncryptedSessionFenced now connectionId ownerId fencingToken
        expectedRevision envelope db)
  | .claimNext ids locked connectionId orderingKey ownerId, db =>
    replying .claimed (claimNext rt now ids locked connectionId orderingKey ownerId db)
  | .beginProviderIo claim ownerId, db =>
    replying .answered (beginProviderIo now claim ownerId db)
  | .renewProviderIo claim ownerId, db =>
    replying .answered (renewProviderIo now claim ownerId db)
  | .completeDispatch ids claim states safeReason, db =>
    replying (fun _ => .done) (completeDispatch rt now ids claim states safeReason db)
  | .releaseBeforeDispatch statusId claim safeReason, db =>
    replying (fun _ => .done) (releaseBeforeDispatch now statusId claim safeReason db)
  | .recordCreatedConversationFenced connectionId messageId conversationId defaultOutgoingId isGroup
      ownerId fencingToken, db =>
      replying (fun _ => .done) (recordCreatedConversationFenced now connectionId messageId
        conversationId defaultOutgoingId isGroup ownerId fencingToken db)
  | .commitEnvelope ids record, db =>
    replying .committed (commitEnvelope rt now ids record db)
  | .markProviderACKedFenced connectionId ownerId fencingToken ids, db =>
    replying .answered (markProviderACKedFenced now connectionId ownerId fencingToken ids db)
  | .coordinateProviderACKsFenced connectionId ownerId fencingToken leaseTTL ids send, db =>
    replying .coordinated (coordinateProviderACKsFenced now connectionId ownerId fencingToken
      leaseTTL ids send db)
  | .listPendingProviderACKsFenced connectionId ownerId fencingToken limit, db =>
    replying .pending
      (listPendingProviderACKsFenced now connectionId ownerId fencingToken limit db)

abbrev Call := Time × Operation

def step (rt : Runtime) (call : Call) (db : Database) : Reply × Database :=
  outcome .failed db (perform rt call.1 call.2 db)

def Operation.onFleet : Operation → Bool
  | .acquireConnectionLease .. | .renewConnectionLease .. | .releaseConnectionLease ..
  | .quarantineBackfillConnection .. | .markReauthorizationRequired ..
  | .markReauthorizationRequiredFenced .. | .changeSuspension .. | .writeConnectionHealthFenced ..
  | .compareAndSwapEncryptedSessionFenced .. => true
  | _ => false

theorem perform_fleetOnly {rt : Runtime} {now : Time} {op : Operation} {reply : Reply}
    {db db' : Database} (hop : op.onFleet = true) (h : perform rt now op db = .ok (reply, db')) :
    FleetOnly db db' := by
  cases op <;> simp only [perform] at h <;> obtain ⟨result, htx, rfl⟩ := replying_ok h
  case acquireConnectionLease =>
    obtain ⟨_, rfl⟩ := acquireConnectionLease_ok htx
    exact ⟨_, _, rfl⟩
  case renewConnectionLease =>
    obtain ⟨_, rfl⟩ := renewConnectionLease_ok htx
    exact ⟨_, _, rfl⟩
  case releaseConnectionLease =>
    obtain ⟨_, rfl⟩ := releaseConnectionLease_ok htx
    exact ⟨_, _, rfl⟩
  case quarantineBackfillConnection =>
    obtain ⟨_, _, -, -, rfl⟩ := quarantineBackfillConnection_ok htx
    exact ⟨_, _, rfl⟩
  case markReauthorizationRequired =>
    obtain ⟨_, -, ⟨_, -, -, hevent⟩ | ⟨_, -, -, -, hevent⟩⟩ := markReauthorizationRequired_ok htx
    all_goals
      obtain ⟨_, rfl⟩ := insertReauthorizationEvent_ok hevent
      exact ⟨_, _, rfl⟩
  case markReauthorizationRequiredFenced =>
    obtain ⟨-, rfl⟩ | ⟨_, _, -, -, -, hevent⟩ := markReauthorizationRequiredFenced_ok htx
    · exact ⟨db'.fleet, db'.events, rfl⟩
    · obtain ⟨_, rfl⟩ := insertReauthorizationEvent_ok hevent
      exact ⟨_, _, rfl⟩
  case changeSuspension =>
    obtain ⟨rfl, -⟩ | ⟨-, -, -, rfl⟩ | ⟨-, -, rfl⟩ := changeSuspension_ok htx
    · exact ⟨db'.fleet, db'.events, rfl⟩
    all_goals exact ⟨_, _, rfl⟩
  case writeConnectionHealthFenced =>
    obtain ⟨_, rfl⟩ := writeConnectionHealthFenced_ok htx
    exact ⟨_, _, rfl⟩
  case compareAndSwapEncryptedSessionFenced =>
    obtain ⟨_, rfl⟩ := compareAndSwapEncryptedSessionFenced_ok htx
    exact ⟨_, _, rfl⟩
  all_goals cases hop

/-- A call fails and changes nothing, or its transaction commits. -/
@[elab_as_elim]
theorem step_rule (rt : Runtime) (call : Call) (db : Database) {motive : Reply × Database → Prop}
    (failed : ∀ e, perform rt call.1 call.2 db = .error e → motive (.failed e, db))
    (committed : ∀ reply db', perform rt call.1 call.2 db = .ok (reply, db') →
      motive (reply, db')) : motive (step rt call db) :=
  outcome_rule _ failed committed

end MessagingGateway.Gateway
