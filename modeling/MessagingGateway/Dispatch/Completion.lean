import MessagingGateway.Dispatch.Runs

/-!
# Completing a dispatch

When `CompleteDispatch` succeeds, and what it leaves. The claim must be in
flight, its message still dispatching, the identifiers drawn for the statuses
unused, and the events of the statuses must encode.
-/

namespace MessagingGateway.Dispatch

open Relational Domain Store Ingress Gateway

inductive Outcome
  | accepted
  | rejected
  | routeMismatch
  | fenceLost
  | ambiguousIo
  | ambiguousResponse
  deriving DecidableEq

def Outcome.states : Outcome → List MessageState
  | .accepted => [.providerAccepted, .awaitingPhone]
  | .rejected | .routeMismatch => [.failed]
  | .fenceLost | .ambiguousIo | .ambiguousResponse => [.uncertain]

def Outcome.safeReason : Outcome → String
  | .accepted => ""
  | .rejected => "provider_rejected"
  | .routeMismatch => "route_mismatch"
  | .fenceLost => "dispatch_fence_lost"
  | .ambiguousIo => "provider_io_ambiguous"
  | .ambiguousResponse => "provider_response_ambiguous"

def Outcome.state (outcome : Outcome) : MessageState :=
  (deriveMessageState (.dispatching :: outcome.states)).getD .dispatching

/-- A claim whose provider I/O has begun, under a live lease and a live lane. -/
structure InFlight (now : Time) (claim : DispatchClaim) (db : Database) : Prop where
  valid : validClaimCall claim claim.ownerId db = true
  lease : db.ownsLease now claim.message.connectionId claim.ownerId claim.fencingToken = true
  lane : ((db.dispatch.lanes.find? (claimLane claim)).any fun r =>
    r.ownerId == some claim.ownerId && r.laneToken == claim.laneToken &&
      r.claimedMessageId == some claim.message.id &&
      r.claimExpiresAt.any fun expiry => now < expiry) = true
  attempt : ((db.dispatch.attempts.find? claim.attemptId).any fun r =>
    r.messageId == claim.message.id && r.ownerId == claim.ownerId &&
      r.laneToken == claim.laneToken && r.fencingToken == claim.fencingToken &&
      r.phase == .providerIoStarted) = true

instance (now : Time) (claim : DispatchClaim) (db : Database) : Decidable (InFlight now claim db) :=
  decidable_of_iff (_ ∧ _ ∧ _ ∧ _)
    ⟨fun h => ⟨h.1, h.2.1, h.2.2.1, h.2.2.2⟩, fun h => ⟨h.valid, h.lease, h.lane, h.attempt⟩⟩

def dispatching (claim : DispatchClaim) (db : Database) : Bool :=
  (db.content.messages.find? claim.message.id).any fun r => r.currentState == .dispatching

def encodes (rt : Runtime) (now : Time) (ids : StatusIds) (claim : DispatchClaim)
    (state : MessageState) (tenantId : String) : Bool :=
  (outboundMessageEventBody tenantId ids.eventId ("message." ++ state.text) claim.message state
    ids.occurredAt now).any fun body => rt.jsonSize body ≤ maxEventBodyBytes

/-- The identifiers of the statuses from `lo` to `hi` are unused and distinct. -/
structure Drawn (ids : Nat → StatusIds) (lo hi : Nat) (db : Database) : Prop where
  status : ∀ i < hi, lo ≤ i → db.content.statusHistory.find? (ids i).statusId = none
  unused : ∀ i < hi, lo ≤ i → Unused (ids i).eventId (ids i).outboxId db.events
  distinct : ∀ i < hi, ∀ j < hi, i < j → (ids j).statusId ≠ (ids i).statusId ∧
    (ids j).eventId ≠ (ids i).eventId ∧ (ids j).outboxId ≠ (ids i).outboxId

instance (ids : Nat → StatusIds) (lo hi : Nat) (db : Database) : Decidable (Drawn ids lo hi db) :=
  decidable_of_iff (_ ∧ _ ∧ _)
    ⟨fun h => ⟨h.1, h.2.1, h.2.2⟩, fun h => ⟨h.status, h.unused, h.distinct⟩⟩

section

variable {rt : Runtime} {now : Time} {ids : Nat → StatusIds} {claim : DispatchClaim}
  {safeReason : String} {db db' : Database}

theorem InFlight.completeGuard_eq (h : InFlight now claim db) (now' : Time) :
    completeGuard.holds now' claim claim.ownerId db = dispatching claim db := by
  have hlease := h.lease
  have hlane := h.lane
  have hattempt := h.attempt
  simp only [Database.ownsLease, LeaseRow.heldBy, claimLane, Bool.and_eq_true, Option.any_eq_true,
    beq_iff_eq] at hlease hlane hattempt
  obtain ⟨hconnection, lease, hlease, ⟨howner, htoken⟩, -⟩ := hlease
  obtain ⟨lane, hlane, ⟨⟨hlaneOwner, hlaneToken⟩, hclaimed⟩, -⟩ := hlane
  obtain ⟨attempt, hattempt, ⟨⟨⟨hmessage, hattemptOwner⟩, hattemptToken⟩, hfencing⟩, hphase⟩ :=
    hattempt
  simp [ClaimGuard.holds, completeGuard, dispatching, hconnection, hlease, howner, htoken, hlane,
    hlaneOwner, hlaneToken, hclaimed, hattempt, hmessage, hattemptOwner, hattemptToken, hfencing,
    hphase]

theorem InFlight.congr (h : InFlight now claim db) (htenant : db'.tenantId = db.tenantId)
    (hfleet : db'.fleet = db.fleet) (hdispatch : db'.dispatch = db.dispatch) :
    InFlight now claim db' := by
  refine ⟨?_, ?_, ?_, ?_⟩
  · simpa only [validClaimCall, validDispatchClaim, htenant] using h.valid
  · simpa only [Database.ownsLease, hfleet] using h.lease
  · simpa only [hdispatch] using h.lane
  · simpa only [hdispatch] using h.attempt

/-! ### The loop over the statuses -/

theorem insertOutboundEvent_succeeds (db : Database) {ids : StatusIds} (operation : String)
    {state : MessageState} (hencodes : encodes rt now ids claim state db.tenantId = true)
    (hunused : Unused ids.eventId ids.outboxId db.events) :
    ∃ events, insertOutboundEvent rt ids.eventId ids.outboxId operation claim.message state
        ids.occurredAt now db = .ok { db with events := events } ∧
      ∀ eventId' outboxId', Unused eventId' outboxId' db.events → eventId' ≠ ids.eventId →
        outboxId' ≠ ids.outboxId → Unused eventId' outboxId' events := by
  obtain ⟨body, hbody, hsize⟩ := (Option.any_eq_true _ _).1 hencodes
  obtain ⟨events, hpublish, hothers⟩ := publish_succeeds rt db
    ⟨ids.eventId, "message." ++ state.text, "message", claim.message.id,
      nullIf claim.message.connectionId, claim.message.conversationId, body⟩
    (by simpa using hsize) hunused
  refine ⟨events, ?_, hothers⟩
  rw [bind_ok] at hpublish
  simp only [insertOutboundEvent, bind_ok, orFail_ok]
  exact ⟨body, hbody, hpublish⟩

variable {states : List MessageState} {index : Nat}

theorem recordDispatchStates_succeeds (safeReason : String)
    (hstored : (db.content.messages.find? claim.message.id).isSome)
    (hdrawn : Drawn ids index (index + states.length) db)
    (hencodes : ∀ i state, states[i]? = some state →
      encodes rt now (ids (index + i)) claim state db.tenantId = true) :
    ∃ db', recordDispatchStates rt now ids claim safeReason index states db = .ok db' := by
  induction states generalizing index db with
  | nil => exact ⟨db, rfl⟩
  | cons state states ih =>
    rw [List.length_cons] at hdrawn
    have hindex : index < index + (states.length + 1) := by omega
    have hrow : (db.content.toMessageLog.recordStatus
        { statusId := (ids index).statusId
          messageId := claim.message.id
          state := state
          providerStatus := "gmessages"
          safeReason := safeReason
          observedAt := now + index }).isSome :=
      MessageLog.recordStatus_isSome hstored (hdrawn.status index hindex (Nat.le_refl _))
    obtain ⟨log, hlog⟩ := Option.isSome_iff_exists.1 hrow
    obtain ⟨-, hinsert, hmessages⟩ := MessageLog.recordStatus_eq_some hlog
    obtain ⟨events, hevent, hothers⟩ := insertOutboundEvent_succeeds (db.setLog log)
      "dispatch" (hencodes 0 state rfl)
      (hdrawn.unused index hindex (Nat.le_refl _))
    have hnext : Drawn ids (index + 1) (index + 1 + states.length)
        { db.setLog log with events := events } := by
      refine ⟨fun i hi hlo => ?_, fun i hi hlo => ?_, fun i hi j hj => ?_⟩
      · have hne := (hdrawn.distinct index hindex i (by omega) hlo).1
        exact (Table.find?_insert_of_ne hinsert (Ne.symm hne)).trans
          (hdrawn.status i (by omega) (by omega))
      · obtain ⟨-, hevent, houtbox⟩ := hdrawn.distinct index hindex i (by omega) hlo
        exact hothers _ _ (hdrawn.unused i (by omega) (by omega)) hevent houtbox
      · exact hdrawn.distinct i (by omega) j (by omega)
    have hkept : (log.messages.find? claim.message.id).isSome := hmessages ▸ hstored
    obtain ⟨db', hrest⟩ := ih hkept hnext fun i state' hstate' => by
        have hencoded := hencodes (i + 1) state' hstate'
        rwa [show index + (i + 1) = index + 1 + i by omega] at hencoded
    refine ⟨db', ?_⟩
    simp only [recordDispatchStates, Database.insertMessageStatus, bind_ok, pure_ok, orFail_ok]
    exact ⟨_, ⟨log, hlog, rfl⟩, _, hevent, hrest⟩

theorem recordDispatchStates_encodes
    (h : recordDispatchStates rt now ids claim safeReason index states db = .ok db') {i : Nat}
    {state : MessageState} (hstate : states[i]? = some state) :
    encodes rt now (ids (index + i)) claim state db.tenantId = true := by
  induction states generalizing index i db with
  | nil => simp at hstate
  | cons head states ih =>
    simp only [recordDispatchStates, bind_ok] at h
    obtain ⟨db₁, hstatus, db₂, hevent, hrest⟩ := h
    obtain ⟨log, -, rfl⟩ := insertMessageStatus_ok hstatus
    cases i with
    | zero =>
      cases hstate
      simp only [insertOutboundEvent, Database.insertGatewayEvent, bind_ok, orFail_ok,
        require_ok] at hevent
      obtain ⟨body, hbody, -, ⟨-, hsize, -⟩, -⟩ := hevent
      exact (Option.any_eq_true _ _).2 ⟨body, hbody, hsize⟩
    | succ i =>
      obtain ⟨events, rfl⟩ := insertOutboundEvent_ok hevent
      have hencoded := ih hrest hstate
      rwa [show index + 1 + i = index + (i + 1) by omega] at hencoded

/-! ### The transaction -/

theorem Outcome.states_ne_nil (outcome : Outcome) : outcome.states ≠ [] := by
  cases outcome <;> simp [Outcome.states]

theorem Outcome.derived (outcome : Outcome) :
    deriveMessageState (.dispatching :: outcome.states) = some outcome.state := by
  cases outcome <;> rfl

theorem Outcome.states_valid (outcome : Outcome) :
    (outcome.states.all fun state => state != .queued && state != .dispatching) = true := by
  cases outcome <;> rfl

theorem Outcome.safeReason_size (outcome : Outcome) : outcome.safeReason.utf8ByteSize ≤ 512 := by
  cases outcome <;> decide

theorem completeDispatch_succeeds (rt : Runtime) (now : Time) {outcome : Outcome} {t : Time}
    (hflight : InFlight t claim db)
    (hdispatching : dispatching claim db = true) (hdrawn : Drawn ids 0 outcome.states.length db)
    (hencodes : ∀ i state, outcome.states[i]? = some state →
      encodes rt now (ids i) claim state db.tenantId = true) :
    ∃ db', completeDispatch rt now ids claim outcome.states outcome.safeReason db =
      .ok ((), db') := by
  have hstored : (db.content.messages.find? claim.message.id).isSome := by
    obtain ⟨row, hrow, -⟩ := (Option.any_eq_true _ _).1 hdispatching
    simp [hrow]
  obtain ⟨db', hrecord⟩ := recordDispatchStates_succeeds outcome.safeReason
    hstored (by rwa [Nat.zero_add])
      (fun i state h => by rw [Nat.zero_add]; exact hencodes i state h)
  simp only [completeDispatch, bind_ok, require_ok, pure_ok, Bool.and_eq_true, bne_iff_ne,
    decide_eq_true_eq]
  exact ⟨_, (), ⟨⟨hflight.valid, outcome.states_ne_nil⟩, outcome.safeReason_size⟩, (),
    outcome.states_valid, (), (hflight.completeGuard_eq now).trans hdispatching, db', hrecord, rfl⟩

theorem completeDispatch_ok {t : Time} (hflight : InFlight t claim db)
    (h : completeDispatch rt now ids claim states safeReason db = .ok ((), db')) :
    dispatching claim db = true ∧ ∀ i state, states[i]? = some state →
      encodes rt now (ids i) claim state db.tenantId = true := by
  simp only [completeDispatch, bind_ok, require_ok] at h
  obtain ⟨-, -, -, -, -, hguard, db₁, hrecord, -⟩ := h
  refine ⟨(hflight.completeGuard_eq now).symm.trans hguard, fun i state hstate => ?_⟩
  have hencoded := recordDispatchStates_encodes hrecord hstate
  rwa [Nat.zero_add] at hencoded

/-- What a completion leaves: statuses and events are written, the message takes
the derived state, the attempt is complete and the lane free. -/
structure Completed (now : Time) (claim : DispatchClaim) (outcome : Outcome) (db db' : Database) :
    Prop where
  tenant : db'.tenantId = db.tenantId
  fleet : db'.fleet = db.fleet
  evidence : db'.evidence = db.evidence
  messages : db'.content.messages = db.content.messages.update
    (fun r => r.messageId == claim.message.id) (fun r => { r with currentState := outcome.state })
  attempts : db'.dispatch.attempts = db.dispatch.attempts.update
    (fun r => r.attemptId == claim.attemptId)
    (fun r => { r with
      phase := .complete, safeResult := outcome.safeReason, completedAt := some now })
  lanes : db'.dispatch.lanes = db.dispatch.lanes.update (fun r => r.key == claimLane claim)
    (fun r => { r with ownerId := none, claimedMessageId := none, claimExpiresAt := none })

theorem completeDispatch_completed {outcome : Outcome}
    (h : completeDispatch rt now ids claim outcome.states outcome.safeReason db = .ok ((), db')) :
    Completed now claim outcome db db' := by
  simp only [completeDispatch, bind_ok, pure_pair] at h
  obtain ⟨-, -, -, -, -, -, db₁, hrecord, -, rfl⟩ := h
  obtain ⟨log, events, rfl, hmessages⟩ := recordDispatchStates_ok hrecord
  refine ⟨rfl, rfl, rfl, ?_, rfl, rfl⟩
  rw [← hmessages]
  rfl

end

end MessagingGateway.Dispatch
