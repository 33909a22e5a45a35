import MessagingGateway.Dispatch.Abstraction
import MessagingGateway.Store.Frames

/-!
# The store implements the dispatch machine

Each dispatch operation that commits is one step of the machine read off the
tables, or changes nothing the machine can see. The clock hypothesis says that an
operation reads the database clock after every status recorded for its message so far.
-/

namespace MessagingGateway.Dispatch

open Relational Domain Store

variable {now : Time} {db db' : Database} {rt : Runtime} {claim : DispatchClaim}
  {ownerId connectionId : String} {lane : LaneRow}

structure Unseen (db db' : Database) : Prop where
  log : db'.content.toMessageLog = db.content.toMessageLog
  lanes : db'.dispatch.lanes = db.dispatch.lanes
  attempts : db'.dispatch.attempts = db.dispatch.attempts

namespace Unseen

theorem abs_eq {db db' : Database} (h : Unseen db db') : abs db' = abs db :=
  abs_congr h.log h.lanes h.attempts

end Unseen

def ClockPast (now : Time) (messageId : String) (db : Database) : Prop :=
  ∀ r ∈ db.content.statusHistory, r.messageId = messageId → r.observedAt < now

/-- The clock has moved on since the last status of a message of the connection. -/
def PastOn (now : Time) (connectionId : String) (db : Database) : Prop :=
  ∀ row ∈ db.content.messages, row.connectionId = connectionId → ClockPast now row.messageId db

theorem Unseen.pastOn {c : String} (h : Unseen db db') (hpast : PastOn now c db) :
    PastOn now c db' := by
  unfold PastOn ClockPast
  rw [h.log]
  exact hpast

/-- No status names a message that was not stored before. -/
theorem ClockPast.of_insertMessage {row : MessageRow} {log : MessageLog}
    (h : db.content.toMessageLog.insertMessage row = some log) :
    ClockPast now row.messageId (db.setLog log) := by
  intro r hr hid
  obtain ⟨hinsert, hhistory⟩ := MessageLog.insertMessage_eq_some h
  have hlinked := db.content.statusLinked r (hhistory ▸ hr)
  have hfree : db.content.messages.find? row.messageId = none := (Table.insert_eq_some.1 hinsert).1
  simp [hid, hfree] at hlinked

theorem PastOn.later {now' : Time} {c : String} (h : PastOn now c db) (hle : now ≤ now')
    (hstatus : ∀ r ∈ db'.content.statusHistory,
      r ∈ db.content.statusHistory ∨ r.observedAt < now')
    (hrows : ∀ row' ∈ db'.content.messages, ∀ row ∈ db.content.messages,
      row.messageId = row'.messageId → row.connectionId = row'.connectionId) :
    PastOn now' c db' := by
  intro row' hrow' hc r hr hid
  rcases hstatus r hr with hold | hnew
  · obtain ⟨row, hrow⟩ := Option.isSome_iff_exists.1 (db.content.statusLinked r hold)
    have hkey : row.messageId = r.messageId := Table.key_of_find? hrow
    have hconnection := hrows row' hrow' row (Table.mem_of_find? hrow) (hkey.trans hid)
    exact (h row (Table.mem_of_find? hrow) (hconnection.trans hc) r hold hkey.symm).trans_le hle
  · exact hnew

/-! ### Creation -/

variable {messageId safeReason orderingKey : String} {attempt : AttemptRow} {ids : ClaimIds}
  {message : MessageRow}

theorem abs_ensureLane (db : Database) (c k : String) :
    abs (db.setLanes (db.dispatch.lanes.insertIgnore { connectionId := c, orderingKey := k })) =
      abs db := by
  refine Machine.ext rfl (funext fun l => ?_) rfl
  simp only [abs, Database.setLanes, Table.find?_insertIgnore]
  split
  case isTrue hl =>
    subst hl
    cases h : db.dispatch.lanes.find? (LaneRow.key { connectionId := c, orderingKey := k }) with
    | none => simp [viewLane]
    | some row => simp
  case isFalse => rfl

def queuedMessage (message : OutboundMessage) (orderingKey : String) : Message LaneKey :=
  ⟨(message.connectionId, orderingKey), message.createdAt, .queued, [.queued]⟩

theorem createOutbound_refines {ids : CreateIds} {command : CreateOutbound} {result : CreateResult}
    (h : createOutbound rt now ids command db = .ok (result, db')) :
    (result.outcome ≠ .inserted ∧ abs db' = abs db) ∨
      (result.outcome = .inserted ∧ ∃ orderingKey,
        outboundLane command.message db = .ok orderingKey ∧
        (abs db).message command.message.id = none ∧ abs db' = (abs db).setMessage
          command.message.id (queuedMessage command.message orderingKey)) := by
  simp only [createOutbound, bind_ok] at h
  obtain ⟨-, -, -, -, h⟩ := h
  split at h
  · left
    split at h
    · simp only [bind_ok, pure_pair] at h
      obtain ⟨message, -, db₁, h₁, rfl, rfl⟩ := h
      obtain ⟨_, rfl⟩ := recordKafkaCommand_ok h₁
      exact ⟨by simp, rfl⟩
    · rw [pure_pair] at h
      obtain ⟨rfl, rfl⟩ := h
      exact ⟨by simp, rfl⟩
  · right
    simp only [bind_ok, pure_ok, orFail_ok, Prod.mk.injEq] at h
    obtain ⟨orderingKey, hkey, db₁, hmessage, db₂, hmedia, idempotency, -, db₃, hkafka,
      db₄, hstatus,
      db₅, hevent, rfl, rfl⟩ := h
    obtain ⟨hfree, hinsert⟩ := abs_insertMessage (insertOutboundMessage_ok hmessage)
    obtain ⟨log, hlog, rfl⟩ := insertMessage_eq_some (insertOutboundMessage_ok hmessage)
    obtain ⟨_, -, rfl⟩ := insertOutboundMedia_ok hmedia
    obtain ⟨_, rfl⟩ := recordKafkaCommand_ok hkafka
    refine ⟨rfl, orderingKey, hkey, hfree, ?_⟩
    rw [abs_eventsOnly (insertOutboundEvent_ok hevent),
      abs_insertMessageStatus hstatus (ClockPast.of_insertMessage hlog)]
    refine (congrArg (Machine.modifyMessage · _ _)
      ((abs_ensureLane (db.setLog log) _ _).trans hinsert)).trans ?_
    have hstored : ((abs db).setMessage (outboundRow command.message orderingKey).messageId
        (viewMessage (outboundRow command.message orderingKey) [])).message command.message.id =
        some (viewMessage (outboundRow command.message orderingKey) []) := by
      simp [outboundRow]
    rw [Machine.modifyMessage_of_some hstored]
    exact Machine.setMessage_setMessage _ _ _ _

/-! ### Operations on a claim -/

def claimLane (claim : DispatchClaim) : LaneKey :=
  (claim.message.connectionId, dispatchOrderingKey claim)

structure Guarded (db : Database) (claim : DispatchClaim) (phase : AttemptPhase)
    (att : Attempt String LaneKey) (μ : Message LaneKey) : Prop where
  held : (abs db).Holds (claimLane claim) claim.attemptId att
  message : att.message = claim.message.id
  phase : att.phase = viewPhase phase
  stored : (abs db).message claim.message.id = some μ
  dispatching : μ.state = .dispatching

theorem ClaimGuard.guarded {guard : ClaimGuard} (h : guard.holds now claim ownerId db = true) :
    ∃ att μ, Guarded db claim guard.phase att μ := by
  simp only [ClaimGuard.holds, Bool.and_eq_true, Option.any_eq_true, beq_iff_eq] at h
  obtain ⟨⟨⟨⟨-, -⟩, lane, hlane, ⟨⟨-, htoken⟩, hclaim⟩, -⟩, attempt, hattempt,
    ⟨⟨⟨⟨hmessage, -⟩, htoken'⟩, -⟩, hphase⟩, -⟩, row, hrow, hstate⟩ := h
  refine ⟨viewAttempt attempt, viewMessage row (messageHistory db claim.message.id), ?_⟩
  constructor
  · refine ⟨abs_attempt_of_find? hattempt, ?_, ?_⟩
    · rw [claimLane, abs_lane_of_find? hlane]
      simp [viewAttempt, hclaim, hmessage]
    · rw [claimLane, abs_lane_of_find? hlane]
      simp [viewAttempt, htoken, htoken']
  · exact hmessage
  · simp [viewAttempt, hphase]
  · exact abs_message_of_find? hrow
  · exact hstate

theorem Guarded.past {phase : AttemptPhase} {att : Attempt String LaneKey} {μ : Message LaneKey}
    (g : Guarded db claim phase att μ) (hs : Consistent (abs db))
    (h : PastOn now claim.message.connectionId db) : ClockPast now claim.message.id db := by
  have hlane := hs.claim_message _ _ g.held.claim
  obtain ⟨row, hrow, rfl⟩ := Option.map_eq_some_iff.1 g.stored
  rw [g.message, Machine.laneOf, g.stored] at hlane
  have hid : row.messageId = claim.message.id := Table.key_of_find? hrow
  exact hid ▸ h row (Table.mem_of_find? hrow) (congrArg Prod.fst (Option.some.inj hlane))

theorem beginProviderIo_refines {begun : Bool}
    (h : beginProviderIo now claim ownerId db = .ok (begun, db')) :
    (begun = true ∧ Step (abs db) (.begin claim.message.id) (abs db')) ∨
      (begun = false ∧ db' = db) := by
  simp only [beginProviderIo, bind_ok] at h
  obtain ⟨-, -, h⟩ := h
  split at h
  case isTrue hguard =>
    left
    obtain ⟨att, μ, g⟩ := ClaimGuard.guarded hguard
    rw [pure_pair] at h
    obtain ⟨rfl, rfl⟩ := h
    refine ⟨rfl, ?_⟩
    rw [abs_updateAttempt (g := fun att => { att with phase := .started, begun := true })
      fun _ => rfl, Machine.modifyAttempt_of_some g.held.attempt, ← g.message]
    exact Step.begin g.held g.phase (g.message ▸ g.stored) g.dispatching
  case isFalse =>
    right
    rw [pure_pair] at h
    exact ⟨h.1.symm, h.2.symm⟩

theorem renewProviderIo_refines {renewed : Bool}
    (h : renewProviderIo now claim ownerId db = .ok (renewed, db')) : abs db' = abs db := by
  simp only [renewProviderIo, bind_ok] at h
  obtain ⟨-, -, h⟩ := h
  split at h
  case isTrue =>
    rw [pure_pair] at h
    obtain ⟨rfl, rfl⟩ := h
    refine (abs_updateLane (g := id) (fun _ => ?_) fun _ => rfl).trans ?_
    · rfl
    · exact (abs db).setLane_self _
  case isFalse =>
    rw [pure_pair] at h
    rw [h.2]

theorem recordDispatchStates_refines {ids : Nat → StatusIds} {index : Nat}
    {states : List MessageState}
    (h : recordDispatchStates rt now ids claim safeReason index states db =
      .ok db') (hclock : ClockPast (now + index) claim.message.id db) :
    abs db' = (abs db).modifyMessage claim.message.id fun μ =>
      { μ with history := μ.history ++ states } := by
  induction states generalizing index db with
  | nil =>
    rw [recordDispatchStates, pure_ok] at h
    subst h
    simp only [List.append_nil]
    exact ((abs db).modifyMessage_id claim.message.id).symm
  | cons state states ih =>
    simp only [recordDispatchStates, bind_ok] at h
    obtain ⟨db₁, hstatus, db₂, hevent, hrest⟩ := h
    have hevents := insertOutboundEvent_ok hevent
    have hclock₂ : ClockPast (now + (index + 1)) claim.message.id db₂ := by
      obtain ⟨log, hlog, rfl⟩ := insertMessageStatus_ok hstatus
      obtain ⟨-, hinsert, -⟩ := MessageLog.recordStatus_eq_some hlog
      obtain ⟨events, rfl⟩ := hevents
      intro r hr hid
      rcases (Table.mem_insert hinsert).1 hr with hr | rfl
      · exact (hclock r hr hid).trans (Nat.add_lt_add_left (Nat.lt_succ_self index) now)
      · exact Nat.add_lt_add_left (Nat.lt_succ_self index) now
    rw [ih hrest hclock₂, abs_eventsOnly hevents, abs_insertMessageStatus hstatus hclock]
    simp only [Machine.modifyMessage, Function.update_self, Function.update_idem, Option.map_map]
    congr 2
    refine congrFun (congrArg Option.map (funext fun μ => ?_)) _
    simp

theorem completeDispatch_refines {ids : Nat → StatusIds} {states : List MessageState}
    (h : completeDispatch rt now ids claim states safeReason db = .ok ((), db'))
    (hs : Consistent (abs db)) (hpast : PastOn now claim.message.connectionId db) :
    Step (abs db) .silent (abs db') := by
  simp only [completeDispatch, bind_ok, require_ok, pure_pair] at h
  obtain ⟨-, -, -, hstates, -, hguard, db₁, hrecord, -, rfl⟩ := h
  obtain ⟨att, μ, g⟩ := ClaimGuard.guarded hguard
  rw [abs_releaseLane, abs_completeAttempt, abs_setState,
    recordDispatchStates_refines hrecord (g.past hs hpast), Machine.modifyMessage_twice g.stored,
    Machine.modifyAttempt_of_some (by exact g.held.attempt), ← g.message]
  refine Step.finish g.held g.phase (g.message ▸ g.stored) g.dispatching fun state hmem => ?_
  have hvalid := List.all_eq_true.1 hstates state hmem
  simp only [Bool.and_eq_true, bne_iff_ne] at hvalid
  exact hvalid.1

theorem releaseBeforeDispatch_refines {statusId : String}
    (h : releaseBeforeDispatch now statusId claim safeReason db = .ok ((), db'))
    (hs : Consistent (abs db)) (hpast : PastOn now claim.message.connectionId db) :
    Step (abs db) .silent (abs db') := by
  simp only [releaseBeforeDispatch, bind_ok, require_ok, pure_pair] at h
  obtain ⟨-, -, -, hguard, db₁, hstatus, -, rfl⟩ := h
  obtain ⟨att, μ, g⟩ := ClaimGuard.guarded hguard
  rw [abs_insertMessageStatus hstatus (g.past hs hpast), abs_setState, abs_releaseLane,
    abs_completeAttempt,
    Machine.modifyAttempt_of_some g.held.attempt]
  change Step _ _ (((((abs db).setAttempt claim.attemptId { att with phase := .complete }).freeLane
    (claimLane claim)).modifyMessage claim.message.id _).modifyMessage claim.message.id _)
  rw [Machine.modifyMessage_twice (by exact g.stored), ← g.message]
  exact Step.requeue (μ := μ) g.held g.phase (g.message ▸ g.stored) g.dispatching

theorem recordCreatedConversation_refines {conversationId defaultOutgoingId : String}
    {isGroup : Bool} {fencingToken : Nat}
    (h : recordCreatedConversationFenced now connectionId messageId conversationId
      defaultOutgoingId isGroup ownerId fencingToken db = .ok ((), db')) : abs db' = abs db := by
  simp only [recordCreatedConversationFenced, bind_ok, pure_pair] at h
  obtain ⟨-, -, -, -, message, -, -, -, -, -, -, rfl⟩ := h
  refine (abs_updateMessage (g := id) fun _ _ => ?_).trans ?_
  · rfl
  · exact Machine.modifyMessage_id _ _

/-! ### ClaimNext -/

theorem mem_openAttempts (h : lockedAttempt lane db = some attempt) :
    attempt ∈ db.dispatch.attempts ∧ attempt.laneKey = lane.key ∧
      lane.claimedMessageId = some attempt.messageId ∧ attempt.laneToken = lane.laneToken ∧
      attempt.isOpen = true := by
  have hmem := mem_of_orderByDesc_head? h
  simp only [Table.mem_select, Bool.and_eq_true, beq_iff_eq] at hmem
  obtain ⟨hmem, ⟨⟨hkey, hclaim⟩, htoken⟩, hopen⟩ := hmem
  exact ⟨hmem, hkey, hclaim, htoken, hopen⟩

theorem viewPhase_ne_complete {row : AttemptRow} (h : row.isOpen = true) :
    viewPhase row.phase ≠ .complete := by
  cases hphase : row.phase <;> simp_all [AttemptRow.isOpen, viewPhase]

theorem isOpen_of_viewPhase {row : AttemptRow} (h : viewPhase row.phase ≠ .complete) :
    row.isOpen = true := by
  cases hphase : row.phase <;> simp_all [AttemptRow.isOpen, viewPhase]

theorem lockedAttempt_holds {l : LaneKey}
    (hlane : db.dispatch.lanes.find? l = some lane) (h : lockedAttempt lane db = some attempt) :
    (abs db).Holds l attempt.attemptId (viewAttempt attempt) ∧ attempt.laneKey = l ∧
      viewPhase attempt.phase ≠ .complete := by
  obtain ⟨hmem, hkey, hclaim, htoken, hopen⟩ := mem_openAttempts h
  refine ⟨⟨abs_attempt_of_find? (Table.find?_of_mem hmem), ?_, ?_⟩,
    hkey.trans (Table.key_of_find? hlane), viewPhase_ne_complete hopen⟩
  · simp [abs_lane_of_find? hlane, hclaim, viewAttempt]
  · simp [abs_lane_of_find? hlane, htoken, viewAttempt]

theorem lockedAttempt_none {l : LaneKey} (hlane : db.dispatch.lanes.find? l = some lane)
    (h : lockedAttempt lane db = none) (a : String) (att : Attempt String LaneKey)
    (hold : (abs db).Holds l a att) (hl : att.lane = l) : att.phase = .complete := by
  by_contra hphase
  obtain ⟨row, hrow, rfl⟩ := Option.map_eq_some_iff.1 hold.attempt
  have hclaim := hold.claim
  have htoken := hold.token
  rw [abs_lane_of_find? hlane] at hclaim htoken
  have hempty := orderByDesc_head?_eq_none.1 h
  refine List.eq_nil_iff_forall_not_mem.1 hempty row (Table.mem_select.2
    ⟨Table.mem_of_find? hrow, ?_⟩)
  simp only [Bool.and_eq_true, beq_iff_eq]
  exact ⟨⟨⟨hl.trans (Table.key_of_find? hlane).symm, hclaim⟩, htoken.symm⟩,
    isOpen_of_viewPhase hphase⟩

theorem recoverAttempt_refines (h : recoverAttempt rt now ids attempt message db = .ok db')
    (hclock : ClockPast now message.messageId db) :
    abs db' = (((abs db).modifyMessage message.messageId fun μ =>
      { μ with state := recoveryState attempt.phase }).modifyAttempt attempt.attemptId fun att =>
        { att with phase := .complete }).modifyMessage message.messageId fun μ =>
          { μ with history := μ.history ++ [recoveryState attempt.phase] } := by
  obtain ⟨recorded, hstatus, hevents⟩ := recoverAttempt_ok h
  rw [abs_eventsOnly hevents, abs_insertMessageStatus hstatus hclock, abs_completeAttempt,
    abs_setState]

theorem claimMessage_refines {fencingToken : Nat}
    (h : claimMessage now ids lane ownerId fencingToken message db = .ok (claim, db'))
    (hclock : ClockPast now message.messageId db)
    (hlane : db.dispatch.lanes.find? lane.key = some lane)
    (hmessage : db.content.messages.find? message.messageId = some message) :
    (abs db).attempt ids.attemptId = none ∧
      abs db' = (((abs db).setMessage message.messageId
        ((viewMessage message (messageHistory db message.messageId)).record .dispatching)).setLane
          lane.key ⟨lane.laneToken + 1, some message.messageId⟩).setAttempt ids.attemptId
            ⟨message.messageId, lane.key, lane.laneToken + 1, .claimed, false⟩ := by
  simp only [claimMessage, bind_ok, pure_ok, orFail_ok, Prod.mk.injEq] at h
  obtain ⟨attempts, hinsert, db₁, hstatus, -, -, -, -, -, rfl⟩ := h
  have hfree : db.dispatch.attempts.find? ids.attemptId = none := (Table.insert_eq_some.1 hinsert).1
  refine ⟨by simp [abs, hfree], ?_⟩
  rw [abs_insertMessageStatus hstatus hclock, abs_insertAttempt hinsert, abs_setState]
  have habs : abs (db.updateLane lane.connectionId lane.orderingKey
      (fun r => { r with
        laneToken := r.laneToken + 1
        ownerId := some ownerId
        claimedMessageId := some message.messageId
        claimExpiresAt := some (now + claimInterval) })) =
      (abs db).setLane lane.key ⟨lane.laneToken + 1, some message.messageId⟩ := by
    refine (abs_updateLane (g := fun l => ⟨l.token + 1, some message.messageId⟩) (fun _ => ?_)
      fun hnone => ?_).trans ?_
    · rfl
    · exact absurd (hnone.symm.trans hlane) (by simp)
    · change (abs db).setLane lane.key _ = _
      rw [show (lane.connectionId, lane.orderingKey) = lane.key from rfl, abs_lane_of_find? hlane]
  rw [habs]
  exact Machine.modifyMessage_twice (s := ((abs db).setLane lane.key _).setAttempt ids.attemptId _)
    (abs_message_of_find? hmessage) _ _

/-- What `ClaimNext` does to the machine. A lane is taken over from a claim
that expired: its attempt is settled if the message is still dispatching, and
left open otherwise. -/
inductive ClaimEffect (now : Time) (locked : List String)
    (connectionId orderingKey ownerId : String) (db db' : Database) : Option DispatchClaim → Prop
  | idle (same : abs db' = abs db) :
      ClaimEffect now locked connectionId orderingKey ownerId db db' none
  | claimed {claim : DispatchClaim} {lane : LaneRow} {message : MessageRow}
      (hkey : lane.key = (connectionId, orderingKey))
      (holdest : oldestQueued locked lane db = some message)
      (step : Step (abs db) (.claim (connectionId, orderingKey) message.messageId) (abs db')) :
      ClaimEffect now locked connectionId orderingKey ownerId db db' (some claim)
  | recovered {lease : LeaseRow} {lane : LaneRow} {attempt : AttemptRow} {message : MessageRow}
      (hlease : lockedLease now connectionId ownerId db = some lease)
      (hlane : lockedLane now connectionId orderingKey db = some lane)
      (hattempt : lockedAttempt lane db = some attempt)
      (hmessage : db.content.messages.find? attempt.messageId = some message)
      (hstate : message.currentState = .dispatching)
      (step : Step (abs db) .silent (abs db')) :
      ClaimEffect now locked connectionId orderingKey ownerId db db' none
  | abandoned {lease : LeaseRow} {lane : LaneRow} {attempt : AttemptRow} {message : MessageRow}
      (hlease : lockedLease now connectionId ownerId db = some lease)
      (hlane : lockedLane now connectionId orderingKey db = some lane)
      (hattempt : lockedAttempt lane db = some attempt)
      (hmessage : db.content.messages.find? attempt.messageId = some message)
      (hstate : message.currentState ≠ .dispatching)
      (step : Step (abs db) (.abandon (connectionId, orderingKey)) (abs db')) :
      ClaimEffect now locked connectionId orderingKey ownerId db db' none

theorem lockedLane_find? (h : lockedLane now connectionId orderingKey db = some lane) :
    db.dispatch.lanes.find? (connectionId, orderingKey) = some lane := by
  exact (Option.filter_eq_some_iff.1 h).1

theorem releaseLane_unclaimed (h : lane ∈ (db.releaseLane connectionId orderingKey).dispatch.lanes)
    (hkey : lane.key = (connectionId, orderingKey)) : lane.claimedMessageId = none := by
  obtain ⟨lane₀, -, rfl⟩ := mem_updateLane.1 h
  split
  · rfl
  · simp_all

theorem claimNext_refines {locked : List String} {result : Option DispatchClaim}
    (h : claimNext rt now ids locked connectionId orderingKey ownerId db = .ok (result, db'))
    (hs : Consistent (abs db)) (hpast : PastOn now connectionId db) :
    ClaimEffect now locked connectionId orderingKey ownerId db db' result := by
  simp only [claimNext, bind_ok] at h
  obtain ⟨-, -, h⟩ := h
  split at h
  case h_2 =>
    rw [pure_pair] at h
    obtain ⟨rfl, rfl⟩ := h
    exact .idle rfl
  case h_1 lease lane hlease hlane =>
    have hfind := lockedLane_find? hlane
    have hkey : lane.key = (connectionId, orderingKey) := Table.key_of_find? hfind
    split at h
    case h_1 attempt hattempt =>
      simp only [bind_ok, pure_pair] at h
      obtain ⟨db₁, hsettle, rfl, rfl⟩ := h
      obtain ⟨hold, hl, hphase⟩ := lockedAttempt_holds hfind hattempt
      -- the claimed message is stored
      have hstored := hs.claim_message _ _ hold.claim
      obtain ⟨μ, hμ, hplaced⟩ := Option.map_eq_some_iff.1 hstored
      obtain ⟨message, hmessage, rfl⟩ := Option.map_eq_some_iff.1 hμ
      by_cases hstate : message.currentState = .dispatching
      · have hid : message.messageId = attempt.messageId := Table.key_of_find? hmessage
        have hlocked : (db.content.messages.find? attempt.messageId).filter
            (fun r => r.currentState == .dispatching) = some message := by
          simp [show db.content.messages.find? attempt.messageId = some message from hmessage,
            hstate]
        simp only [settleCrash, hlocked] at hsettle
        refine .recovered hlease hlane hattempt hmessage hstate ?_
        have hclock := hpast message (Table.mem_of_find? hmessage) (congrArg Prod.fst hplaced)
        rw [abs_releaseLane, recoverAttempt_refines hsettle hclock, hid]
        change Step _ _ (((((abs db).modifyMessage attempt.messageId _).modifyMessage
          attempt.messageId _).modifyAttempt attempt.attemptId _).freeLane _)
        rw [Machine.modifyMessage_twice (m := attempt.messageId) (abs_message_of_find? hmessage),
          Machine.modifyAttempt_of_some (by exact hold.attempt)]
        have hstep := Step.recover (μ := viewMessage message (messageHistory db attempt.messageId))
          hold hl hphase (abs_message_of_find? hmessage) hstate
        have hrecovered : recoveredState (viewPhase attempt.phase) =
          recoveryState attempt.phase := by
          cases attempt.phase <;> rfl
        simp only [viewAttempt, hrecovered] at hstep
        exact hstep
      · have hlocked : (db.content.messages.find? attempt.messageId).filter
            (fun r => r.currentState == .dispatching) = none := by
          simp [show db.content.messages.find? attempt.messageId = some message from hmessage,
            hstate]
        simp only [settleCrash, hlocked, pure_ok] at hsettle
        subst hsettle
        refine .abandoned hlease hlane hattempt hmessage hstate ?_
        rw [abs_releaseLane]
        exact Step.abandon hold.claim (abs_message_of_find? hmessage) hstate
    case h_2 hattempt =>
      have hidle := lockedAttempt_none hfind hattempt
      split at h
      case h_1 message holdest =>
        simp only [bind_ok, pure_pair] at h
        obtain ⟨⟨claim, db₁⟩, hclaim, rfl, rfl⟩ := h
        obtain ⟨hmem, hlaneOf, hqueued⟩ := mem_queuedOn.1 (oldestQueued_first holdest).1.1
        rw [hkey] at hlaneOf
        obtain ⟨hfree, habs⟩ := claimMessage_refines hclaim
          (hpast message hmem (congrArg Prod.fst hlaneOf)) (hkey ▸ hfind)
          (Table.find?_of_mem hmem)
        rw [hkey] at habs
        have htoken : ((abs db).lane (connectionId, orderingKey)).token = lane.laneToken := by
          rw [abs_lane_of_find? hfind]
        refine .claimed hkey holdest ?_
        rw [habs, ← htoken]
        exact Step.claim (abs_message_of_find? (Table.find?_of_mem hmem)) hlaneOf
          hqueued hfree hidle
      case h_2 =>
        rw [pure_pair] at h
        obtain ⟨rfl, rfl⟩ := h
        refine .idle ?_
        -- a lane with a claim has an open attempt
        have hclaim : lane.claimedMessageId = none := by
          by_contra hne
          obtain ⟨m, hm⟩ := Option.ne_none_iff_exists'.1 hne
          have hlaneClaim : ((abs db).lane (connectionId, orderingKey)).claim = some m := by
            rw [abs_lane_of_find? hfind, hm]
          obtain ⟨a, att, hold, hl, hphase⟩ := hs.claim_attempt _ _ hlaneClaim
          exact hphase (hidle a att hold hl)
        simp [hclaim]

end MessagingGateway.Dispatch
