import MessagingGateway.Dispatch.Receipts
import MessagingGateway.Dispatch.Sends

/-!
# Runs of the gateway as paths of the dispatch machine

Every call is a step of the dispatch machine, a path of observations, or
nothing the machine can see. What may be asked of a step's label is said in
terms of the call and of the database it was made in.
-/

namespace MessagingGateway.Dispatch

open Relational Domain Store Ingress Gateway

def adapterStates : List (Option MessageState) :=
  [none, some .sent, some .delivered, some .read, some .failed]

def Adapted : Operation → Prop
  | .commitEnvelope _ record => ∀ p ∈ record.projection.messages, p.state ∈ adapterStates
  | _ => True

/-- The connection to whose messages an operation may add a status. -/
def recordsOn : Operation → Option String
  | .claimNext _ _ connectionId _ _ => some connectionId
  | .completeDispatch _ claim _ _ | .releaseBeforeDispatch _ claim _ =>
    some claim.message.connectionId
  | .commitEnvelope _ record => some record.connectionId
  | _ => none

/-- What is assumed of the environment: the database clock has moved on since the last
status of the connection, and receipts come from the adapter. Transactions that write to
messages of one connection read the clock under the row lock of the connection. -/
structure Allowed (db : Database) (call : Call) : Prop where
  clock : ∀ connectionId ∈ recordsOn call.2, PastOn call.1 connectionId db
  adapted : Adapted call.2

instance (db : Database) (call : Call) : Decidable (Allowed db call) := by
  have : Decidable (Adapted call.2) := by
    unfold Adapted
    split <;> infer_instance
  have : ∀ connectionId, Decidable (PastOn call.1 connectionId db) := fun connectionId => by
    unfold PastOn ClockPast
    infer_instance
  exact decidable_of_iff ((∀ connectionId ∈ recordsOn call.2, PastOn call.1 connectionId db) ∧
    Adapted call.2)
    ⟨fun h => ⟨h.1, h.2⟩, fun h => ⟨h.clock, h.adapted⟩⟩

structure Fresh (db : Database) : Prop where
  messages : db.content.messages = ∅
  lanes : db.dispatch.lanes = ∅
  attempts : db.dispatch.attempts = ∅

def begunBy : Operation → Reply → Option String
  | .beginProviderIo claim _, .answered true => some claim.message.id
  | _, _ => none

def begun (trace : List (Call × Reply)) : List String :=
  trace.filterMap fun observation => begunBy observation.1.2 observation.2

/-- The attempt whose lane a call of `ClaimNext` takes over. -/
def takenOver (now : Time) (connectionId orderingKey ownerId : String) (db : Database) :
    Option AttemptRow :=
  if validClaimRoute connectionId orderingKey ownerId db then do
    let _ ← lockedLease now connectionId ownerId db
    let lane ← lockedLane now connectionId orderingKey db
    lockedAttempt lane db
  else none

variable {connectionId ownerId : String}

theorem takenOver_eq_some {now : Time} {orderingKey : String} {db : Database}
    {attempt : AttemptRow} : takenOver now connectionId orderingKey ownerId db = some attempt ↔
      validClaimRoute connectionId orderingKey ownerId db = true ∧ ∃ lease lane,
        lockedLease now connectionId ownerId db = some lease ∧
        lockedLane now connectionId orderingKey db = some lane ∧
        lockedAttempt lane db = some attempt := by
  unfold takenOver
  split <;> simp [*, Option.bind_eq_some_iff]

/-- A lane is taken over only from a message that is still dispatching. -/
def settles (now : Time) (op : Operation) (db : Database) : Bool :=
  match op with
  | .claimNext _ _ connectionId orderingKey ownerId =>
    (takenOver now connectionId orderingKey ownerId db).all fun attempt =>
      (db.content.messages.find? attempt.messageId).any fun message =>
        message.currentState == .dispatching
  | _ => true

/-- A new message is younger than those queued on its lane so far. -/
def CreatesInOrder (op : Operation) (db : Database) : Prop :=
  match op with
  | .createOutbound _ command =>
    match outboundLane command.message db with
    | .error _ => True
    | .ok orderingKey => ∀ row ∈ db.content.messages,
        row.connectionId = command.message.connectionId → row.orderingKey = orderingKey →
        .queued ∈ messageHistory db row.messageId → row.createdAt < command.message.createdAt
  | _ => True

instance (op : Operation) (db : Database) : Decidable (CreatesInOrder op db) := by
  unfold CreatesInOrder
  split
  · split <;> infer_instance
  · infer_instance

/-- When a lane is claimed, the queued messages that other transactions have locked are
no older than the rest. -/
def ClaimsInOrder (op : Operation) (db : Database) : Prop :=
  match op with
  | .claimNext _ locked connectionId orderingKey _ =>
    ∀ held ∈ queuedOn (connectionId, orderingKey) db, held.messageId ∈ locked →
      ∀ row ∈ queuedOn (connectionId, orderingKey) db, row.messageId ∉ locked →
        row.createdAt ≤ held.createdAt
  | _ => True

instance (op : Operation) (db : Database) : Decidable (ClaimsInOrder op db) := by
  unfold ClaimsInOrder
  split <;> infer_instance

def Explains (now : Time) (op : Operation) (db : Database) : Label String LaneKey → Prop
  | .create l t => CreatesInOrder op db → (Label.create l t).InOrder (abs db)
  | .claim l m => ClaimsInOrder op db → (Label.claim l m).InOrder (abs db)
  | .abandon _ => settles now op db = false
  | _ => True

inductive Effect (now : Time) (op : Operation) (reply : Reply) (db db' : Database) : Prop
  | step {label : Label String LaneKey} (step : Step (abs db) label (abs db'))
      (explained : Explains now op db label)
      (sends : begunBy op reply = label.sends)
  | observed (path : Observations (abs db) (abs db')) (sends : begunBy op reply = none)

theorem Effect.of_eq {now : Time} {op : Operation} {reply : Reply} {db db' : Database}
    (h : abs db' = abs db) (sends : begunBy op reply = none) : Effect now op reply db db' :=
  .observed (h ▸ .refl) sends

theorem Unseen.of_fleetOnly {db db' : Database} (h : FleetOnly db db') : Unseen db db' := by
  obtain ⟨fleet, events, rfl⟩ := h
  exact ⟨rfl, rfl, rfl⟩

section

variable {rt : Runtime} {now : Time} {db db' : Database}

theorem createOutbound_effect {ids : CreateIds} {command : CreateOutbound} {result : CreateResult}
    (h : createOutbound rt now ids command db = .ok (result, db')) :
    Effect now (.createOutbound ids command) (.created result) db db' := by
  rcases createOutbound_refines h with ⟨-, hsame⟩ | ⟨-, key, hkey, hfree, habs⟩
  · exact .of_eq hsame rfl
  · have hstep : Step (abs db) (.create (command.message.connectionId, key)
        command.message.createdAt) (abs db') := habs ▸ Step.create hfree
    refine .step hstep (fun horder m μ hm hlane hqueued => ?_) rfl
    obtain ⟨row, hrow, rfl⟩ := Option.map_eq_some_iff.1 hm
    simp only [viewMessage, Prod.mk.injEq] at hlane
    have hid : row.messageId = m := Table.key_of_find? hrow
    simp only [CreatesInOrder, hkey] at horder
    exact horder row (Table.mem_of_find? hrow) hlane.1 hlane.2 (hid ▸ hqueued)

theorem claimNext_effect {ids : ClaimIds} {locked : List String} {orderingKey : String}
    {result : Option DispatchClaim}
    (h : claimNext rt now ids locked connectionId orderingKey ownerId db = .ok (result, db'))
    (hs : Consistent (abs db)) (hpast : PastOn now connectionId db) :
    Effect now (.claimNext ids locked connectionId orderingKey ownerId) (.claimed result) db
      db' := by
  have hvalid : validClaimRoute connectionId orderingKey ownerId db = true := by
    simp only [claimNext, bind_ok, require_ok] at h
    exact h.choose_spec.1
  cases claimNext_refines h hs hpast with
  | idle hsame => exact .of_eq hsame rfl
  | @claimed claim lane message hkey holdest hstep =>
    refine .step hstep (fun horder μ hμ m' μ' hm' hlane' hqueued' => ?_) rfl
    obtain ⟨⟨hmem, hfree⟩, hfirst⟩ := oldestQueued_first holdest
    rw [abs_message_of_find? (Table.find?_of_mem (mem_queuedOn.1 hmem).1)] at hμ
    cases hμ
    obtain ⟨row, hrow, rfl⟩ := Option.map_eq_some_iff.1 hm'
    have hqueued := mem_queuedOn.2 ⟨Table.mem_of_find? hrow, hlane', hqueued'⟩
    rw [hkey] at hmem hfirst
    by_cases hlocked : row.messageId ∈ locked
    · exact horder row hqueued hlocked message hmem hfree
    · exact hfirst row hqueued hlocked
  | recovered hlease hlane hattempt hmessage hstate hstep => exact .step hstep trivial rfl
  | @abandoned lease lane attempt message hlease hlane hattempt hmessage hstate hstep =>
    have htaken := takenOver_eq_some.2 ⟨hvalid, lease, lane, hlease, hlane, hattempt⟩
    exact .step hstep (by simp [Explains, settles, htaken, hmessage, hstate]) rfl

theorem commitEnvelope_effect {ids : CommitIds} {record : EnvelopeRecord} {result : CommitResult}
    (h : commitEnvelope rt now ids record db = .ok (result, db'))
    (hallowed : Allowed db (now, .commitEnvelope ids record)) :
    Effect now (.commitEnvelope ids record) (.committed result) db db' := by
  have hstates : ∀ p ∈ record.projection.messages, p.state ≠ some .queued := by
    intro p hp hqueued
    have hmem : p.state ∈ adapterStates := hallowed.adapted p hp
    simp [hqueued, adapterStates] at hmem
  exact .observed (commitEnvelope_refines h (hallowed.clock _ rfl) hstates) rfl

theorem perform_effect {op : Operation} {reply : Reply}
    (h : perform rt now op db = .ok (reply, db')) (hs : Consistent (abs db))
    (hallowed : Allowed db (now, op)) : Effect now op reply db db' := by
  have hpast : ∀ connectionId ∈ recordsOn op, PastOn now connectionId db := hallowed.clock
  have hunseen (hfleet : op.onFleet = true) : abs db' = abs db :=
    (Unseen.of_fleetOnly (perform_fleetOnly hfleet h)).abs_eq
  cases op <;> simp only [perform] at h <;> obtain ⟨result, hop, rfl⟩ := replying_ok h
  any_goals exact .of_eq (hunseen rfl) rfl
  case createOutbound => exact createOutbound_effect hop
  case claimNext => exact claimNext_effect hop hs (hpast _ rfl)
  case beginProviderIo =>
    rcases beginProviderIo_refines hop with ⟨rfl, hstep⟩ | ⟨rfl, rfl⟩
    · exact .step hstep trivial rfl
    · exact .of_eq rfl rfl
  case renewProviderIo => exact .of_eq (renewProviderIo_refines hop) rfl
  case completeDispatch => exact .step (completeDispatch_refines hop hs (hpast _ rfl)) trivial rfl
  case releaseBeforeDispatch =>
    exact .step (releaseBeforeDispatch_refines hop hs (hpast _ rfl)) trivial rfl
  case recordCreatedConversationFenced => exact .of_eq (recordCreatedConversation_refines hop) rfl
  case commitEnvelope => exact commitEnvelope_effect hop hallowed
  case markProviderACKedFenced =>
    obtain rfl | rfl := markProviderACKedFenced_ok hop <;> exact .of_eq rfl rfl
  case coordinateProviderACKsFenced =>
    obtain rfl | rfl | ⟨_, rfl⟩ := coordinateProviderACKsFenced_ok hop <;> exact .of_eq rfl rfl
  case listPendingProviderACKsFenced =>
    obtain rfl := listPendingProviderACKsFenced_ok hop
    exact .of_eq rfl rfl

end

end MessagingGateway.Dispatch
