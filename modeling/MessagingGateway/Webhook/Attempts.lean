import MessagingGateway.Webhook.Revocation

/-!
# One attempt and its claim renewal

`attempt` runs beside the goroutine of `renewClaim`, other workers and the
administrators. After the HTTP request has returned it stops the renewals, waits
for what their goroutine reports and only then records how the request ended.
The steps below are the points at which the two goroutines meet the database or
each other; between them any other call may come.
-/

namespace MessagingGateway.Webhook

open Relational Domain Store

/-! ### The goroutines -/

def errContextCanceled : Err := ⟨"context canceled", []⟩

def Reply.trouble : Reply → Option Err
  | .failed e => some e
  | .answered false => some errWebhookClaimLost
  | _ => none

inductive Stage
  | opening
  | admitting
  | requesting
  /-- `Deliver` has returned, the renewals are stopped and their result is awaited -/
  | joining (report : Report)
  | completing (report : Report)
  | returned (error : Option Err)
  deriving DecidableEq

inductive Renewal
  | absent
  /-- in its `select` -/
  | idle
  | calling
  | ended (result : Option Err)
  deriving DecidableEq

structure Attempt where
  worker : Worker
  delivery : Delivery
  stage : Stage := .opening
  renewal : Renewal := .absent

def Attempt.stopped (attempt : Attempt) : Bool :=
  match attempt.stage with
  | .joining _ | .completing _ | .returned _ => true
  | _ => false

inductive AttemptEvent
  /-- `Secrets.Open` returns -/
  | opened (ok : Bool)
  | admitClaim (now : Time)
  /-- the `select` of `renewClaim` takes the ticker -/
  | tick
  /-- `RenewClaim` returns its answer -/
  | renew (now : Time)
  /-- `RenewClaim` returns the error of its cancelled context, whether or not the
  statement was committed before -/
  | renewCancelled (committed : Option Time)
  /-- the `select` takes the cancelled context -/
  | renewStopped
  /-- `Deliver` returns, without an error if `ok` -/
  | delivered (ok : Bool) (result : HTTPResult)
  /-- `attempt` receives from `renewResult` -/
  | joined
  | complete (now : Time) (dlqId : String)
  deriving DecidableEq

def Attempt.call (attempt : Attempt) : AttemptEvent → Option Call
  | .admitClaim now =>
    if attempt.stage = .admitting then some (now, .admitClaim attempt.delivery) else none
  | .renew now =>
    if attempt.renewal = .calling then
      some (now, .renewClaim attempt.delivery.deliveryId attempt.delivery.ownerId
        attempt.delivery.claimToken)
    else none
  | .renewCancelled (some now) =>
    if attempt.renewal = .calling ∧ attempt.stopped = true then
      some (now, .renewClaim attempt.delivery.deliveryId attempt.delivery.ownerId
        attempt.delivery.claimToken)
    else none
  | .complete now dlqId =>
    match attempt.stage with
    | .completing report =>
      some (now, .completeAttempt dlqId attempt.worker attempt.delivery report)
    | _ => none
  | _ => none

/-- What the goroutines do after an event, with the reply to the call it made.
An event that does not belong to the place where they stand changes nothing. -/
def Attempt.after (attempt : Attempt) (reply : Option Reply) : AttemptEvent → Attempt
  | .opened ok =>
    if attempt.stage = .opening then
      { attempt with stage := if ok then .admitting else .completing .secretUnavailable }
    else attempt
  | .admitClaim _ =>
    match reply.map Reply.trouble with
    | some none => { attempt with stage := .requesting, renewal := .idle }
    | some (some e) => { attempt with stage := .returned (some e) }
    | none => attempt
  | .tick => if attempt.renewal = .idle then { attempt with renewal := .calling } else attempt
  | .renew _ =>
    match reply.map Reply.trouble with
    | some none => { attempt with renewal := .idle }
    | some (some e) => { attempt with renewal := .ended (some e) }
    | none => attempt
  | .renewCancelled _ =>
    if attempt.renewal = .calling ∧ attempt.stopped = true then
      { attempt with renewal := .ended (some errContextCanceled) }
    else attempt
  | .renewStopped =>
    if attempt.renewal = .idle ∧ attempt.stopped = true then
      { attempt with renewal := .ended none }
    else attempt
  | .delivered ok result =>
    if attempt.stage = .requesting then
      { attempt with stage := .joining (if ok then .delivered result else .failed result) }
    else attempt
  | .joined =>
    match attempt.stage, attempt.renewal with
    | .joining report, .ended none => { attempt with stage := .completing report }
    | .joining _, .ended (some e) => { attempt with stage := .returned (some e) }
    | _, _ => attempt
  | .complete _ _ =>
    match reply with
    | some reply => { attempt with stage := .returned reply.trouble }
    | none => attempt

/-- An event of an attempt: the call it made with its reply, the attempt and the
database afterwards. -/
def Attempt.advance (rt : Runtime) (event : AttemptEvent) (attempt : Attempt)
    (db : WebhookDatabase) :
    Option (Call × Reply) × Attempt × WebhookDatabase :=
  match attempt.call event with
  | some call =>
    (some (call, (step rt call db).1), attempt.after (some (step rt call db).1) event,
      (step rt call db).2)
  | none => (none, attempt.after none event, db)

def Attempt.renewCall (attempt : Attempt) (now : Time) : Call :=
  (now, .renewClaim attempt.delivery.deliveryId attempt.delivery.ownerId
    attempt.delivery.claimToken)

/-- What an event does: it makes the goroutines go on from where they stand, or
it does not belong there and nothing happens. -/
inductive Attempt.Move (rt : Runtime) (attempt : Attempt) (db : WebhookDatabase) :
    AttemptEvent → Attempt → WebhookDatabase → Prop
  | stays (event : AttemptEvent) : Move rt attempt db event attempt db
  | opened (ok : Bool) (h : attempt.stage = .opening) : Move rt attempt db (.opened ok)
      { attempt with stage := if ok then .admitting else .completing .secretUnavailable } db
  | admitted (now : Time) (h : attempt.stage = .admitting)
      (hreply : (step rt (now, .admitClaim attempt.delivery) db).1.trouble = none) :
      Move rt attempt db (.admitClaim now) { attempt with stage := .requesting, renewal := .idle }
        (step rt (now, .admitClaim attempt.delivery) db).2
  | refused (now : Time) (e : Err) (h : attempt.stage = .admitting)
      (hreply : (step rt (now, .admitClaim attempt.delivery) db).1.trouble = some e) :
      Move rt attempt db (.admitClaim now) { attempt with stage := .returned (some e) }
        (step rt (now, .admitClaim attempt.delivery) db).2
  | ticked (h : attempt.renewal = .idle) :
      Move rt attempt db .tick { attempt with renewal := .calling } db
  | renewed (now : Time) (h : attempt.renewal = .calling)
      (hreply : (step rt (attempt.renewCall now) db).1.trouble = none) :
      Move rt attempt db (.renew now) { attempt with renewal := .idle }
        (step rt (attempt.renewCall now) db).2
  | lost (now : Time) (e : Err) (h : attempt.renewal = .calling)
      (hreply : (step rt (attempt.renewCall now) db).1.trouble = some e) :
      Move rt attempt db (.renew now) { attempt with renewal := .ended (some e) }
        (step rt (attempt.renewCall now) db).2
  | cancelled (committed : Option Time) (db' : WebhookDatabase) (h : attempt.renewal = .calling)
      (hstopped : attempt.stopped = true)
      (hdb : db' = db ∨ ∃ now, db' = (step rt (attempt.renewCall now) db).2) :
      Move rt attempt db (.renewCancelled committed)
        { attempt with renewal := .ended (some errContextCanceled) } db'
  | stopped (h : attempt.renewal = .idle) (hstopped : attempt.stopped = true) :
      Move rt attempt db .renewStopped { attempt with renewal := .ended none } db
  | delivered (ok : Bool) (result : HTTPResult) (h : attempt.stage = .requesting) :
      Move rt attempt db (.delivered ok result)
        { attempt with stage := .joining (if ok then .delivered result else .failed result) } db
  | joined (report : Report) (h : attempt.stage = .joining report)
      (hended : attempt.renewal = .ended none) :
      Move rt attempt db .joined { attempt with stage := .completing report } db
  | failed (report : Report) (e : Err) (h : attempt.stage = .joining report)
      (hended : attempt.renewal = .ended (some e)) :
      Move rt attempt db .joined { attempt with stage := .returned (some e) } db
  | completed (now : Time) (dlqId : String) (report : Report)
      (h : attempt.stage = .completing report) :
      Move rt attempt db (.complete now dlqId)
        { attempt with stage := .returned (step rt
          (now, .completeAttempt dlqId attempt.worker attempt.delivery report) db).1.trouble }
        (step rt (now, .completeAttempt dlqId attempt.worker attempt.delivery report) db).2

theorem Attempt.advance_move (rt : Runtime) (attempt : Attempt) (db : WebhookDatabase)
    (event : AttemptEvent) : Move rt attempt db event (attempt.advance rt event db).2.1
      (attempt.advance rt event db).2.2 := by
  cases event with
  | opened ok =>
    by_cases h : attempt.stage = .opening
    · simpa only [advance, call, after, if_pos h] using .opened ok h
    · simpa only [advance, call, after, if_neg h] using .stays _
  | admitClaim now =>
    by_cases h : attempt.stage = .admitting
    · cases hreply : (Webhook.step rt (now, .admitClaim attempt.delivery) db).1.trouble with
      | none =>
        simpa only [advance, call, after, if_pos h, Option.map_some, hreply] using
          .admitted now h hreply
      | some e =>
        simpa only [advance, call, after, if_pos h, Option.map_some, hreply] using
          .refused now e h hreply
    · simpa only [advance, call, after, if_neg h, Option.map_none] using .stays _
  | tick =>
    by_cases h : attempt.renewal = .idle
    · simpa only [advance, call, after, if_pos h] using .ticked h
    · simpa only [advance, call, after, if_neg h] using .stays _
  | renew now =>
    by_cases h : attempt.renewal = .calling
    · cases hreply : (Webhook.step rt (attempt.renewCall now) db).1.trouble with
      | none =>
        have hreply' := hreply
        rw [renewCall] at hreply'
        simpa only [advance, call, after, if_pos h, Option.map_some, hreply'] using
          .renewed now h hreply
      | some e =>
        have hreply' := hreply
        rw [renewCall] at hreply'
        simpa only [advance, call, after, if_pos h, Option.map_some, hreply'] using
          .lost now e h hreply
    · simpa only [advance, call, after, if_neg h, Option.map_none] using .stays _
  | renewCancelled committed =>
    by_cases h : attempt.renewal = .calling ∧ attempt.stopped = true
    · cases committed with
      | none =>
        simpa only [advance, call, after, if_pos h] using .cancelled none db h.1 h.2 (.inl rfl)
      | some now =>
        simpa only [advance, call, after, if_pos h] using
          .cancelled (some now) _ h.1 h.2 (.inr ⟨now, rfl⟩)
    · cases committed <;> simpa only [advance, call, after, if_neg h] using .stays _
  | renewStopped =>
    by_cases h : attempt.renewal = .idle ∧ attempt.stopped = true
    · simpa only [advance, call, after, if_pos h] using .stopped h.1 h.2
    · simpa only [advance, call, after, if_neg h] using .stays _
  | delivered ok result =>
    by_cases h : attempt.stage = .requesting
    · simpa only [advance, call, after, if_pos h] using .delivered ok result h
    · simpa only [advance, call, after, if_neg h] using .stays _
  | joined =>
    simp only [advance, call, after]
    split
    · next report hstage hrenewal => exact .joined report hstage hrenewal
    · next report e hstage hrenewal => exact .failed report e hstage hrenewal
    · exact .stays _
  | complete now dlqId =>
    cases h : attempt.stage with
    | completing report =>
      simpa only [advance, call, after, h] using .completed now dlqId report h
    | _ => simpa only [advance, call, after, h] using .stays _

@[elab_as_elim]
theorem Attempt.advance_rule (rt : Runtime) (attempt : Attempt) (db : WebhookDatabase)
    (event : AttemptEvent) {motive : Attempt → WebhookDatabase → Prop}
    (moved : ∀ attempt' db', Move rt attempt db event attempt' db' → motive attempt' db') :
    motive (attempt.advance rt event db).2.1 (attempt.advance rt event db).2.2 :=
  moved _ _ (attempt.advance_move rt db event)

/-! ### Beside everybody else -/

structure Beside where
  attempt : Attempt
  db : WebhookDatabase

inductive BesideInput
  | own (event : AttemptEvent)
  | other (call : Call)

def besideStep (rt : Runtime) : BesideInput → Beside → Option (Call × Reply) × Beside
  | .own event, w =>
    let (call, attempt, db) := w.attempt.advance rt event w.db
    (call, ⟨attempt, db⟩)
  | .other call, w => (some (call, (step rt call w.db).1), ⟨w.attempt, (step rt call w.db).2⟩)

/-- Nobody else calls with the claim of this attempt: `Claim` hands each claim to
one worker, and `RunBatch` starts one attempt for it. -/
def Alone (w : Beside) : BesideInput → Prop
  | .own _ => True
  | .other call => call.2.heldClaim ≠
      some (w.attempt.delivery.deliveryId, w.attempt.delivery.claimToken)

/-! ### A claim as long as it is the current one -/

def Operation.reportedClaim : Operation → Option (String × Nat)
  | .completeAttempt _ worker delivery report =>
    some ((worker.result delivery report).deliveryId, (worker.result delivery report).claimToken)
  | _ => none

theorem Operation.heldClaim_of_reportedClaim {operation : Operation} {c : String × Nat}
    (h : operation.reportedClaim = some c) : operation.heldClaim = some c := by
  cases operation with
  | completeAttempt => exact h
  | _ => cases h

structure SameClaim (r r' : DeliveryRow) : Prop where
  token : r'.claimToken = r.claimToken
  state : r'.state = r.state
  owner : r'.claimedBy = r.claimedBy
  count : r'.cycleAttemptCount = r.cycleAttemptCount
  started : r.httpStartedAt.isSome = true → r'.httpStartedAt.isSome = true

theorem SameClaim.refl (r : DeliveryRow) : SameClaim r r := ⟨rfl, rfl, rfl, rfl, id⟩

section

variable {rt : Runtime} {db : WebhookDatabase} {d : Delivery} {r : DeliveryRow} {call : Call}

theorem find?_updateDelivery {k k' : String} {f : DeliveryRow → DeliveryRow}
    {hf : ∀ r, (f r).deliveryId = r.deliveryId} {hf' : ∀ r, (f r).endpointId = r.endpointId}
    (hr : db.deliveries.find? k = some r) :
    (db.setTables (db.updateDeliveries (fun r => r.deliveryId == k') f hf hf')).deliveries.find? k =
      some (if k = k' then f r else r) := by
  have hrow : (db.parcel k).row = some r := hr
  have hparcel : (db.setTables (db.updateDeliveries (fun r => r.deliveryId == k') f hf
    hf')).parcel k = _ := @parcel_updateDelivery db.toDeliveryTables k k' f hf hf'
  refine (congrArg Parcel.row hparcel).trans ?_
  split
  · rw [hrow, Option.map_some]
  · exact hrow

theorem step_sameClaim {k : String}
    (hr : db.deliveries.find? k = some r) (hreissues : call.2.reissues = false)
    (hcall : call.2.reportedClaim ≠ some (k, r.claimToken)) :
    ∃ r', (step rt call db).2.deliveries.find? k = some r' ∧ SameClaim r r' := by
  refine step_rule rt call db (fun _ _ => ⟨r, hr, .refl r⟩) fun reply db' hperform => ?_
  obtain ⟨now, operation⟩ := call
  have hsame : (db'.parcel k).row = (db.parcel k).row →
      ∃ r', db'.deliveries.find? k = some r' ∧ SameClaim r r' :=
    fun h => ⟨r, h.trans hr, .refl r⟩
  have hupdated : ∀ (k' : String) {s}, SameClaim r s → SameClaim r (if k = k' then s else r) := by
    intro k' s hs
    split
    · exact hs
    · exact .refl r
  cases operation with
  | publish | createEndpoint | rotateEndpoint | purgeExpiredSecrets =>
    exact hsame (congrArg Parcel.row ((perform_quiet rfl hperform).parcels k))
  | claim | deleteEndpoint | replayDLQ => cases hreissues
  | admitClaim delivery =>
    obtain ⟨answer, hok, -⟩ := replying_ok hperform
    rcases admitClaim_ok hok with ⟨-, rfl⟩ | ⟨-, -, -, rfl⟩
    · exact ⟨r, hr, .refl r⟩
    · exact ⟨_, find?_updateDelivery hr, hupdated _ ⟨rfl, rfl, rfl, rfl, fun _ => rfl⟩⟩
  | renewClaim deliveryId ownerId claimToken =>
    obtain ⟨answer, hok, -⟩ := replying_ok hperform
    rcases renewClaim_ok hok with rfl | ⟨-, -, -, rfl⟩
    · exact ⟨r, hr, .refl r⟩
    · exact ⟨_, find?_updateDelivery hr, hupdated _ ⟨rfl, rfl, rfl, rfl, id⟩⟩
  | completeAttempt dlqId worker delivery report =>
    obtain ⟨s, letter, hcompletion⟩ := completeAttempt_ok (finishing_ok hperform).1
    have hparcel := congrArg Parcel.row (hcompletion.parcels k)
    split at hparcel
    · next hk =>
        subst hk
        obtain rfl := Option.mem_unique hr hcompletion.row
        have hcompletable := hcompletion.completable
        simp only [DeliveryRow.completable, Bool.and_eq_true, beq_iff_eq] at hcompletable
        refine absurd ?_ hcall
        simp only [Operation.reportedClaim, hcompletable.2]
    · exact hsame hparcel

/-- The row of a claim that is the current one, with its request admitted if
`started`. -/
structure Leased (started : Bool) (d : Delivery) (r : DeliveryRow) : Prop where
  state : r.state = .delivering
  owner : r.claimedBy = some d.ownerId
  count : r.cycleAttemptCount = d.attempt
  started : started = true → r.httpStartedAt.isSome = true

/-- A claim that was given out and not reported: it is the current one, or
there is a newer one. -/
def Held (started : Bool) (d : Delivery) (p : Parcel) : Prop :=
  ∃ r, p.row = some r ∧ d.claimToken ≤ r.claimToken ∧
    (r.claimToken = d.claimToken → Leased started d r)

theorem Leased.of_sameClaim {started : Bool} {r' : DeliveryRow}
    (h : Leased started d r) (hsame : SameClaim r r') : Leased started d r' :=
  ⟨hsame.state.trans h.state, hsame.owner.trans h.owner, hsame.count.trans h.count,
    fun hs => hsame.started (h.started hs)⟩

theorem step_held {started : Bool} (hsound : Sound (db.parcel d.deliveryId))
    (hcall : call.2.reportedClaim ≠ some (d.deliveryId, d.claimToken))
    (h : Held started d (db.parcel d.deliveryId)) :
    Held started d ((step rt call db).2.parcel d.deliveryId) := by
  obtain ⟨r, hr, hle, hheld⟩ := h
  by_cases htoken : r.claimToken = d.claimToken
  · cases hreissues : call.2.reissues with
    | true =>
      have hadvanced : Advanced (db.parcel d.deliveryId)
        ((step rt call db).2.parcel d.deliveryId) := reissue_advanced hreissues db d.deliveryId
      obtain ⟨r', hr', rfl | hlt⟩ := hadvanced r hr
      · exact ⟨r', hr', hle, hheld⟩
      · exact ⟨r', hr', by omega, fun heq => by omega⟩
    | false =>
      obtain ⟨r', hr', hsame⟩ : ∃ r', (step rt call db).2.deliveries.find? d.deliveryId = some r' ∧
        SameClaim r r' := step_sameClaim hr hreissues (htoken ▸ hcall)
      exact ⟨r', hr', hsame.token ▸ hle, fun _ => (hheld htoken).of_sameClaim hsame⟩
  · -- the claim is over, and no token decreases
    obtain ⟨r', hr', hle', -⟩ := ((step_effect rt call db).parcels d.deliveryId).kept hsound r hr
    exact ⟨r', hr', hle.trans hle', fun heq => by omega⟩

end

/-! ### Claims as they are given out, and how long they stay -/

section

variable {now again : Time} {ownerId k : String} {limit : Nat} {db db' : WebhookDatabase}
  {deliveries : List Delivery}

/-- A delivery as `Claim` returns it has its claim; rows that cannot be claimed stay. -/
theorem claimPass_rows (h : claimPass now ownerId limit db = .ok (deliveries, db')) :
    (∀ d ∈ deliveries, Held false d (db'.parcel d.deliveryId)) ∧
      ∀ r, db.deliveries.find? k = some r → claimCandidate now db.toDeliveryTables r = false →
        db'.deliveries.find? k = some r := by
  simp only [claimPass, bind_ok, pure_pair] at h
  obtain ⟨tables, hmaterialized, attempts, -, rfl, rfl⟩ := h
  have hstored :=
    (materialized_ok (fun pair hpair => mem_candidatePairs hpair) hmaterialized).stored
  generalize (db.setTables (purged now db.toDeliveryTables)).generationOf = generation
  generalize hchosen : candidates now limit _ = chosen
  have hcandidate : ∀ c ∈ chosen, db.deliveries.find? c.deliveryId = some c ∧
      claimCandidate now db.toDeliveryTables c = true := by
    intro c hc
    rw [← hchosen] at hc
    obtain ⟨hfind, hclaim⟩ := mem_candidates hc
    exact ⟨hfind, by simpa [claimCandidate, WebhookDatabase.setTables] using hclaim⟩
  refine ⟨fun d hd => ?_, fun r hr hkept => ?_⟩
  · obtain ⟨r, hr, hd⟩ := List.mem_filterMap.1 hd
    obtain ⟨c, hc, rfl⟩ := List.mem_map.1 hr
    have hleased := lease_find? now ownerId generation hc (hstored _ _ (hcandidate c hc).1)
    simp only [deliveryOf, Option.map_eq_some_iff] at hd
    obtain ⟨endpoint, -, rfl⟩ := hd
    exact ⟨_, hleased, le_refl _, fun _ => ⟨rfl, rfl, rfl, by rintro ⟨⟩⟩⟩
  · have hfind : (tables.lease now ownerId generation chosen).deliveries.find? k = some r := by
      simp only [DeliveryTables.lease, DeliveryTables.updateDeliveries]
      rw [Table.find?_update, hstored k r hr, Option.map_some, if_neg]
      simp only [List.any_eq_true, beq_iff_eq, not_exists, not_and]
      intro c hc heq
      obtain ⟨hfind, hclaim⟩ := hcandidate c hc
      rw [heq, Table.key_of_find? hr, hr] at hfind
      obtain rfl := Option.some.inj hfind
      rw [hkept] at hclaim
      cases hclaim
    exact hfind

theorem claim_held (h : claim now again ownerId limit db = .ok (deliveries, db'))
    (hd : d ∈ deliveries) : Held false d (db'.parcel d.deliveryId) := by
  simp only [claim, bind_ok, require_ok] at h
  obtain ⟨-, -, ⟨first, middle⟩, hfirst, h⟩ := h
  simp only at h
  split at h
  · exact (claimPass_rows h (k := "")).1 d hd
  · rw [pure_pair] at h
    obtain ⟨rfl, rfl⟩ := h
    exact (claimPass_rows hfirst (k := "")).1 d hd

/-- The instants at which a call compares a claim's expiry with the clock. -/
def Call.instants (call : Call) : List Time :=
  match call.2 with
  | .claim again _ _ => [call.1, again]
  | _ => [call.1]

def DeliveryRow.unexpired (r : DeliveryRow) (call : Call) : Bool :=
  call.instants.all fun t => r.claimExpiresAt.any (t < ·)

theorem DeliveryRow.not_claimCandidate {tables : DeliveryTables}
    (howner : r.claimedBy.isSome = true) (hexpiry : r.claimExpiresAt.any (now < ·) = true) :
    claimCandidate now tables r = false := by
  obtain ⟨owner, howner⟩ := Option.isSome_iff_exists.1 howner
  obtain ⟨t, ht, hlater⟩ := (Option.any_eq_true _ _).1 hexpiry
  simp only [decide_eq_true_eq] at hlater
  have hnot : claimable now r.claimedBy r.claimExpiresAt = false := by
    simp [claimable, howner, ht, hlater]
  simp [claimCandidate, hnot]

/-- What would take a claim away comes before it expires: a `Claim`, or the deletion of
the endpoint, which also comes after the request was admitted. -/
def DeliveryRow.spared (r : DeliveryRow) (call : Call) : Bool :=
  match call.2 with
  | .claim .. => r.unexpired call
  | .deleteEndpoint endpointId =>
    r.endpointId != endpointId || r.httpStartedAt.isSome && r.unexpired call
  | _ => true

/-- Whoever does not hold a claim leaves its row as it is. -/
theorem unheld_keeps {rt : Runtime} (hsound : Sound (db.parcel k))
    (hr : db.deliveries.find? k = some r) (hstate : r.state = .delivering)
    (hheld : call.2.heldClaim ≠ some (k, r.claimToken)) (hspared : r.spared call = true) :
    (step rt call db).2.deliveries.find? k = some r := by
  refine step_rule rt call db (fun _ _ => hr) fun reply db' hperform => ?_
  obtain ⟨now, operation⟩ := call
  have hrow : (db.parcel k).row = some r := hr
  obtain ⟨⟨owner, howner, -⟩, -⟩ := hsound.leased r hrow hstate
  have howner : r.claimedBy.isSome = true := by rw [howner]; rfl
  cases operation with
  | publish | createEndpoint | rotateEndpoint | purgeExpiredSecrets =>
    exact (congrArg Parcel.row ((perform_quiet rfl hperform).parcels k)).trans hr
  | admitClaim delivery =>
    obtain ⟨answer, hok, -⟩ := replying_ok hperform
    rcases admitClaim_ok hok with ⟨-, rfl⟩ | ⟨-, ⟨s, hs, hadmissible⟩, -, rfl⟩
    · exact hr
    refine (find?_updateDelivery hr).trans (congrArg some (if_neg ?_))
    rintro rfl
    obtain rfl := Option.mem_unique hr hs
    simp only [DeliveryRow.admissible, Bool.and_eq_true, beq_iff_eq] at hadmissible
    exact hheld (by rw [Operation.heldClaim, hadmissible.1.1.1.1.2])
  | renewClaim deliveryId ownerId claimToken =>
    obtain ⟨answer, hok, -⟩ := replying_ok hperform
    rcases renewClaim_ok hok with rfl | ⟨s, hs, hrenewable, rfl⟩
    · exact hr
    refine (find?_updateDelivery hr).trans (congrArg some (if_neg ?_))
    rintro rfl
    obtain rfl := Option.mem_unique hr hs
    simp only [DeliveryRow.renewable, Bool.and_eq_true, beq_iff_eq] at hrenewable
    exact hheld (by rw [Operation.heldClaim, hrenewable.1.1.1.2])
  | completeAttempt dlqId worker delivery report =>
    obtain ⟨s, letter, hcompletion⟩ := completeAttempt_ok (finishing_ok hperform).1
    have hparcel := congrArg Parcel.row (hcompletion.parcels k)
    rw [if_neg] at hparcel
    · exact hparcel.trans hr
    rintro rfl
    obtain rfl := Option.mem_unique hr hcompletion.row
    have hcompletable := hcompletion.completable
    simp only [DeliveryRow.completable, Bool.and_eq_true, beq_iff_eq] at hcompletable
    exact hheld (by rw [Operation.heldClaim, hcompletable.2])
  | claim again ownerId limit =>
    obtain ⟨deliveries, hok, -⟩ := replying_ok hperform
    have hunexpired : r.unexpired (now, .claim again ownerId limit) = true := hspared
    simp only [DeliveryRow.unexpired, Call.instants, List.all_cons, List.all_nil, Bool.and_true,
      Bool.and_eq_true] at hunexpired
    simp only [claim, bind_ok, require_ok] at hok
    obtain ⟨-, -, ⟨first, middle⟩, hfirst, hok⟩ := hok
    have hmiddle := (claimPass_rows hfirst).2 r hr (r.not_claimCandidate howner hunexpired.1)
    simp only at hok
    split at hok
    · exact (claimPass_rows hok).2 r hmiddle (r.not_claimCandidate howner hunexpired.2)
    · rw [pure_pair] at hok
      obtain ⟨-, rfl⟩ := hok
      exact hmiddle
  | deleteEndpoint endpointId =>
    obtain ⟨answer, hok, -⟩ := replying_ok hperform
    have hparcel := congrArg Parcel.row ((deleteEndpoint_ok hok).parcels k)
    simp only [DeliveryRow.spared, DeliveryRow.unexpired, Call.instants, List.all_cons,
      List.all_nil,
      Bool.and_true, Bool.or_eq_true, Bool.and_eq_true, bne_iff_ne] at hspared
    have hkept : r.revocable now endpointId = false := by
      rcases hspared with hother | ⟨hstarted, hunexpired⟩
      · simp [DeliveryRow.revocable, hother]
      · obtain ⟨t, ht, hlater⟩ := (Option.any_eq_true _ _).1 hunexpired
        obtain ⟨started, hstarted⟩ := Option.isSome_iff_exists.1 hstarted
        simp only [decide_eq_true_eq] at hlater
        simp [DeliveryRow.revocable, hstarted, ht, hlater]
    rw [hrow, Option.map_some, hkept] at hparcel
    exact hparcel
  | replayDLQ dlqId =>
    obtain ⟨s, letter, hreplay⟩ := replayDLQ_ok (finishing_ok hperform).1
    have hparcel := congrArg Parcel.row (hreplay.parcels k)
    rw [if_neg] at hparcel
    · exact hparcel.trans hr
    · rintro rfl
      obtain ⟨u, hu, hdead⟩ := hsound.unreplayed letter hreplay.stored hreplay.fresh
      obtain rfl := Option.mem_unique hr hu
      rw [hstate] at hdead
      cases hdead

end

end MessagingGateway.Webhook
