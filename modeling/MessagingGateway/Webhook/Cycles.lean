import MessagingGateway.Webhook.Fence

/-!
# The attempts of one cycle

A cycle of a delivery lasts from its creation or its last replay until it is
succeeded or dead. Claiming counts an attempt, admission starts its HTTP request
and the report of the worker ends it. The limit is compared with the count by
the reporting worker alone, so it bounds the reports of a cycle; a claim whose
worker never reports is given out again.
-/

namespace MessagingGateway.Webhook

open Relational Domain Store

def admitted (k : String) (trace : List (Call × Reply)) : Nat :=
  (admissions trace).countP fun e => e.1 == k

def report : Call × Reply → Option String
  | ((_, .completeAttempt _ _ delivery _), .done) => some delivery.deliveryId
  | _ => none

def reported (k : String) (trace : List (Call × Reply)) : Nat :=
  (trace.filterMap report).count k

/-- The workers that report give up after the same number of attempts. -/
def Operation.limited (maxAttempts : Nat) : Operation → Prop
  | .completeAttempt _ worker _ _ => worker.maxAttempts = maxAttempts
  | _ => True

instance (maxAttempts : Nat) : DecidablePred (Operation.limited maxAttempts) := fun operation => by
  cases operation <;> unfold Operation.limited <;> infer_instance

def InCycle (maxAttempts : Nat) (k : String) (db : WebhookDatabase) (call : Call) : Prop :=
  (db.deliveries.find? k).all (fun r => r.state.isOpen) = true ∧ call.2.limited maxAttempts

instance (maxAttempts : Nat) (k : String) (db : WebhookDatabase) :
    DecidablePred (InCycle maxAttempts k db) := fun _ => inferInstanceAs (Decidable (_ ∧ _))

/-- A cycle begins: the delivery does not exist yet or has not been claimed
since it was created or replayed. -/
def CycleStarts (k : String) (db : WebhookDatabase) : Prop :=
  (db.deliveries.find? k).all (fun r => r.state == .pending && r.cycleAttemptCount == 0) = true

/-! ### What a report says -/

@[simp] theorem Worker.result_attempt (worker : Worker) (delivery : Delivery) (how : Report) :
    (worker.result delivery how).attempt = delivery.attempt := by
  cases how with
  | secretUnavailable => rfl
  | failed result => rfl
  | delivered result => simp only [Worker.result]; split <;> rfl

@[simp] theorem Worker.result_deliveryId (worker : Worker) (delivery : Delivery) (how : Report) :
    (worker.result delivery how).deliveryId = delivery.deliveryId := by
  cases how with
  | secretUnavailable => rfl
  | failed result => rfl
  | delivered result => simp only [Worker.result]; split <;> rfl

theorem Worker.result_dead (worker : Worker) (delivery : Delivery) (how : Report) :
    (worker.result delivery how).dead =
      (!(worker.result delivery how).succeeded && decide
        (worker.maxAttempts ≤ delivery.attempt)) := by
  cases how with
  | secretUnavailable => rfl
  | failed result => rfl
  | delivered result => simp only [Worker.result]; split <;> rfl

variable {r r' : DeliveryRow} {now : Time} {delivery : Delivery}

theorem DeliveryRow.complete_isOpen {active : Bool}
    {result : AttemptResult} : (r.complete now active result).state.isOpen =
      (active && !result.succeeded && !result.dead) := by
  simp only [DeliveryRow.complete]
  cases active <;> cases result.succeeded <;> cases result.dead <;> rfl

theorem DeliveryRow.complete_not_delivering (r : DeliveryRow) (now : Time) (active : Bool)
    (result : AttemptResult) : (r.complete now active result).state ≠ .delivering := by
  simp only [DeliveryRow.complete]
  cases active <;> cases result.succeeded <;> cases result.dead <;> rintro ⟨⟩

/-! ### The ledger of a cycle -/

/-- The counted attempts against the requests admitted and the attempts reported. -/
structure Ledger (maxAttempts requests reports : Nat) (p : Parcel) : Prop where
  absent : p.row = none → requests = 0 ∧ reports = 0
  counted : ∀ r, p.row = some r →
    requests ≤ r.cycleAttemptCount ∧ reports ≤ r.cycleAttemptCount ∧ reports ≤ maxAttempts
  /-- a report at the limit ends the cycle -/
  below : ∀ r, p.row = some r → r.state.isOpen = true → reports < maxAttempts
  /-- the current claim has not been reported -/
  leased : ∀ r, p.row = some r → r.state = .delivering → reports < r.cycleAttemptCount
  /-- nor has its request been admitted as long as the column says so -/
  unsent : ∀ r, p.row = some r → r.state = .delivering → r.httpStartedAt = none →
    requests < r.cycleAttemptCount

namespace Ledger

variable {active : String → Bool} {maxAttempts requests reports : Nat} {p p' : Parcel}

theorem of_claiming (hpositive : 1 ≤ maxAttempts) (h : Ledger maxAttempts requests reports p)
    (hclaiming : Claiming active p p') : Ledger maxAttempts requests reports p' := by
  cases hclaiming with
  | created now event endpoint hrow hletter hactive h' =>
    subst h'
    obtain ⟨rfl, rfl⟩ := h.absent hrow
    refine ⟨nofun, ?_, ?_, ?_, ?_⟩
    · rintro r -
      simp
    · rintro r - -
      omega
    · rintro r ⟨⟩ hstate
      cases hstate
    · rintro r ⟨⟩ hstate
      cases hstate
  | claimed now ownerId generation r attempted hrow hactive hopen howner hnew h' =>
    subst h'
    obtain ⟨hrequests, hreports, hlimit⟩ := h.counted r hrow
    have hbelow := h.below r hrow hopen
    refine ⟨nofun, ?_, ?_, ?_, ?_⟩ <;> rintro s ⟨⟩ <;> simp only [DeliveryRow.claim] <;> omega

theorem of_claimings (hpositive : 1 ≤ maxAttempts) (h : Ledger maxAttempts requests reports p)
    (hclaimings : Relation.ReflTransGen (Claiming active) p p') :
    Ledger maxAttempts requests reports p' := by
  induction hclaimings with
  | refl => exact h
  | tail _ hclaiming ih => exact ih.of_claiming hpositive hclaiming

theorem of_same (h : Ledger maxAttempts requests reports p)
    (hrow : p.row = some r) (hrow' : p'.row = some r') (hstate : r'.state = r.state)
    (hcount : r'.cycleAttemptCount = r.cycleAttemptCount)
    (hstarted : r'.httpStartedAt = r.httpStartedAt) : Ledger maxAttempts requests reports p' := by
  refine ⟨fun hnone => ?_, fun s hs => ?_, fun s hs => ?_, fun s hs => ?_, fun s hs => ?_⟩
  · rw [hrow'] at hnone
    cases hnone
  all_goals
    obtain rfl := Option.mem_unique hrow' hs
    first | rw [hcount] | skip
    first | rw [hstate] | skip
    first | rw [hstarted] | skip
  · exact h.counted r hrow
  · exact h.below r hrow
  · exact h.leased r hrow
  · exact h.unsent r hrow

theorem of_terminal (h : Ledger maxAttempts requests reports p)
    (hrow : p.row = some r) (hrow' : p'.row = some r') (hstate : r'.state.isOpen = false)
    (hcount : r'.cycleAttemptCount = r.cycleAttemptCount) :
    Ledger maxAttempts requests reports p' := by
  have hclosed : r'.state ≠ .delivering := by
    intro heq
    rw [heq] at hstate
    cases hstate
  refine ⟨fun hnone => ?_, fun s hs => ?_, fun s hs hopen => ?_, fun s hs hleased => ?_,
    fun s hs hleased => ?_⟩
  · rw [hrow'] at hnone
    cases hnone
  all_goals obtain rfl := Option.mem_unique hrow' hs
  · rw [hcount]
    exact h.counted r hrow
  · rw [hstate] at hopen
    cases hopen
  · exact absurd hleased hclosed
  · exact absurd hleased hclosed

theorem of_admitted (h : Ledger maxAttempts requests reports p) (hrow : p.row = some r)
    (hr : r.admissible now delivery = true)
    (hrow' : p'.row = some { r with httpStartedAt := some now }) :
    Ledger maxAttempts (requests + 1) reports p' := by
  simp only [DeliveryRow.admissible, Bool.and_eq_true, beq_iff_eq,
    Option.isNone_iff_eq_none] at hr
  obtain ⟨⟨⟨-, hstate⟩, hunsent⟩, -⟩ := hr
  have hcounted := h.counted r hrow
  have hrequests := h.unsent r hrow hstate hunsent
  refine ⟨fun hnone => ?_, fun s hs => ?_, fun s hs => ?_, fun s hs => ?_, fun s hs => ?_⟩
  · rw [hrow'] at hnone
    cases hnone
  all_goals obtain rfl := Option.some.inj (hrow'.symm.trans hs)
  · exact ⟨hrequests, hcounted.2⟩
  · exact h.below r hrow
  · exact h.leased r hrow
  · rintro - ⟨⟩

theorem of_completed {worker : Worker} {how : Report}
    {isActive : Bool} (h : Ledger worker.maxAttempts requests reports p)
    (hrow : p.row = some r) (hr : r.completable (worker.result delivery how) = true)
    (hrow' : p'.row = some (r.complete now isActive (worker.result delivery how))) :
    Ledger worker.maxAttempts requests (reports + 1) p' := by
  have hparts := hr
  simp only [DeliveryRow.completable, Bool.and_eq_true, beq_iff_eq] at hparts
  obtain ⟨⟨⟨hstate, hcount⟩, -⟩, -⟩ := hparts
  have hcounted := h.counted r hrow
  have hbelow := h.below r hrow (by rw [hstate]; rfl)
  have hleased := h.leased r hrow hstate
  have hdead := worker.result_dead delivery how
  refine ⟨fun hnone => ?_, fun s hs => ?_, fun s hs hopen => ?_, fun s hs hdelivering => ?_,
    fun s hs hdelivering => ?_⟩
  · rw [hrow'] at hnone
    cases hnone
  all_goals obtain rfl := Option.some.inj (hrow'.symm.trans hs)
  · exact ⟨hcounted.1, hleased, hbelow⟩
  · rw [DeliveryRow.complete_isOpen, worker.result_dead] at hopen
    simp only [Bool.and_eq_true, Bool.not_eq_true', Bool.and_eq_false_iff,
      decide_eq_false_iff_not] at hopen
    obtain ⟨⟨-, hfailed⟩, hdone | hremain⟩ := hopen
    · rw [hfailed] at hdone
      cases hdone
    · rw [Worker.result_attempt] at hcount
      omega
  · exact absurd hdelivering (r.complete_not_delivering now isActive _)
  · exact absurd hdelivering (r.complete_not_delivering now isActive _)

end Ledger

/-! ### The ledger along a run -/

section

variable {rt : Runtime} {maxAttempts requests reports : Nat} {k : String} {db : WebhookDatabase}

/-- How much an observation adds to the requests and to the reports of a delivery. -/
def admittedBy (k : String) (e : Call × Reply) : Nat :=
  if (admission e).any (fun claim => claim.1 == k) then 1 else 0

def reportedBy (k : String) (e : Call × Reply) : Nat := if report e = some k then 1 else 0

theorem admitted_append (trace : List (Call × Reply)) (e : Call × Reply) :
    admitted k (trace ++ [e]) = admitted k trace + admittedBy k e := by
  unfold admitted admissions admittedBy
  rw [List.filterMap_append, List.countP_append]
  cases h : admission e <;> simp [h, List.countP_cons]

theorem reported_append (trace : List (Call × Reply)) (e : Call × Reply) :
    reported k (trace ++ [e]) = reported k trace + reportedBy k e := by
  unfold reported reportedBy
  rw [List.filterMap_append, List.count_append]
  cases h : report e <;> simp [h, List.count_cons]

theorem Ledger.of_silent {e : Call × Reply} {p : Parcel}
    (h : Ledger maxAttempts requests reports p) (hadmission : admission e = none)
    (hreport : report e = none) :
    Ledger maxAttempts (requests + admittedBy k e) (reports + reportedBy k e) p := by
  simpa [admittedBy, reportedBy, hadmission, hreport] using h

theorem step_ledger (call : Call) (hpositive : 1 ≤ maxAttempts) (hsound : Sound (db.parcel k))
    (hcycle : InCycle maxAttempts k db call)
    (h : Ledger maxAttempts requests reports (db.parcel k)) :
    Ledger maxAttempts (requests + admittedBy k (call, (step rt call db).1))
      (reports + reportedBy k (call, (step rt call db).1)) ((step rt call db).2.parcel k) := by
  obtain ⟨now, operation⟩ := call
  refine step_rule rt (now, operation) db (fun _ _ => h.of_silent (by cases operation <;> rfl)
    (by cases operation <;> rfl)) fun reply db' hperform => ?_
  cases operation with
  | publish | createEndpoint | rotateEndpoint | purgeExpiredSecrets =>
    rw [(perform_quiet rfl hperform).parcels]
    exact h.of_silent rfl rfl
  | claim again ownerId limit =>
    obtain ⟨deliveries, hok, rfl⟩ := replying_ok hperform
    exact (h.of_claimings hpositive ((claim_ok hok).parcels k)).of_silent rfl rfl
  | admitClaim delivery =>
    obtain ⟨answer, hok, rfl⟩ := replying_ok hperform
    rcases admitClaim_ok hok with ⟨rfl, rfl⟩ | ⟨rfl, ⟨r, hr, hadmissible⟩, -, rfl⟩
    · exact h.of_silent rfl rfl
    · rw [parcel_setTables, parcel_updateDelivery]
      by_cases hk : k = delivery.deliveryId
      · subst hk
        have hrow : (db.parcel delivery.deliveryId).row = some r := hr
        have hadmitted : Ledger maxAttempts (requests + 1) reports
            { db.parcel delivery.deliveryId with
              row := some { r with httpStartedAt := some now } } :=
          h.of_admitted hrow hadmissible rfl
        simpa [admittedBy, admission, reportedBy, report, hrow] using hadmitted
      · simpa [admittedBy, admission, reportedBy, report, hk, Ne.symm hk] using h
  | renewClaim deliveryId ownerId claimToken =>
    obtain ⟨answer, hok, rfl⟩ := replying_ok hperform
    refine Ledger.of_silent ?_ rfl rfl
    rcases renewClaim_ok hok with rfl | ⟨r, hr, -, rfl⟩
    · exact h
    · rw [parcel_setTables, parcel_updateDelivery]
      split
      · next hk =>
          subst hk
          have hrow : (db.parcel k).row = some r := hr
          have hrow' : some { r with claimExpiresAt := some (now + claimInterval) } =
              (db.parcel k).row.map fun r =>
                { r with claimExpiresAt := some (now + claimInterval) } := by
            rw [hrow, Option.map_some]
          exact h.of_same hrow hrow'.symm rfl rfl rfl
      · exact h
  | completeAttempt dlqId worker delivery how =>
    obtain ⟨hok, rfl⟩ := finishing_ok hperform
    obtain ⟨r, letter, hcompletion⟩ := completeAttempt_ok hok
    obtain rfl : worker.maxAttempts = maxAttempts := hcycle.2
    rw [hcompletion.parcels, Worker.result_deliveryId]
    split
    · next hk =>
        subst hk
        have hrow := hcompletion.row
        rw [Worker.result_deliveryId] at hrow
        simp only [admittedBy, admission, reportedBy, report, Option.any_none,
          Bool.false_eq_true, if_false, if_true, Nat.add_zero]
        exact h.of_completed hrow hcompletion.completable rfl
    · next hk => simpa [admittedBy, admission, reportedBy, report, Ne.symm hk] using h
  | deleteEndpoint endpointId =>
    obtain ⟨answer, hok, rfl⟩ := replying_ok hperform
    refine Ledger.of_silent ?_ rfl rfl
    rw [(deleteEndpoint_ok hok).parcels]
    cases hrow : (db.parcel k).row with
    | none =>
      refine ⟨fun _ => h.absent hrow, ?_, ?_, ?_, ?_⟩ <;> · intro r hr; cases hr
    | some r =>
      by_cases hrevocable : r.revocable now endpointId = true
      · have hrow' :
          (some r).map (fun r => if r.revocable now endpointId then r.revoke now else r) =
            some (r.revoke now) := by simp [hrevocable]
        exact h.of_terminal hrow hrow' rfl rfl
      · have hrow' :
          (some r).map (fun r => if r.revocable now endpointId then r.revoke now else r) =
            some r := by simp [hrevocable]
        exact h.of_same hrow hrow' rfl rfl rfl
  | replayDLQ dlqId =>
    obtain ⟨hok, rfl⟩ := finishing_ok hperform
    obtain ⟨r, letter, hreplay⟩ := replayDLQ_ok hok
    refine Ledger.of_silent ?_ rfl rfl
    rw [hreplay.parcels]
    split
    · next hk =>
        -- a letter that can be replayed belongs to a dead delivery
        subst hk
        obtain ⟨s, hs, hdead⟩ := hsound.unreplayed letter hreplay.stored hreplay.fresh
        have hopen := hcycle.1
        have hfind : db.deliveries.find? letter.deliveryId = some s := hs
        rw [hfind, Option.all_some, hdead] at hopen
        cases hopen
    · exact h

theorem run_ledger {tenantId : String} {before trace : List (Call × Reply)}
    {db₀ : WebhookDatabase} (hpositive : 1 ≤ maxAttempts)
    (hreach : Deliveries rt (newTenant tenantId) before db₀) (hstart : CycleStarts k db₀)
    (hrun : Run (step rt) (InCycle maxAttempts k) db₀ trace db) :
    Ledger maxAttempts (admitted k trace) (reported k trace) (db.parcel k) := by
  have hboth := hrun.invariant_trace (P := fun trace db => (∀ k, Sound (db.parcel k)) ∧
    Ledger maxAttempts (admitted k trace) (reported k trace) (db.parcel k)) ?_ ?_
  · exact hboth.2
  · intro trace db call hcycle ⟨hsound, hledger⟩
    refine ⟨step_sound call hsound, ?_⟩
    rw [admitted_append, reported_append]
    exact step_ledger call hpositive (hsound k) hcycle hledger
  · refine ⟨run_sound hreach, fun _ => ⟨rfl, rfl⟩, ?_, ?_, ?_, ?_⟩
    · intro r hr
      simp [admitted, admissions, reported]
    · intro r hr hopen
      exact hpositive
    all_goals
      intro r hr hdelivering
      have hfind : db₀.deliveries.find? k = some r := hr
      rw [CycleStarts, hfind, Option.all_some, hdelivering] at hstart
      cases hstart

end

/-- What the limit bounds in a cycle: the attempts that workers reported. The
requests exceed it by at most the claims that nobody reported, and a delivery is
dead for exhaustion only once the cycle counts as many claims as the limit. -/
structure AttemptsBounded (rt : Runtime) (maxAttempts : Nat) (k : String)
    (trace : List (Call × Reply)) (db : WebhookDatabase) : Prop where
  reports : reported k trace ≤ maxAttempts
  requests : ∀ r, db.deliveries.find? k = some r →
    admitted k trace ≤ r.cycleAttemptCount ∧
      admitted k trace ≤ maxAttempts + (r.cycleAttemptCount - reported k trace)
  exhausted : ∀ now dlqId worker delivery how r r', worker.maxAttempts = maxAttempts →
    delivery.deliveryId = k → db.deliveries.find? k = some r →
    db.endpointActive r.endpointId = true →
    (step rt (now, .completeAttempt dlqId worker delivery how) db).1 = .done →
    (step rt (now, .completeAttempt dlqId worker delivery how) db).2.deliveries.find? k = some r' →
    r'.state = .dead → maxAttempts ≤ r.cycleAttemptCount

theorem exhausted_at_limit {rt : Runtime} {dlqId : String} {worker : Worker}
    {how : Report} {db : WebhookDatabase} (hrow : db.deliveries.find? delivery.deliveryId = some r)
    (hactive : db.endpointActive r.endpointId = true)
    (hdone : (step rt (now, .completeAttempt dlqId worker delivery how) db).1 = .done)
    (hrow' : (step rt (now, .completeAttempt dlqId worker delivery how) db).2.deliveries.find?
      delivery.deliveryId = some r')
    (hdead : r'.state = .dead) : worker.maxAttempts ≤ r.cycleAttemptCount := by
  revert hdone hrow'
  refine step_rule rt (now, .completeAttempt dlqId worker delivery how) db nofun
    fun reply db' hperform _ hrow' => ?_
  obtain ⟨s, letter, hcompletion⟩ := completeAttempt_ok (finishing_ok hperform).1
  have hs := hcompletion.row
  have hparcel := hcompletion.parcels delivery.deliveryId
  rw [Worker.result_deliveryId] at hs
  rw [Worker.result_deliveryId, if_pos rfl] at hparcel
  obtain rfl := Option.mem_unique hrow hs
  have hafter : db'.deliveries.find? delivery.deliveryId =
      some (r.complete now (db.endpointActive r.endpointId) (worker.result delivery how)) :=
    congrArg Parcel.row hparcel
  obtain rfl := Option.some.inj (hafter.symm.trans hrow')
  have hcompletable := hcompletion.completable
  simp only [DeliveryRow.completable, Worker.result_attempt, Bool.and_eq_true, beq_iff_eq]
    at hcompletable
  rw [hactive] at hdead
  simp only [DeliveryRow.complete, Bool.not_true, Bool.false_eq_true, if_false] at hdead
  cases hsucceeded : (worker.result delivery how).succeeded with
  | true => simp [hsucceeded] at hdead
  | false =>
    cases hlast : (worker.result delivery how).dead with
    | false => simp [hsucceeded, hlast] at hdead
    | true =>
      rw [worker.result_dead, hsucceeded] at hlast
      simp only [Bool.not_false, Bool.true_and, decide_eq_true_eq] at hlast
      omega

theorem attempts_bounded (rt : Runtime) {tenantId k : String} {maxAttempts : Nat}
    {before trace : List (Call × Reply)} {db₀ db : WebhookDatabase} (hpositive : 1 ≤ maxAttempts)
    (hreach : Deliveries rt (newTenant tenantId) before db₀) (hstart : CycleStarts k db₀)
    (hrun : Run (step rt) (InCycle maxAttempts k) db₀ trace db) :
    AttemptsBounded rt maxAttempts k trace db := by
  have hledger := run_ledger hpositive hreach hstart hrun
  have hreports : reported k trace ≤ maxAttempts := by
    cases hrow : (db.parcel k).row with
    | none => exact (hledger.absent hrow).2 ▸ Nat.zero_le _
    | some r => exact (hledger.counted r hrow).2.2
  refine ⟨hreports, fun r hr => ?_, ?_⟩
  · obtain ⟨hrequests, hcounted, -⟩ := hledger.counted r hr
    omega
  · rintro now dlqId worker delivery how r r' rfl rfl hrow hactive hdone hrow' hdead
    exact exhausted_at_limit hrow hactive hdone hrow' hdead

/-- A worker admits its request and crashes; its claim expires and is given out
again. -/
def hookAbandoned : List Call :=
  hookClaimed ++
    [(3, .admitClaim (hookDelivery 1 1)),
      (2 + claimInterval, .claim (2 + claimInterval) "worker" 8),
      (3 + claimInterval, .admitClaim (hookDelivery 2 2))]

def hookUnopened : List Call :=
  hookClaimed ++
    [(4, .completeAttempt "letter" (hookWorker 1) (hookDelivery 1 1) .secretUnavailable)]

theorem hookAbandoned_bounded :
    AttemptsBounded hookRuntime 1 "hook:event"
      (execute (step hookRuntime) hookAbandoned (newTenant "tenant")).1
      (execute (step hookRuntime) hookAbandoned (newTenant "tenant")).2 :=
  attempts_bounded hookRuntime (by decide) .nil rfl
    (Run.of_inputs hookAbandoned (by decide +kernel))

/-- With a limit of one attempt, two requests are admitted in a cycle that is
still open, and a delivery is dead for exhaustion without any request. -/
theorem limit_does_not_bound_requests :
    (AllAllowed (step hookRuntime) (InCycle 1 "hook:event") hookAbandoned (newTenant "tenant") ∧
      admitted "hook:event" (execute (step hookRuntime) hookAbandoned (newTenant "tenant")).1 = 2) ∧
    (AllAllowed (step hookRuntime) (InCycle 1 "hook:event") hookUnopened (newTenant "tenant") ∧
      admitted "hook:event" (execute (step hookRuntime) hookUnopened (newTenant "tenant")).1 = 0 ∧
      ((execute (step hookRuntime) hookUnopened (newTenant "tenant")).2.deliveries.find?
        "hook:event").map DeliveryRow.state = some .dead ∧
      (execute (step hookRuntime) hookUnopened (newTenant "tenant")).2.endpointActive "hook") := by
  decide +kernel

end MessagingGateway.Webhook
