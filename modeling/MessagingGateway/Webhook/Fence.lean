import MessagingGateway.Webhook.Moves

/-!
# The claim token as a fence

The token of a delivery grows whenever a claim is given out or taken back, so
owner and token name one claim for ever: its HTTP request is admitted once, and
whoever comes back with an older token changes nothing.
-/

namespace MessagingGateway.Webhook

open Relational Domain Store

/-! ### What holds of every parcel -/

structure Sound (p : Parcel) : Prop where
  /-- a delivery that nobody is delivering carries no claim -/
  idle : ∀ r, p.row = some r → r.state ≠ .delivering → r.claimedBy = none ∧ r.claimExpiresAt = none
  /-- one that is being delivered carries a complete one -/
  leased : ∀ r, p.row = some r → r.state = .delivering →
    (∃ ownerId, r.claimedBy = some ownerId ∧ validOwner ownerId = true) ∧
      r.claimExpiresAt.isSome ∧ 1 ≤ r.claimToken ∧ 1 ≤ r.cycleAttemptCount ∧
      p.attempted r.attemptCount = true
  named : ∀ r, p.row = some r → r.deliveryId ≠ ""
  /-- a letter that was not replayed belongs to a dead delivery -/
  unreplayed : ∀ l, p.letter = some l → l.replayedAt = none → ∃ r, p.row = some r ∧ r.state = .dead

namespace Sound

variable {active : String → Bool} {p p' : Parcel}

theorem letter_replayed (h : Sound p) {r : DeliveryRow} (hrow : p.row = some r)
    (hstate : r.state ≠ .dead) {l : DeadLetterRow} (hl : p.letter = some l) :
    l.replayedAt ≠ none := by
  intro hnone
  obtain ⟨s, hs, hdead⟩ := h.unreplayed l hl hnone
  rw [hrow] at hs
  cases hs
  exact hstate hdead

theorem of_claiming (h : Sound p) (hturn : Claiming active p p') : Sound p' := by
  cases hturn with
  | created now event endpoint hrow hletter hactive h' =>
    subst h'
    refine ⟨?_, ?_, ?_, fun l hl => ?_⟩
    · rintro r ⟨⟩ -
      exact ⟨rfl, rfl⟩
    · rintro r ⟨⟩ hstate
      cases hstate
    · rintro r ⟨⟩ hempty
      have hlength := congrArg String.length hempty
      simp [newDelivery] at hlength
    · rw [hletter] at hl
      cases hl
  | claimed now ownerId generation r attempted hrow hactive hopen howner hnew h' =>
    subst h'
    refine ⟨?_, ?_, ?_, fun l hl hnone => ?_⟩
    · rintro s ⟨⟩ hstate
      exact absurd rfl hstate
    · rintro s ⟨⟩ -
      exact ⟨⟨ownerId, rfl, howner⟩, rfl, Nat.succ_pos _, Nat.succ_pos _, hnew⟩
    · rintro s ⟨⟩
      exact h.named r hrow
    · have hdead : r.state ≠ .dead := fun hdead => by
        rw [hdead] at hopen
        cases hopen
      exact absurd hnone (h.letter_replayed hrow hdead hl)

theorem of_completed (h : Sound p) {now : Time} {result : AttemptResult} {r : DeliveryRow}
    {letter : DeadLetterRow} (hrow : p.row = some r) (hr : r.completable result = true)
    (hboth : result.succeeded = true → result.dead = false)
    (h' : p' = { p with
      row := some (r.complete now (active r.endpointId) result)
      letter := if result.dead || !active r.endpointId then p.letter.or (some letter)
        else p.letter }) : Sound p' := by
  subst h'
  have hstate : r.state = .delivering := by
    simp only [DeliveryRow.completable, Bool.and_eq_true, beq_iff_eq] at hr
    exact hr.1.1.1
  have hletters : ∀ l, p.letter = some l → l.replayedAt ≠ none :=
    fun l hl => h.letter_replayed hrow (by rw [hstate]; decide) hl
  refine ⟨?_, ?_, ?_, fun l hl hnone => ⟨_, rfl, ?_⟩⟩
  · rintro s ⟨⟩ -
    exact ⟨rfl, rfl⟩
  · rintro s ⟨⟩ hdelivering
    simp only [DeliveryRow.complete] at hdelivering
    split_ifs at hdelivering
  · rintro s ⟨⟩
    exact h.named r hrow
  · simp only at hl
    split at hl
    · rename_i hdied
      simp only [DeliveryRow.complete]
      cases hactive : active r.endpointId with
      | false => rfl
      | true =>
        have hdead : result.dead = true := by simpa [hactive] using hdied
        have hsucceeded : result.succeeded = false := by
          cases hs : result.succeeded with
          | false => rfl
          | true =>
            rw [hboth hs] at hdead
            cases hdead
        simp [hdead, hsucceeded]
    · exact absurd hnone (hletters l hl)

theorem of_turn (h : Sound p) (hturn : Turn active p p') : Sound p' := by
  cases hturn with
  | claiming hclaiming => exact h.of_claiming hclaiming
  | admitted now delivery r hrow hactive hr h' =>
    subst h'
    refine ⟨?_, ?_, ?_, fun l hl hnone => ?_⟩
    · rintro s ⟨⟩
      exact h.idle r hrow
    · rintro s ⟨⟩
      exact h.leased r hrow
    · rintro s ⟨⟩
      exact h.named r hrow
    · obtain ⟨s, hs, hdead⟩ := h.unreplayed l hl hnone
      rw [hrow] at hs
      cases hs
      exact ⟨_, rfl, hdead⟩
  | renewed now ownerId claimToken r hrow hr h' =>
    subst h'
    simp only [DeliveryRow.renewable, Bool.and_eq_true, beq_iff_eq] at hr
    refine ⟨?_, ?_, ?_, fun l hl hnone => ?_⟩
    · rintro s ⟨⟩ hidle
      exact absurd hr.1.1.2 hidle
    · rintro s ⟨⟩ hstate
      obtain ⟨howner, -, hrest⟩ := h.leased r hrow hstate
      exact ⟨howner, rfl, hrest⟩
    · rintro s ⟨⟩
      exact h.named r hrow
    · obtain ⟨s, hs, hdead⟩ := h.unreplayed l hl hnone
      rw [hrow] at hs
      cases hs
      exact ⟨_, rfl, hdead⟩
  | completed now result r letter hrow hr hboth hletter h' =>
    exact h.of_completed hrow hr hboth h'
  | revoked now endpointId r letter hrow hr hletter h' =>
    subst h'
    refine ⟨?_, ?_, ?_, fun l _ _ => ⟨_, rfl, rfl⟩⟩
    · rintro s ⟨⟩ -
      exact ⟨rfl, rfl⟩
    · rintro s ⟨⟩ hstate
      cases hstate
    · rintro s ⟨⟩
      exact h.named r hrow
  | replayed now r letter hrow hletter hfresh hactive h' =>
    subst h'
    refine ⟨?_, ?_, ?_, ?_⟩
    · rintro s ⟨⟩ -
      exact ⟨rfl, rfl⟩
    · rintro s ⟨⟩ hstate
      cases hstate
    · rintro s ⟨⟩
      exact h.named r hrow
    · rintro l ⟨⟩ hnone
      cases hnone

end Sound

def newTenant (tenantId : String) : WebhookDatabase := { tenantId := tenantId }

theorem newTenant_sound (tenantId k : String) : Sound ((newTenant tenantId).parcel k) := by
  refine ⟨?_, ?_, ?_, ?_⟩ <;>
    · intro _ h
      cases h

section

variable {rt : Runtime} {tenantId : String} {trace : List (Call × Reply)} {db : WebhookDatabase}

theorem step_sound (call : Call) (h : ∀ k, Sound (db.parcel k)) (k : String) :
    Sound ((step rt call db).2.parcel k) :=
  ((step_effect rt call db).parcels k).invariant (fun _ _ hturn hsound => hsound.of_turn hturn)
    (h k)

theorem run_sound (hrun : Deliveries rt (newTenant tenantId) trace db) : ∀ k, Sound (db.parcel k) :=
  hrun.invariant (P := fun db => ∀ k, Sound (db.parcel k)) (fun _ call _ h => step_sound call h)
    (newTenant_sound tenantId)

end

/-! ### Tokens -/

section

variable {active : String → Bool} {p p' : Parcel}

/-- The delivery stays, its token does not decrease, and success is final. -/
def Kept (p p' : Parcel) : Prop :=
  ∀ r, p.row = some r → ∃ r', p'.row = some r' ∧ r.claimToken ≤ r'.claimToken ∧
    (r.state = .succeeded → r'.state = .succeeded)

theorem Kept.refl (p : Parcel) : Kept p p := fun r hr => ⟨r, hr, le_refl _, id⟩

theorem Kept.trans {p'' : Parcel} (h : Kept p p') (h' : Kept p' p'') : Kept p p'' := by
  intro r hr
  obtain ⟨r', hr', hle, hfinal⟩ := h r hr
  obtain ⟨r'', hr'', hle', hfinal'⟩ := h' r' hr'
  exact ⟨r'', hr'', hle.trans hle', fun hs => hfinal' (hfinal hs)⟩

theorem Turn.kept (hsound : Sound p) (hturn : Turn active p p') : Kept p p' := by
  intro s hs
  cases hturn with
  | claiming hclaiming =>
    cases hclaiming with
    | created now event endpoint hrow =>
      rw [hrow] at hs
      cases hs
    | claimed now ownerId generation r attempted hrow hactive hopen howner hnew h =>
      subst h
      obtain rfl := Option.mem_unique hrow hs
      refine ⟨_, rfl, Nat.le_succ _, fun hsucceeded => ?_⟩
      rw [hsucceeded] at hopen
      cases hopen
  | admitted now delivery r hrow hactive hr h | renewed now ownerId claimToken r hrow hr h =>
    subst h
    obtain rfl := Option.mem_unique hrow hs
    exact ⟨_, rfl, le_refl _, id⟩
  | completed now result r letter hrow hr hboth hletter h =>
    subst h
    obtain rfl := Option.mem_unique hrow hs
    simp only [DeliveryRow.completable, Bool.and_eq_true, beq_iff_eq] at hr
    refine ⟨_, rfl, le_refl _, fun hsucceeded => ?_⟩
    rw [hr.1.1.1] at hsucceeded
    cases hsucceeded
  | revoked now endpointId r letter hrow hr hletter h =>
    subst h
    obtain rfl := Option.mem_unique hrow hs
    refine ⟨_, rfl, Nat.le_succ _, fun hsucceeded => ?_⟩
    simp only [DeliveryRow.revocable, hsucceeded, DeliveryState.isOpen, Bool.and_false,
      Bool.false_and, Bool.false_eq_true] at hr
  | replayed now r letter hrow hletter hfresh hactive h =>
    subst h
    obtain rfl := Option.mem_unique hrow hs
    refine ⟨_, rfl, Nat.le_succ _, fun hsucceeded => ?_⟩
    -- an unreplayed letter belongs to a dead delivery
    exact absurd hfresh (hsound.letter_replayed hrow (by rw [hsucceeded]; decide) hletter)

theorem Turns.kept (hsound : Sound p) (hturns : Turns active p p') : Kept p p' := by
  induction hturns with
  | refl => exact .refl p
  | tail hturns hturn ih =>
    have hsound' := Turns.invariant (fun _ _ hturn hsound => hsound.of_turn hturn) hturns hsound
    exact ih.trans (hturn.kept hsound')

/-- The HTTP request of a claim has been admitted, or the claim is over. -/
def Spent (t : Nat) (p : Parcel) : Prop :=
  ∃ r, p.row = some r ∧ (t < r.claimToken ∨ t = r.claimToken ∧ r.httpStartedAt.isSome)

variable {t : Nat} {k : String} {call : Call}

theorem Turn.spent (hturn : Turn active p p') (h : Spent t p) : Spent t p' := by
  obtain ⟨s, hs, hspent⟩ := h
  cases hturn with
  | claiming hclaiming =>
    cases hclaiming with
    | created now event endpoint hrow =>
      rw [hrow] at hs
      cases hs
    | claimed now ownerId generation r attempted hrow hactive hopen howner hnew h =>
      subst h
      obtain rfl := Option.mem_unique hrow hs
      refine ⟨_, rfl, .inl ?_⟩
      simp only [DeliveryRow.claim]
      omega
  | admitted now delivery r hrow hactive hr h =>
    subst h
    obtain rfl := Option.mem_unique hrow hs
    refine ⟨_, rfl, ?_⟩
    rcases hspent with hlt | ⟨heq, -⟩
    · exact .inl hlt
    · exact .inr ⟨heq, rfl⟩
  | renewed now ownerId claimToken r hrow hr h
  | completed now result r letter hrow hr hboth hletter h =>
    subst h
    obtain rfl := Option.mem_unique hrow hs
    exact ⟨_, rfl, hspent⟩
  | revoked now endpointId r letter hrow hr hletter h =>
    subst h
    obtain rfl := Option.mem_unique hrow hs
    refine ⟨_, rfl, .inl ?_⟩
    simp only [DeliveryRow.revoke]
    omega
  | replayed now r letter hrow hletter hfresh hactive h =>
    subst h
    obtain rfl := Option.mem_unique hrow hs
    refine ⟨_, rfl, .inl ?_⟩
    simp only [DeliveryRow.replay]
    omega

end

/-! ### Admissions -/

def admission : Call × Reply → Option (String × Nat)
  | ((_, .admitClaim delivery), .answered true) => some (delivery.deliveryId, delivery.claimToken)
  | _ => none

def admissions (trace : List (Call × Reply)) : List (String × Nat) := trace.filterMap admission

theorem admission_eq_some {e : Call × Reply} (h : admission e = some (k, t)) : ∃ now delivery,
      e = ((now, .admitClaim delivery), .answered true) ∧ k = delivery.deliveryId ∧
        t = delivery.claimToken := by
  unfold admission at h
  split at h
  · simp only [Option.some.injEq, Prod.mk.injEq] at h
    exact ⟨_, _, rfl, h.1.symm, h.2.symm⟩
  · cases h

variable {rt : Runtime} {db : WebhookDatabase}

theorem admission_step (h : admission (call, (step rt call db).1) = some (k, t)) :
    ¬ Spent t (db.parcel k) ∧ Spent t ((step rt call db).2.parcel k) := by
  obtain ⟨now, delivery, heq, rfl, rfl⟩ := admission_eq_some h
  obtain ⟨rfl, hyes⟩ := Prod.mk.inj heq
  revert hyes
  refine step_rule rt (now, .admitClaim delivery) db nofun fun reply db' hperform hyes => ?_
  obtain ⟨answer, hok, rfl⟩ := replying_ok hperform
  rcases admitClaim_ok hok with ⟨rfl, -⟩ | ⟨-, ⟨r, hr, hadmissible⟩, -, rfl⟩
  · cases hyes
  · simp only [DeliveryRow.admissible, Bool.and_eq_true, beq_iff_eq,
      Option.isNone_iff_eq_none] at hadmissible
    obtain ⟨⟨⟨⟨⟨-, htoken⟩, -⟩, -⟩, hunstarted⟩, -⟩ := hadmissible
    have hrow : (db.parcel delivery.deliveryId).row = some r := hr
    constructor
    · rintro ⟨s, hs, hspent⟩
      obtain rfl := Option.mem_unique hrow hs
      rcases hspent with hlt | ⟨-, hstarted⟩
      · omega
      · rw [hunstarted] at hstarted
        cases hstarted
    · rw [parcel_setTables, parcel_updateDelivery, if_pos rfl, hrow]
      exact ⟨_, rfl, .inr ⟨htoken.symm, rfl⟩⟩

theorem run_admissions {tenantId : String} {trace : List (Call × Reply)}
    (hrun : Deliveries rt (newTenant tenantId) trace db) :
    (admissions trace).Nodup ∧ ∀ e ∈ admissions trace, Spent e.2 (db.parcel e.1) := by
  refine hrun.invariant_trace (P := fun trace db => (admissions trace).Nodup ∧
    ∀ e ∈ admissions trace, Spent e.2 (db.parcel e.1)) ?_ ⟨List.nodup_nil, by simp [admissions]⟩
  intro trace db call _ ⟨hnodup, hspent⟩
  have hkept : ∀ e ∈ admissions trace, Spent e.2 ((step rt call db).2.parcel e.1) :=
    fun e he => ((step_effect rt call db).parcels e.1).invariant
      (fun _ _ hturn h => hturn.spent h) (hspent e he)
  cases hadmission : admission (call, (step rt call db).1) with
  | none =>
    have hsame : admissions (trace ++ [(call, (step rt call db).1)]) = admissions trace := by
      simp [admissions, List.filterMap_append, hadmission]
    rw [hsame]
    exact ⟨hnodup, hkept⟩
  | some e =>
    have hmore : admissions (trace ++ [(call, (step rt call db).1)]) = admissions trace ++ [e] := by
      simp [admissions, List.filterMap_append, hadmission]
    obtain ⟨hunspent, hnow⟩ := admission_step hadmission
    rw [hmore]
    refine ⟨List.nodup_append.2 ⟨hnodup, List.nodup_singleton e, ?_⟩, ?_⟩
    · rintro a ha b hb rfl
      rw [List.mem_singleton] at hb
      subst hb
      exact hunspent (hspent a ha)
    · intro a ha
      rcases List.mem_append.1 ha with ha | ha
      · exact hkept a ha
      · rw [List.mem_singleton] at ha
        subst ha
        exact hnow

/-! ### The fence -/

def Operation.reissues : Operation → Bool
  | .claim .. | .deleteEndpoint _ | .replayDLQ _ => true
  | _ => false

def Operation.heldClaim : Operation → Option (String × Nat)
  | .admitClaim delivery => some (delivery.deliveryId, delivery.claimToken)
  | .renewClaim deliveryId _ claimToken => some (deliveryId, claimToken)
  | .completeAttempt _ worker delivery report =>
    some ((worker.result delivery report).deliveryId, (worker.result delivery report).claimToken)
  | _ => none

theorem reissue_advanced (h : call.2.reissues = true) (db : WebhookDatabase) (k : String) :
    Advanced (db.parcel k) ((step rt call db).2.parcel k) := by
  refine step_rule rt call db (fun _ _ => .refl _) fun reply db' hperform => ?_
  obtain ⟨now, operation⟩ := call
  cases operation with
  | claim again ownerId limit =>
    obtain ⟨deliveries, hok, -⟩ := replying_ok hperform
    exact Claiming.advanced ((claim_ok hok).parcels k)
  | deleteEndpoint endpointId =>
    obtain ⟨answer, hok, -⟩ := replying_ok hperform
    intro r hr
    rw [(deleteEndpoint_ok hok).parcels, hr]
    refine ⟨_, rfl, ?_⟩
    beta_reduce
    split
    · exact .inr (Nat.lt_succ_self _)
    · exact .inl rfl
  | replayDLQ dlqId =>
    obtain ⟨s, letter, hreplay⟩ := replayDLQ_ok (finishing_ok hperform).1
    intro r hr
    rw [hreplay.parcels]
    split
    · next hk =>
        subst hk
        obtain rfl := Option.mem_unique hreplay.row hr
        exact ⟨_, rfl, .inr (Nat.lt_succ_self _)⟩
    · exact ⟨r, hr, .inl rfl⟩
  | _ => cases h

theorem stale_step (h : call.2.heldClaim = some (k, t))
    (hstale : ∀ r, db.deliveries.find? k = some r → r.claimToken ≠ t) :
      (step rt call db).2 = db := by
  refine step_rule rt call db (fun _ _ => rfl) fun reply db' hperform => ?_
  obtain ⟨now, operation⟩ := call
  cases operation with
  | admitClaim delivery =>
    obtain ⟨answer, hok, -⟩ := replying_ok hperform
    simp only [Operation.heldClaim, Option.some.injEq, Prod.mk.injEq] at h
    obtain ⟨rfl, rfl⟩ := h
    rcases admitClaim_ok hok with ⟨-, rfl⟩ | ⟨-, ⟨r, hr, hadmissible⟩, -, -⟩
    · rfl
    · simp only [DeliveryRow.admissible, Bool.and_eq_true, beq_iff_eq] at hadmissible
      exact absurd hadmissible.1.1.1.1.2 (hstale r hr)
  | renewClaim deliveryId ownerId claimToken =>
    obtain ⟨answer, hok, -⟩ := replying_ok hperform
    simp only [Operation.heldClaim, Option.some.injEq, Prod.mk.injEq] at h
    obtain ⟨rfl, rfl⟩ := h
    rcases renewClaim_ok hok with rfl | ⟨r, hr, hrenewable, -⟩
    · rfl
    · simp only [DeliveryRow.renewable, Bool.and_eq_true, beq_iff_eq] at hrenewable
      exact absurd hrenewable.1.1.1.2 (hstale r hr)
  | completeAttempt dlqId worker delivery report =>
    obtain ⟨r, letter, hcompletion⟩ := completeAttempt_ok (finishing_ok hperform).1
    simp only [Operation.heldClaim, Option.some.injEq, Prod.mk.injEq] at h
    obtain ⟨rfl, rfl⟩ := h
    have hcompletable := hcompletion.completable
    simp only [DeliveryRow.completable, Bool.and_eq_true, beq_iff_eq] at hcompletable
    exact absurd hcompletable.2 (hstale r hcompletion.row)
  | _ => cases h

theorem later_kept {later : List (Call × Reply)} {db' : WebhookDatabase}
    (hsound : ∀ k, Sound (db.parcel k)) (hrun : Deliveries rt db later db') (k : String) :
    Kept (db.parcel k) (db'.parcel k) := by
  have hboth := hrun.invariant
    (P := fun db' => (∀ k, Sound (db'.parcel k)) ∧ Kept (db.parcel k) (db'.parcel k))
    (fun s call _ h => ⟨step_sound call h.1,
      h.2.trans (((step_effect rt call s).parcels k).kept (h.1 k))⟩) ⟨hsound, .refl _⟩
  exact hboth.2

structure ClaimFence (rt : Runtime) (trace : List (Call × Reply)) (db : WebhookDatabase) :
    Prop where
  /-- no later state has a smaller token, and success is final -/
  kept : ∀ later db', Deliveries rt db later db' → ∀ r ∈ db.deliveries,
    ∃ r', db'.deliveries.find? r.deliveryId = some r' ∧ r.claimToken ≤ r'.claimToken ∧
      (r.state = .succeeded → r'.state = .succeeded)
  /-- a claim, a revocation or a replay changes a delivery only under a greater token -/
  reissued : ∀ call : Call, call.2.reissues = true → ∀ r ∈ db.deliveries,
    ∃ r', (step rt call db).2.deliveries.find? r.deliveryId = some r' ∧
      (r' = r ∨ r.claimToken < r'.claimToken)
  /-- a deletion that succeeds gives a new token to what it revokes -/
  revoked : ∀ now endpointId answer db', deleteEndpoint now endpointId db = .ok (answer, db') →
    ∀ r ∈ db.deliveries, r.revocable now endpointId = true →
      ∃ r', db'.deliveries.find? r.deliveryId = some r' ∧ r.claimToken < r'.claimToken
  /-- and a replay to the delivery of its letter -/
  replayed : ∀ now dlqId db', replayDLQ now dlqId db = .ok db' →
    ∃ letter ∈ db.dlq, letter.dlqId = dlqId ∧ ∃ r r',
      db.deliveries.find? letter.deliveryId = some r ∧
        db'.deliveries.find? letter.deliveryId = some r' ∧ r.claimToken < r'.claimToken
  /-- what a claim returns carries the new token of the delivery -/
  claimed : ∀ now again ownerId limit deliveries db',
    claim now again ownerId limit db = .ok (deliveries, db') → ∀ d ∈ deliveries,
      (∃ r', db'.deliveries.find? d.deliveryId = some r' ∧ r'.claimToken = d.claimToken) ∧
        ∀ r, db.deliveries.find? d.deliveryId = some r → r.claimToken < d.claimToken
  admittedOnce : (admissions trace).Nodup
  /-- a call under another token changes nothing -/
  stale : ∀ (call : Call) k t, call.2.heldClaim = some (k, t) →
    (∀ r, db.deliveries.find? k = some r → r.claimToken ≠ t) → (step rt call db).2 = db

/-- Every interleaving of workers and administrators keeps the fence. -/
theorem claim_tokens_fence (rt : Runtime) {tenantId : String} {trace : List (Call × Reply)}
    (hrun : Deliveries rt (newTenant tenantId) trace db) :
    ClaimFence rt trace db where
  kept _ _ hlater r hr :=
    later_kept (run_sound hrun) hlater r.deliveryId r (Table.find?_of_mem hr)
  reissued _ hcall r hr := reissue_advanced hcall db r.deliveryId r (Table.find?_of_mem hr)
  revoked _ _ _ _ hok r hr hrevocable := by
    have hparcel := congrArg Parcel.row ((deleteEndpoint_ok hok).parcels r.deliveryId)
    have hrow : (db.parcel r.deliveryId).row = some r := Table.find?_of_mem hr
    rw [hrow, Option.map_some, if_pos hrevocable] at hparcel
    exact ⟨_, hparcel, Nat.lt_succ_self _⟩
  replayed _ _ _ hok := by
    obtain ⟨r, letter, hreplay⟩ := replayDLQ_ok hok
    have hparcel := congrArg Parcel.row (hreplay.parcels letter.deliveryId)
    rw [if_pos rfl] at hparcel
    exact ⟨letter, Table.mem_of_find? hreplay.stored, hreplay.named, r, _, hreplay.row, hparcel,
      Nat.lt_succ_self _⟩
  claimed _ _ _ _ _ _ hok := (claim_ok hok).tokens
  admittedOnce := (run_admissions hrun).1
  stale _ _ _ := stale_step

/-! ### A delivery that dies, is replayed and is tried again -/

def hookRuntime : Runtime where
  sha256 _ := List.replicate 32 0
  sha256_length := zeros_length
  jsonSize _ := 0
  cursorUnmarshal _ := none
  cursorMarshal _ := []

def hookSecret : SessionEnvelope where
  version := 1
  provider := "webhook"
  ciphertext := List.replicate 16 0
  wrappedDEK := [0]
  nonce := List.replicate 12 0
  keyId := "kek"
  keyVersion := 1

def hookClaimed : List Call :=
  [(0, .createEndpoint ⟨"hook", "https://consumer", "key", 0⟩ hookSecret 32),
    (1, .publish ⟨"event", "message.queued", "message", "m1", none, "", {}⟩ "outbox"),
    (2, .claim 2 "worker" 8)]

def hookDelivery (attempt claimToken : Nat) : Delivery where
  deliveryId := "hook:event"
  endpointId := "hook"
  eventId := "event"
  destination := "https://consumer"
  keyId := "key"
  canonicalBody := {}
  attempt := attempt
  ownerId := "worker"
  claimToken := claimToken
  endpointGeneration := 1
  secret := hookSecret

/-- A worker that gives up after the given number of attempts. -/
def hookWorker (maxAttempts : Nat) : Worker := ⟨maxAttempts, 3, id⟩

def hookReplayed : List Call :=
  hookClaimed ++
    [(3, .admitClaim (hookDelivery 1 1)),
      (4, .completeAttempt "letter" (hookWorker 1) (hookDelivery 1 1) (.failed ⟨500, 0⟩)),
      (5, .replayDLQ "letter"),
      (6, .claim 6 "worker" 8)]

theorem hookReplayed_fenced :
    admissions (execute (step hookRuntime) (hookReplayed ++ [(7, .admitClaim (hookDelivery 1 3)),
      (8, .admitClaim (hookDelivery 1 3)), (9, .admitClaim (hookDelivery 1 1))])
      (newTenant "tenant")).1 = [("hook:event", 1), ("hook:event", 3)] ∧
    ClaimFence hookRuntime (execute (step hookRuntime) hookReplayed (newTenant "tenant")).1
      (execute (step hookRuntime) hookReplayed (newTenant "tenant")).2 :=
  ⟨by decide +kernel, claim_tokens_fence hookRuntime
    (Run.of_inputs _ (by decide +kernel))⟩

end MessagingGateway.Webhook
