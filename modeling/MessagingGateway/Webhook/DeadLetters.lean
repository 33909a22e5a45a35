import MessagingGateway.Webhook.Fence

/-!
# Dead letters

A dead delivery is replayed through its dead letter, and a replay marks the
letter. The statements that let a delivery die insert the letter with
`ON CONFLICT DO NOTHING`, so a delivery that dies a second time keeps the marked
letter of its first death. The law below therefore holds exactly as long as no
delivery dies twice.
-/

namespace MessagingGateway.Webhook

open Relational Domain Store

/-! ### The law for one parcel -/

def Lettered (p : Parcel) : Prop :=
  ∀ r, p.row = some r → r.state = .dead → ∃ l, p.letter = some l ∧ l.replayedAt = none

/-- Whatever is dead afterwards was dead before, with the same letter. -/
def Undying (p p' : Parcel) : Prop :=
  ∀ r', p'.row = some r' → r'.state = .dead →
    p'.letter = p.letter ∧ ∃ r, p.row = some r ∧ r.state = .dead

section

variable {active : String → Bool} {p p' p'' : Parcel}

theorem Undying.refl (p : Parcel) : Undying p p := fun r hr hdead => ⟨rfl, r, hr, hdead⟩

theorem Undying.trans (h : Undying p p') (h' : Undying p' p'') : Undying p p'' := by
  intro r'' hr'' hdead
  obtain ⟨hletter', r', hr', hdead'⟩ := h' r'' hr'' hdead
  obtain ⟨hletter, r, hr, hdead⟩ := h r' hr' hdead'
  exact ⟨hletter'.trans hletter, r, hr, hdead⟩

theorem Undying.of_alive {r' : DeliveryRow} (hrow : p'.row = some r') (h : r'.state ≠ .dead) :
    Undying p p' := by
  intro s hs hdead
  rw [hrow] at hs
  cases hs
  exact absurd hdead h

theorem Undying.of_update {db : WebhookDatabase} {k k' : String} {f : DeliveryRow → DeliveryRow}
    {hf : ∀ r, (f r).deliveryId = r.deliveryId} {hendpoint : ∀ r, (f r).endpointId = r.endpointId}
    (hstate : ∀ r, (f r).state = r.state) : Undying (db.parcel k)
      ((db.setTables (db.updateDeliveries (fun r => r.deliveryId == k') f hf hendpoint)).parcel
        k) := by
  rw [parcel_setTables, parcel_updateDelivery]
  split
  · intro r' hr' hdead
    obtain ⟨r, hr, rfl⟩ := Option.map_eq_some_iff.1 hr'
    exact ⟨rfl, r, hr, (hstate r).symm.trans hdead⟩
  · exact .refl _

theorem Lettered.of_undying (h : Lettered p) (hundying : Undying p p') : Lettered p' := by
  intro r' hr' hdead
  obtain ⟨hletter, r, hr, hdead⟩ := hundying r' hr' hdead
  rw [hletter]
  exact h r hr hdead

theorem Claiming.undying (h : Relation.ReflTransGen (Claiming active) p p') : Undying p p' := by
  induction h with
  | refl => exact .refl _
  | tail _ hclaiming ih =>
    refine ih.trans ?_
    cases hclaiming with
    | created now event endpoint hrow hletter hactive h =>
      subst h
      exact .of_alive rfl (by simp [newDelivery])
    | claimed now ownerId generation r attempted hrow hactive hopen howner hnew h =>
      subst h
      exact .of_alive rfl (by simp [DeliveryRow.claim])

end

/-! ### The law -/

structure DeadLettersOpen (db : WebhookDatabase) : Prop where
  /-- a dead delivery has a letter with `replayed_at` null -/
  dead : ∀ r ∈ db.deliveries, r.state = .dead →
    ∃ l ∈ db.dlq, l.deliveryId = r.deliveryId ∧ l.replayedAt = none
  /-- and such a letter belongs to a dead delivery -/
  letters : ∀ l ∈ db.dlq, l.replayedAt = none →
    ∃ r ∈ db.deliveries, r.deliveryId = l.deliveryId ∧ r.state = .dead
  /-- so that `ReplayDLQ` replays it as long as its endpoint is active -/
  again : db.tenantId ≠ "" → ∀ r ∈ db.deliveries, r.state = .dead →
    db.endpointActive r.endpointId = true → ∃ l ∈ db.dlq, l.deliveryId = r.deliveryId ∧
      (l.dlqId ≠ "" → ∀ now, ∃ db', replayDLQ now l.dlqId db = .ok db')

theorem deadLettersOpen_iff {db : WebhookDatabase} (hsound : ∀ k, Sound (db.parcel k)) :
    DeadLettersOpen db ↔ ∀ k, Lettered (db.parcel k) := by
  constructor
  · intro h k r hr hdead
    obtain ⟨l, hl, hk, hfresh⟩ := h.dead r (Table.mem_of_find? hr) hdead
    refine ⟨l, ?_, hfresh⟩
    have hfind := Table.find?_of_mem hl
    rwa [hk, Table.key_of_find? hr] at hfind
  · intro h
    have hletter : ∀ r ∈ db.deliveries, r.state = .dead →
        ∃ l, db.dlq.find? r.deliveryId = some l ∧ l.replayedAt = none :=
      fun r hr hdead => h r.deliveryId r (Table.find?_of_mem hr) hdead
    refine ⟨fun r hr hdead => ?_, fun l hl hfresh => ?_, fun htenant r hr hdead hactive => ?_⟩
    · obtain ⟨l, hl, hfresh⟩ := hletter r hr hdead
      exact ⟨l, Table.mem_of_find? hl, Table.key_of_find? hl, hfresh⟩
    · obtain ⟨r, hr, hdead⟩ := (hsound l.deliveryId).unreplayed l (Table.find?_of_mem hl) hfresh
      exact ⟨r, Table.mem_of_find? hr, Table.key_of_find? hr, hdead⟩
    · obtain ⟨l, hl, hfresh⟩ := hletter r hr hdead
      have hid : l.deliveryId = r.deliveryId := Table.key_of_find? hl
      refine ⟨l, Table.mem_of_find? hl, hid, fun hnamed now => ?_⟩
      have hselected : l ∈ db.dlq.select (replayable l.dlqId db.toDeliveryTables) := by
        rw [Table.mem_select]
        refine ⟨Table.mem_of_find? hl, ?_⟩
        simp only [replayable, beq_self_eq_true, hfresh, Option.isNone_none, hid,
          Table.find?_of_mem hr, Option.any_some, hactive, Bool.and_self]
      simp only [replayDLQ, bind_ok, pure_ok, require_ok]
      refine ⟨_, (), by simp [htenant, hnamed], (), ?_, rfl⟩
      rw [Bool.not_eq_true', List.isEmpty_eq_false_iff]
      exact List.ne_nil_of_mem hselected

/-! ### Deaths -/

def FirstDeaths (db : WebhookDatabase) (call : Call) : Prop :=
  match call.2 with
  | .completeAttempt _ worker delivery report =>
    ∀ r, db.deliveries.find? (worker.result delivery report).deliveryId = some r →
      (worker.result delivery report).dead = true ∨ db.endpointActive r.endpointId = false →
      db.dlq.find? r.deliveryId = none
  | .deleteEndpoint endpointId =>
    ∀ r ∈ db.deliveries, r.revocable call.1 endpointId = true →
      db.dlq.find? r.deliveryId = none
  | _ => True

instance (db : WebhookDatabase) : ∀ call, Decidable (FirstDeaths db call)
  | (_, .completeAttempt _ worker delivery report) => by
      cases h : db.deliveries.find? (worker.result delivery report).deliveryId with
      | none => exact .isTrue (fun r hr => by rw [h] at hr; cases hr)
      | some r =>
        refine decidable_of_iff ((worker.result delivery report).dead = true ∨
          db.endpointActive r.endpointId = false → db.dlq.find? r.deliveryId = none)
          ⟨fun hdeath s hs => ?_, fun hdeaths => hdeaths r h⟩
        obtain rfl := Option.mem_unique h hs
        exact hdeath
  | (now, .deleteEndpoint endpointId) =>
    inferInstanceAs (Decidable (∀ r ∈ db.deliveries.rows, r.revocable now endpointId = true →
      db.dlq.find? r.deliveryId = none))
  | (_, .publish ..) | (_, .createEndpoint ..) | (_, .rotateEndpoint ..)
  | (_, .purgeExpiredSecrets) | (_, .claim ..) | (_, .admitClaim _) | (_, .renewClaim ..)
  | (_, .replayDLQ _) => .isTrue trivial

section

variable {now : Time} {db db' : WebhookDatabase}

theorem completion_lettered_iff {result : AttemptResult} {r : DeliveryRow} {letter : DeadLetterRow}
    (hboth : result.succeeded = true → result.dead = false) (hsound : ∀ k, Sound (db.parcel k))
    (hlettered : ∀ k, Lettered (db.parcel k)) (h : Completion now result db db' r letter) :
    (∀ k, Lettered (db'.parcel k)) ↔
      (result.dead = true ∨ db.endpointActive r.endpointId = false →
        db.dlq.find? r.deliveryId = none) := by
  have hid : r.deliveryId = result.deliveryId := Table.key_of_find? h.row
  have hstate : r.state = .delivering := by
    have hcompletable := h.completable
    simp only [DeliveryRow.completable, Bool.and_eq_true, beq_iff_eq] at hcompletable
    exact hcompletable.1.1.1
  have hdies : (r.complete now (db.endpointActive r.endpointId) result).state = .dead ↔
      result.dead = true ∨ db.endpointActive r.endpointId = false := by
    simp only [DeliveryRow.complete]
    cases hactive : db.endpointActive r.endpointId <;> cases hs : result.succeeded <;>
      cases hd : result.dead <;> simp_all
  have hcond : (result.dead || !db.endpointActive r.endpointId) = true ↔
      result.dead = true ∨ db.endpointActive r.endpointId = false := by
    rw [Bool.or_eq_true, Bool.not_eq_true']
  constructor
  · intro hafter hdeath
    cases hletter : db.dlq.find? r.deliveryId with
    | none => rfl
    | some l =>
      -- the letter of the first death was replayed, and the second death keeps it
      have hold : (db.parcel result.deliveryId).letter = some l := by
        rw [← hid]
        exact hletter
      obtain ⟨l', hl', hfresh⟩ := hafter result.deliveryId _ (by rw [h.parcels, if_pos rfl])
        (hdies.2 hdeath)
      rw [h.parcels, if_pos rfl] at hl'
      simp only [hcond.2 hdeath, if_true, hold, Option.some_or, Option.some.injEq] at hl'
      subst hl'
      exact absurd hfresh ((hsound result.deliveryId).letter_replayed h.row
        (by rw [hstate]; decide) hold)
  · intro hcondition k
    rw [h.parcels]
    split
    · next hk =>
        subst hk
        rintro s ⟨⟩ hdead
        have hdeath := hdies.1 hdead
        have hnone : (db.parcel result.deliveryId).letter = none := by
          rw [← hid]
          exact hcondition hdeath
        refine ⟨letter, ?_, h.fresh⟩
        simp only [hcond.2 hdeath, if_true, hnone, Option.none_or]
    · exact hlettered k

theorem revocation_lettered_iff {endpointId : String} (hsound : ∀ k, Sound (db.parcel k))
    (hlettered : ∀ k, Lettered (db.parcel k)) (h : Revocation now endpointId db db') :
    (∀ k, Lettered (db'.parcel k)) ↔
      ∀ r ∈ db.deliveries, r.revocable now endpointId = true →
        db.dlq.find? r.deliveryId = none := by
  constructor
  · intro hafter r hr hrevocable
    cases hletter : db.dlq.find? r.deliveryId with
    | none => rfl
    | some l =>
      have hrow : (db.parcel r.deliveryId).row = some r := Table.find?_of_mem hr
      have hold : (db.parcel r.deliveryId).letter = some l := hletter
      have halive : r.state ≠ .dead := fun hdead => by
        simp [DeliveryRow.revocable, hdead, DeliveryState.isOpen] at hrevocable
      obtain ⟨l', hl', hfresh⟩ := hafter r.deliveryId (r.revoke now)
        (by rw [h.parcels, hrow, Option.map_some, if_pos hrevocable]) rfl
      rw [h.parcels, hold, Option.some_or, Option.some.injEq] at hl'
      subst hl'
      exact absurd hfresh ((hsound r.deliveryId).letter_replayed hrow halive hold)
  · intro hcondition k
    rw [h.parcels]
    intro s hs hdead
    obtain ⟨r, hr, rfl⟩ := Option.map_eq_some_iff.1 hs
    by_cases hrevocable : r.revocable now endpointId = true
    · have hmem : r ∈ db.deliveries := Table.mem_of_find? hr
      have hid : r.deliveryId = k := Table.key_of_find? hr
      have hnone : (db.parcel k).letter = none := hid ▸ hcondition r hmem hrevocable
      refine ⟨revokedLetter now r, ?_, rfl⟩
      simp only [hnone, Option.none_or, hr, Option.filter_some, hrevocable, if_true,
        Option.map_some]
    · rw [if_neg hrevocable] at hdead
      obtain ⟨l, hl, hfresh⟩ := hlettered k r hr hdead
      exact ⟨l, by rw [hl, Option.some_or], hfresh⟩

end

theorem perform_lettered_iff {rt : Runtime} {call : Call} {reply : Reply} {db db' : WebhookDatabase}
    (hsound : ∀ k, Sound (db.parcel k)) (hlettered : ∀ k, Lettered (db.parcel k))
    (h : perform rt call.1 call.2 db = .ok (reply, db')) :
    (∀ k, Lettered (db'.parcel k)) ↔ FirstDeaths db call := by
  have of_undying : (∀ k, Undying (db.parcel k) (db'.parcel k)) →
      ((∀ k, Lettered (db'.parcel k)) ↔ True) :=
    fun hundying => iff_true_intro fun k => (hlettered k).of_undying (hundying k)
  obtain ⟨now, operation⟩ := call
  cases operation with
  | publish | createEndpoint | rotateEndpoint | purgeExpiredSecrets =>
    refine of_undying fun k => ?_
    rw [(perform_quiet rfl h).parcels]
    exact .refl _
  | claim again ownerId limit =>
    obtain ⟨deliveries, hok, -⟩ := replying_ok h
    exact of_undying fun k => Claiming.undying ((claim_ok hok).parcels k)
  | admitClaim delivery =>
    obtain ⟨answer, hok, -⟩ := replying_ok h
    rcases admitClaim_ok hok with ⟨-, rfl⟩ | ⟨-, -, -, rfl⟩
    · exact of_undying fun k => .refl _
    · exact of_undying fun k => .of_update fun r => rfl
  | renewClaim deliveryId ownerId claimToken =>
    obtain ⟨answer, hok, -⟩ := replying_ok h
    rcases renewClaim_ok hok with rfl | ⟨r, -, -, rfl⟩
    · exact of_undying fun k => .refl _
    · exact of_undying fun k => .of_update fun r => rfl
  | completeAttempt dlqId worker delivery report =>
    obtain ⟨r, letter, hcompletion⟩ := completeAttempt_ok (finishing_ok h).1
    rw [completion_lettered_iff (worker.result_not_both delivery report) hsound hlettered
      hcompletion]
    constructor
    · intro hcondition s hs
      obtain rfl := Option.mem_unique hcompletion.row hs
      exact hcondition
    · intro hcondition
      exact hcondition r hcompletion.row
  | deleteEndpoint endpointId =>
    obtain ⟨answer, hok, -⟩ := replying_ok h
    exact revocation_lettered_iff hsound hlettered (deleteEndpoint_ok hok)
  | replayDLQ dlqId =>
    obtain ⟨r, letter, hreplay⟩ := replayDLQ_ok (finishing_ok h).1
    refine of_undying fun k => ?_
    rw [hreplay.parcels]
    split
    · exact .of_alive rfl (by simp [DeliveryRow.replay])
    · exact .refl _

abbrev DyingOnce (rt : Runtime) : WebhookDatabase → List (Call × Reply) → WebhookDatabase → Prop :=
  Run (step rt) FirstDeaths

/-- As long as no delivery dies twice every dead delivery can be replayed, and
the first call that lets one die twice breaks this. -/
theorem dead_replayable_iff_first_deaths (rt : Runtime) {tenantId : String}
    {trace : List (Call × Reply)} {db : WebhookDatabase}
    (hrun : DyingOnce rt (newTenant tenantId) trace db) :
    DeadLettersOpen db ∧ ∀ call reply db', perform rt call.1 call.2 db = .ok (reply, db') →
      (DeadLettersOpen db' ↔ FirstDeaths db call) := by
  have hsound := run_sound (hrun.mono fun _ _ _ => trivial)
  have hlettered : ∀ k, Lettered (db.parcel k) := by
    refine (hrun.invariant (P := fun db => (∀ k, Sound (db.parcel k)) ∧ ∀ k, Lettered (db.parcel k))
      (fun db call hfirst h => ⟨step_sound call h.1, ?_⟩)
      ⟨newTenant_sound tenantId, fun k r hr => by cases hr⟩).2
    refine step_rule rt call db (fun _ _ => h.2) fun reply db' hperform => ?_
    exact (perform_lettered_iff h.1 h.2 hperform).2 hfirst
  refine ⟨(deadLettersOpen_iff hsound).2 hlettered, fun call reply db' hperform => ?_⟩
  have hsound' : ∀ k, Sound (db'.parcel k) := fun k =>
    ((perform_effect hperform).parcels k).invariant (fun _ _ hturn h => h.of_turn hturn) (hsound k)
  rw [deadLettersOpen_iff hsound']
  exact perform_lettered_iff hsound hlettered hperform

/-- The one delivery of a tenant dies for the first time. -/
theorem hookDead_open :
    (execute (step hookRuntime) (hookReplayed.take 5) (newTenant "tenant")).2.deliveries.rows.map
      DeliveryRow.state = [.dead] ∧
    DeadLettersOpen (execute (step hookRuntime) (hookReplayed.take 5) (newTenant "tenant")).2 :=
  ⟨by decide +kernel, (dead_replayable_iff_first_deaths hookRuntime
    (Run.of_inputs _ (by decide +kernel))).1⟩

/-- The attempt after the replay fails for good, too. -/
def hookDeadAgain : List Call :=
  hookReplayed ++
    [(7, .completeAttempt "another" (hookWorker 1) (hookDelivery 1 3) (.failed ⟨500, 0⟩))]

/-- It dies again after its replay: the letter stays marked, and the delivery can
not be replayed any more. -/
theorem hookReplayed_dies_for_good :
    let db := (execute (step hookRuntime) hookDeadAgain (newTenant "tenant")).2
    ¬ DeadLettersOpen db ∧ db.dlq.rows.map DeadLetterRow.dlqId = ["letter"] ∧
      db.endpointActive "hook" = true ∧ replayDLQ 8 "letter" db = .error errInvalidEndpoint := by
  refine ⟨fun h => ?_, by decide +kernel⟩
  have hdead := h.dead
  revert hdead
  decide +kernel

end MessagingGateway.Webhook
