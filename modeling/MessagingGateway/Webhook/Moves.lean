import MessagingGateway.Webhook.Worker

/-!
# What a call does to one delivery

A delivery, its dead letter and its attempts form a parcel. `Turn` lists what a
statement can do to a parcel, with the conditions its `WHERE` clauses
established; every operation takes each parcel through a sequence of turns
(`step_turns`), so an invariant is proved turn by turn.
-/

namespace MessagingGateway.Webhook

open Relational Domain Store

variable {ownerId : String} {tables : DeliveryTables} {now : Time} {db db' : WebhookDatabase}

structure Parcel where
  row : Option DeliveryRow
  letter : Option DeadLetterRow
  /-- the attempt numbers that have a row -/
  attempted : Nat → Bool

def DeliveryTables.parcel (tables : DeliveryTables) (k : String) : Parcel :=
  { row := tables.deliveries.find? k
    letter := tables.dlq.find? k
    attempted := fun n => (tables.attempts.find? (k, n)).isSome }

/-- What one statement of `Claim` does to a parcel. -/
inductive Claiming (active : String → Bool) (p p' : Parcel) : Prop
  | created (now : Time) (event : EventRow) (endpoint : EndpointRow)
      (hrow : p.row = none) (hletter : p.letter = none)
      (hactive : active endpoint.endpointId = true)
      (h : p' = { p with row := some (newDelivery now event endpoint) })
  | claimed (now : Time) (ownerId : String) (generation : Nat) (r : DeliveryRow)
      (attempted : Nat → Bool) (hrow : p.row = some r) (hactive : active r.endpointId = true)
      (hopen : r.state.isOpen = true) (howner : validOwner ownerId = true)
      (hnew : attempted (r.attemptCount + 1) = true)
      (h : p' = ⟨some (r.claim now ownerId generation), p.letter, attempted⟩)

/-- What one statement does to a parcel, where `active` tells which endpoints are
active when it starts. -/
inductive Turn (active : String → Bool) (p p' : Parcel) : Prop
  | claiming (h : Claiming active p p')
  | admitted (now : Time) (delivery : Delivery) (r : DeliveryRow) (hrow : p.row = some r)
      (hactive : active r.endpointId = true) (hr : r.admissible now delivery = true)
      (h : p' = { p with row := some { r with httpStartedAt := some now } })
  | renewed (now : Time) (ownerId : String) (claimToken : Nat) (r : DeliveryRow)
      (hrow : p.row = some r) (hr : r.renewable now ownerId claimToken = true)
      (h : p' = { p with row := some { r with claimExpiresAt := some (now + claimInterval) } })
  | completed (now : Time) (result : AttemptResult) (r : DeliveryRow) (letter : DeadLetterRow)
      (hrow : p.row = some r) (hr : r.completable result = true)
      (hboth : result.succeeded = true → result.dead = false) (hletter : letter.replayedAt = none)
      (h : p' = { p with
        row := some (r.complete now (active r.endpointId) result)
        letter := if result.dead || !active r.endpointId then p.letter.or (some letter)
          else p.letter })
  | revoked (now : Time) (endpointId : String) (r : DeliveryRow) (letter : DeadLetterRow)
      (hrow : p.row = some r) (hr : r.revocable now endpointId = true)
      (hletter : letter.replayedAt = none)
      (h : p' = { p with row := some (r.revoke now), letter := p.letter.or (some letter) })
  | replayed (now : Time) (r : DeliveryRow) (letter : DeadLetterRow) (hrow : p.row = some r)
      (hletter : p.letter = some letter) (hfresh : letter.replayedAt = none)
      (hactive : active r.endpointId = true)
      (h : p' = { p with row := some (r.replay now), letter := some (letter.replayed now) })

abbrev Turns (active : String → Bool) : Parcel → Parcel → Prop :=
  Relation.ReflTransGen (Turn active)

variable {active : String → Bool} {limit : Nat} {deliveries : List Delivery} {endpointId : String}
  {p p' : Parcel}

theorem Turns.invariant {P : Parcel → Prop}
    (hturn : ∀ p p', Turn active p p' → P p → P p') (h : Turns active p p') (hP : P p) : P p' := by
  induction h with
  | refl => exact hP
  | tail _ hturn' ih => exact hturn _ _ hturn' ih

/-! ### The statements on the tables -/

section

variable {tables tables' : DeliveryTables} {k : String}

theorem parcel_updateDeliveries {p : DeliveryRow → Bool} {f : DeliveryRow → DeliveryRow}
    {hf : ∀ r, (f r).deliveryId = r.deliveryId} {hendpoint : ∀ r, (f r).endpointId = r.endpointId} :
    (tables.updateDeliveries p f hf hendpoint).parcel k =
      { tables.parcel k with
        row := (tables.parcel k).row.map fun r => if p r then f r else r } := by
  simp only [DeliveryTables.parcel, DeliveryTables.updateDeliveries]
  rw [Table.find?_update]

theorem parcel_markReplayed {now : Time} {p : DeadLetterRow → Bool} :
    (tables.markReplayed now p).parcel k =
      { tables.parcel k with
        letter := (tables.parcel k).letter.map fun l => if p l then l.replayed now else l } := by
  simp only [DeliveryTables.parcel, DeliveryTables.markReplayed]
  rw [Table.find?_update]

@[simp] theorem parcel_updateAttempts {p : HttpAttemptRow → Bool}
    {f : HttpAttemptRow → HttpAttemptRow} {hf : ∀ a, (f a).key = a.key} :
    (tables.updateAttempts p f hf).parcel k = tables.parcel k := by
  simp only [DeliveryTables.parcel, DeliveryTables.updateAttempts, DeliveryTables.setAttempts,
    Table.find?_update, Option.isSome_map]

theorem insertDelivery_eq_some {row : DeliveryRow} (h : tables.insertDelivery row = some tables') :
    tables.deliveries.insert row = some tables'.deliveries ∧
      tables'.endpoints = tables.endpoints ∧ tables'.attempts = tables.attempts ∧
      tables'.dlq = tables.dlq := by
  unfold DeliveryTables.insertDelivery at h
  split at h
  · split at h
    · cases h
    · cases h
      exact ⟨‹_›, rfl, rfl, rfl⟩
  · cases h

theorem insertLetter_eq_some {row : DeadLetterRow} (h : tables.insertLetter row = some tables') :
    tables.dlq.insert row = some tables'.dlq ∧ tables'.endpoints = tables.endpoints ∧
      tables'.deliveries = tables.deliveries ∧ tables'.attempts = tables.attempts := by
  unfold DeliveryTables.insertLetter at h
  split at h
  · split at h
    · cases h
    · cases h
      exact ⟨‹_›, rfl, rfl, rfl⟩
  · cases h

theorem insertEndpoint_eq_some {row : EndpointRow} (h : tables.insertEndpoint row = some tables') :
    tables.endpoints.insert row = some tables'.endpoints ∧
      tables'.deliveries = tables.deliveries ∧ tables'.attempts = tables.attempts ∧
      tables'.dlq = tables.dlq := by
  unfold DeliveryTables.insertEndpoint at h
  split at h
  · cases h
  · cases h
    exact ⟨‹_›, rfl, rfl, rfl⟩

theorem parcel_letter_none (h : (tables.parcel k).row = none) :
    (tables.parcel k).letter = none := by
  cases hletter : tables.dlq.find? k with
  | none => exact hletter
  | some letter =>
    have hlinked := tables.letterLinked letter (Table.mem_of_find? hletter)
    rw [Table.key_of_find? hletter] at hlinked
    have hrow : tables.deliveries.find? k = none := h
    rw [hrow] at hlinked
    cases hlinked

theorem ensureLetter_ok {operation : String} {row : DeadLetterRow}
    (h : ensureLetter operation tables row = .ok tables') :
    tables'.endpoints = tables.endpoints ∧ tables'.attempts = tables.attempts ∧
      ∀ k, tables'.parcel k = { tables.parcel k with
        letter :=
          (tables.parcel k).letter.or (if row.deliveryId = k then some row else none) } := by
  unfold ensureLetter at h
  split at h
  · rename_i hsome
    cases h
    refine ⟨rfl, rfl, fun k => ?_⟩
    split
    · next heq =>
        subst heq
        obtain ⟨letter, hletter⟩ := Option.isSome_iff_exists.1 hsome
        simp only [DeliveryTables.parcel, hletter, Option.some_or]
    · rw [Option.or_none]
  · rename_i hnone
    rw [orFail_ok] at h
    obtain ⟨hdlq, hendpoints, hdeliveries, hattempts⟩ := insertLetter_eq_some h
    refine ⟨hendpoints, hattempts, fun k => ?_⟩
    simp only [DeliveryTables.parcel, hdeliveries, hattempts, Table.find?_insert hdlq]
    split
    · next heq =>
        subst heq
        rw [Option.not_isSome_iff_eq_none.1 hnone, Option.none_or]
    · rw [Option.or_none]

theorem ensureLetters_ok {operation : String} {rows : List DeadLetterRow}
    (h : rows.foldlM (ensureLetter operation) tables = .ok tables') :
    tables'.endpoints = tables.endpoints ∧ tables'.attempts = tables.attempts ∧
      ∀ k, tables'.parcel k = { tables.parcel k with
        letter := (tables.parcel k).letter.or (rows.find? fun row => row.deliveryId = k) } := by
  induction rows generalizing tables with
  | nil =>
    cases h
    exact ⟨rfl, rfl, fun k => by rw [List.find?_nil, Option.or_none]⟩
  | cons row rows ih =>
    rw [List.foldlM_cons, bind_ok] at h
    obtain ⟨middle, h₁, h₂⟩ := h
    obtain ⟨hendpoints, hattempts, hparcel⟩ := ensureLetter_ok h₁
    obtain ⟨hendpoints', hattempts', hparcel'⟩ := ih h₂
    refine ⟨hendpoints'.trans hendpoints, hattempts'.trans hattempts, fun k => ?_⟩
    rw [hparcel', hparcel, Option.or_assoc, List.find?_cons]
    by_cases heq : row.deliveryId = k
    · simp [heq]
    · simp [heq]

end

/-! ### Endpoints -/

/-- What a call keeps of the endpoints: none disappears, and none becomes active
again. -/
structure EndpointsKept (tables tables' : DeliveryTables) : Prop where
  stored : ∀ e, (tables.endpoints.find? e).isSome → (tables'.endpoints.find? e).isSome
  revoked : ∀ e, (tables.endpoints.find? e).isSome → tables.endpointActive e = false →
    tables'.endpointActive e = false

theorem EndpointsKept.trans {tables₁ tables₂ tables₃ : DeliveryTables}
    (h : EndpointsKept tables₁ tables₂) (h' : EndpointsKept tables₂ tables₃) :
    EndpointsKept tables₁ tables₃ :=
  ⟨fun e he => h'.stored e (h.stored e he),
    fun e he hrevoked => h'.revoked e (h.stored e he) (h.revoked e he hrevoked)⟩

theorem EndpointsKept.of_eq {tables tables' : DeliveryTables}
    (h : tables'.endpoints = tables.endpoints) : EndpointsKept tables tables' := by
  refine ⟨fun e he => h ▸ he, fun e _ hrevoked => ?_⟩
  rw [DeliveryTables.endpointActive, h]
  exact hrevoked

theorem endpointActive_updateEndpoints {p : EndpointRow → Bool}
    {f : EndpointRow → EndpointRow} {hf : ∀ r, (f r).endpointId = r.endpointId} (e : String) :
    (tables.updateEndpoints p f hf).endpointActive e =
      (tables.endpoints.find? e).any fun r => if p r then (f r).active else r.active := by
  simp only [DeliveryTables.endpointActive, DeliveryTables.updateEndpoints]
  rw [Table.find?_update, Option.any_map]
  congr 1
  funext r
  split <;> rfl

section

variable {tables : DeliveryTables} {p : EndpointRow → Bool}
  {f : EndpointRow → EndpointRow} {hf : ∀ r, (f r).endpointId = r.endpointId}

theorem stored_updateEndpoints (e : String) :
    ((tables.updateEndpoints p f hf).endpoints.find? e).isSome =
      (tables.endpoints.find? e).isSome := by
  simp only [DeliveryTables.updateEndpoints]
  rw [Table.find?_update, Option.isSome_map]

theorem active_of_updateEndpoints (hactive : ∀ r, (f r).active = true → r.active = true)
    {e : String}
    (h : (tables.updateEndpoints p f hf).endpointActive e = true) :
    tables.endpointActive e = true := by
  rw [endpointActive_updateEndpoints, Option.any_eq_true] at h
  obtain ⟨r, hr, h⟩ := h
  rw [DeliveryTables.endpointActive, hr, Option.any_some]
  split at h
  · exact hactive r h
  · exact h

theorem EndpointsKept.updateEndpoints (hactive : ∀ r, (f r).active = true → r.active = true) :
    EndpointsKept tables (tables.updateEndpoints p f hf) := by
  refine ⟨fun e he => (stored_updateEndpoints e).trans he, fun e _ hrevoked => ?_⟩
  rw [← Bool.not_eq_true] at hrevoked ⊢
  exact fun h => hrevoked (active_of_updateEndpoints hactive h)

end

@[simp] theorem endpointActive_purged (now : Time) (tables : DeliveryTables) :
    (purged now tables).endpointActive = tables.endpointActive := by
  funext e
  rw [purged, endpointActive_updateEndpoints, DeliveryTables.endpointActive]
  congr 1
  funext r
  split <;> rfl

theorem purged_kept (now : Time) (tables : DeliveryTables) :
    EndpointsKept tables (purged now tables) :=
  .updateEndpoints fun _ => id

/-! ### Claim -/

section

variable {now : Time} {tables tables' : DeliveryTables}

structure Materialized (active : String → Bool) (tables tables' : DeliveryTables) : Prop where
  endpoints : tables'.endpoints = tables.endpoints
  attempts : tables'.attempts = tables.attempts
  stored : ∀ k r, tables.deliveries.find? k = some r → tables'.deliveries.find? k = some r
  claiming : ∀ k, Relation.ReflTransGen (Claiming active) (tables.parcel k) (tables'.parcel k)

theorem Materialized.refl (tables : DeliveryTables) : Materialized active tables tables :=
  ⟨rfl, rfl, fun _ _ hr => hr, fun _ => .refl⟩

theorem Materialized.trans {tables'' : DeliveryTables} (h : Materialized active tables tables')
    (h' : Materialized active tables' tables'') : Materialized active tables tables'' where
  endpoints := h'.endpoints.trans h.endpoints
  attempts := h'.attempts.trans h.attempts
  stored k r hr := h'.stored k r (h.stored k r hr)
  claiming k := (h.claiming k).trans (h'.claiming k)

theorem materialize_ok {pair : EventRow × EndpointRow}
    (hactive : active pair.2.endpointId = true) (h : materialize now tables pair = .ok tables') :
    Materialized active tables tables' := by
  unfold materialize at h
  split at h
  · cases h
    exact .refl tables
  · rw [orFail_ok] at h
    obtain ⟨hdeliveries, hendpoints, hattempts, hdlq⟩ := insertDelivery_eq_some h
    have hnone := Table.insert_isSome.1 (Option.isSome_iff_exists.2 ⟨_, hdeliveries⟩)
    refine ⟨hendpoints, hattempts, fun k r hr => Table.find?_insert_kept hdeliveries hr,
      fun k => ?_⟩
    by_cases hk : (newDelivery now pair.1 pair.2).deliveryId = k
    · subst hk
      refine .single (.created now pair.1 pair.2 hnone (parcel_letter_none hnone) hactive ?_)
      simp only [DeliveryTables.parcel, hattempts, hdlq, Table.find?_insert_self hdeliveries]
    · have hsame : tables'.parcel k = tables.parcel k := by
        simp only [DeliveryTables.parcel, hattempts, hdlq, Table.find?_insert_of_ne hdeliveries hk]
      rw [hsame]

theorem materialized_ok {pairs : List (EventRow × EndpointRow)}
    (hactive : ∀ pair ∈ pairs, active pair.2.endpointId = true)
    (h : pairs.foldlM (materialize now) tables = .ok tables') :
      Materialized active tables tables' :=
  foldlM_rel .refl .trans (fun pair hpair _ _ => materialize_ok (hactive pair hpair)) h

theorem mem_candidatePairs {locked : List OutboxRow} {db : WebhookDatabase}
    {pair : EventRow × EndpointRow} (h : pair ∈ candidatePairs limit locked db) :
    db.endpointActive pair.2.endpointId = true := by
  obtain ⟨row, hrow, rfl⟩ := List.mem_map.1 h
  have hmem := List.mem_of_mem_take hrow
  rw [mem_orderBy, List.mem_flatMap] at hmem
  obtain ⟨outbox, -, hmem⟩ := hmem
  obtain ⟨endpoint, hendpoint, hsome⟩ := List.mem_filterMap.1 hmem
  obtain ⟨event, -, rfl⟩ := Option.map_eq_some_iff.1 hsome
  rw [Table.mem_select] at hendpoint
  rw [DeliveryTables.endpointActive, Table.find?_of_mem hendpoint.1, Option.any_some]
  exact hendpoint.2

theorem insertAttempts_ok {rows : List DeliveryRow} {attempts attempts' : Table HttpAttemptRow.key}
    (h : rows.foldlM (insertAttempt now) attempts = .ok attempts') (key : String × Nat) :
    (attempts'.find? key).isSome ↔
      (attempts.find? key).isSome ∨ ∃ r ∈ rows, (r.deliveryId, r.attemptCount) = key := by
  induction rows generalizing attempts with
  | nil =>
    cases h
    simp
  | cons r rows ih =>
    rw [List.foldlM_cons, bind_ok] at h
    obtain ⟨middle, h₁, h₂⟩ := h
    simp only [insertAttempt, bind_ok, orFail_ok] at h₁
    obtain ⟨-, -, hinsert⟩ := h₁
    rw [ih h₂, Table.find?_insert hinsert]
    simp only [HttpAttemptRow.key, List.mem_cons, exists_eq_or_imp]
    by_cases heq : (r.deliveryId, r.attemptCount) = key
    · simp [heq]
    · simp [heq]

theorem mem_candidates {r : DeliveryRow} (h : r ∈ candidates now limit tables) :
    tables.deliveries.find? r.deliveryId = some r ∧ claimCandidate now tables r = true := by
  have hmem := List.mem_of_mem_take h
  rw [mem_orderBy, Table.mem_select] at hmem
  exact ⟨Table.find?_of_mem hmem.1, hmem.2⟩

end

theorem lease_find? (now : Time) (ownerId : String) (generation : String → Nat)
    {chosen : List DeliveryRow} {c : DeliveryRow} (hc : c ∈ chosen)
    (hfind : tables.deliveries.find? c.deliveryId = some c) :
    (tables.lease now ownerId generation chosen).deliveries.find? c.deliveryId =
      some (c.claim now ownerId (generation c.endpointId)) := by
  simp only [DeliveryTables.lease, DeliveryTables.updateDeliveries]
  rw [Table.find?_update, hfind, Option.map_some, if_pos]
  rw [List.any_eq_true]
  exact ⟨c, hc, beq_self_eq_true _⟩

theorem deliveryOf_eq_some {r : DeliveryRow} {d : Delivery}
    (h : deliveryOf ownerId tables r = some d) :
    d.deliveryId = r.deliveryId ∧ d.claimToken = r.claimToken := by
  simp only [deliveryOf, Option.map_eq_some_iff] at h
  obtain ⟨endpoint, -, rfl⟩ := h
  exact ⟨rfl, rfl⟩

theorem lease_parcel {generation : String → Nat}
    (tables : DeliveryTables) {chosen : List DeliveryRow} {attempts : Table HttpAttemptRow.key}
    (howner : validOwner ownerId = true)
    (hchosen : ∀ c ∈ chosen, tables.deliveries.find? c.deliveryId = some c ∧
      active c.endpointId = true ∧ c.state.isOpen = true)
    (hattempts : (chosen.map fun c => c.claim now ownerId (generation c.endpointId)).foldlM
      (insertAttempt now) tables.attempts = .ok attempts) (k : String) :
    Relation.ReflTransGen (Claiming active) (tables.parcel k)
      (((tables.lease now ownerId generation chosen).setAttempts attempts).parcel k) := by
  have hattempted := insertAttempts_ok hattempts
  by_cases hk : ∃ c ∈ chosen, c.deliveryId = k
  · obtain ⟨c, hc, rfl⟩ := hk
    obtain ⟨hfind, hactive, hopen⟩ := hchosen c hc
    refine .single (.claimed now ownerId (generation c.endpointId) c
      (fun n => (attempts.find? (c.deliveryId, n)).isSome) hfind hactive hopen howner ?_ ?_)
    · exact (hattempted _).2 (.inr ⟨_, List.mem_map_of_mem hc, rfl⟩)
    · simp only [DeliveryTables.parcel, DeliveryTables.setAttempts, lease_find? _ _ _ hc hfind]
      rfl
  · -- neither the row nor the attempts of another delivery are touched
    have hsame : ((tables.lease now ownerId generation chosen).setAttempts attempts).parcel k =
        tables.parcel k := by
      simp only [DeliveryTables.parcel, DeliveryTables.lease, DeliveryTables.updateDeliveries,
        DeliveryTables.setAttempts, Parcel.mk.injEq, true_and]
      constructor
      · rw [Table.find?_update]
        cases hfind : tables.deliveries.find? k with
        | none => rfl
        | some r =>
          rw [Option.map_some, if_neg]
          simp only [List.any_eq_true, beq_iff_eq, Table.key_of_find? hfind]
          exact hk
      · funext n
        rw [Bool.eq_iff_iff, hattempted]
        constructor
        · rintro (h | ⟨r, hr, heq⟩)
          · exact h
          · obtain ⟨c, hc, rfl⟩ := List.mem_map.1 hr
            exact absurd ⟨c, hc, congrArg Prod.fst heq⟩ hk
        · exact .inl
    rw [hsame]

/-- The delivery stays and either nothing of it changes or its token grows. -/
def Advanced (p p' : Parcel) : Prop :=
  ∀ r, p.row = some r → ∃ r', p'.row = some r' ∧ (r' = r ∨ r.claimToken < r'.claimToken)

theorem Advanced.refl (p : Parcel) : Advanced p p := fun r hr => ⟨r, hr, .inl rfl⟩

theorem Advanced.trans {p'' : Parcel} (h : Advanced p p') (h' : Advanced p' p'') :
    Advanced p p'' := by
  intro r hr
  obtain ⟨r', hr', hstep⟩ := h r hr
  obtain ⟨r'', hr'', hstep'⟩ := h' r' hr'
  refine ⟨r'', hr'', ?_⟩
  rcases hstep with rfl | hlt
  · exact hstep'
  · rcases hstep' with rfl | hlt'
    · exact .inr hlt
    · exact .inr (hlt.trans hlt')

theorem Claiming.advanced (h : Relation.ReflTransGen (Claiming active) p p') : Advanced p p' := by
  induction h with
  | refl => exact .refl _
  | tail _ hclaiming ih =>
    refine ih.trans fun r hr => ?_
    cases hclaiming with
    | created now event endpoint hrow =>
      rw [hrow] at hr
      cases hr
    | claimed now ownerId generation s attempted hrow hactive hopen howner hnew h =>
      rw [hrow] at hr
      cases hr
      subst h
      exact ⟨_, rfl, .inr (Nat.lt_succ_self _)⟩

/-- What `Claim` does: the endpoints stay as active as they are, each parcel is
created or claimed, and what is returned carries a token greater than before. -/
structure ClaimEffect (db db' : WebhookDatabase) (deliveries : List Delivery) : Prop where
  tenant : db'.tenantId = db.tenantId
  active : db'.endpointActive = db.endpointActive
  kept : EndpointsKept db.toDeliveryTables db'.toDeliveryTables
  parcels : ∀ k, Relation.ReflTransGen (Claiming db.endpointActive) (db.parcel k) (db'.parcel k)
  tokens : ∀ d ∈ deliveries,
    (∃ r', db'.deliveries.find? d.deliveryId = some r' ∧ r'.claimToken = d.claimToken) ∧
      ∀ r, db.deliveries.find? d.deliveryId = some r → r.claimToken < d.claimToken

theorem claimPass_ok (howner : validOwner ownerId = true)
    (h : claimPass now ownerId limit db = .ok (deliveries, db')) :
    ClaimEffect db db' deliveries := by
  simp only [claimPass, bind_ok, pure_pair] at h
  obtain ⟨tables, hmaterialized, attempts, hattempts, rfl, rfl⟩ := h
  have hactive : (db.setTables (purged now db.toDeliveryTables)).endpointActive =
      db.endpointActive := endpointActive_purged now _
  obtain ⟨hendpoints, -, hstored, hclaiming⟩ :=
    materialized_ok (fun pair hpair => mem_candidatePairs hpair) hmaterialized
  rw [hactive] at hclaiming
  generalize hchosen : candidates now limit _ = chosen at hattempts ⊢
  -- a candidate is a stored delivery, and materialization leaves it as it is
  have hcandidate : ∀ c ∈ chosen, db.deliveries.find? c.deliveryId = some c ∧
      claimCandidate now db.toDeliveryTables c := by
    intro c hc
    rw [← hchosen] at hc
    obtain ⟨hfind, hclaim⟩ := mem_candidates hc
    refine ⟨hfind, ?_⟩
    simpa [claimCandidate, WebhookDatabase.setTables] using hclaim
  have hlease : ∀ k, Relation.ReflTransGen (Claiming db.endpointActive) (tables.parcel k) _ :=
    lease_parcel tables howner (fun c hc => by
      obtain ⟨hfind, hcond⟩ := hcandidate c hc
      simp only [claimCandidate, Bool.and_eq_true] at hcond
      exact ⟨hstored _ _ hfind, hcond.1.1.1, hcond.1.1.2⟩) hattempts
  refine ⟨rfl, ?_, ?_, fun k => (hclaiming k).trans (hlease k), fun d hd => ?_⟩
  · funext e
    rw [← endpointActive_purged now db.toDeliveryTables]
    exact congrArg (fun t : Table EndpointRow.endpointId => (t.find? e).any EndpointRow.active)
      hendpoints
  · exact (purged_kept now db.toDeliveryTables).trans (.of_eq hendpoints)
  · obtain ⟨r, hr, hd⟩ := List.mem_filterMap.1 hd
    obtain ⟨c, hc, rfl⟩ := List.mem_map.1 hr
    obtain ⟨hid, htoken⟩ := deliveryOf_eq_some hd
    have hfind := (hcandidate c hc).1
    have hleased := lease_find? now ownerId
      (db.setTables (purged now db.toDeliveryTables)).generationOf hc (hstored _ _ hfind)
    rw [hid, htoken]
    refine ⟨⟨_, hleased, rfl⟩, fun r hr => ?_⟩
    obtain rfl := Option.mem_unique hfind hr
    exact Nat.lt_succ_self _

theorem ClaimEffect.trans {db₁ db₂ db₃ : WebhookDatabase} {first : List Delivery}
    (h : ClaimEffect db₁ db₂ first) (h' : ClaimEffect db₂ db₃ deliveries) :
    ClaimEffect db₁ db₃ deliveries where
  tenant := h'.tenant.trans h.tenant
  active := h'.active.trans h.active
  kept := h.kept.trans h'.kept
  parcels k := (h.parcels k).trans (h.active ▸ h'.parcels k)
  tokens d hd := by
    refine ⟨(h'.tokens d hd).1, fun r hr => ?_⟩
    obtain ⟨r₂, hr₂, hstep⟩ := Claiming.advanced (h.parcels d.deliveryId) r hr
    have hlt := (h'.tokens d hd).2 r₂ hr₂
    rcases hstep with rfl | hgrown
    · exact hlt
    · exact hgrown.trans hlt

theorem claim_ok {again : Time} (h : claim now again ownerId limit db = .ok (deliveries, db')) :
    ClaimEffect db db' deliveries := by
  simp only [claim, bind_ok, require_ok, Bool.and_eq_true] at h
  obtain ⟨-, ⟨⟨⟨-, howner⟩, -⟩, -⟩, ⟨first, middle⟩, hfirst, h⟩ := h
  have heffect := claimPass_ok howner hfirst
  simp only at h
  split at h
  · exact heffect.trans (claimPass_ok howner h)
  · rw [pure_pair] at h
    obtain ⟨rfl, rfl⟩ := h
    exact heffect

/-! ### The other operations -/

section

variable {now : Time} {db db' : WebhookDatabase} {answer : Bool} {dlqId ownerId : String}

theorem parcel_setTables (tables : DeliveryTables) (k : String) :
    (db.setTables tables).parcel k = tables.parcel k := rfl

theorem parcel_updateDelivery {tables : DeliveryTables} {k k' : String}
    {f : DeliveryRow → DeliveryRow} {hf : ∀ r, (f r).deliveryId = r.deliveryId}
    {hendpoint : ∀ r, (f r).endpointId = r.endpointId} :
    (tables.updateDeliveries (fun r => r.deliveryId == k') f hf hendpoint).parcel k =
      if k = k' then { tables.parcel k with row := (tables.parcel k).row.map f }
      else tables.parcel k := by
  rw [parcel_updateDeliveries]
  cases hrow : tables.deliveries.find? k with
  | none => simp [DeliveryTables.parcel, hrow]
  | some r =>
    have hk : r.deliveryId = k := Table.key_of_find? hrow
    split
    · next h => simp [DeliveryTables.parcel, hrow, hk, ← h]
    · next h => simp [DeliveryTables.parcel, hrow, hk, h]

structure Admission (now : Time) (delivery : Delivery) (db db' : WebhookDatabase) : Prop where
  row : ∃ r, db.deliveries.find? delivery.deliveryId = some r ∧ r.admissible now delivery = true
  active : db.endpointActive delivery.endpointId = true
  after : db' = db.setTables (db.updateDeliveries (fun r => r.deliveryId == delivery.deliveryId)
    (fun r => { r with httpStartedAt := some now }))

theorem admitClaim_ok {delivery : Delivery} (h : admitClaim now delivery db = .ok (answer, db')) :
    answer = false ∧ db' = db ∨ answer = true ∧ Admission now delivery db db' := by
  simp only [admitClaim, bind_ok] at h
  obtain ⟨-, -, h⟩ := h
  split at h
  · rename_i hadmitted
    rw [pure_pair] at h
    simp only [Bool.and_eq_true, Option.any_eq_true] at hadmitted
    obtain ⟨⟨endpoint, hendpoint, hactive, -⟩, r, hr, hadmissible⟩ := hadmitted
    refine .inr ⟨h.1.symm, ⟨r, hr, hadmissible⟩, ?_, h.2.symm⟩
    rw [DeliveryTables.endpointActive, hendpoint, Option.any_some]
    exact hactive
  · rw [pure_pair] at h
    exact .inl ⟨h.1.symm, h.2.symm⟩

theorem renewClaim_ok {deliveryId : String} {claimToken : Nat}
    (h : renewClaim now deliveryId ownerId claimToken db = .ok (answer, db')) :
    db' = db ∨ ∃ r, db.deliveries.find? deliveryId = some r ∧
      r.renewable now ownerId claimToken = true ∧
      db' = db.setTables (db.updateDeliveries (fun r => r.deliveryId == deliveryId)
        (fun r => { r with claimExpiresAt := some (now + claimInterval) })) := by
  simp only [renewClaim, bind_ok] at h
  obtain ⟨-, -, h⟩ := h
  split at h
  · rename_i hrenewable
    rw [pure_pair] at h
    obtain ⟨r, hr, hrenewable⟩ := (Option.any_eq_true _ _).1 hrenewable
    exact .inr ⟨r, hr, hrenewable, h.2.symm⟩
  · rw [pure_pair] at h
    exact .inl h.2.symm

/-- What `CompleteAttempt` found when it commits, and the parcels it leaves. -/
structure Completion (now : Time) (result : AttemptResult) (db db' : WebhookDatabase)
    (r : DeliveryRow) (letter : DeadLetterRow) : Prop where
  row : db.deliveries.find? result.deliveryId = some r
  completable : r.completable result = true
  fresh : letter.replayedAt = none
  tenant : db'.tenantId = db.tenantId
  endpoints : db'.endpoints = db.endpoints
  parcels : ∀ k, db'.parcel k = if k = result.deliveryId then
      { db.parcel k with
        row := some (r.complete now (db.endpointActive r.endpointId) result)
        letter := if result.dead || !db.endpointActive r.endpointId then
          (db.parcel k).letter.or (some letter) else (db.parcel k).letter }
    else db.parcel k

theorem completeAttempt_ok {result : AttemptResult}
    (h : completeAttempt now dlqId result db = .ok db') :
    ∃ r letter, Completion now result db db' r letter := by
  simp only [completeAttempt, bind_ok, pure_ok, orFail_ok, Option.filter_eq_some_iff] at h
  obtain ⟨-, -, r, ⟨hrow, hcompletable⟩, endpoint, hendpoint, a, -, tables, htables, rfl⟩ := h
  have hid : r.deliveryId = result.deliveryId := Table.key_of_find? hrow
  have hactive : db.endpointActive r.endpointId = endpoint.active := by
    rw [DeliveryTables.endpointActive, hendpoint, Option.any_some]
  obtain ⟨hendpoints, -, hparcels⟩ := ensureLetters_ok htables
  refine ⟨r, deadLetter now dlqId
    (if endpoint.active then result.safeError else "endpoint revoked") r, hrow, hcompletable, rfl,
    rfl, hendpoints, fun k => ?_⟩
  rw [parcel_setTables, hparcels, parcel_updateDelivery, parcel_updateAttempts, hid, hactive]
  by_cases hdead : (result.dead || !endpoint.active) = true
  · by_cases hk : k = result.deliveryId
    · subst hk
      simp [DeliveryTables.parcel, hrow, hdead, deadLetter, hid]
    · simp [hdead, hk, deadLetter, hid, Ne.symm hk]
  · by_cases hk : k = result.deliveryId
    · subst hk
      simp [DeliveryTables.parcel, hrow, hdead]
    · simp [hdead, hk]

structure Revocation (now : Time) (endpointId : String) (db db' : WebhookDatabase) : Prop where
  tenant : db'.tenantId = db.tenantId
  kept : EndpointsKept db.toDeliveryTables db'.toDeliveryTables
  stored : (db.endpoints.find? endpointId).isSome
  inactive : db'.endpointActive endpointId = false
  parcels : ∀ k, db'.parcel k = { db.parcel k with
    row := (db.parcel k).row.map fun r => if r.revocable now endpointId then r.revoke now else r
    letter := (db.parcel k).letter.or
      (((db.parcel k).row.filter fun r => r.revocable now endpointId).map (revokedLetter now)) }

theorem deleteEndpoint_ok (h : deleteEndpoint now endpointId db = .ok (answer, db')) :
    Revocation now endpointId db db' := by
  simp only [deleteEndpoint, bind_ok, pure_ok, require_ok, Prod.mk.injEq] at h
  obtain ⟨-, -, -, hstored, tables, htables, -, rfl⟩ := h
  obtain ⟨hendpoints, -, hparcels⟩ := ensureLetters_ok htables
  have hkept : EndpointsKept db.toDeliveryTables tables := .of_eq hendpoints
  refine ⟨rfl, hkept.trans (.updateEndpoints (by rintro _ ⟨⟩)), hstored, ?_, fun k => ?_⟩
  · have hactive : (tables.updateEndpoints (fun r => r.endpointId == endpointId)
        EndpointRow.revoke).endpointActive endpointId = false := by
      rw [endpointActive_updateEndpoints]
      cases hfind : tables.endpoints.find? endpointId with
      | none => rfl
      | some r =>
        have hid : r.endpointId = endpointId := Table.key_of_find? hfind
        simp [hid, EndpointRow.revoke]
    exact hactive
  · have hafter : (db.setTables (tables.updateEndpoints (fun r => r.endpointId == endpointId)
        EndpointRow.revoke)).parcel k = tables.parcel k := rfl
    have hletter : ((db.deliveries.select fun r => r.revocable now endpointId).map
        (revokedLetter now)).find? (fun row => row.deliveryId = k) =
          ((db.deliveries.find? k).filter fun r => r.revocable now endpointId).map
            (revokedLetter now) := by
      rw [List.find?_map, ← Table.find?_select]
      rfl
    rw [hafter, hparcels, hletter, parcel_updateDeliveries, parcel_updateAttempts]
    rfl

/-- What `ReplayDLQ` found when it commits, and the parcels it leaves. -/
structure Replay (now : Time) (dlqId : String) (db db' : WebhookDatabase) (r : DeliveryRow)
    (letter : DeadLetterRow) : Prop where
  row : db.deliveries.find? letter.deliveryId = some r
  stored : db.dlq.find? letter.deliveryId = some letter
  named : letter.dlqId = dlqId
  fresh : letter.replayedAt = none
  active : db.endpointActive r.endpointId = true
  tenant : db'.tenantId = db.tenantId
  endpoints : db'.endpoints = db.endpoints
  parcels : ∀ k, db'.parcel k = if k = letter.deliveryId then
      { db.parcel k with row := some (r.replay now), letter := some (letter.replayed now) }
    else db.parcel k

theorem replayDLQ_ok (h : replayDLQ now dlqId db = .ok db') :
    ∃ r letter, Replay now dlqId db db' r letter := by
  simp only [replayDLQ, bind_ok, pure_ok, require_ok] at h
  obtain ⟨-, -, -, hsome, rfl⟩ := h
  generalize hletters : db.dlq.select (replayable dlqId db.toDeliveryTables) = letters at hsome ⊢
  obtain ⟨letter, hletter⟩ : ∃ letter, letter ∈ letters :=
    List.exists_mem_of_ne_nil _ (by simpa using hsome)
  have hmem : ∀ l ∈ letters, l ∈ db.dlq ∧ replayable dlqId db.toDeliveryTables l = true :=
    fun l hl => Table.mem_select.1 (hletters ▸ hl)
  obtain ⟨hstored, hreplayable⟩ := hmem letter hletter
  simp only [replayable, Bool.and_eq_true, beq_iff_eq, Option.isNone_iff_eq_none,
    Option.any_eq_true] at hreplayable
  obtain ⟨⟨hid, hfresh⟩, r, hrow, hactive⟩ := hreplayable
  -- the primary key leaves no other letter under the identifier
  have hunique : ∀ l ∈ db.dlq, l.dlqId = dlqId → l.deliveryId = letter.deliveryId :=
    fun l hl hl' => db.letterIdUnique l hl letter hstored (hl'.trans hid.symm)
  refine ⟨r, letter, hrow, Table.find?_of_mem hstored, hid, hfresh, hactive, rfl, rfl, fun k => ?_⟩
  rw [parcel_setTables, parcel_markReplayed, parcel_updateDeliveries]
  split
  · next hk =>
      have hany : (letters.any fun l => l.deliveryId == r.deliveryId) = true :=
        List.any_eq_true.2 ⟨letter, hletter, by simp [Table.key_of_find? hrow]⟩
      subst hk
      simp only [DeliveryTables.parcel, hrow, Table.find?_of_mem hstored, Option.map_some, hany,
        if_true, hid, beq_self_eq_true]
  · next hk =>
      have hkept : ∀ s, db.deliveries.find? k = some s →
          (letters.any fun l => l.deliveryId == s.deliveryId) = false := by
        intro s hs
        rw [List.any_eq_false]
        intro l hl heq
        obtain ⟨hl, hl'⟩ := hmem l hl
        simp only [replayable, Bool.and_eq_true, beq_iff_eq] at hl' heq
        exact hk ((Table.key_of_find? hs).symm.trans
          (heq.symm.trans (hunique l hl hl'.1.1)))
      have hunmarked : ∀ l, db.dlq.find? k = some l → l.dlqId ≠ dlqId := fun l hl heq =>
        hk ((Table.key_of_find? hl).symm.trans (hunique l (Table.mem_of_find? hl) heq))
      simp only [DeliveryTables.parcel, Parcel.mk.injEq, and_true]
      constructor
      · cases hs : db.deliveries.find? k with
        | none => rfl
        | some s => simp only [Option.map_some, hkept s hs, Bool.false_eq_true, if_false]
      · cases hl : db.dlq.find? k with
        | none => rfl
        | some l => simp only [Option.map_some, beq_eq_false_iff_ne.2 (hunmarked l hl),
            Bool.false_eq_true, if_false]

/-! ### Every call -/

structure Effect (db db' : WebhookDatabase) : Prop where
  tenant : db'.tenantId = db.tenantId
  kept : EndpointsKept db.toDeliveryTables db'.toDeliveryTables
  parcels : ∀ k, Turns db.endpointActive (db.parcel k) (db'.parcel k)

theorem Effect.refl (db : WebhookDatabase) : Effect db db := ⟨rfl, .of_eq rfl, fun _ => .refl⟩

structure Quiet (db db' : WebhookDatabase) : Prop where
  tenant : db'.tenantId = db.tenantId
  kept : EndpointsKept db.toDeliveryTables db'.toDeliveryTables
  parcels : ∀ k, db'.parcel k = db.parcel k

theorem Quiet.effect (h : Quiet db db') : Effect db db' :=
  ⟨h.tenant, h.kept, fun k => h.parcels k ▸ .refl⟩

theorem publish_quiet {rt : Runtime} {event : EventRow} {outboxId : String}
    (h : publish rt now event outboxId db = .ok db') : Quiet db db' := by
  simp only [publish, bind_ok, pure_ok] at h
  obtain ⟨-, -, -, -, -, -, -, -, rfl⟩ := h
  exact ⟨rfl, .of_eq rfl, fun _ => rfl⟩

theorem createEndpoint_quiet {endpoint : Endpoint} {secret : SessionEnvelope} {maxEndpoints : Nat}
    (h : createEndpoint endpoint secret maxEndpoints db = .ok db') : Quiet db db' := by
  simp only [createEndpoint, bind_ok, pure_ok, orFail_ok] at h
  obtain ⟨-, -, -, -, -, -, tables, htables, rfl⟩ := h
  obtain ⟨hendpoints, hdeliveries, hattempts, hdlq⟩ := insertEndpoint_eq_some htables
  have hfind : ∀ e, (db.endpoints.find? e).isSome →
      tables.endpoints.find? e = db.endpoints.find? e := by
    intro e he
    obtain ⟨r, hr⟩ := Option.isSome_iff_exists.1 he
    rw [hr, Table.find?_insert_kept hendpoints hr]
  refine ⟨rfl, ⟨fun e he => ?_, fun e he hrevoked => ?_⟩, fun k => ?_⟩
  · exact (hfind e he).symm ▸ he
  · have hactive : tables.endpointActive e = db.endpointActive e := by
      rw [DeliveryTables.endpointActive, hfind e he, DeliveryTables.endpointActive]
    exact hactive.trans hrevoked
  · have hparcel : tables.parcel k = db.parcel k := by
      simp only [DeliveryTables.parcel, hdeliveries, hattempts, hdlq]
    exact hparcel

theorem rotateEndpoint_quiet {keyId : String} {secret : SessionEnvelope}
    {previousValidUntil : Option Time}
    (h : rotateEndpoint endpointId keyId secret previousValidUntil db = .ok db') :
    Quiet db db' := by
  simp only [rotateEndpoint, bind_ok, pure_ok] at h
  obtain ⟨-, -, -, -, -, -, -, -, rfl⟩ := h
  exact ⟨rfl, .updateEndpoints fun _ => id, fun _ => rfl⟩

theorem purgeExpiredSecrets_quiet (h : purgeExpiredSecrets now db = .ok db') : Quiet db db' := by
  simp only [purgeExpiredSecrets, bind_ok, pure_ok] at h
  obtain ⟨-, -, rfl⟩ := h
  exact ⟨rfl, purged_kept now _, fun _ => rfl⟩

def Operation.quiet : Operation → Bool
  | .publish .. | .createEndpoint .. | .rotateEndpoint .. | .purgeExpiredSecrets => true
  | _ => false

theorem perform_quiet {rt : Runtime} {operation : Operation} {reply : Reply}
    (hquiet : operation.quiet = true) (h : perform rt now operation db = .ok (reply, db')) :
    Quiet db db' := by
  cases operation with
  | publish => exact publish_quiet (finishing_ok h).1
  | createEndpoint => exact createEndpoint_quiet (finishing_ok h).1
  | rotateEndpoint => exact rotateEndpoint_quiet (finishing_ok h).1
  | purgeExpiredSecrets => exact purgeExpiredSecrets_quiet (finishing_ok h).1
  | _ => cases hquiet

theorem Effect.of_turn {k' : String} {after : String → Parcel}
    (htenant : db'.tenantId = db.tenantId)
    (hendpoints : db'.endpoints = db.endpoints)
    (hparcels : ∀ k, db'.parcel k = if k = k' then after k else db.parcel k)
    (hturn : Turn db.endpointActive (db.parcel k') (after k')) : Effect db db' := by
  refine ⟨htenant, .of_eq hendpoints, fun k => ?_⟩
  rw [hparcels]
  split
  · next hk =>
      subst hk
      exact .single hturn
  · exact .refl

theorem claiming_turns (h : Relation.ReflTransGen (Claiming active) p p') : Turns active p p' :=
  Relation.ReflTransGen.mono (fun _ _ hclaiming => Turn.claiming hclaiming) _ _ h

theorem claim_effect {again : Time}
    (h : claim now again ownerId limit db = .ok (deliveries, db')) : Effect db db' := by
  have heffect := claim_ok h
  exact ⟨heffect.tenant, heffect.kept, fun k => claiming_turns (heffect.parcels k)⟩

theorem admitClaim_effect {delivery : Delivery}
    (h : admitClaim now delivery db = .ok (answer, db')) : Effect db db' := by
  rcases admitClaim_ok h with ⟨-, rfl⟩ | ⟨-, ⟨r, hr, hadmissible⟩, hactive, rfl⟩
  · exact .refl _
  · have hendpoint : r.endpointId = delivery.endpointId := by
      simp only [DeliveryRow.admissible, Bool.and_eq_true, beq_iff_eq] at hadmissible
      exact hadmissible.1.1.1.1.1.1
    refine .of_turn rfl rfl (@parcel_updateDelivery _ · _ _ (fun _ => by rfl) fun _ => by rfl)
      (.admitted now delivery r hr (hendpoint ▸ hactive) hadmissible ?_)
    simp only [DeliveryTables.parcel, hr, Option.map_some]

theorem renewClaim_effect {deliveryId : String} {claimToken : Nat}
    (h : renewClaim now deliveryId ownerId claimToken db = .ok (answer, db')) :
    Effect db db' := by
  rcases renewClaim_ok h with rfl | ⟨r, hr, hrenewable, rfl⟩
  · exact .refl _
  · refine .of_turn rfl rfl (@parcel_updateDelivery _ · _ _ (fun _ => by rfl) fun _ => by rfl)
      (.renewed now ownerId claimToken r hr hrenewable ?_)
    simp only [DeliveryTables.parcel, hr, Option.map_some]

theorem completeAttempt_effect {result : AttemptResult}
    (hboth : result.succeeded = true → result.dead = false)
    (h : completeAttempt now dlqId result db = .ok db') : Effect db db' := by
  obtain ⟨r, letter, hcompletion⟩ := completeAttempt_ok h
  exact .of_turn hcompletion.tenant hcompletion.endpoints hcompletion.parcels
    (.completed now result r letter hcompletion.row hcompletion.completable hboth hcompletion.fresh
      rfl)

theorem deleteEndpoint_effect (h : deleteEndpoint now endpointId db = .ok (answer, db')) :
    Effect db db' := by
  have hrevocation := deleteEndpoint_ok h
  refine ⟨hrevocation.tenant, hrevocation.kept, fun k => ?_⟩
  rw [hrevocation.parcels]
  cases hrow : (db.parcel k).row with
  | none =>
    simp only [Option.map_none, Option.filter_none, Option.or_none]
    rw [← hrow]
  | some r =>
    by_cases hr : r.revocable now endpointId = true
    · refine .single (.revoked now endpointId r (revokedLetter now r) hrow hr rfl ?_)
      simp only [Option.map_some, Option.filter_some, hr, if_true]
    · simp only [Option.map_some, Option.filter_some, hr, Bool.false_eq_true, if_false,
        Option.map_none, Option.or_none]
      rw [← hrow]

theorem replayDLQ_effect (h : replayDLQ now dlqId db = .ok db') : Effect db db' := by
  obtain ⟨r, letter, hreplay⟩ := replayDLQ_ok h
  exact .of_turn hreplay.tenant hreplay.endpoints hreplay.parcels
    (.replayed now r letter hreplay.row hreplay.stored hreplay.fresh hreplay.active rfl)

end

theorem perform_effect {rt : Runtime} {call : Call} {reply : Reply}
    (h : perform rt call.1 call.2 db = .ok (reply, db')) : Effect db db' := by
  obtain ⟨now, operation⟩ := call
  cases operation with
  | publish | createEndpoint | rotateEndpoint | purgeExpiredSecrets =>
    exact (perform_quiet rfl h).effect
  | claim again ownerId limit =>
    obtain ⟨deliveries, h, -⟩ := replying_ok h
    exact claim_effect h
  | admitClaim delivery =>
    obtain ⟨answer, h, -⟩ := replying_ok h
    exact admitClaim_effect h
  | renewClaim deliveryId ownerId claimToken =>
    obtain ⟨answer, h, -⟩ := replying_ok h
    exact renewClaim_effect h
  | completeAttempt dlqId worker delivery report =>
    exact completeAttempt_effect (worker.result_not_both delivery report) (finishing_ok h).1
  | deleteEndpoint endpointId =>
    obtain ⟨answer, h, -⟩ := replying_ok h
    exact deleteEndpoint_effect h
  | replayDLQ dlqId => exact replayDLQ_effect (finishing_ok h).1

theorem step_effect (rt : Runtime) (call : Call) (db : WebhookDatabase) :
    Effect db (step rt call db).2 := by
  refine step_rule rt call db (fun _ _ => .refl db) fun reply db' hperform => ?_
  exact perform_effect hperform

end MessagingGateway.Webhook
