import MessagingGateway.Webhook.Fence

/-!
# Revocation of an endpoint

`DeleteEndpoint` makes the queued deliveries of an endpoint dead and leaves alone
those whose HTTP request may be on the wire, which it recognises by
`http_started_at` and an unexpired claim. A failed attempt that waits for its
next try keeps `http_started_at` and has no claim, so it is on neither side of
the filter: it stays pending, and no later statement touches it.
-/

namespace MessagingGateway.Webhook

open Relational Domain Store

def DeadWithLetter (db : WebhookDatabase) (deliveryId : String) : Prop :=
  ∃ r, db.deliveries.find? deliveryId = some r ∧ r.state = .dead ∧ (db.dlq.find? deliveryId).isSome

/-- No letter has an identifier that revocation would choose for another
delivery: `newID()` returns none of this form. -/
def LettersNamed (db : WebhookDatabase) : Prop :=
  ∀ l ∈ db.dlq, ∀ r ∈ db.deliveries, l.dlqId = r.deliveryId ++ ":revoked" →
    l.deliveryId = r.deliveryId

/-- What the deletion of an endpoint, from `db` to `db'`, is for. -/
structure EndpointRevoked (rt : Runtime) (now : Time) (endpointId : String)
    (db db' : WebhookDatabase) : Prop where
  /-- what was queued is dead, unless its request is on the wire -/
  settled : ∀ r ∈ db.deliveries, r.endpointId = endpointId → r.state.isOpen = true →
    r.onWire now endpointId = true ∨ DeadWithLetter db' r.deliveryId
  /-- no request is admitted any more -/
  silent : ∀ later db'', Deliveries rt db' later db'' → ∀ e ∈ later, ∀ instant delivery,
    delivery.endpointId = endpointId → e ≠ ((instant, .admitClaim delivery), .answered true)
  /-- and no delivery is pending in any later state -/
  nonePending : ∀ later db'', Deliveries rt db' later db'' → ∀ r ∈ db''.deliveries,
    r.endpointId = endpointId → r.state ≠ .pending
  /-- a request on the wire ends with the delivery dead when its attempt completes -/
  completed : ∀ later db'', Deliveries rt db' later db'' → ∀ r ∈ db''.deliveries,
    r.endpointId = endpointId → r.state = .delivering → ∀ instant dlqId result,
      result.deliveryId = r.deliveryId → r.completable result = true →
      result.safeError.utf8ByteSize ≤ 1024 → (∀ l ∈ db''.dlq, l.dlqId ≠ dlqId) →
      ∃ after, completeAttempt instant dlqId result db'' = .ok after ∧
        DeadWithLetter after r.deliveryId
  /-- or when the endpoint is deleted again after the claim expired -/
  repeated : ∀ later db'', Deliveries rt db' later db'' → ∀ r ∈ db''.deliveries,
    r.endpointId = endpointId → r.state = .delivering → ∀ instant,
      r.claimExpiresAt.any (· ≤ instant) = true → LettersNamed db'' →
      ∃ answer after, deleteEndpoint instant endpointId db'' = .ok (answer, after) ∧
        DeadWithLetter after r.deliveryId

/-! ### After the deletion -/

structure Closed (endpointId : String) (db : WebhookDatabase) : Prop where
  stored : (db.endpoints.find? endpointId).isSome
  inactive : db.endpointActive endpointId = false
  none : ∀ k r, (db.parcel k).row = some r → r.endpointId = endpointId → r.state ≠ .pending

variable {endpointId : String}

theorem Turn.none_pending {active : String → Bool} {p p' : Parcel}
    (hinactive : active endpointId = false) (hturn : Turn active p p')
    (h : ∀ r, p.row = some r → r.endpointId = endpointId → r.state ≠ .pending) :
    ∀ r, p'.row = some r → r.endpointId = endpointId → r.state ≠ .pending := by
  have hnot : ∀ e, active e = true → e ≠ endpointId := by
    rintro e he rfl
    rw [hinactive] at he
    cases he
  cases hturn with
  | claiming hclaiming =>
    cases hclaiming with
    | created now event endpoint hrow hletter hactive h'
    | claimed now ownerId generation r attempted hrow hactive hopen howner hnew h' =>
      subst h'
      rintro s ⟨⟩ hs
      exact absurd hs (hnot _ hactive)
  | admitted now delivery r hrow hactive hr h' | renewed now ownerId claimToken r hrow hr h' =>
    subst h'
    rintro s ⟨⟩ hs
    exact h r hrow hs
  | completed now result r letter hrow hr hboth hletter h' =>
    subst h'
    rintro s ⟨⟩ hs
    have hrevoked : active r.endpointId = false := hs ▸ hinactive
    simp [DeliveryRow.complete, hrevoked]
  | revoked now endpointId r letter hrow hr hletter h' =>
    subst h'
    rintro s ⟨⟩ -
    simp [DeliveryRow.revoke]
  | replayed now r letter hrow hletter hfresh hactive h' =>
    subst h'
    rintro s ⟨⟩ hs
    exact absurd hs (hnot _ hactive)

variable {db' db : WebhookDatabase} {rt : Runtime} {now : Time} {later : List (Call × Reply)}
  {r : DeliveryRow}

theorem step_closed (call : Call)
    (h : Closed endpointId db) : Closed endpointId (step rt call db).2 := by
  have heffect := step_effect rt call db
  refine ⟨heffect.kept.stored _ h.stored, heffect.kept.revoked _ h.stored h.inactive, fun k => ?_⟩
  exact (heffect.parcels k).invariant (fun _ _ hturn => hturn.none_pending h.inactive) (h.none k)

theorem later_closed (h : Closed endpointId db) (hlater : Deliveries rt db later db') :
    Closed endpointId db' :=
  hlater.invariant (fun _ call _ => step_closed call) h

theorem later_sound (h : ∀ k, Sound (db.parcel k)) (hlater : Deliveries rt db later db') :
    ∀ k, Sound (db'.parcel k) :=
  hlater.invariant (P := fun db => ∀ k, Sound (db.parcel k)) (fun _ call _ => step_sound call) h

theorem later_tenant (hlater : Deliveries rt db later db') : db'.tenantId = db.tenantId :=
  hlater.invariant (P := fun db' => db'.tenantId = db.tenantId)
    (fun s call _ h => ((step_effect rt call s).tenant).trans h) rfl

theorem closed_silent (h : Closed endpointId db) (hlater : Deliveries rt db later db') :
    ∀ e ∈ later, ∀ instant delivery, delivery.endpointId = endpointId →
      e ≠ ((instant, .admitClaim delivery), .answered true) := by
  refine (hlater.invariant_trace (P := fun later db => Closed endpointId db ∧ ∀ e ∈ later,
    ∀ instant delivery, delivery.endpointId = endpointId →
      e ≠ ((instant, .admitClaim delivery), .answered true)) ?_ ⟨h, by simp⟩).2
  intro later db call _ ⟨hclosed, hsilent⟩
  refine ⟨step_closed call hclosed, fun e he => ?_⟩
  rcases List.mem_append.1 he with he | he
  · exact hsilent e he
  · rw [List.mem_singleton] at he
    subst he
    intro instant delivery hendpoint heq
    obtain ⟨rfl, hyes⟩ := Prod.mk.inj heq
    revert hyes
    refine step_rule rt (instant, .admitClaim delivery) db nofun fun reply db' hperform hyes => ?_
    obtain ⟨answer, hok, rfl⟩ := replying_ok hperform
    rcases admitClaim_ok hok with ⟨rfl, -⟩ | ⟨-, -, hactive, -⟩
    · cases hyes
    · rw [hendpoint, hclosed.inactive] at hactive
      cases hactive

/-! ### The statements that end a delivery commit -/

section

variable {tables tables' : DeliveryTables} {operation : String}

theorem ensureLetter_succeeds (operation : String) {row : DeadLetterRow}
    (hlinked : (tables.deliveries.find? row.deliveryId).isSome)
    (hid : ∀ l ∈ tables.dlq, l.dlqId = row.dlqId → l.deliveryId = row.deliveryId) :
    ∃ tables', ensureLetter operation tables row = .ok tables' := by
  unfold ensureLetter
  split
  · exact ⟨_, rfl⟩
  · rename_i hnone
    rw [Option.not_isSome_iff_eq_none] at hnone
    have hunused : ∀ l ∈ tables.dlq.rows, l.dlqId ≠ row.dlqId := by
      intro l hl heq
      have hfind := Table.find?_of_mem (t := tables.dlq) hl
      rw [hid l hl heq, hnone] at hfind
      cases hfind
    obtain ⟨dlq, hdlq⟩ := Table.exists_insert hnone
    simp only [orFail_ok, DeliveryTables.insertLetter, dif_pos (And.intro hlinked hunused)]
    split
    · simp_all
    · exact ⟨_, rfl⟩

theorem mem_dlq_ensureLetter {row l : DeadLetterRow}
    (h : ensureLetter operation tables row = .ok tables') (hl : l ∈ tables'.dlq) :
    l ∈ tables.dlq ∨ l = row := by
  have hfind : (tables'.parcel l.deliveryId).letter = some l := Table.find?_of_mem hl
  rw [(ensureLetter_ok h).2.2, Option.or_eq_some_iff] at hfind
  rcases hfind with hold | ⟨-, hnew⟩
  · exact .inl (Table.mem_of_find? hold)
  · split at hnew
    · exact .inr (Option.some.inj hnew).symm
    · cases hnew

theorem ensureLetters_succeed (operation : String) {rows : List DeadLetterRow}
    (hlinked : ∀ row ∈ rows, (tables.deliveries.find? row.deliveryId).isSome)
    (hid : ∀ l ∈ tables.dlq, ∀ row ∈ rows, l.dlqId = row.dlqId → l.deliveryId = row.deliveryId)
    (hrows : ∀ l ∈ rows, ∀ row ∈ rows, l.dlqId = row.dlqId → l.deliveryId = row.deliveryId) :
    ∃ tables', rows.foldlM (ensureLetter operation) tables = .ok tables' := by
  induction rows generalizing tables with
  | nil => exact ⟨tables, rfl⟩
  | cons row rows ih =>
    obtain ⟨middle, hmiddle⟩ := ensureLetter_succeeds operation
      (hlinked row List.mem_cons_self) fun l hl => hid l hl row List.mem_cons_self
    have hdeliveries : ∀ k, middle.deliveries.find? k = tables.deliveries.find? k :=
      fun k => congrArg Parcel.row ((ensureLetter_ok hmiddle).2.2 k)
    obtain ⟨tables', htables'⟩ := @ih middle
      (fun r hr => by
        rw [hdeliveries]
        exact hlinked r (List.mem_cons_of_mem _ hr))
      (fun l hl r hr => by
        rcases mem_dlq_ensureLetter hmiddle hl with hl | rfl
        · exact hid l hl r (List.mem_cons_of_mem _ hr)
        · exact hrows _ List.mem_cons_self r (List.mem_cons_of_mem _ hr))
      fun l hl r hr => hrows l (List.mem_cons_of_mem _ hl) r (List.mem_cons_of_mem _ hr)
    refine ⟨tables', ?_⟩
    rw [List.foldlM_cons, bind_ok]
    exact ⟨middle, hmiddle, htables'⟩

end

section

variable {db : WebhookDatabase} {endpointId : String}

theorem completeAttempt_succeeds {dlqId : String} {result : AttemptResult}
    (hsound : Sound (db.parcel r.deliveryId)) (htenant : db.tenantId ≠ "")
    (hr : r ∈ db.deliveries) (hid : result.deliveryId = r.deliveryId)
    (hcompletable : r.completable result = true) (herror : result.safeError.utf8ByteSize ≤ 1024)
    (hunused : ∀ l ∈ db.dlq, l.dlqId ≠ dlqId) :
    ∃ after, completeAttempt now dlqId result db = .ok after := by
  have hrow : db.deliveries.find? r.deliveryId = some r := Table.find?_of_mem hr
  have hcond := hcompletable
  simp only [DeliveryRow.completable, Bool.and_eq_true, beq_iff_eq] at hcond
  obtain ⟨⟨⟨hstate, hattempt⟩, howner⟩, htoken⟩ := hcond
  obtain ⟨⟨ownerId, howner', hvalid⟩, -, hpositive, hcycle, hattempted⟩ :=
    hsound.leased r hrow hstate
  obtain rfl : ownerId = result.ownerId := Option.some.inj (howner'.symm.trans howner)
  obtain ⟨endpoint, hendpoint⟩ := Option.isSome_iff_exists.1 (db.deliveryLinked r hr)
  obtain ⟨a, ha⟩ := Option.isSome_iff_exists.1 hattempted
  have hnamed := hsound.named r hrow
  simp only [completeAttempt, bind_ok, pure_ok, orFail_ok, require_ok, Option.filter_eq_some_iff]
  have hletters : ∀ (tables : DeliveryTables) (rows : List DeadLetterRow),
      (∀ row ∈ rows, row.deliveryId = r.deliveryId ∧ row.dlqId = dlqId) →
      tables.deliveries.find? r.deliveryId ≠ none → (∀ l ∈ tables.dlq, l ∈ db.dlq) →
      ∃ tables', rows.foldlM (ensureLetter "complete webhook attempt") tables = .ok tables' := by
    intro tables rows hrows hlinked hdlq
    refine ensureLetters_succeed _ (fun row hmem => ?_) (fun l hl row hmem heq => ?_)
      fun l hl row hmem _ => (hrows l hl).1.trans (hrows row hmem).1.symm
    · rw [(hrows row hmem).1, Option.isSome_iff_ne_none]
      exact hlinked
    · exact absurd (heq.trans (hrows row hmem).2) (hunused l (hdlq l hl))
  refine (?_ : ∃ tables, _ = Except.ok tables).elim fun tables htables =>
    ⟨db.setTables tables, (), ?_, r, ⟨?_, hcompletable⟩, endpoint, hendpoint, a, ha, tables,
      htables, rfl⟩
  · refine hletters _ _ (fun row hmem => ?_) ?_ fun l hl => hl
    · split at hmem
      · rw [List.mem_singleton] at hmem
        subst hmem
        exact ⟨rfl, rfl⟩
      · cases hmem
    · simp only [DeliveryTables.updateDeliveries, DeliveryTables.updateAttempts,
        DeliveryTables.setAttempts]
      rw [Table.find?_update, hrow]
      exact Option.some_ne_none _
  · have htoken' : result.claimToken ≠ 0 := by omega
    have hattempt' : 1 ≤ result.attempt := by omega
    simp [htenant, hid, hnamed, hattempt', hvalid, htoken', herror]
  · rw [hid]
    exact hrow

theorem deleteEndpoint_succeeds (now : Time) (htenant : db.tenantId ≠ "") (hempty : endpointId ≠ "")
    (hstored : (db.endpoints.find? endpointId).isSome) (hnamed : LettersNamed db) :
    ∃ answer after, deleteEndpoint now endpointId db = .ok (answer, after) := by
  simp only [deleteEndpoint, bind_ok, pure_ok, require_ok, Prod.mk.injEq]
  refine (?_ : ∃ tables, _ = Except.ok tables).elim fun tables htables =>
    ⟨_, _, (), by simp [htenant, hempty], (), hstored, tables, htables, rfl, rfl⟩
  -- the letters are those of stored deliveries, each under an identifier of its own
  have hrows : ∀ row ∈ (db.deliveries.select fun r => r.revocable now endpointId).map
      (revokedLetter now), ∃ r ∈ db.deliveries, row = revokedLetter now r := by
    intro row hrow
    obtain ⟨r, hr, rfl⟩ := List.mem_map.1 hrow
    exact ⟨r, (Table.mem_select.1 hr).1, rfl⟩
  refine ensureLetters_succeed _ (fun row hrow => ?_) (fun l hl row hrow hid => ?_)
    fun l hl row hrow hid => ?_
  · obtain ⟨r, hr, rfl⟩ := hrows row hrow
    simp only [DeliveryTables.updateDeliveries, DeliveryTables.updateAttempts,
      DeliveryTables.setAttempts]
    rw [Table.find?_update, Option.isSome_map]
    exact Option.isSome_iff_exists.2 ⟨r, Table.find?_of_mem hr⟩
  · obtain ⟨r, hr, rfl⟩ := hrows row hrow
    exact hnamed l hl r hr hid
  · obtain ⟨r, -, rfl⟩ := hrows row hrow
    obtain ⟨s, -, rfl⟩ := hrows l hl
    exact String.append_left_inj _ |>.1 hid

theorem Revocation.dead (h : Revocation now endpointId db db')
    (hr : r ∈ db.deliveries) (hrevocable : r.revocable now endpointId = true) :
    DeadWithLetter db' r.deliveryId := by
  have hrow : (db.parcel r.deliveryId).row = some r := Table.find?_of_mem hr
  have hparcel := h.parcels r.deliveryId
  rw [hrow, Option.map_some, if_pos hrevocable, Option.filter_some, if_pos hrevocable,
    Option.map_some] at hparcel
  refine ⟨r.revoke now, congrArg Parcel.row hparcel, rfl, ?_⟩
  have hletter : db'.dlq.find? r.deliveryId = _ := congrArg Parcel.letter hparcel
  rw [hletter, Option.isSome_or]
  exact Bool.or_true _

theorem Completion.dead {result : AttemptResult}
    {letter : DeadLetterRow} (h : Completion now result db db' r letter)
    (hinactive : db.endpointActive r.endpointId = false) :
      DeadWithLetter db' result.deliveryId := by
  have hparcel := h.parcels result.deliveryId
  rw [if_pos rfl, hinactive] at hparcel
  refine ⟨_, congrArg Parcel.row hparcel, rfl, ?_⟩
  have hletter : db'.dlq.find? result.deliveryId = _ := congrArg Parcel.letter hparcel
  rw [hletter]
  simp

end

/-! ### The theorem -/

/-- The deliveries a deletion can classify: none that waits for another attempt
has had a request admitted. -/
def NoneRetrying (endpointId : String) (db : WebhookDatabase) : Prop :=
  ∀ r ∈ db.deliveries, r.endpointId = endpointId → r.state = .pending → r.httpStartedAt = none

theorem onWire_of_kept {p : Parcel}
    (hsound : Sound p) (hrow : p.row = some r) (hendpoint : r.endpointId = endpointId)
    (hopen : r.state.isOpen = true) (hnone : r.state = .pending → r.httpStartedAt = none)
    (hkept : ¬ r.revocable now endpointId = true) : r.onWire now endpointId = true := by
  have hfilter : ¬ (r.httpStartedAt = none ∨ r.claimExpiresAt.any (· ≤ now) = true) := by
    simpa [DeliveryRow.revocable, hendpoint, hopen] using hkept
  rw [not_or] at hfilter
  obtain ⟨hstarted, hlive⟩ := hfilter
  have hstate : r.state = .delivering := by
    cases hs : r.state with
    | delivering => rfl
    | pending => exact absurd (hnone hs) hstarted
    | succeeded | dead =>
      rw [hs] at hopen
      cases hopen
  obtain ⟨expires, hexpires⟩ := Option.isSome_iff_exists.1 (hsound.leased r hrow hstate).2.1
  have hlater : now < expires := by simpa [hexpires] using hlive
  simp [DeliveryRow.onWire, hendpoint, hstate, hexpires, hlater, Option.isSome_iff_ne_none,
    hstarted]

theorem deletion_closed
    (h : Revocation now endpointId db db') (hnone : NoneRetrying endpointId db) :
    Closed endpointId db' := by
  refine ⟨h.kept.stored _ h.stored, h.inactive, fun k s hs hendpoint hpending => ?_⟩
  rw [h.parcels] at hs
  obtain ⟨r, hr, rfl⟩ := Option.map_eq_some_iff.1 hs
  split at hpending
  · cases hpending
  · rename_i hkept
    rw [if_neg hkept] at hendpoint
    refine hkept ?_
    have hunstarted := hnone r (Table.mem_of_find? hr) hendpoint hpending
    simp [DeliveryRow.revocable, hendpoint, hpending, hunstarted, DeliveryState.isOpen]

/-- Deleting an endpoint revokes it completely exactly if none of its deliveries
waits for another attempt after an admitted request. -/
theorem deletion_complete_iff_none_retrying (rt : Runtime) {tenantId : String}
    {trace : List (Call × Reply)} {db' : WebhookDatabase}
    (hrun : Deliveries rt (newTenant tenantId) trace db) {now : Time}
    {answer : Bool} (hdelete : deleteEndpoint now endpointId db = .ok (answer, db')) :
    EndpointRevoked rt now endpointId db db' ↔ NoneRetrying endpointId db := by
  have hsound := run_sound hrun
  have hrevocation := deleteEndpoint_ok hdelete
  have heffect := deleteEndpoint_effect hdelete
  have hsound' : ∀ k, Sound (db'.parcel k) := fun k =>
    (heffect.parcels k).invariant (fun _ _ hturn h => h.of_turn hturn) (hsound k)
  obtain ⟨htenant, hempty⟩ : db.tenantId ≠ "" ∧ endpointId ≠ "" := by
    simp only [deleteEndpoint, bind_ok, require_ok, Bool.and_eq_true, bne_iff_ne] at hdelete
    obtain ⟨-, hvalid, -⟩ := hdelete
    exact hvalid
  constructor
  · intro h r hr hendpoint hpending
    cases hstarted : r.httpStartedAt with
    | none => rfl
    | some started =>
      -- neither started nor claimed: the filter does not select the delivery
      have hclaim := ((hsound r.deliveryId).idle r (Table.find?_of_mem hr)
        (by rw [hpending]; decide)).2
      have hkept : r.revocable now endpointId = false := by
        simp [DeliveryRow.revocable, hstarted, hclaim]
      rcases h.settled r hr hendpoint (by rw [hpending]; rfl) with hwire | ⟨s, hs, hdead, -⟩
      · simp [DeliveryRow.onWire, hpending] at hwire
      · have hrow := congrArg Parcel.row (hrevocation.parcels r.deliveryId)
        have hbefore : (db.parcel r.deliveryId).row = some r := Table.find?_of_mem hr
        rw [hbefore, Option.map_some, hkept, if_neg Bool.false_ne_true] at hrow
        obtain rfl := Option.mem_unique hrow hs
        rw [hpending] at hdead
        cases hdead
  · intro hnone
    have hclosed := deletion_closed hrevocation hnone
    refine ⟨fun r hr hendpoint hopen => ?_, fun later db'' hlater => closed_silent hclosed hlater,
      fun later db'' hlater r hr => (later_closed hclosed hlater).none r.deliveryId r
        (Table.find?_of_mem hr), ?_, ?_⟩
    · by_cases hrevocable : r.revocable now endpointId = true
      · exact .inr (hrevocation.dead hr hrevocable)
      · exact .inl (onWire_of_kept (hsound r.deliveryId) (Table.find?_of_mem hr) hendpoint hopen
          (hnone r hr hendpoint) hrevocable)
    · intro later db'' hlater r hr hendpoint hstate instant dlqId result hid hcompletable herror
        hunused
      have hlaterSound := later_sound hsound' hlater
      have hlaterTenant := (later_tenant hlater).trans heffect.tenant
      obtain ⟨after, hafter⟩ := completeAttempt_succeeds (hlaterSound r.deliveryId)
        (hlaterTenant ▸ htenant) hr hid hcompletable herror hunused
      refine ⟨after, hafter, ?_⟩
      obtain ⟨s, letter, hcompletion⟩ := completeAttempt_ok hafter
      have hrow := hcompletion.row
      rw [hid, Table.find?_of_mem hr] at hrow
      obtain rfl : r = s := Option.some.inj hrow
      rw [← hid]
      exact hcompletion.dead (hendpoint ▸ (later_closed hclosed hlater).inactive)
    · intro later db'' hlater r hr hendpoint hstate instant hexpired hnamed
      have hlaterTenant := (later_tenant hlater).trans heffect.tenant
      obtain ⟨again, after, hafter⟩ := deleteEndpoint_succeeds instant
        (hlaterTenant ▸ htenant) hempty (later_closed hclosed hlater).stored hnamed
      refine ⟨again, after, hafter, (deleteEndpoint_ok hafter).dead hr ?_⟩
      simp [DeliveryRow.revocable, hendpoint, hstate, DeliveryState.isOpen, hexpired]

def hookOnWire : List Call := hookClaimed ++ [(3, .admitClaim (hookDelivery 1 1))]

/-- Deleting the endpoint then, the request on the wire is the exception that the
deletion reports. -/
theorem hookOnWire_revoked :
    let db := (execute (step hookRuntime) hookOnWire (newTenant "tenant")).2
    let db' := (step hookRuntime (4, .deleteEndpoint "hook") db).2
    deleteEndpoint 4 "hook" db = .ok (true, db') ∧ EndpointRevoked hookRuntime 4 "hook" db db' := by
  intro db db'
  have hdelete : deleteEndpoint 4 "hook" db = .ok (true, db') := by decide +kernel
  have hnone : ∀ r ∈ db.deliveries.rows, r.endpointId = "hook" → r.state = .pending →
      r.httpStartedAt = none := by
    decide +kernel
  exact ⟨hdelete, (deletion_complete_iff_none_retrying hookRuntime
    (Run.of_inputs hookOnWire (by decide +kernel)) hdelete).2 hnone⟩

/-- The request fails, and the delivery waits for its next attempt. -/
def hookRetrying : List Call :=
  hookOnWire ++
    [(4, .completeAttempt "letter" (hookWorker 8) (hookDelivery 1 1) (.failed ⟨500, 0⟩))]

/-- Deleting the endpoint then leaves the delivery pending without a letter, and
neither a later claim nor a second deletion ends it. -/
theorem hookRetrying_stays_pending :
    let db := (execute (step hookRuntime) hookRetrying (newTenant "tenant")).2
    let db' := (step hookRuntime (9, .deleteEndpoint "hook") db).2
    deleteEndpoint 9 "hook" db = .ok (false, db') ∧
      ¬ EndpointRevoked hookRuntime 9 "hook" db db' ∧ db'.dlq.rows = [] ∧
      (execute (step hookRuntime) [(10000000000, .claim 10000000000 "worker" 8),
        (20000000000, .deleteEndpoint "hook")] db').2.deliveries.rows.map DeliveryRow.state =
        [.pending] := by
  intro db db'
  refine ⟨by decide +kernel, fun h => ?_, by decide +kernel, by decide +kernel⟩
  have hpending : ∀ r ∈ db'.deliveries.rows, r.endpointId = "hook" → r.state ≠ .pending :=
    h.nonePending [] db' .nil
  revert hpending
  decide +kernel

end MessagingGateway.Webhook
