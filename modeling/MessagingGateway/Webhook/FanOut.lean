import MessagingGateway.Webhook.Passes

/-!
# Fan-out of events to the endpoints

`Claim` gives every active endpoint one delivery for each event and closes the
outbox row of an event in the statement that inserts the last missing one. What
is left to do is the backlog: the open events, and for each of them the active
endpoints without a delivery. No call but a new event or a new endpoint adds to
the backlog, and every `Claim` takes something away from it.
-/

namespace MessagingGateway.Webhook

open Relational Domain Store

/-! ### The environment and the invariant -/

def Operation.newEndpoint : Operation → Option String
  | .createEndpoint endpoint _ _ => some endpoint.id
  | _ => none

/-- What the database clock and `newID()` promise: no row becomes available
later than now, and a new endpoint identifier does not contain a colon. -/
def Promised (db : WebhookDatabase) (call : Call) : Prop :=
  (∀ p ∈ db.progress, p.availableAt ≤ call.1) ∧ ∀ e ∈ call.2.newEndpoint, ':' ∉ e.toList

instance (db : WebhookDatabase) (call : Call) : Decidable (Promised db call) :=
  inferInstanceAs (Decidable (_ ∧ _))

structure Spread (db : WebhookDatabase) : Prop where
  named : ∀ k, Named (db.parcel k)
  separable : Separable db.toDeliveryTables
  numbered : ∀ a ∈ db.attempts, Numbered db.toDeliveryTables a
  distinct : OutboxDistinct db.events
  tracked : OutboxTracked db.events db.progress

namespace Spread

variable {rt : Runtime} {call : Call} {reply : Reply} {db db' : WebhookDatabase}

theorem of_passed (h : Spread db) (hpassed : Passed db db') : Spread db' where
  named k := (h.named k).of_turns (hpassed.turns k)
  separable e he := h.separable e (hpassed.stored e ▸ he)
  numbered := hpassed.attempts h.numbered
  distinct := hpassed.events ▸ h.distinct
  tracked r hr := by
    obtain ⟨p, hp, hunclaimed⟩ := h.tracked r (hpassed.events ▸ hr)
    obtain ⟨p', hp', -, hkept⟩ := hpassed.progress _ p hp
    exact ⟨p', hp', hkept hunclaimed⟩

theorem of_aside (h : Spread db) (heffect : Effect db db') (haside : Aside db db') :
    Spread db' where
  named k := (h.named k).of_turns (heffect.parcels k)
  separable e he := h.separable e (haside.stored e ▸ he)
  numbered a ha := by
    obtain ⟨b, hb, hid, hkey⟩ := haside.attempts a ha
    exact (h.numbered b hb).of_stays hid hkey fun k => (heffect.parcels k).stays
  distinct := haside.events ▸ h.distinct
  tracked := haside.events ▸ haside.progress ▸ h.tracked

theorem of_publish {now : Time} {event : EventRow} {outboxId : String} (h : Spread db)
    (hok : publish rt now event outboxId db = .ok db') : Spread db' := by
  obtain ⟨htables, hdistinct, htracked⟩ := publish_ok hok h.distinct h.tracked
  exact ⟨htables ▸ h.named, htables ▸ h.separable, htables ▸ h.numbered, hdistinct, htracked⟩

theorem of_createEndpoint {endpoint : Endpoint} {secret : SessionEnvelope} {maxEndpoints : Nat}
    (h : Spread db) (hid : ':' ∉ endpoint.id.toList)
    (hok : createEndpoint endpoint secret maxEndpoints db = .ok db') : Spread db' := by
  have heffect := (createEndpoint_quiet hok).effect
  obtain ⟨hevents, hprogress, hattempts, hstored⟩ := createEndpoint_ok hok
  refine ⟨fun k => (h.named k).of_turns (heffect.parcels k), fun e he => ?_, fun a ha => ?_,
    hevents ▸ h.distinct, hevents ▸ hprogress ▸ h.tracked⟩
  · rcases hstored e he with hold | rfl
    · exact h.separable e hold
    · exact hid
  · rw [hattempts] at ha
    exact (h.numbered a ha).of_stays rfl rfl fun k => (heffect.parcels k).stays

end Spread

def Operation.addsNothing : Operation → Bool
  | .publish _ _ | .createEndpoint _ _ _ => false
  | _ => true

def Operation.claims : Operation → Bool
  | .claim _ ownerId limit => validOwner ownerId && 1 ≤ limit && limit ≤ 256
  | _ => false

variable {rt : Runtime} {db : WebhookDatabase}

theorem perform_passed_or_aside {call : Call} {reply : Reply}
    {db' : WebhookDatabase} (hnothing : call.2.addsNothing = true)
    (h : perform rt call.1 call.2 db = .ok (reply, db')) : Passed db db' ∨ Aside db db' := by
  obtain ⟨now, operation⟩ := call
  cases operation with
  | publish event outboxId => cases hnothing
  | createEndpoint endpoint secret maxEndpoints => cases hnothing
  | rotateEndpoint endpointId keyId secret previousValidUntil =>
    exact .inr (rotateEndpoint_aside (finishing_ok h).1)
  | purgeExpiredSecrets => exact .inr (purgeExpiredSecrets_aside (finishing_ok h).1)
  | claim again ownerId limit =>
    obtain ⟨deliveries, h, -⟩ := replying_ok h
    exact .inl (claim_passed h)
  | admitClaim delivery =>
    obtain ⟨answer, h, -⟩ := replying_ok h
    exact .inr (admitClaim_aside h)
  | renewClaim deliveryId ownerId claimToken =>
    obtain ⟨answer, h, -⟩ := replying_ok h
    exact .inr (renewClaim_aside h)
  | completeAttempt dlqId worker delivery report =>
    exact .inr (completeAttempt_aside (finishing_ok h).1)
  | deleteEndpoint endpointId =>
    obtain ⟨answer, h, -⟩ := replying_ok h
    exact .inr (deleteEndpoint_aside h)
  | replayDLQ dlqId => exact .inr (replayDLQ_aside (finishing_ok h).1)

theorem step_spread (call : Call)
    (hcolon : ∀ e ∈ call.2.newEndpoint, ':' ∉ e.toList) (h : Spread db) :
    Spread (step rt call db).2 := by
  refine step_rule rt call db (fun _ _ => h) fun reply db' hperform => ?_
  cases hnothing : call.2.addsNothing with
  | true =>
    rcases perform_passed_or_aside hnothing hperform with hpassed | haside
    · exact h.of_passed hpassed
    · exact h.of_aside (perform_effect hperform) haside
  | false =>
    obtain ⟨now, operation⟩ := call
    cases operation with
    | publish event outboxId => exact h.of_publish (finishing_ok hperform).1
    | createEndpoint endpoint secret maxEndpoints =>
      exact h.of_createEndpoint (hcolon _ rfl) (finishing_ok hperform).1
    | _ => cases hnothing

theorem newTenant_spread (tenantId : String) : Spread (newTenant tenantId) := by
  refine ⟨fun k r hr => ?_, fun e he => ?_, fun a ha => ?_, fun r hr => ?_, fun r hr => ?_⟩
  · cases hr
  · cases he
  · cases ha
  · cases hr
  · cases hr

/-! ### The backlog -/

def WebhookDatabase.Open (db : WebhookDatabase) (eventId : String) : Prop :=
  ∃ row ∈ db.events.eventOutbox, row.destination = .webhook ∧ db.closed row = false ∧
    row.eventId = eventId

/-- The open events, each by itself and with every active endpoint that has no
delivery for it. -/
def WebhookDatabase.backlog (db : WebhookDatabase) : Finset (String × Option String) :=
  ((db.events.eventOutbox.select fun r => r.destination == .webhook && !db.closed r).flatMap
    fun row => (row.eventId, none) ::
      ((db.endpoints.select EndpointRow.active).filter fun endpoint =>
      !db.hasDelivery endpoint.endpointId row.eventId).map fun endpoint =>
        (row.eventId, some endpoint.endpointId)).toFinset

section

variable {rt : Runtime} {db db' : WebhookDatabase}

theorem mem_backlog {v : String} {o : Option String} :
    (v, o) ∈ db.backlog ↔ db.Open v ∧
      ∀ e ∈ o, db.endpointActive e = true ∧ db.hasDelivery e v = false := by
  simp only [WebhookDatabase.backlog, List.mem_toFinset, List.mem_flatMap, Table.mem_select,
    Bool.and_eq_true, beq_iff_eq, Bool.not_eq_true', List.mem_cons, List.mem_map, List.mem_filter,
    Prod.mk.injEq]
  constructor
  · rintro ⟨row, ⟨hrow, hwebhook, hopen⟩, ⟨rfl, rfl⟩ | ⟨endpoint, ⟨hendpoint, hmissing⟩, rfl, rfl⟩⟩
    · exact ⟨⟨row, hrow, hwebhook, hopen, rfl⟩, fun e he => by cases he⟩
    · refine ⟨⟨row, hrow, hwebhook, hopen, rfl⟩, fun e he => ?_⟩
      obtain rfl : endpoint.endpointId = e := Option.some.inj he
      exact ⟨endpointActive_iff.2 ⟨endpoint, hendpoint.1, rfl, hendpoint.2⟩, hmissing⟩
  · rintro ⟨⟨row, hrow, hwebhook, hopen, rfl⟩, hmissing⟩
    refine ⟨row, ⟨hrow, hwebhook, hopen⟩, ?_⟩
    cases o with
    | none => exact .inl ⟨rfl, rfl⟩
    | some e =>
      obtain ⟨hactive, hnone⟩ := hmissing e rfl
      obtain ⟨endpoint, hendpoint, rfl, hon⟩ := endpointActive_iff.1 hactive
      exact .inr ⟨endpoint, ⟨⟨hendpoint, hon⟩, hnone⟩, rfl, rfl⟩

theorem backlog_subset (hopen : ∀ v, db'.Open v → db.Open v)
    (hactive : ∀ e, db'.endpointActive e = true → db.endpointActive e = true)
    (hstays : ∀ k, Stays (db.parcel k) (db'.parcel k)) : db'.backlog ⊆ db.backlog := by
  rintro ⟨v, o⟩ hmem
  obtain ⟨hv, hmissing⟩ := mem_backlog.1 hmem
  refine mem_backlog.2 ⟨hopen v hv, fun e he => ⟨hactive e (hmissing e he).1, ?_⟩⟩
  rw [← Bool.not_eq_true]
  intro hdelivery
  have hkept := hasDelivery_of_stays hstays hdelivery
  rw [(hmissing e he).2] at hkept
  cases hkept

theorem Passed.open_of_open (h : Passed db db') (htracked : OutboxTracked db.events db.progress)
    {v : String} (hv : db'.Open v) : db.Open v := by
  obtain ⟨row, hrow, hwebhook, hopen, rfl⟩ := hv
  rw [h.events] at hrow
  refine ⟨row, hrow, hwebhook, ?_, rfl⟩
  obtain ⟨p, hp, -⟩ := htracked row hrow
  obtain ⟨p', hp', hpublished, -⟩ := h.progress _ p hp
  rw [WebhookDatabase.closed, hp', Option.any_some] at hopen
  rw [WebhookDatabase.closed, hp, Option.any_some, ← Bool.not_eq_true]
  intro hsome
  rw [hpublished hsome] at hopen
  cases hopen

theorem Passed.backlog_subset (h : Passed db db') (hspread : Spread db) :
    db'.backlog ⊆ db.backlog :=
  Webhook.backlog_subset (fun _ => h.open_of_open hspread.tracked)
    (fun _ he => h.active ▸ he) h.stays

theorem Aside.backlog_subset (h : Aside db db')
    (heffect : Effect db db') : db'.backlog ⊆ db.backlog := by
  refine Webhook.backlog_subset (fun v hv => ?_) h.active fun k => (heffect.parcels k).stays
  obtain ⟨row, hrow, hwebhook, hopen, rfl⟩ := hv
  rw [WebhookDatabase.closed, h.progress] at hopen
  exact ⟨row, h.events ▸ hrow, hwebhook, hopen, rfl⟩

theorem step_backlog_subset {call : Call} (hnothing : call.2.addsNothing = true)
    (hspread : Spread db) : (step rt call db).2.backlog ⊆ db.backlog := by
  refine step_rule rt call db (fun _ _ => Finset.Subset.refl _) fun reply db' hperform => ?_
  rcases perform_passed_or_aside hnothing hperform with hpassed | haside
  · exact hpassed.backlog_subset hspread
  · exact haside.backlog_subset (perform_effect hperform)

theorem claimPass_backlog {now : Time} {ownerId : String} {limit : Nat}
    (howner : validOwner ownerId = true) (hlimit : 1 ≤ limit) {deliveries : List Delivery}
    (h : claimPass now ownerId limit db = .ok (deliveries, db')) (hspread : Spread db)
    (hclock : ∀ p ∈ db.progress, p.availableAt ≤ now) (hne : db.backlog.Nonempty) :
    db'.backlog ⊂ db.backlog := by
  have hpassed := claimPass_passed howner h
  obtain ⟨⟨v, o⟩, hmem⟩ := hne
  obtain ⟨⟨row, hrow, hwebhook, hopen, -⟩, -⟩ := mem_backlog.1 hmem
  obtain ⟨p, hp, hunclaimed⟩ := hspread.tracked row hrow
  have hunpublished : p.publishedAt = none := by
    rw [WebhookDatabase.closed, hp, Option.any_some] at hopen
    exact Option.not_isSome_iff_eq_none.1 (by rw [hopen]; exact Bool.false_ne_true)
  obtain ⟨r, hr, hdestination, hstill, hprogress⟩ :=
    claimPass_progress howner hlimit h hrow hwebhook
    hp hunpublished hunclaimed (hclock p (Table.mem_of_find? hp))
  have hopened : db.Open r.eventId := ⟨r, hr, hdestination, hstill, rfl⟩
  refine Finset.ssubset_iff_subset_ne.2 ⟨hpassed.backlog_subset hspread, fun heq => ?_⟩
  rcases hprogress with hclosed | ⟨e, hactive, hmissing, hgained⟩
  · -- the row that was closed is the only one of its event
    have hmem : (r.eventId, none) ∈ db'.backlog := by
      rw [heq]
      exact mem_backlog.2 ⟨hopened, fun e he => by cases he⟩
    obtain ⟨⟨s, hs, hdestination', hopen', hevent⟩, -⟩ := mem_backlog.1 hmem
    rw [hpassed.events] at hs
    obtain rfl : s = r := Table.eq_of_key_eq hs hr
      (Prod.ext hevent (hdestination'.trans hdestination.symm))
    rw [hclosed] at hopen'
    cases hopen'
  · have hmem : (r.eventId, some e) ∈ db'.backlog := by
      rw [heq]
      refine mem_backlog.2 ⟨hopened, fun e' he' => ?_⟩
      obtain rfl : e = e' := Option.some.inj he'
      exact ⟨hactive, hmissing⟩
    have hlost := ((mem_backlog.1 hmem).2 e rfl).2
    rw [hgained] at hlost
    cases hlost

/-- The two passes of a claim with valid arguments succeed. -/
theorem Spread.claim_passes (h : Spread db) {ownerId : String} {limit : Nat} (now again : Time)
    (hvalid : (db.tenantId != "" && validOwner ownerId && decide (1 ≤ limit) &&
      decide (limit ≤ 256)) = true) :
    ∃ first middle second last, claimPass now ownerId limit db = .ok (first, middle) ∧
      Spread middle ∧ claimPass again ownerId limit middle = .ok (second, last) ∧
      claim now again ownerId limit db =
        .ok (if first.isEmpty then (second, last) else (first, middle)) := by
  have howner : validOwner ownerId = true := by simp_all
  obtain ⟨⟨first, middle⟩, hfirst⟩ := claimPass_succeeds now ownerId limit h.named h.separable
    h.numbered
  have hmiddle := h.of_passed (claimPass_passed howner hfirst)
  obtain ⟨⟨second, last⟩, hsecond⟩ := claimPass_succeeds again ownerId limit hmiddle.named
    hmiddle.separable hmiddle.numbered
  refine ⟨first, middle, second, last, hfirst, hmiddle, hsecond, ?_⟩
  simp only [claim, bind_ok, require_ok]
  refine ⟨(), hvalid, (first, middle), hfirst, ?_⟩
  split
  · exact hsecond
  · rfl

theorem claim_backlog {call : Call} (htenant : db.tenantId ≠ "") (hclaims : call.2.claims = true)
    (hspread : Spread db) (hclock : ∀ p ∈ db.progress, p.availableAt ≤ call.1)
    (hne : db.backlog.Nonempty) : (step rt call db).2.backlog ⊂ db.backlog := by
  obtain ⟨now, operation⟩ := call
  cases operation with
  | claim again ownerId limit =>
    simp only [Operation.claims, Bool.and_eq_true, decide_eq_true_eq] at hclaims
    obtain ⟨⟨howner, hlow⟩, hhigh⟩ := hclaims
    have hvalid : (db.tenantId != "" && validOwner ownerId && decide (1 ≤ limit) &&
        decide (limit ≤ 256)) = true := by simp [htenant, howner, hlow, hhigh]
    obtain ⟨first, middle, second, last, hfirst, hmiddle, hsecond, hclaim⟩ :=
      hspread.claim_passes now again hvalid
    have hless := claimPass_backlog howner hlow hfirst hspread hclock hne
    have hagain := (claimPass_passed howner hsecond).backlog_subset hmiddle
    have hstep : (step rt (now, .claim again ownerId limit) db).2 =
        (if first.isEmpty then (second, last) else (first, middle)).2 := by
      simp only [step, outcome, perform, hclaim, replying, Except.map]
    rw [hstep]
    split
    · exact Finset.ssubset_of_subset_of_ssubset hagain hless
    · exact hless
  | _ => cases hclaims

end

/-! ### Fan-out is complete -/

structure FannedOut (rt : Runtime) (db : WebhookDatabase) : Prop where
  /-- a call closes an outbox row only where every active endpoint has exactly one
  delivery for the event -/
  closing : ∀ call, ∀ row ∈ db.events.eventOutbox, row.destination = .webhook →
    db.closed row = false → (step rt call db).2.closed row = true →
    ∀ endpoint ∈ (step rt call db).2.endpoints, endpoint.active = true →
      ∃! r, r ∈ (step rt call db).2.deliveries ∧ r.endpointId = endpoint.endpointId ∧
        r.eventId = row.eventId
  /-- no endpoint has two deliveries for one event -/
  unique : ∀ r ∈ db.deliveries, ∀ s ∈ db.deliveries, r.endpointId = s.endpointId →
    r.eventId = s.eventId → r = s
  /-- enough claims without new events and endpoints close every outbox row -/
  draining : ∃ n, ∀ later db', Run (step rt)
      (fun db call => Promised db call ∧ call.2.addsNothing = true) db later db' →
    n ≤ later.countP (fun e => e.1.2.claims) →
    ∀ row ∈ db'.events.eventOutbox, row.destination = .webhook → db'.closed row = true

theorem step_closing (call : Call) (hspread : Spread db)
    {row : OutboxRow} (hrow : row ∈ db.events.eventOutbox) (hopen : db.closed row = false)
    (hclosed : (step rt call db).2.closed row = true) {e : String}
    (hactive : (step rt call db).2.endpointActive e = true) :
    (step rt call db).2.hasDelivery e row.eventId = true := by
  revert hclosed hactive
  refine step_rule rt call db (fun _ _ hclosed => absurd hclosed (Bool.eq_false_iff.1 hopen))
    fun reply db' hperform hclosed hactive => ?_
  -- only a pass closes rows: the other calls leave the columns of a stored row alone
  have hsame : ∀ progress : Table OutboxProgress.outboxId, db'.progress = progress →
      (progress.find? row.outboxId).any (fun p => p.publishedAt.isSome) = false → False := by
    rintro progress rfl hnone
    rw [WebhookDatabase.closed, hnone] at hclosed
    cases hclosed
  cases hnothing : call.2.addsNothing with
  | true =>
    rcases perform_passed_or_aside hnothing hperform with hpassed | haside
    · obtain ⟨row', hrow', hid, -, hall⟩ := hpassed.closing row hopen hclosed
      obtain rfl := hspread.distinct row' hrow' row hrow hid
      exact hall e hactive
    · exact (hsame _ haside.progress hopen).elim
  | false =>
    obtain ⟨now, operation⟩ := call
    cases operation with
    | createEndpoint endpoint secret maxEndpoints =>
      exact (hsame _ (createEndpoint_ok (finishing_ok hperform).1).2.1 hopen).elim
    | publish event outboxId =>
      refine (hsame _ rfl ?_).elim
      obtain ⟨p, hp, -⟩ := hspread.tracked row hrow
      rw [publish_kept (finishing_ok hperform).1 hp, ← hp]
      exact hopen
    | _ => cases hnothing

theorem later_drained {db' : WebhookDatabase} {later : List (Call × Reply)}
    (htenant : db.tenantId ≠ "") (hspread : Spread db)
    (hlater : Run (step rt) (fun db call => Promised db call ∧ call.2.addsNothing = true) db
      later db') :
    db'.backlog.card ≤ db.backlog.card - later.countP fun e => e.1.2.claims := by
  refine hlater.drained (P := fun db => Spread db ∧ db.tenantId ≠ "") (fun db => db.backlog.card)
    (fun call => call.2.claims) (fun db call hcall h => ⟨step_spread call hcall.1.2 h.1, ?_⟩)
    (fun db call hcall h => ?_) (fun db call hcall h hclaims hne => ?_) ⟨hspread, htenant⟩
  · rw [(step_effect rt call db).tenant]
    exact h.2
  · exact Finset.card_le_card (step_backlog_subset hcall.2 h.1)
  · exact Finset.card_lt_card
      (claim_backlog h.2 hclaims h.1 hcall.1.1 (Finset.card_ne_zero.1 hne))

theorem run_spread {tenantId : String} {trace : List (Call × Reply)} (htenant : tenantId ≠ "")
    (hrun : Run (step rt) Promised (newTenant tenantId) trace db) :
    Spread db ∧ db.tenantId ≠ "" := by
  refine hrun.invariant (P := fun db => Spread db ∧ db.tenantId ≠ "") (fun db call hcall h => ?_)
    ⟨newTenant_spread tenantId, htenant⟩
  exact ⟨step_spread call hcall.2 h.1, (step_effect rt call db).tenant ▸ h.2⟩

/-- Fan-out is complete and free of duplicates in every state that calls of
workers and administrators reach. -/
theorem fan_out_complete (rt : Runtime) {tenantId : String} (htenant : tenantId ≠ "")
    {trace : List (Call × Reply)}
    (hrun : Run (step rt) Promised (newTenant tenantId) trace db) : FannedOut rt db := by
  obtain ⟨hspread, hnamed⟩ := run_spread htenant hrun
  refine ⟨fun call row hrow _ hopen hclosed endpoint hendpoint hactive => ?_,
    fun r hr s hs => delivery_unique hspread.named hr hs, db.backlog.card,
    fun later db' hlater henough row hrow hwebhook => ?_⟩
  · have hdelivery := step_closing call hspread hrow hopen hclosed
      (endpointActive_iff.2 ⟨endpoint, hendpoint, rfl, hactive⟩)
    obtain ⟨r, hr, hid, hevent⟩ := hasDelivery_iff.1 hdelivery
    refine ⟨r, ⟨hr, hid, hevent⟩, fun s hs => ?_⟩
    exact delivery_unique (fun k => (hspread.named k).of_turns ((step_effect rt call db).parcels k))
      hs.1 hr (hs.2.1.trans hid.symm) (hs.2.2.trans hevent.symm)
  · have hempty : db'.backlog.card = 0 := by
      have hdrained := later_drained hnamed hspread hlater
      omega
    rw [Finset.card_eq_zero] at hempty
    by_contra hopen
    have hmem : (row.eventId, none) ∈ db'.backlog :=
      mem_backlog.2 ⟨⟨row, hrow, hwebhook, Bool.eq_false_iff.2 hopen, rfl⟩, fun e he => by cases he⟩
    rw [hempty] at hmem
    cases hmem

/-- Two endpoints and one event, claimed a pair at a time: the first pass of the
claim leaves the row open, the second closes it. -/
def hookPaged : List Call :=
  [(0, .createEndpoint ⟨"hook", "https://consumer", "key", 0⟩ hookSecret 32),
    (1, .createEndpoint ⟨"mirror", "https://mirror", "key2", 1⟩ hookSecret 32),
    (2, .publish ⟨"event", "message.queued", "message", "m1", none, "", {}⟩ "outbox"),
    (3, .claim 4 "worker" 1)]

theorem hookPaged_fanned_out :
    (let db := (execute (step hookRuntime) hookPaged (newTenant "tenant")).2
     db.closed ⟨"outbox:webhook", "event", .webhook⟩ = true ∧ db.deliveries.rows.length = 2) ∧
    FannedOut hookRuntime (execute (step hookRuntime) hookPaged (newTenant "tenant")).2 :=
  ⟨by decide +kernel, fan_out_complete hookRuntime (by decide)
    (Run.of_inputs _ (by decide +kernel))⟩

/-! ### The trail of a delivery, and claims that cannot fail -/

/-- In every reachable state the deliveries and their attempts are named after what
they are for, every attempt belongs to a delivery that has counted it, and a claim
with valid arguments does not fail. -/
theorem claims_never_fail (rt : Runtime) {tenantId : String} (htenant : tenantId ≠ "")
    {trace : List (Call × Reply)} (hrun : Run (step rt) Promised (newTenant tenantId) trace db) :
    (∀ r ∈ db.deliveries, r.deliveryId = r.endpointId ++ ":" ++ r.eventId) ∧
    (∀ a ∈ db.attempts, a.attemptId = a.deliveryId ++ ":" ++ toString a.attemptNumber ∧
      ∃ r ∈ db.deliveries, r.deliveryId = a.deliveryId ∧ a.attemptNumber ≤ r.attemptCount) ∧
    ∀ call : Call, call.2.claims = true →
      ∃ deliveries, (step rt call db).1 = .claimed deliveries := by
  obtain ⟨hspread, hnamed⟩ := run_spread htenant hrun
  refine ⟨fun r hr => hspread.named _ r (Table.find?_of_mem hr), fun a ha => ?_,
    fun call hcall => ?_⟩
  · obtain ⟨hname, r, hr, hcount⟩ := hspread.numbered a ha
    exact ⟨hname, r, Table.mem_of_find? hr, Table.key_of_find? hr, hcount⟩
  · obtain ⟨now, operation⟩ := call
    cases operation with
    | claim again ownerId limit =>
      have hvalid : (db.tenantId != "" && validOwner ownerId && decide (1 ≤ limit) &&
          decide (limit ≤ 256)) = true := by simpa [Operation.claims, hnamed] using hcall
      obtain ⟨first, middle, second, last, -, -, -, hclaim⟩ := hspread.claim_passes now again hvalid
      refine ⟨(if first.isEmpty then (second, last) else (first, middle)).1, ?_⟩
      simp only [step, outcome, perform, hclaim, replying, Except.map]
    | _ => cases hcall

theorem hookPaged_claims : ∃ deliveries, (step hookRuntime (5, .claim 6 "worker" 1)
    (execute (step hookRuntime) hookPaged (newTenant "tenant")).2).1 = .claimed deliveries :=
  (claims_never_fail hookRuntime (by decide) (Run.of_inputs _ (by decide +kernel))).2.2 _
    (by decide +kernel)

end MessagingGateway.Webhook
