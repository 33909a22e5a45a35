import MessagingGateway.Encoding.Joins
import MessagingGateway.Webhook.Fence

/-!
# The passes of `Claim` over the outbox

A pass gives active endpoints the deliveries they lack, a page of pairs at a
time, closes the outbox rows of the events that have all of theirs, and leases
deliveries under numbered attempts. An identifier made of an endpoint and an
event names a delivery, and one made of a delivery and a number names an attempt,
so a pass never meets an occupied key (`claimPass_succeeds`). `Passed` says what
passes do to the outbox; every other call that adds neither an event nor an
endpoint leaves it alone (`Aside`).
-/

namespace MessagingGateway.Webhook

open Relational Domain Store

variable {active : String → Bool} {p p' : Parcel} {db db' : WebhookDatabase}

def WebhookDatabase.closed (db : WebhookDatabase) (row : OutboxRow) : Bool :=
  (db.progress.find? row.outboxId).any fun p => p.publishedAt.isSome

/-! ### Deliveries keep their names -/

/-- The columns of a delivery that tell what it delivers and how often it was tried. -/
structure SameDelivery (r r' : DeliveryRow) : Prop where
  id : r'.deliveryId = r.deliveryId
  endpoint : r'.endpointId = r.endpointId
  event : r'.eventId = r.eventId
  attempts : r.attemptCount ≤ r'.attemptCount

theorem Turn.row_cases (h : Turn active p p') :
    (p.row = none ∧ ∃ now event endpoint, p'.row = some (newDelivery now event endpoint)) ∨
      ∃ r r', p.row = some r ∧ p'.row = some r' ∧ SameDelivery r r' := by
  cases h with
  | claiming hclaiming =>
    cases hclaiming with
    | created now event endpoint hrow hletter hactive h =>
      subst h
      exact .inl ⟨hrow, now, event, endpoint, rfl⟩
    | claimed now ownerId generation r attempted hrow hactive hopen howner hnew h =>
      subst h
      exact .inr ⟨r, _, hrow, rfl, rfl, rfl, rfl, Nat.le_succ _⟩
  | admitted now delivery r hrow hactive hr h | renewed now ownerId claimToken r hrow hr h
  | completed now result r letter hrow hr hboth hletter h
  | revoked now endpointId r letter hrow hr hletter h
  | replayed now r letter hrow hletter hfresh hactive h =>
    subst h
    exact .inr ⟨r, _, hrow, rfl, rfl, rfl, rfl, Nat.le_refl _⟩

def Stays (p p' : Parcel) : Prop :=
  ∀ r, p.row = some r → ∃ r', p'.row = some r' ∧ SameDelivery r r'

theorem Turns.stays (h : Turns active p p') : Stays p p' := by
  induction h with
  | refl => exact fun r hr => ⟨r, hr, rfl, rfl, rfl, Nat.le_refl _⟩
  | tail _ hturn ih =>
    intro r hr
    obtain ⟨s, hs, hid, hendpoint, hevent, hattempts⟩ := ih r hr
    rcases hturn.row_cases with ⟨hnone, -⟩ | ⟨t, r', ht, hr', hsame⟩
    · rw [hnone] at hs
      cases hs
    · obtain rfl := Option.mem_unique ht hs
      exact ⟨r', hr', hsame.id.trans hid, hsame.endpoint.trans hendpoint,
        hsame.event.trans hevent, hattempts.trans hsame.attempts⟩

def Named (p : Parcel) : Prop :=
  ∀ r, p.row = some r → r.deliveryId = r.endpointId ++ ":" ++ r.eventId

theorem Named.of_turn (hturn : Turn active p p') (h : Named p) : Named p' := by
  intro r' hr'
  rcases hturn.row_cases with ⟨-, now, event, endpoint, hnew⟩ | ⟨r, s, hr, hs, hsame⟩
  · obtain rfl := Option.some.inj (hnew.symm.trans hr')
    rfl
  · obtain rfl := Option.mem_unique hs hr'
    rw [hsame.id, hsame.endpoint, hsame.event]
    exact h r hr

theorem Named.of_turns (hturns : Turns active p p') (h : Named p) : Named p' :=
  hturns.invariant (fun _ _ hturn => Named.of_turn hturn) h

section

variable {tables tables' : DeliveryTables} {endpointId eventId : String}

theorem hasDelivery_iff : tables.hasDelivery endpointId eventId = true ↔
    ∃ r ∈ tables.deliveries, r.endpointId = endpointId ∧ r.eventId = eventId := by
  simp only [DeliveryTables.hasDelivery, List.any_eq_true, Bool.and_eq_true, beq_iff_eq]
  rfl

theorem hasDelivery_of_stays (h : ∀ k, Stays (tables.parcel k) (tables'.parcel k))
    (hdelivery : tables.hasDelivery endpointId eventId = true) :
    tables'.hasDelivery endpointId eventId = true := by
  obtain ⟨r, hr, rfl, rfl⟩ := hasDelivery_iff.1 hdelivery
  obtain ⟨r', hr', hsame⟩ := h r.deliveryId r (Table.find?_of_mem hr)
  exact hasDelivery_iff.2 ⟨r', Table.mem_of_find? hr', hsame.endpoint, hsame.event⟩

theorem delivery_unique {r s : DeliveryRow} (hnamed : ∀ k, Named (tables.parcel k))
    (hr : r ∈ tables.deliveries) (hs : s ∈ tables.deliveries)
    (hendpoint : r.endpointId = s.endpointId)
    (hevent : r.eventId = s.eventId) : r = s := by
  refine Table.eq_of_key_eq hr hs ?_
  rw [hnamed _ r (Table.find?_of_mem hr), hnamed _ s (Table.find?_of_mem hs), hendpoint, hevent]

end

/-! ### Materialization -/

section

variable {now : Time} {tables tables' : DeliveryTables} {pair : EventRow × EndpointRow}

/-- No endpoint identifier contains the separator of delivery identifiers. -/
def Separable (tables : DeliveryTables) : Prop :=
  ∀ e, (tables.endpoints.find? e).isSome → ':' ∉ e.toList

theorem stored_of_active {e : String} (h : tables.endpointActive e = true) :
    (tables.endpoints.find? e).isSome := by
  obtain ⟨endpoint, hfind, -⟩ := (Option.any_eq_true _ _).1 h
  exact Option.isSome_iff_exists.2 ⟨endpoint, hfind⟩

theorem exists_insertDelivery {row : DeliveryRow}
    (hendpoint : (tables.endpoints.find? row.endpointId).isSome)
    (h : tables.deliveries.find? row.deliveryId = none) :
    ∃ tables', tables.insertDelivery row = some tables' := by
  obtain ⟨table, htable⟩ := Table.exists_insert h
  unfold DeliveryTables.insertDelivery
  rw [dif_pos hendpoint]
  split
  · next hnone =>
      rw [htable] at hnone
      cases hnone
  · exact ⟨_, rfl⟩

theorem newDelivery_free (hnamed : ∀ k, Named (tables.parcel k)) (hseparable : Separable tables)
    (hstored : (tables.endpoints.find? pair.2.endpointId).isSome)
    (hmissing : tables.hasDelivery pair.2.endpointId pair.1.eventId = false) :
    tables.deliveries.find? (newDelivery now pair.1 pair.2).deliveryId = none := by
  cases hfind : tables.deliveries.find? (newDelivery now pair.1 pair.2).deliveryId with
  | none => rfl
  | some r =>
    have hr := Table.mem_of_find? hfind
    have hname := (hnamed _ r hfind).symm.trans (Table.key_of_find? hfind)
    obtain ⟨hendpoint, hevent⟩ := Encoding.colon_inj_left
      (hseparable _ (tables.deliveryLinked r hr)) (hseparable _ hstored) hname
    have hdelivery := hasDelivery_iff.2 ⟨r, hr, hendpoint, hevent⟩
    rw [hmissing] at hdelivery
    cases hdelivery

theorem materialize_succeeds (now : Time) (hnamed : ∀ k, Named (tables.parcel k))
    (hseparable : Separable tables) (hactive : tables.endpointActive pair.2.endpointId = true) :
    ∃ tables', materialize now tables pair = .ok tables' := by
  unfold materialize
  split
  · exact ⟨tables, rfl⟩
  · next hmissing =>
      have hfree : tables.deliveries.find? (newDelivery now pair.1 pair.2).deliveryId = none :=
        newDelivery_free hnamed hseparable (stored_of_active hactive) (Bool.eq_false_iff.2 hmissing)
      obtain ⟨tables', h⟩ := exists_insertDelivery (stored_of_active hactive) hfree
      exact ⟨tables', orFail_ok.2 h⟩

theorem materialize_turns (h : materialize now tables pair = .ok tables') :
    tables'.endpoints = tables.endpoints ∧
      ∀ k, Turns (fun _ => true) (tables.parcel k) (tables'.parcel k) := by
  have hmaterialized := @materialize_ok (fun _ => true) now tables tables' pair rfl h
  exact ⟨hmaterialized.endpoints, fun k => claiming_turns (hmaterialized.claiming k)⟩

theorem materialized_succeeds (now : Time) {pairs : List (EventRow × EndpointRow)}
    (hnamed : ∀ k, Named (tables.parcel k)) (hseparable : Separable tables)
    (hactive : ∀ pair ∈ pairs, tables.endpointActive pair.2.endpointId = true) :
    ∃ tables', pairs.foldlM (materialize now) tables = .ok tables' := by
  induction pairs generalizing tables with
  | nil => exact ⟨tables, rfl⟩
  | cons pair pairs ih =>
    obtain ⟨middle, hmiddle⟩ :=
      materialize_succeeds now hnamed hseparable (hactive pair List.mem_cons_self)
    obtain ⟨hendpoints, hturns⟩ := materialize_turns hmiddle
    have hnamed' : ∀ k, Named (middle.parcel k) := fun k => (hnamed k).of_turns (hturns k)
    obtain ⟨tables', h⟩ :=
      ih hnamed' (fun e he => hseparable e (hendpoints ▸ he)) fun pair hpair => by
      rw [DeliveryTables.endpointActive, hendpoints]
      exact hactive pair (List.mem_cons_of_mem _ hpair)
    exact ⟨tables', by rw [List.foldlM_cons, bind_ok]; exact ⟨middle, hmiddle, h⟩⟩

theorem materialize_has (h : materialize now tables pair = .ok tables') :
    tables'.hasDelivery pair.2.endpointId pair.1.eventId = true := by
  unfold materialize at h
  split at h
  · next hdelivery =>
      cases h
      exact hdelivery
  · rw [orFail_ok] at h
    obtain ⟨hdeliveries, -⟩ := insertDelivery_eq_some h
    exact hasDelivery_iff.2 ⟨_, (Table.mem_insert hdeliveries).2 (.inr rfl), rfl, rfl⟩

theorem materialized_has {pairs : List (EventRow × EndpointRow)}
    (h : pairs.foldlM (materialize now) tables = .ok tables') (hpair : pair ∈ pairs) :
    tables'.hasDelivery pair.2.endpointId pair.1.eventId = true := by
  induction pairs generalizing tables with
  | nil => cases hpair
  | cons first pairs ih =>
    rw [List.foldlM_cons, bind_ok] at h
    obtain ⟨middle, h₁, h₂⟩ := h
    rcases List.mem_cons.1 hpair with rfl | hpair
    · have hrest := @materialized_ok (fun _ => true) now middle tables' pairs (fun _ _ => rfl) h₂
      exact hasDelivery_of_stays (fun k => (claiming_turns (hrest.claiming k)).stays)
        (materialize_has h₁)
    · exact ih h₂ hpair

end

/-! ### Attempts -/

section

variable {now : Time} {attempts attempts' : Table HttpAttemptRow.key} {r : DeliveryRow}

def HttpAttemptRow.Named (a : HttpAttemptRow) : Prop :=
  a.attemptId = a.deliveryId ++ ":" ++ toString a.attemptNumber

theorem insertAttempt_ok (h : insertAttempt now attempts r = .ok attempts') :
    ∃ a : HttpAttemptRow, a.Named ∧ a.key = (r.deliveryId, r.attemptCount) ∧
      attempts.insert a = some attempts' := by
  simp only [insertAttempt, bind_ok, orFail_ok] at h
  obtain ⟨-, -, hinsert⟩ := h
  refine ⟨_, ?_, ?_, hinsert⟩
  · rfl
  · rfl

theorem insertAttempt_succeeds (now : Time) (hnamed : ∀ a ∈ attempts, a.Named)
    (hnew : attempts.find? (r.deliveryId, r.attemptCount) = none) :
    ∃ attempts', insertAttempt now attempts r = .ok attempts' := by
  -- an attempt of that name would have the key
  have hfree : (attempts.rows.all fun a =>
      a.attemptId != r.deliveryId ++ ":" ++ toString r.attemptCount) = true := by
    rw [List.all_eq_true]
    intro a ha
    rw [bne_iff_ne]
    intro hname
    obtain ⟨hid, hnumber⟩ := Encoding.colon_toString_inj ((hnamed a ha).symm.trans hname)
    have hkey : a.key = (r.deliveryId, r.attemptCount) := Prod.ext hid hnumber
    have hfind := Table.find?_of_mem (t := attempts) ha
    rw [hkey, hnew] at hfind
    cases hfind
  obtain ⟨attempts', h⟩ := Table.exists_insert (t := attempts)
    (r := ⟨r.deliveryId ++ ":" ++ toString r.attemptCount, r.deliveryId, r.attemptCount, now,
      none, none, ""⟩) hnew
  refine ⟨attempts', ?_⟩
  simp only [insertAttempt, bind_ok, orFail_ok]
  exact ⟨(), require_ok.2 hfree, h⟩

theorem insertAttempts_mem {rows : List DeliveryRow}
    (h : rows.foldlM (insertAttempt now) attempts = .ok attempts') {a : HttpAttemptRow}
    (ha : a ∈ attempts') :
    a ∈ attempts ∨ a.Named ∧ ∃ r ∈ rows, a.key = (r.deliveryId, r.attemptCount) := by
  induction rows generalizing attempts with
  | nil =>
    cases h
    exact .inl ha
  | cons r rows ih =>
    rw [List.foldlM_cons, bind_ok] at h
    obtain ⟨middle, h₁, h₂⟩ := h
    obtain ⟨b, hb, hkey, hinsert⟩ := insertAttempt_ok h₁
    rcases ih h₂ with hmiddle | ⟨hnamed, s, hs, hkey'⟩
    · rcases (Table.mem_insert hinsert).1 hmiddle with hold | rfl
      · exact .inl hold
      · exact .inr ⟨hb, r, List.mem_cons_self, hkey⟩
    · exact .inr ⟨hnamed, s, List.mem_cons_of_mem _ hs, hkey'⟩

theorem insertAttempts_succeed (now : Time) {rows : List DeliveryRow}
    (hnamed : ∀ a ∈ attempts, a.Named)
    (hnew : ∀ r ∈ rows, attempts.find? (r.deliveryId, r.attemptCount) = none)
    (hnodup : (rows.map DeliveryRow.deliveryId).Nodup) :
    ∃ attempts', rows.foldlM (insertAttempt now) attempts = .ok attempts' := by
  induction rows generalizing attempts with
  | nil => exact ⟨attempts, rfl⟩
  | cons r rows ih =>
    rw [List.map_cons, List.nodup_cons] at hnodup
    obtain ⟨middle, hmiddle⟩ := insertAttempt_succeeds now hnamed (hnew r List.mem_cons_self)
    obtain ⟨b, hb, hkey, hinsert⟩ := insertAttempt_ok hmiddle
    have hnamed' : ∀ a ∈ middle, a.Named := by
      intro a ha
      rcases (Table.mem_insert hinsert).1 ha with hold | rfl
      · exact hnamed a hold
      · exact hb
    have hnew' : ∀ s ∈ rows, middle.find? (s.deliveryId, s.attemptCount) = none := by
      intro s hs
      rw [Table.find?_insert_of_ne hinsert]
      · exact hnew s (List.mem_cons_of_mem _ hs)
      · rw [hkey]
        intro heq
        have hid : r.deliveryId = s.deliveryId := congrArg Prod.fst heq
        exact hnodup.1 (hid ▸ List.mem_map_of_mem hs)
    obtain ⟨attempts', h⟩ := ih hnamed' hnew' hnodup.2
    exact ⟨attempts', by rw [List.foldlM_cons, bind_ok]; exact ⟨middle, hmiddle, h⟩⟩

end

/-! ### One pass over the outbox -/

theorem endpointActive_iff {tables : DeliveryTables} {e : String} :
    tables.endpointActive e = true ↔
      ∃ endpoint ∈ tables.endpoints, endpoint.endpointId = e ∧ endpoint.active = true := by
  simp only [DeliveryTables.endpointActive, Option.any_eq_true]
  constructor
  · rintro ⟨endpoint, hfind, hactive⟩
    exact ⟨endpoint, Table.mem_of_find? hfind, Table.key_of_find? hfind, hactive⟩
  · rintro ⟨endpoint, hmem, rfl, hactive⟩
    exact ⟨endpoint, Table.find?_of_mem hmem, hactive⟩

section

variable {now : Time} {ownerId v : String} {limit : Nat} {db db' : WebhookDatabase}
  {row : OutboxRow} {deliveries : List Delivery} {locked : List OutboxRow} {p : OutboxProgress}
  {tables : DeliveryTables}

theorem mem_lockedOutbox (h : row ∈ lockedOutbox now limit db) :
    row ∈ db.events.eventOutbox ∧ row.destination = .webhook ∧
      ∃ p, db.progress.find? row.outboxId = some p ∧ p.publishedAt = none := by
  obtain ⟨found, hfound, rfl⟩ := List.mem_map.1 h
  have hmem := List.mem_of_mem_take hfound
  rw [mem_orderBy, List.mem_filterMap] at hmem
  obtain ⟨row, hrow, hsome⟩ := hmem
  obtain ⟨p, hp, rfl⟩ := Option.map_eq_some_iff.1 hsome
  rw [Option.filter_eq_some_iff] at hp
  rw [Table.mem_select, beq_iff_eq] at hrow
  simp only [Bool.and_eq_true, Option.isNone_iff_eq_none] at hp
  exact ⟨hrow.1, hrow.2, p, hp.1, hp.2.1.1⟩

theorem closed_eq_false (hp : db.progress.find? row.outboxId = some p)
    (hopen : p.publishedAt = none) : db.closed row = false := by
  rw [WebhookDatabase.closed, hp, Option.any_some, hopen]
  rfl

theorem nodup_keys_page {ρ β γ : Type} {key : ρ → String} [LT β] [DecidableLT β] [DecidableEq β]
    [LE γ] [DecidableLE γ] (f : ρ → β) (g : ρ → γ) (table : Table key) (p : ρ → Bool) (n : Nat) :
    (((orderBy f g (table.select p)).take n).map key).Nodup := by
  have hselected : ((table.select p).map key).Nodup :=
    table.nodup.sublist (List.filter_sublist.map key)
  have hordered : ((orderBy f g (table.select p)).map key).Nodup :=
    ((List.perm_insertionSort _ _).map key).nodup_iff.2 hselected
  exact hordered.sublist ((List.take_sublist n _).map key)

theorem exists_mem_page
    {α β γ δ : Type} [LT β] [DecidableLT β] [DecidableEq β] [LE γ] [DecidableLE γ]
    {f : α → β} {g : α → γ} {rows : List α} {a : α} (hlimit : 1 ≤ limit) (column : α → δ)
    (ha : a ∈ rows) : ∃ b, b ∈ ((orderBy f g rows).take limit).map column := by
  refine List.exists_mem_of_ne_nil _ fun hnil => ?_
  rcases List.take_eq_nil_iff.1 (List.map_eq_nil_iff.1 hnil) with hzero | hempty
  · omega
  · rw [← mem_orderBy (f := f) (g := g), hempty] at ha
    cases ha

theorem exists_mem_lockedOutbox (hlimit : 1 ≤ limit) (hrow : row ∈ db.events.eventOutbox)
    (hwebhook : row.destination = .webhook)
    (hp : db.progress.find? row.outboxId = some p) (hopen : p.publishedAt = none)
    (hunclaimed : p.claimedBy = none) (havailable : p.availableAt ≤ now) :
    ∃ row', row' ∈ lockedOutbox now limit db := by
  refine exists_mem_page (a := (row, p.availableAt)) hlimit _ (List.mem_filterMap.2 ⟨row, ?_, ?_⟩)
  · rw [Table.mem_select, beq_iff_eq]
    exact ⟨hrow, hwebhook⟩
  · simp [hp, Option.filter_some, hopen, havailable, claimable, hunclaimed]

theorem candidatePairs_missing {pair : EventRow × EndpointRow}
    (h : pair ∈ candidatePairs limit locked db) :
    ∃ row ∈ locked, row.eventId = pair.1.eventId ∧
      db.hasDelivery pair.2.endpointId pair.1.eventId = false := by
  obtain ⟨found, hfound, rfl⟩ := List.mem_map.1 h
  have hmem := List.mem_of_mem_take hfound
  rw [mem_orderBy, List.mem_flatMap] at hmem
  obtain ⟨row, hrow, hmem⟩ := hmem
  obtain ⟨endpoint, -, hsome⟩ := List.mem_filterMap.1 hmem
  obtain ⟨event, hevent, rfl⟩ := Option.map_eq_some_iff.1 hsome
  rw [Option.filter_eq_some_iff] at hevent
  exact ⟨row, hrow, (Table.key_of_find? hevent.1).symm, by simpa using hevent.2⟩

theorem hasDelivery_of_no_candidates (hlimit : 1 ≤ limit)
    (h : candidatePairs limit locked db = []) (hlocked : row ∈ locked)
    (hrow : row ∈ db.events.eventOutbox) {e : String} (hactive : db.endpointActive e = true) :
    db.hasDelivery e row.eventId = true := by
  obtain ⟨endpoint, hendpoint, rfl, hon⟩ := endpointActive_iff.1 hactive
  obtain ⟨event, hevent⟩ := Option.isSome_iff_exists.1 (db.events.outboxLinked row hrow)
  by_contra hmissing
  rw [Bool.not_eq_true] at hmissing
  obtain ⟨pair, hpair⟩ : ∃ pair, pair ∈ candidatePairs limit locked db := by
    refine exists_mem_page (a := (row, event, endpoint)) hlimit _ (List.mem_flatMap.2
      ⟨row, hlocked, List.mem_filterMap.2 ⟨endpoint, Table.mem_select.2 ⟨hendpoint, hon⟩, ?_⟩⟩)
    have hid : event.eventId = row.eventId := Table.key_of_find? hevent
    rw [hevent, Option.filter_some, hid, hmissing]
    rfl
  rw [h] at hpair
  cases hpair

theorem mem_completedEvents :
    v ∈ completedEvents locked tables ↔ ∃ row ∈ locked, row.eventId = v ∧
      ∀ e, tables.endpointActive e = true → tables.hasDelivery e v = true := by
  simp only [completedEvents, List.mem_map, List.mem_filter, List.all_eq_true, Table.mem_select]
  constructor
  · rintro ⟨row, ⟨hrow, hall⟩, rfl⟩
    refine ⟨row, hrow, rfl, fun e he => ?_⟩
    obtain ⟨endpoint, hendpoint, rfl, hon⟩ := endpointActive_iff.1 he
    exact hall endpoint ⟨hendpoint, hon⟩
  · rintro ⟨row, hrow, rfl, hall⟩
    exact ⟨row, ⟨hrow, fun endpoint hendpoint =>
      hall _ (endpointActive_iff.2 ⟨endpoint, hendpoint.1, rfl, hendpoint.2⟩)⟩, rfl⟩

def closes (events : List String) (db : WebhookDatabase) (k : String) : Prop :=
  ∃ row ∈ db.events.eventOutbox, row.outboxId = k ∧ row.destination = .webhook ∧
    row.eventId ∈ events

theorem find?_closedOutbox (now : Time) (events : List String) (db : WebhookDatabase) (k : String) :
    ∃ closing : Bool, (closing = true ↔ closes events db k) ∧
      (closedOutbox now events db).find? k = (db.progress.find? k).map fun p =>
        if closing then
          { p with publishedAt := some now, claimedBy := none, claimExpiresAt := none }
        else p := by
  refine ⟨(db.events.eventOutbox.select fun r => r.destination == .webhook &&
    events.contains r.eventId).any fun r => r.outboxId == k, ?_, ?_⟩
  · simp only [closes, List.any_eq_true, Table.mem_select, Bool.and_eq_true, beq_iff_eq,
      List.contains_iff_mem]
    constructor
    · rintro ⟨row, ⟨hrow, hwebhook, hevent⟩, hid⟩
      exact ⟨row, hrow, hid, hwebhook, hevent⟩
    · rintro ⟨row, hrow, hid, hwebhook, hevent⟩
      exact ⟨row, ⟨hrow, hwebhook, hevent⟩, hid⟩
  · rw [closedOutbox, Table.find?_update]
    cases hp : db.progress.find? k with
    | none => rfl
    | some p =>
      have hid : p.outboxId = k := Table.key_of_find? hp
      rw [Option.map_some, Option.map_some, hid]

def Numbered (tables : DeliveryTables) (a : HttpAttemptRow) : Prop :=
  a.Named ∧ ∃ r, tables.deliveries.find? a.deliveryId = some r ∧ a.attemptNumber ≤ r.attemptCount

theorem Numbered.of_stays {tables' : DeliveryTables} {a b : HttpAttemptRow}
    (h : Numbered tables b) (hid : a.attemptId = b.attemptId) (hkey : a.key = b.key)
    (hstays : ∀ k, Stays (tables.parcel k) (tables'.parcel k)) : Numbered tables' a := by
  have hdelivery : a.deliveryId = b.deliveryId := congrArg Prod.fst hkey
  have hnumber : a.attemptNumber = b.attemptNumber := congrArg Prod.snd hkey
  obtain ⟨hnamed, r, hr, hle⟩ := h
  obtain ⟨r', hr', hsame⟩ := hstays _ r hr
  refine ⟨?_, r', ?_, ?_⟩
  · rw [HttpAttemptRow.Named, hid, hdelivery, hnumber]
    exact hnamed
  · rw [hdelivery]
    exact hr'
  · rw [hnumber]
    exact hle.trans hsame.attempts

/-- What `Claim` does to the outbox and to the names. -/
structure Passed (db db' : WebhookDatabase) : Prop where
  events : db'.events = db.events
  stored : ∀ e, (db'.endpoints.find? e).isSome = (db.endpoints.find? e).isSome
  active : db'.endpointActive = db.endpointActive
  turns : ∀ k, Turns db.endpointActive (db.parcel k) (db'.parcel k)
  progress : ∀ k p, db.progress.find? k = some p → ∃ p', db'.progress.find? k = some p' ∧
    (p.publishedAt.isSome → p'.publishedAt.isSome) ∧ (p.claimedBy = none → p'.claimedBy = none)
  closing : ∀ row, db.closed row = false → db'.closed row = true →
    ∃ row' ∈ db.events.eventOutbox, row'.outboxId = row.outboxId ∧ row'.destination = .webhook ∧
      ∀ e, db'.endpointActive e = true → db'.hasDelivery e row'.eventId = true
  attempts : (∀ a ∈ db.attempts, Numbered db.toDeliveryTables a) →
    ∀ a ∈ db'.attempts, Numbered db'.toDeliveryTables a

theorem Passed.stays (h : Passed db db') (k : String) : Stays (db.parcel k) (db'.parcel k) :=
  (h.turns k).stays

theorem Passed.trans {db'' : WebhookDatabase} (h : Passed db db') (h' : Passed db' db'') :
    Passed db db'' where
  events := h'.events.trans h.events
  stored e := (h'.stored e).trans (h.stored e)
  active := h'.active.trans h.active
  turns k := (h.turns k).trans (h.active ▸ h'.turns k)
  progress k p hp := by
    obtain ⟨p', hp', hpublished, hclaimed⟩ := h.progress k p hp
    obtain ⟨p'', hp'', hpublished', hclaimed'⟩ := h'.progress k p' hp'
    exact ⟨p'', hp'', fun h => hpublished' (hpublished h), fun h => hclaimed' (hclaimed h)⟩
  closing row hopen hclosed := by
    cases hmiddle : db'.closed row with
    | true =>
      obtain ⟨row', hrow', hid, hwebhook, hall⟩ := h.closing row hopen hmiddle
      refine ⟨row', hrow', hid, hwebhook, fun e he => ?_⟩
      exact hasDelivery_of_stays h'.stays (hall e (h'.active ▸ he))
    | false =>
      obtain ⟨row', hrow', hrest⟩ := h'.closing row hmiddle hclosed
      exact ⟨row', h.events ▸ hrow', hrest⟩
  attempts hnumbered := h'.attempts (h.attempts hnumbered)

theorem hasDelivery_updateDeliveries {p : DeliveryRow → Bool}
    {f : DeliveryRow → DeliveryRow} {hf : ∀ r, (f r).deliveryId = r.deliveryId}
    {hendpoint : ∀ r, (f r).endpointId = r.endpointId} (hevent : ∀ r, (f r).eventId = r.eventId) :
    (tables.updateDeliveries p f hf hendpoint).hasDelivery e v = tables.hasDelivery e v := by
  simp only [DeliveryTables.hasDelivery, DeliveryTables.updateDeliveries, Table.update,
    List.any_map]
  congr 1
  funext r
  rw [Function.comp]
  split
  · rw [hendpoint, hevent]
  · rfl

@[simp] theorem hasDelivery_lease {generation : String → Nat}
    {chosen : List DeliveryRow} {e : String} :
    (tables.lease now ownerId generation chosen).hasDelivery e v = tables.hasDelivery e v := by
  rw [DeliveryTables.lease, hasDelivery_updateDeliveries]
  exact fun _ => rfl

/-- The pass as it leaves the outbox: with the page of pairs it materialized. -/
structure Page (now : Time) (limit : Nat) (db db' : WebhookDatabase) : Prop where
  events : db'.events = db.events
  stored : ∀ e, (db'.endpoints.find? e).isSome = (db.endpoints.find? e).isSome
  materialized : ∀ pair ∈ candidatePairs limit (lockedOutbox now limit db)
    (db.setTables (purged now db.toDeliveryTables)),
    db'.hasDelivery pair.2.endpointId pair.1.eventId = true
  progress : ∀ k, ∃ closing : Bool,
    (closing = true ↔ ∃ row ∈ db.events.eventOutbox, row.outboxId = k ∧ row.destination = .webhook ∧
      ∃ row' ∈ lockedOutbox now limit db, row'.eventId = row.eventId ∧
        ∀ e, db'.endpointActive e = true → db'.hasDelivery e row.eventId = true) ∧
    db'.progress.find? k = (db.progress.find? k).map fun p =>
      if closing then { p with publishedAt := some now, claimedBy := none, claimExpiresAt := none }
      else p
  attempts : (∀ a ∈ db.attempts, Numbered db.toDeliveryTables a) →
    ∀ a ∈ db'.attempts, Numbered db'.toDeliveryTables a

theorem lockedOutbox_purged :
    lockedOutbox now limit (db.setTables (purged now db.toDeliveryTables)) =
      lockedOutbox now limit db := rfl

theorem claimPass_page (howner : validOwner ownerId = true)
    (h : claimPass now ownerId limit db = .ok (deliveries, db')) : Page now limit db db' := by
  have heffect := claimPass_ok howner h
  simp only [claimPass, bind_ok, pure_pair] at h
  obtain ⟨tables, hmaterialized, attempts, hattempts, -, rfl⟩ := h
  obtain ⟨hendpoints, hsame, hkept, -⟩ :=
    materialized_ok (fun pair hpair => mem_candidatePairs hpair) hmaterialized
  rw [lockedOutbox_purged] at hmaterialized
  refine ⟨rfl, fun e => ?_, fun pair hpair => ?_, fun k => ?_, fun hnumbered a ha => ?_⟩
  · have hfind : (tables.endpoints.find? e).isSome = (db.endpoints.find? e).isSome := by
      rw [hendpoints]
      exact stored_updateEndpoints e
    exact hfind
  · exact hasDelivery_lease.trans (materialized_has hmaterialized hpair)
  · obtain ⟨closing, hclosing, hfind⟩ := find?_closedOutbox now
      (completedEvents (lockedOutbox now limit db) tables)
      (db.setTables (purged now db.toDeliveryTables)) k
    refine ⟨closing, hclosing.trans ?_, hfind⟩
    simp only [closes, mem_completedEvents]
    refine exists_congr fun row => and_congr_right fun _ => and_congr_right fun _ =>
      and_congr_right fun _ => exists_congr fun row' => and_congr_right fun _ =>
        and_congr_right fun _ => forall_congr' fun e => ?_
    exact imp_congr Iff.rfl (iff_of_eq (congrArg (· = true) hasDelivery_lease.symm))
  · rcases insertAttempts_mem hattempts ha with hold | ⟨hnamed, r, hr, hkey⟩
    · have hstored : a ∈ tables.attempts := hold
      rw [hsame] at hstored
      exact (hnumbered a hstored).of_stays rfl rfl fun k =>
        (claiming_turns (heffect.parcels k)).stays
    · -- the attempt of a claimed delivery has the number the claim gave it
      obtain ⟨c, hc, rfl⟩ := List.mem_map.1 hr
      have hfind := hkept _ _ (mem_candidates hc).1
      have hid : a.deliveryId = c.deliveryId := congrArg Prod.fst hkey
      have hnumber : a.attemptNumber = c.attemptCount + 1 := congrArg Prod.snd hkey
      have hleased := lease_find? now ownerId
        (db.setTables (purged now db.toDeliveryTables)).generationOf hc hfind
      rw [← hid] at hleased
      exact ⟨hnamed, _, hleased, Nat.le_of_eq hnumber⟩

theorem claimPass_passed (howner : validOwner ownerId = true)
    (h : claimPass now ownerId limit db = .ok (deliveries, db')) : Passed db db' := by
  have heffect := claimPass_ok howner h
  have hpage := claimPass_page howner h
  refine ⟨hpage.events, hpage.stored, heffect.active, fun k => claiming_turns (heffect.parcels k),
    fun k p hp => ?_, fun row hopen hclosed => ?_, hpage.attempts⟩
  · obtain ⟨closing, -, hfind⟩ := hpage.progress k
    rw [hp, Option.map_some] at hfind
    refine ⟨_, hfind, ?_⟩
    split
    · exact ⟨fun _ => rfl, fun _ => rfl⟩
    · exact ⟨id, id⟩
  · obtain ⟨closing, hclosing, hfind⟩ := hpage.progress row.outboxId
    rw [WebhookDatabase.closed, hfind] at hclosed
    cases hdone : closing with
    | true =>
      obtain ⟨row', hrow', hid, hwebhook, -, -, -, hall⟩ := hclosing.1 hdone
      exact ⟨row', hrow', hid, hwebhook, hall⟩
    | false =>
      rw [hdone] at hclosed
      simp only [Bool.false_eq_true, if_false, Option.map_id'] at hclosed
      rw [WebhookDatabase.closed, hclosed] at hopen
      cases hopen

/-- A pass over an outbox with an open row that is due closes an open row or
gives an active endpoint a delivery it lacked. -/
theorem claimPass_progress (howner : validOwner ownerId = true) (hlimit : 1 ≤ limit)
    (h : claimPass now ownerId limit db = .ok (deliveries, db'))
    (hrow : row ∈ db.events.eventOutbox) (hwebhook : row.destination = .webhook)
    (hp : db.progress.find? row.outboxId = some p)
    (hopen : p.publishedAt = none) (hunclaimed : p.claimedBy = none)
    (havailable : p.availableAt ≤ now) :
    ∃ r ∈ db.events.eventOutbox, r.destination = .webhook ∧ db.closed r = false ∧
      (db'.closed r = true ∨ ∃ e, db.endpointActive e = true ∧
        db.hasDelivery e r.eventId = false ∧ db'.hasDelivery e r.eventId = true) := by
  have heffect := claimPass_ok howner h
  have hpage := claimPass_page howner h
  have hactive : (db.setTables (purged now db.toDeliveryTables)).endpointActive =
      db.endpointActive := endpointActive_purged now _
  cases hpairs : candidatePairs limit (lockedOutbox now limit db)
      (db.setTables (purged now db.toDeliveryTables)) with
  | nil =>
    obtain ⟨r, hlocked⟩ :=
      exists_mem_lockedOutbox hlimit hrow hwebhook hp hopen hunclaimed havailable
    obtain ⟨hr, hdestination, q, hq, hunpublished⟩ := mem_lockedOutbox hlocked
    refine ⟨r, hr, hdestination, closed_eq_false hq hunpublished, .inl ?_⟩
    have hall : ∀ e, db'.endpointActive e = true → db'.hasDelivery e r.eventId = true := by
      intro e he
      refine hasDelivery_of_stays (fun k => (claiming_turns (heffect.parcels k)).stays) ?_
      rw [heffect.active, ← hactive] at he
      exact hasDelivery_of_no_candidates hlimit hpairs hlocked hr he
    obtain ⟨closing, hclosing, hfind⟩ := hpage.progress r.outboxId
    have hdone : closing = true :=
      hclosing.2 ⟨r, hr, rfl, hdestination, r, hlocked, rfl, hall⟩
    rw [WebhookDatabase.closed, hfind, hq, hdone]
    rfl
  | cons pair pairs =>
    have hpair : pair ∈ candidatePairs limit (lockedOutbox now limit db)
        (db.setTables (purged now db.toDeliveryTables)) := hpairs ▸ List.mem_cons_self
    obtain ⟨r, hlocked, hevent, hmissing⟩ := candidatePairs_missing hpair
    obtain ⟨hr, hdestination, q, hq, hunpublished⟩ := mem_lockedOutbox hlocked
    refine ⟨r, hr, hdestination, closed_eq_false hq hunpublished,
      .inr ⟨pair.2.endpointId, ?_, ?_, ?_⟩⟩
    · rw [← hactive]
      exact mem_candidatePairs hpair
    · rw [hevent]
      exact hmissing
    · rw [hevent]
      exact hpage.materialized pair hpair

theorem claimPass_succeeds (now : Time) (ownerId : String) (limit : Nat)
    (hnamed : ∀ k, Named (db.parcel k)) (hseparable : Separable db.toDeliveryTables)
    (hnumbered : ∀ a ∈ db.attempts, Numbered db.toDeliveryTables a) :
    ∃ result, claimPass now ownerId limit db = .ok result := by
  obtain ⟨tables, htables⟩ := @materialized_succeeds (purged now db.toDeliveryTables) now
    (candidatePairs limit (lockedOutbox now limit db)
      (db.setTables (purged now db.toDeliveryTables)))
    hnamed (fun e he => hseparable e ((stored_updateEndpoints e).symm.trans he))
    fun pair hpair => mem_candidatePairs hpair
  have hattempts : tables.attempts = db.attempts :=
    (materialized_ok (fun pair hpair => mem_candidatePairs hpair) htables).attempts
  simp only [claimPass, bind_ok, pure_ok]
  refine (insertAttempts_succeed now (hattempts ▸ fun a ha => (hnumbered a ha).1) ?_ ?_).elim
    fun attempts h => ⟨_, tables, htables, attempts, h, rfl⟩
  · -- the numbers of the attempts so far are below the one the claim gives
    intro r hr
    obtain ⟨c, hc, rfl⟩ := List.mem_map.1 hr
    refine Table.find?_eq_none.2 fun a ha hkey => ?_
    have hold : a ∈ tables.attempts := ha
    rw [hattempts] at hold
    obtain ⟨-, s, hs, hle⟩ := hnumbered a hold
    have hid : a.deliveryId = c.deliveryId := congrArg Prod.fst hkey
    have hnumber : a.attemptNumber = c.attemptCount + 1 := congrArg Prod.snd hkey
    rw [hid] at hs
    have hfind : db.deliveries.find? c.deliveryId = some c := (mem_candidates hc).1
    obtain rfl := Option.mem_unique hfind hs
    omega
  · rw [List.map_map]
    exact nodup_keys_page _ _ _ _ _

theorem claim_passed {again : Time} (h : claim now again ownerId limit db = .ok (deliveries, db')) :
    Passed db db' := by
  simp only [claim, bind_ok, require_ok, Bool.and_eq_true] at h
  obtain ⟨-, ⟨⟨⟨-, howner⟩, -⟩, -⟩, ⟨first, middle⟩, hfirst, h⟩ := h
  have hpassed := claimPass_passed howner hfirst
  simp only at h
  split at h
  · exact hpassed.trans (claimPass_passed howner h)
  · rw [pure_pair] at h
    obtain ⟨rfl, rfl⟩ := h
    exact hpassed

end

/-! ### The other operations -/

structure Aside (db db' : WebhookDatabase) : Prop where
  events : db'.events = db.events
  progress : db'.progress = db.progress
  stored : ∀ e, (db'.endpoints.find? e).isSome = (db.endpoints.find? e).isSome
  active : ∀ e, db'.endpointActive e = true → db.endpointActive e = true
  attempts : ∀ a ∈ db'.attempts, ∃ b ∈ db.attempts, a.attemptId = b.attemptId ∧ a.key = b.key

section

variable {now : Time} {db db' : WebhookDatabase} {answer : Bool}

theorem Aside.refl (db : WebhookDatabase) : Aside db db :=
  ⟨rfl, rfl, fun _ => rfl, fun _ he => he, fun a ha => ⟨a, ha, rfl, rfl⟩⟩

theorem Aside.updateEndpoints {p : EndpointRow → Bool} {f : EndpointRow → EndpointRow}
    {hf : ∀ r, (f r).endpointId = r.endpointId}
    (hactive : ∀ r, (f r).active = true → r.active = true) :
    Aside db (db.setTables (db.updateEndpoints p f hf)) := by
  exact ⟨rfl, rfl, stored_updateEndpoints, fun e he => active_of_updateEndpoints hactive he,
    fun a ha => ⟨a, ha, rfl, rfl⟩⟩

theorem Aside.of_tables {tables : DeliveryTables} (hendpoints : tables.endpoints = db.endpoints)
    (hattempts : ∀ a ∈ tables.attempts, ∃ b ∈ db.attempts, a.attemptId = b.attemptId ∧
      a.key = b.key) :
    Aside db (db.setTables tables) := by
  refine ⟨rfl, rfl, fun e => ?_, fun e he => ?_, hattempts⟩
  · exact congrArg (fun t : Table EndpointRow.endpointId => (t.find? e).isSome) hendpoints
  · have htables : tables.endpointActive e = true := he
    rw [DeliveryTables.endpointActive, hendpoints] at htables
    exact htables

theorem Aside.trans {db'' : WebhookDatabase} (h : Aside db db') (h' : Aside db' db'') :
    Aside db db'' where
  events := h'.events.trans h.events
  progress := h'.progress.trans h.progress
  stored e := (h'.stored e).trans (h.stored e)
  active e he := h.active e (h'.active e he)
  attempts a ha := by
    obtain ⟨b, hb, hid, hkey⟩ := h'.attempts a ha
    obtain ⟨c, hc, hid', hkey'⟩ := h.attempts b hb
    exact ⟨c, hc, hid.trans hid', hkey.trans hkey'⟩

theorem updateAttempts_names {tables : DeliveryTables} {p : HttpAttemptRow → Bool}
    {f : HttpAttemptRow → HttpAttemptRow} (hf : ∀ a, (f a).key = a.key)
    (hid : ∀ a, (f a).attemptId = a.attemptId) :
    ∀ a ∈ (tables.updateAttempts p f hf).attempts,
      ∃ b ∈ tables.attempts, a.attemptId = b.attemptId ∧ a.key = b.key := by
  intro a ha
  have hmem : a ∈ tables.attempts.update p f hf := ha
  obtain ⟨b, hb, rfl⟩ := Table.mem_update.1 hmem
  refine ⟨b, hb, ?_⟩
  split
  · exact ⟨hid b, hf b⟩
  · exact ⟨rfl, rfl⟩

theorem completeAttempt_aside {dlqId : String} {result : AttemptResult}
    (h : completeAttempt now dlqId result db = .ok db') : Aside db db' := by
  simp only [completeAttempt, bind_ok, pure_ok, orFail_ok] at h
  obtain ⟨-, -, r, -, endpoint, -, a, -, tables, htables, rfl⟩ := h
  refine .of_tables (ensureLetters_ok htables).1 ?_
  rw [(ensureLetters_ok htables).2.1]
  exact fun b hb => updateAttempts_names (fun _ => by rfl) (fun _ => by rfl) b hb

theorem deleteEndpoint_aside {endpointId : String}
    (h : deleteEndpoint now endpointId db = .ok (answer, db')) : Aside db db' := by
  simp only [deleteEndpoint, bind_ok, pure_pair] at h
  obtain ⟨-, -, -, -, tables, htables, -, rfl⟩ := h
  have hletters : Aside db (db.setTables tables) := by
    refine .of_tables (ensureLetters_ok htables).1 ?_
    rw [(ensureLetters_ok htables).2.1]
    exact fun b hb => updateAttempts_names (fun _ => by rfl) (fun _ => by rfl) b hb
  exact hletters.trans (.updateEndpoints fun r h => by cases h)

theorem replayDLQ_aside {dlqId : String} (h : replayDLQ now dlqId db = .ok db') : Aside db db' := by
  simp only [replayDLQ, bind_ok, pure_ok] at h
  obtain ⟨-, -, -, -, rfl⟩ := h
  exact .of_tables rfl fun a ha => ⟨a, ha, rfl, rfl⟩

theorem admitClaim_aside {delivery : Delivery}
    (h : admitClaim now delivery db = .ok (answer, db')) : Aside db db' := by
  rcases admitClaim_ok h with ⟨-, rfl⟩ | ⟨-, hadmission⟩
  · exact .refl _
  · rw [hadmission.after]
    exact .of_tables rfl fun a ha => ⟨a, ha, rfl, rfl⟩

theorem renewClaim_aside {deliveryId ownerId : String} {claimToken : Nat}
    (h : renewClaim now deliveryId ownerId claimToken db = .ok (answer, db')) : Aside db db' := by
  rcases renewClaim_ok h with rfl | ⟨r, -, -, rfl⟩
  · exact .refl _
  · exact .of_tables rfl fun a ha => ⟨a, ha, rfl, rfl⟩

theorem rotateEndpoint_aside {endpointId keyId : String} {secret : SessionEnvelope}
    {previousValidUntil : Option Time}
    (h : rotateEndpoint endpointId keyId secret previousValidUntil db = .ok db') :
      Aside db db' := by
  simp only [rotateEndpoint, bind_ok, pure_ok] at h
  obtain ⟨-, -, -, -, -, -, -, -, rfl⟩ := h
  exact .updateEndpoints fun _ hactive => hactive

theorem purgeExpiredSecrets_aside (h : purgeExpiredSecrets now db = .ok db') : Aside db db' := by
  simp only [purgeExpiredSecrets, bind_ok, pure_ok] at h
  obtain ⟨-, -, rfl⟩ := h
  exact .updateEndpoints fun _ hactive => hactive

end

/-! ### New events and new endpoints -/

def OutboxDistinct (events : EventTables) : Prop :=
  ∀ r ∈ events.eventOutbox, ∀ s ∈ events.eventOutbox, r.outboxId = s.outboxId → r = s

/-- Every outbox row has its publication columns, and no worker claims them. -/
def OutboxTracked (events : EventTables) (progress : Table OutboxProgress.outboxId) : Prop :=
  ∀ r ∈ events.eventOutbox, ∃ p, progress.find? r.outboxId = some p ∧ p.claimedBy = none

theorem insertOutboxRow_distinct {gateway gateway' : Database} {operation : String}
    {row : OutboxRow}
    (h : gateway.insertOutboxRow operation row = .ok gateway')
    (hdistinct : OutboxDistinct gateway.events) :
    OutboxDistinct gateway'.events ∧
      ∀ r ∈ gateway'.events.eventOutbox, r ∈ gateway.events.eventOutbox ∨ r = row := by
  simp only [Database.insertOutboxRow, bind_ok, pure_ok, require_ok, orFail_ok, List.all_eq_true,
    bne_iff_ne] at h
  obtain ⟨-, hfree, events, hevents, rfl⟩ := h
  obtain ⟨-, hinsert⟩ := insertOutbox_eq_some hevents
  refine ⟨fun r hr s hs hid => ?_, fun r hr => (Table.mem_insert hinsert).1 hr⟩
  rcases (Table.mem_insert hinsert).1 hr with hr | rfl <;>
    rcases (Table.mem_insert hinsert).1 hs with hs | rfl
  · exact hdistinct r hr s hs hid
  · exact absurd hid (hfree r hr)
  · exact absurd hid.symm (hfree s hs)
  · rfl

theorem publish_ok {rt : Runtime} {now : Time} {event : EventRow} {outboxId : String}
    (h : publish rt now event outboxId db = .ok db')
    (hdistinct : OutboxDistinct db.events) (htracked : OutboxTracked db.events db.progress) :
    db'.toDeliveryTables = db.toDeliveryTables ∧ OutboxDistinct db'.events ∧
      OutboxTracked db'.events db'.progress := by
  simp only [publish, Database.insertEventOutbox, bind_ok, pure_ok, orFail_ok] at h
  obtain ⟨stored, hstored, gateway, ⟨middle, hwebhook, hkafka⟩, progress, hprogress, progress',
    hprogress', rfl⟩ := h
  have houtbox : stored.events.eventOutbox = db.events.eventOutbox := by
    simp only [Database.insertGatewayEvent, bind_ok, pure_ok, orFail_ok] at hstored
    obtain ⟨-, -, events, hevents, rfl⟩ := hstored
    exact (insertEvent_eq_some hevents).2
  have hdistinct' : OutboxDistinct stored.events := by
    intro r hr s hs
    rw [houtbox] at hr hs
    exact hdistinct r hr s hs
  obtain ⟨hmiddle, hmem⟩ := insertOutboxRow_distinct hwebhook hdistinct'
  obtain ⟨hgateway, hmem'⟩ := insertOutboxRow_distinct hkafka hmiddle
  refine ⟨rfl, hgateway, fun r hr => ?_⟩
  rcases hmem' r hr with hr | rfl
  · rcases hmem r hr with hr | rfl
    · rw [houtbox] at hr
      obtain ⟨p, hp, hunclaimed⟩ := htracked r hr
      exact ⟨p, Table.find?_insert_kept hprogress' (Table.find?_insert_kept hprogress hp),
        hunclaimed⟩
    · exact ⟨_, Table.find?_insert_kept hprogress' (Table.find?_insert_self hprogress), rfl⟩
  · exact ⟨_, Table.find?_insert_self hprogress', rfl⟩

theorem publish_kept {rt : Runtime} {now : Time} {event : EventRow} {outboxId : String}
    (h : publish rt now event outboxId db = .ok db') {k : String}
    {p : OutboxProgress} (hp : db.progress.find? k = some p) : db'.progress.find? k = some p := by
  simp only [publish, bind_ok, pure_ok, orFail_ok] at h
  obtain ⟨-, -, -, -, progress, hprogress, progress', hprogress', rfl⟩ := h
  exact Table.find?_insert_kept hprogress' (Table.find?_insert_kept hprogress hp)

theorem createEndpoint_ok {endpoint : Endpoint} {secret : SessionEnvelope} {maxEndpoints : Nat}
    (h : createEndpoint endpoint secret maxEndpoints db = .ok db') :
    db'.events = db.events ∧ db'.progress = db.progress ∧ db'.attempts = db.attempts ∧
      ∀ e, (db'.endpoints.find? e).isSome → (db.endpoints.find? e).isSome ∨ e = endpoint.id := by
  simp only [createEndpoint, bind_ok, pure_ok, orFail_ok] at h
  obtain ⟨-, -, -, -, -, -, tables, htables, rfl⟩ := h
  obtain ⟨hendpoints, -, hattempts, -⟩ := insertEndpoint_eq_some htables
  refine ⟨rfl, rfl, hattempts, fun e he => ?_⟩
  have hfind : (tables.endpoints.find? e).isSome := he
  rw [Table.find?_insert hendpoints] at hfind
  split at hfind
  · next heq => exact .inr heq.symm
  · exact .inl hfind

end MessagingGateway.Webhook
