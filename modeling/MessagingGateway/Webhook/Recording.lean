import MessagingGateway.Webhook.Attempts

/-!
# A delivered webhook is recorded

Once the receiver has answered with success, the attempt records it if nothing
comes between the answer and `CompleteAttempt`: no renewal that was in flight
when the renewals were stopped returns the error of its cancelled context, none
is refused, and nobody takes the claim away.
-/

namespace MessagingGateway.Webhook

open Relational Domain Store

/-! ### An attempt keeps its claim until it reports -/

def Stage.started : Stage → Bool
  | .requesting | .joining _ | .completing (.delivered _) | .completing (.failed _) => true
  | _ => false

def Stage.over : Stage → Bool
  | .returned _ => true
  | _ => false

@[simp] theorem Attempt.after_delivery (attempt : Attempt) (reply : Option Reply)
    (event : AttemptEvent) : (attempt.after reply event).delivery = attempt.delivery := by
  cases event <;> simp only [Attempt.after] <;> split <;> rfl

@[simp] theorem Attempt.after_worker (attempt : Attempt) (reply : Option Reply)
    (event : AttemptEvent) : (attempt.after reply event).worker = attempt.worker := by
  cases event <;> simp only [Attempt.after] <;> split <;> rfl

variable {d : Delivery}

theorem Held.weaken {started : Bool} {p : Parcel} (h : Held true d p) : Held started d p := by
  obtain ⟨r, hr, hle, hheld⟩ := h
  exact ⟨r, hr, hle, fun heq => ⟨(hheld heq).state, (hheld heq).owner, (hheld heq).count,
    fun _ => (hheld heq).started rfl⟩⟩

variable {now : Time} {later : List (BesideInput × Option (Call × Reply))} {r : DeliveryRow}
  {w : Beside} {worker : Worker}

theorem Admission.held {db db' : WebhookDatabase}
    (h : Admission now d db db') (hheld : Held false d (db.parcel d.deliveryId)) :
    Held true d (db'.parcel d.deliveryId) := by
  obtain ⟨r, hr, hle, hleased⟩ := hheld
  rw [h.after, parcel_setTables, parcel_updateDelivery, if_pos rfl, hr]
  exact ⟨{ r with httpStartedAt := some now }, rfl, hle, fun heq =>
    ⟨(hleased heq).state, (hleased heq).owner, (hleased heq).count, fun _ => rfl⟩⟩

section

variable {rt : Runtime} {db : WebhookDatabase}

theorem admit_reply {d : Delivery} :
    ((step rt (now, .admitClaim d) db).1.trouble = none →
        Admission now d db (step rt (now, .admitClaim d) db).2) ∧
      ((step rt (now, .admitClaim d) db).1.trouble ≠ none →
        (step rt (now, .admitClaim d) db).2 = db) := by
  refine step_rule rt (now, .admitClaim d) db (fun _ _ => ⟨nofun, fun _ => rfl⟩)
    fun reply db' hperform => ?_
  obtain ⟨answer, hok, rfl⟩ := replying_ok hperform
  rcases admitClaim_ok hok with ⟨rfl, rfl⟩ | ⟨rfl, hadmission⟩
  · exact ⟨nofun, fun _ => rfl⟩
  · exact ⟨fun _ => hadmission, fun h => absurd rfl h⟩

def Attempt.Holds (attempt : Attempt) (db : WebhookDatabase) : Prop :=
  attempt.stage.over = false →
    Held attempt.stage.started attempt.delivery (db.parcel attempt.delivery.deliveryId)

theorem Attempt.Holds.of_advance {attempt : Attempt} (hsound : ∀ k, Sound (db.parcel k))
    (h : attempt.Holds db) (event : AttemptEvent) :
    (attempt.advance rt event db).2.1.Holds (attempt.advance rt event db).2.2 := by
  obtain ⟨worker, d, stage, renewal⟩ := attempt
  refine Attempt.advance_rule rt ⟨worker, d, stage, renewal⟩ db event
    fun attempt' db' hmove => ?_
  have hrenewed : ∀ now, stage.over = false → Held stage.started d
      ((step rt (now, .renewClaim d.deliveryId d.ownerId d.claimToken) db).2.parcel d.deliveryId) :=
    fun now hover => step_held (hsound _) nofun (h hover)
  cases hmove with
  | stays | ticked | stopped => exact h
  | opened ok hstage =>
    obtain rfl : stage = .opening := hstage
    cases ok <;> exact fun _ => h rfl
  | admitted now hstage hreply =>
    obtain rfl : stage = .admitting := hstage
    exact fun _ => (admit_reply.1 hreply).held (h rfl)
  | refused | failed | completed => nofun
  | renewed now | lost now => exact hrenewed now
  | cancelled committed db' hcalling hstopped hdb =>
    rcases hdb with rfl | ⟨now, rfl⟩
    · exact h
    · exact hrenewed now
  | delivered ok result hstage =>
    obtain rfl : stage = .requesting := hstage
    exact fun _ => h rfl
  | joined report hstage =>
    obtain rfl : stage = .joining report := hstage
    exact fun _ => (h rfl).weaken

end

/-! ### Recorded for good -/

/-- The row of a delivery that succeeded, or died with its endpoint. -/
def DeliveryRow.Settled (active : String → Bool) (r : DeliveryRow) : Prop :=
  r.state = .succeeded ∨ r.state = .dead ∧ active r.endpointId = false

theorem Turn.not_settled {active : String → Bool} {p p' : Parcel}
    (hsound : Sound p) (hrow : p.row = some r) (h : r.Settled active) : ¬ Turn active p p' := by
  have hclosed : r.state.isOpen = false := by
    rcases h with h | ⟨h, -⟩ <;> rw [h] <;> rfl
  have hidle : r.state ≠ .delivering := by
    rcases h with h | ⟨h, -⟩ <;> rw [h] <;> decide
  intro hturn
  cases hturn with
  | claiming hclaiming =>
    cases hclaiming with
    | created now event endpoint hnone =>
      rw [hrow] at hnone
      cases hnone
    | claimed now ownerId generation s attempted hs hactive hopen =>
      obtain rfl := Option.mem_unique hrow hs
      rw [hclosed] at hopen
      cases hopen
  | admitted now delivery s hs hactive hr =>
    obtain rfl := Option.mem_unique hrow hs
    simp only [DeliveryRow.admissible, Bool.and_eq_true, beq_iff_eq] at hr
    exact hidle hr.1.1.2
  | renewed now ownerId claimToken s hs hr =>
    obtain rfl := Option.mem_unique hrow hs
    simp only [DeliveryRow.renewable, Bool.and_eq_true, beq_iff_eq] at hr
    exact hidle hr.1.1.2
  | completed now result s letter hs hr =>
    obtain rfl := Option.mem_unique hrow hs
    simp only [DeliveryRow.completable, Bool.and_eq_true, beq_iff_eq] at hr
    exact hidle hr.1.1.1
  | revoked now endpointId s letter hs hr =>
    obtain rfl := Option.mem_unique hrow hs
    simp [DeliveryRow.revocable, hclosed] at hr
  | replayed now s letter hs hletter hfresh hactive =>
    obtain rfl := Option.mem_unique hrow hs
    rcases h with h | ⟨-, hinactive⟩
    · exact hsound.letter_replayed hrow (by rw [h]; decide) hletter hfresh
    · rw [hactive] at hinactive
      cases hinactive

def Settled (k : String) (db : WebhookDatabase) : Prop :=
  ∃ r, db.deliveries.find? k = some r ∧ r.Settled db.endpointActive

section

variable {rt : Runtime} {db db' : WebhookDatabase} {k : String}

theorem step_settled (call : Call) (hsound : Sound (db.parcel k)) (h : Settled k db) :
    Settled k (step rt call db).2 := by
  obtain ⟨r, hr, hsettled⟩ := h
  have heffect := step_effect rt call db
  refine ⟨r, ?_, ?_⟩
  · rcases (heffect.parcels k).cases_head with heq | ⟨p, hturn, -⟩
    · exact (congrArg Parcel.row heq).symm.trans hr
    · exact absurd hturn (Turn.not_settled hsound hr hsettled)
  · rcases hsettled with hsucceeded | ⟨hdead, hinactive⟩
    · exact .inl hsucceeded
    · exact .inr ⟨hdead, heffect.kept.revoked _ (db.deliveryLinked r (Table.mem_of_find? hr))
        hinactive⟩

theorem settled_silent {later : List (Call × Reply)} (hsound : ∀ k, Sound (db.parcel k))
    (h : Settled k db) (hlater : Deliveries rt db later db') :
    Settled k db' ∧ ∀ t, (k, t) ∉ admissions later := by
  have hall := hlater.invariant_trace (P := fun later db => (∀ k, Sound (db.parcel k)) ∧
    Settled k db ∧ ∀ t, (k, t) ∉ admissions later) ?_ ⟨hsound, h, fun _ => List.not_mem_nil⟩
  · exact hall.2
  rintro later db call _ ⟨hsound, hsettled, hsilent⟩
  refine ⟨step_sound call hsound, step_settled call (hsound k) hsettled, fun t ht => ?_⟩
  rw [admissions, List.filterMap_append, List.mem_append] at ht
  rcases ht with ht | ht
  · exact hsilent t ht
  · obtain ⟨e, he, hadmission⟩ := List.mem_filterMap.1 ht
    rw [List.mem_singleton] at he
    subst he
    obtain ⟨now, delivery, heq, rfl, rfl⟩ := admission_eq_some hadmission
    obtain ⟨rfl, hyes⟩ := Prod.mk.inj heq
    have hadmitted : (step rt (now, .admitClaim delivery) db).1.trouble = none := by rw [hyes]; rfl
    obtain ⟨s, hs, hadmissible⟩ := (admit_reply.1 hadmitted).row
    obtain ⟨r, hr, hr'⟩ := hsettled
    obtain rfl := Option.mem_unique hr hs
    simp only [DeliveryRow.admissible, Bool.and_eq_true, beq_iff_eq] at hadmissible
    rcases hr' with h | ⟨h, -⟩ <;> rw [h] at hadmissible <;> cases hadmissible.1.1.2

end

/-! ### From the answer to the record -/

def Current (d : Delivery) (db : WebhookDatabase) : Prop :=
  ∃ r, db.deliveries.find? d.deliveryId = some r ∧ r.claimToken = d.claimToken ∧ Leased true d r

section

variable {rt : Runtime} {db : WebhookDatabase} {d : Delivery}

theorem Sound.claimant (hsound : Sound (db.parcel d.deliveryId))
    (hr : db.deliveries.find? d.deliveryId = some r) (hstate : r.state = .delivering)
    (howner : r.claimedBy = some d.ownerId) (htoken : r.claimToken = d.claimToken) :
    d.deliveryId ≠ "" ∧ validOwner d.ownerId = true ∧ d.claimToken ≠ 0 := by
  obtain ⟨⟨ownerId, howner', hvalid⟩, -, hpositive, -, -⟩ := hsound.leased r hr hstate
  obtain rfl : ownerId = d.ownerId := Option.some.inj (howner'.symm.trans howner)
  have hnamed := hsound.named r hr
  rw [Table.key_of_find? hr] at hnamed
  exact ⟨hnamed, hvalid, by omega⟩

theorem renew_renewable (hsound : Sound (db.parcel d.deliveryId))
    (htenant : db.tenantId ≠ "") (hr : db.deliveries.find? d.deliveryId = some r)
    (hrenewable : r.renewable now d.ownerId d.claimToken = true) :
    (step rt (now, .renewClaim d.deliveryId d.ownerId d.claimToken) db).1.trouble = none := by
  have hparts := hrenewable
  simp only [DeliveryRow.renewable, Bool.and_eq_true, beq_iff_eq] at hparts
  obtain ⟨⟨⟨⟨howner, htoken⟩, hstate⟩, -⟩, -⟩ := hparts
  obtain ⟨hnamed, hvalid, hpositive⟩ := hsound.claimant hr hstate howner htoken
  have hrequire : (db.tenantId != "" && d.deliveryId != "" && validOwner d.ownerId &&
      d.claimToken != 0) = true := by
    simp [htenant, hnamed, hvalid, hpositive]
  simp [step, outcome, perform, renewClaim, require, hrequire, hr, hrenewable, replying, Except.map,
    Reply.trouble, bind, Except.bind, pure, Except.pure]

theorem renew_current (hsound : Sound (db.parcel d.deliveryId))
    (htenant : db.tenantId ≠ "") (h : Current d db)
    (hunexpired : ∀ r, db.deliveries.find? d.deliveryId = some r →
      r.claimExpiresAt.any (now < ·) = true) :
    (step rt (now, .renewClaim d.deliveryId d.ownerId d.claimToken) db).1.trouble = none := by
  obtain ⟨r, hr, htoken, hleased⟩ := h
  refine renew_renewable hsound htenant hr ?_
  simp [DeliveryRow.renewable, hleased.owner, htoken, hleased.state, hunexpired r hr,
    hleased.started rfl]

theorem complete_current {dlqId : String} {worker : Worker} {result : HTTPResult}
    (hsound : Sound (db.parcel d.deliveryId)) (htenant : db.tenantId ≠ "") (h : Current d db)
    (hstatus : 200 ≤ result.statusCode ∧ result.statusCode < 300)
    (hunused : ∀ l ∈ db.dlq, l.dlqId ≠ dlqId) :
    (step rt (now, .completeAttempt dlqId worker d (.delivered result)) db).1 = .done ∧
      Settled d.deliveryId
        (step rt (now, .completeAttempt dlqId worker d (.delivered result)) db).2 := by
  obtain ⟨r, hr, htoken, hleased⟩ := h
  have hid : r.deliveryId = d.deliveryId := Table.key_of_find? hr
  have hresult : worker.result d (.delivered result) =
      { reportOf d with succeeded := true, statusCode := result.statusCode } := by
    simp only [Worker.result, if_pos hstatus]
  have hcompletable : r.completable (worker.result d (.delivered result)) = true := by
    simp [hresult, DeliveryRow.completable, reportOf, hleased.state, hleased.count, hleased.owner,
      htoken]
  have hshort : (worker.result d (.delivered result)).safeError.utf8ByteSize ≤ 1024 := by
    rw [hresult]
    exact Nat.zero_le _
  obtain ⟨after, hok⟩ : ∃ after, completeAttempt now dlqId
      (worker.result d (.delivered result)) db = .ok after :=
    completeAttempt_succeeds (hid ▸ hsound) htenant (Table.mem_of_find? hr)
      (by rw [hresult, hid]; rfl) hcompletable hshort hunused
  have hstep : step rt (now, .completeAttempt dlqId worker d (.delivered result)) db =
      (.done, after) := by
    simp only [step, outcome, perform, hok, finishing, Except.map]
  rw [hstep]
  refine ⟨rfl, ?_⟩
  obtain ⟨s, letter, hcompletion⟩ := completeAttempt_ok hok
  have hrow := hcompletion.row
  have hparcel := congrArg Parcel.row (hcompletion.parcels d.deliveryId)
  have hdelivery : (worker.result d (.delivered result)).deliveryId = d.deliveryId := by
    rw [hresult]
    rfl
  rw [hdelivery] at hrow
  rw [hdelivery, if_pos rfl] at hparcel
  obtain rfl := Option.mem_unique hr hrow
  have hactive : after.endpointActive r.endpointId = db.endpointActive r.endpointId := by
    simp only [DeliveryTables.endpointActive, hcompletion.endpoints]
  refine ⟨_, hparcel, ?_⟩
  simp only [DeliveryRow.Settled, DeliveryRow.complete, hresult, reportOf, hactive]
  cases db.endpointActive r.endpointId <;> simp

end

/-- Nothing comes between the answer of the receiver and its record: a renewal
still in flight is answered and finds its claim, and a `Claim` or a deletion of the
endpoint comes before the claim expires. The letter of an endpoint that is deleted meanwhile
has the fresh identifier of `newID()`. -/
def Undisturbed (w : Beside) : BesideInput → Prop
  | .own (.renewCancelled _) => False
  | .own (.renew now) => ∀ r, w.db.deliveries.find? w.attempt.delivery.deliveryId = some r →
      r.claimExpiresAt.any (now < ·) = true
  | .own (.complete _ dlqId) => ∀ l ∈ w.db.dlq, l.dlqId ≠ dlqId
  | .own _ => True
  | .other call => Alone w (.other call) ∧ (w.attempt.stage.over = false →
      ∀ r, w.db.deliveries.find? w.attempt.delivery.deliveryId = some r → r.spared call = true)

def Made (trace : List (BesideInput × Option (Call × Reply))) (e : Call × Reply) : Prop :=
  ∃ input, (input, some e) ∈ trace

inductive Recording (worker : Worker) (d : Delivery) (result : HTTPResult)
    (later : List (BesideInput × Option (Call × Reply))) (w : Beside) : Prop
  | joining (hstage : w.attempt.stage = .joining (.delivered result))
      (hrenewal : w.attempt.renewal = .idle ∨ w.attempt.renewal = .calling ∨
        w.attempt.renewal = .ended none)
      (hcurrent : Current d w.db)
  | completing (hstage : w.attempt.stage = .completing (.delivered result))
      (hrenewal : w.attempt.renewal = .ended none) (hcurrent : Current d w.db)
  | recorded (hstage : w.attempt.stage = .returned none)
      (hrenewal : w.attempt.renewal = .ended none) (hsettled : Settled d.deliveryId w.db)
      (hcall : ∃ now dlqId,
        Made later ((now, .completeAttempt dlqId worker d (.delivered result)), .done))

structure Running (worker : Worker) (d : Delivery) (w : Beside) : Prop where
  worker : w.attempt.worker = worker
  delivery : w.attempt.delivery = d
  sound : ∀ k, Sound (w.db.parcel k)
  tenant : w.db.tenantId ≠ ""

section

variable {rt : Runtime} {worker : Worker} {d : Delivery} {result : HTTPResult} {w : Beside}

theorem Attempt.advance_db (rt : Runtime) (attempt : Attempt) (event : AttemptEvent)
    (db : WebhookDatabase) : (attempt.advance rt event db).2.2 = db ∨
      ∃ call, attempt.call event = some call ∧
        (attempt.advance rt event db).2.2 = (step rt call db).2 := by
  unfold Attempt.advance
  cases hcall : attempt.call event with
  | none => exact .inl rfl
  | some call => exact .inr ⟨call, rfl, rfl⟩

theorem Running.step (h : Running worker d w) (input : BesideInput) :
    Running worker d (besideStep rt input w).2 := by
  have hcall : ∀ call, (∀ k, Sound ((Webhook.step rt call w.db).2.parcel k)) ∧
      (Webhook.step rt call w.db).2.tenantId ≠ "" :=
    fun call => ⟨step_sound call h.sound, (step_effect rt call w.db).tenant ▸ h.tenant⟩
  cases input with
  | other call => exact ⟨h.worker, h.delivery, (hcall call).1, (hcall call).2⟩
  | own event =>
    have hkept : ((w.attempt.advance rt event w.db).2.1.worker = w.attempt.worker) ∧
        (w.attempt.advance rt event w.db).2.1.delivery = w.attempt.delivery := by
      unfold Attempt.advance
      split <;> simp
    have hdb : (∀ k, Sound ((w.attempt.advance rt event w.db).2.2.parcel k)) ∧
        (w.attempt.advance rt event w.db).2.2.tenantId ≠ "" := by
      rcases w.attempt.advance_db rt event w.db with heq | ⟨call, -, heq⟩ <;> rw [heq]
      · exact ⟨h.sound, h.tenant⟩
      · exact hcall call
    exact ⟨hkept.1.trans h.worker, hkept.2.trans h.delivery, hdb.1, hdb.2⟩

theorem Current.of_other {call : Call} {db : WebhookDatabase}
    (hsound : Sound (db.parcel d.deliveryId)) (h : Current d db)
    (halone : call.2.heldClaim ≠ some (d.deliveryId, d.claimToken))
    (hspared : ∀ r, db.deliveries.find? d.deliveryId = some r → r.spared call = true) :
    Current d (Webhook.step rt call db).2 := by
  obtain ⟨r, hr, htoken, hleased⟩ := h
  exact ⟨r, unheld_keeps hsound hr hleased.state (htoken ▸ halone) (hspared r hr), htoken, hleased⟩

theorem Made.mono {e : Call × Reply}
    (h : Made later e) (last : BesideInput × Option (Call × Reply)) : Made (later ++ [last]) e := by
  obtain ⟨input, hmem⟩ := h
  exact ⟨input, List.mem_append_left _ hmem⟩

theorem Recording.step {input : BesideInput}
    (hstatus : 200 ≤ result.statusCode ∧ result.statusCode < 300) (hrunning : Running worker d w)
    (hallowed : Undisturbed w input) (h : Recording worker d result later w) :
    Recording worker d result (later ++ [(input, (besideStep rt input w).1)])
      (besideStep rt input w).2 := by
  obtain ⟨⟨worker', d', stage, renewal⟩, db⟩ := w
  obtain rfl : worker' = worker := hrunning.worker
  obtain rfl : d' = d := hrunning.delivery
  have hsound := hrunning.sound d'.deliveryId
  cases input with
  | other call =>
    cases h with
    | joining hstage hrenewal hcurrent =>
      obtain rfl : stage = .joining (.delivered result) := hstage
      exact .joining rfl hrenewal (hcurrent.of_other hsound hallowed.1 (hallowed.2 rfl))
    | completing hstage hrenewal hcurrent =>
      obtain rfl : stage = .completing (.delivered result) := hstage
      exact .completing rfl hrenewal (hcurrent.of_other hsound hallowed.1 (hallowed.2 rfl))
    | recorded hstage hrenewal hsettled hcall =>
      obtain ⟨now, dlqId, hcall⟩ := hcall
      exact .recorded hstage hrenewal (step_settled call hsound hsettled)
        ⟨now, dlqId, hcall.mono _⟩
  | own event =>
    have hlater : ∀ w', Recording worker' d' result later w' →
        Recording worker' d' result (later ++ [(.own event, (besideStep rt (.own event)
          ⟨⟨worker', d', stage, renewal⟩, db⟩).1)]) w' := by
      intro w' h'
      cases h' with
      | joining hstage hrenewal hcurrent => exact .joining hstage hrenewal hcurrent
      | completing hstage hrenewal hcurrent => exact .completing hstage hrenewal hcurrent
      | recorded hstage hrenewal hsettled hcall =>
        obtain ⟨now, dlqId, hcall⟩ := hcall
        exact .recorded hstage hrenewal hsettled ⟨now, dlqId, hcall.mono _⟩
    have hnext : (besideStep rt (.own event) ⟨⟨worker', d', stage, renewal⟩, db⟩).2 =
        ⟨(Attempt.advance rt event ⟨worker', d', stage, renewal⟩ db).2.1,
          (Attempt.advance rt event ⟨worker', d', stage, renewal⟩ db).2.2⟩ := rfl
    rw [hnext]
    -- the record itself is the only event whose call the trace has to show
    by_cases hcomplete : ∃ now dlqId, event = .complete now dlqId ∧
        stage = .completing (.delivered result)
    · obtain ⟨now, dlqId, rfl, rfl⟩ := hcomplete
      cases h with
      | joining hstage => cases hstage
      | recorded hstage => cases hstage
      | completing hstage hrenewal hcurrent =>
        have hrecord : (Webhook.step rt (now, .completeAttempt dlqId worker' d'
            (.delivered result)) db).1 = .done ∧ Settled d'.deliveryId (Webhook.step rt
              (now, .completeAttempt dlqId worker' d' (.delivered result)) db).2 :=
          complete_current hsound hrunning.tenant hcurrent hstatus hallowed
        obtain ⟨hdone, hsettled⟩ := hrecord
        refine .recorded ?_ hrenewal hsettled ⟨now, dlqId, .own (.complete now dlqId), ?_⟩
        · simp only [Attempt.advance, Attempt.call, Attempt.after, hdone, Reply.trouble]
        · simp only [besideStep, Attempt.advance, Attempt.call, hdone, List.mem_append,
            List.mem_singleton, or_true]
    refine hlater _ ?_
    refine Attempt.advance_rule rt ⟨worker', d', stage, renewal⟩ db event
      fun attempt' db' hmove => ?_
    have hrenewed : ∀ now, Current d' db → Current d' (Webhook.step rt
        (now, .renewClaim d'.deliveryId d'.ownerId d'.claimToken) db).2 := by
      rintro now ⟨r, hr, htoken, hleased⟩
      obtain ⟨r', hr', hsame⟩ : ∃ r', (Webhook.step rt (now, .renewClaim d'.deliveryId d'.ownerId
          d'.claimToken) db).2.deliveries.find? d'.deliveryId = some r' ∧ SameClaim r r' :=
        step_sameClaim hr rfl (by rintro ⟨⟩)
      exact ⟨r', hr', hsame.token.trans htoken, hleased.of_sameClaim hsame⟩
    cases h with
    | joining hstage hrenewal hcurrent =>
      obtain rfl : stage = .joining (.delivered result) := hstage
      cases hmove with
      | stays => exact .joining rfl hrenewal hcurrent
      | opened ok h | admitted now h | refused now e h | delivered ok result h => cases h
      | completed now dlqId report h => cases h
      | cancelled committed db' h hstopped hdb => exact hallowed.elim
      | ticked h => exact .joining rfl (.inr (.inl rfl)) hcurrent
      | renewed now h hreply => exact .joining rfl (.inl rfl) (hrenewed now hcurrent)
      | lost now e h hreply =>
        cases hreply.symm.trans (renew_current hsound hrunning.tenant hcurrent hallowed)
      | stopped h hstopped => exact .joining rfl (.inr (.inr rfl)) hcurrent
      | joined report h hended =>
        cases h
        exact .completing rfl hended hcurrent
      | failed report e h hended =>
        obtain rfl : renewal = .ended (some e) := hended
        rcases hrenewal with h | h | h <;> cases h
    | completing hstage hrenewal hcurrent =>
      obtain rfl : stage = .completing (.delivered result) := hstage
      obtain rfl : renewal = .ended none := hrenewal
      cases hmove with
      | stays => exact .completing rfl rfl hcurrent
      | completed now dlqId report h =>
        cases h
        exact absurd ⟨now, dlqId, rfl, rfl⟩ hcomplete
      | _ => contradiction
    | recorded hstage hrenewal hsettled hcall =>
      obtain rfl : stage = .returned none := hstage
      obtain rfl : renewal = .ended none := hrenewal
      cases hmove with
      | stays => exact .recorded rfl rfl hsettled hcall
      | _ => contradiction

/-- The goroutine of the renewals runs as long as the request. -/
def Attempt.Renewing (attempt : Attempt) : Prop :=
  attempt.stage = .requesting → attempt.renewal ≠ .absent

theorem Attempt.Renewing.of_advance {attempt : Attempt} (h : attempt.Renewing)
    (event : AttemptEvent) (db : WebhookDatabase) : (attempt.advance rt event db).2.1.Renewing := by
  refine Attempt.advance_rule rt attempt db event fun attempt' db' hmove => ?_
  cases hmove with
  | stays => exact h
  | opened ok => cases ok <;> nofun
  | admitted | ticked | renewed | lost | cancelled | stopped => exact fun _ => nofun
  | refused | delivered | joined | failed | completed => nofun

/-- The last steps of an attempt whose request has returned. -/
def lastSteps (t now : Time) (dlqId : String) : List BesideInput :=
  [.own (.renew t), .own .renewStopped, .own .joined, .own (.complete now dlqId)]

theorem Recording.lastSteps_over {t : Time} {dlqId : String} (hrunning : Running worker d w)
    (h : Recording worker d result later w)
    (hallowed : AllAllowed (besideStep rt) Undisturbed (lastSteps t now dlqId) w) :
    (execute (besideStep rt) (lastSteps t now dlqId) w).2.attempt.stage.over = true := by
  obtain ⟨⟨worker', d', stage, renewal⟩, db⟩ := w
  obtain rfl : d' = d := hrunning.delivery
  have hover : ∀ e, (Stage.returned e).over = true := fun _ => rfl
  cases h with
  | joining hstage hrenewal hcurrent =>
    obtain rfl : stage = .joining (.delivered result) := hstage
    have hfine : (Webhook.step rt (t, .renewClaim d'.deliveryId d'.ownerId d'.claimToken)
        db).1.trouble = none :=
      renew_current (hrunning.sound _) hrunning.tenant hcurrent hallowed.1
    rcases hrenewal with h | h | h <;> obtain rfl := h <;>
      simp [lastSteps, execute, besideStep, Attempt.advance, Attempt.call, Attempt.after,
        Attempt.stopped, hfine, hover]
  | completing hstage hrenewal hcurrent =>
    obtain rfl : stage = .completing (.delivered result) := hstage
    obtain rfl : renewal = .ended none := hrenewal
    simp [lastSteps, execute, besideStep, Attempt.advance, Attempt.call, Attempt.after, hover]
  | recorded hstage hrenewal hsettled hcall =>
    obtain rfl : stage = .returned none := hstage
    obtain rfl : renewal = .ended none := hrenewal
    simp [lastSteps, execute, besideStep, Attempt.advance, Attempt.call, Attempt.after, hover]

end

structure DeliveryRecorded (rt : Runtime) (worker : Worker) (d : Delivery) (result : HTTPResult)
    (later : List (BesideInput × Option (Call × Reply))) (w : Beside) : Prop where
  noError : ∀ e, w.attempt.stage ≠ .returned (some e)
  success : (worker.result d (.delivered result)).succeeded = true
  /-- once it has returned, the success was recorded and the delivery is not sent again -/
  recorded : w.attempt.stage = .returned none →
    (∃ now dlqId, Made later ((now, .completeAttempt dlqId worker d (.delivered result)), .done)) ∧
      Settled d.deliveryId w.db ∧ ∀ next db, Deliveries rt w.db next db →
        Settled d.deliveryId db ∧ ∀ t, (d.deliveryId, t) ∉ admissions next
  /-- until then its remaining steps lead there -/
  goesOn : ∀ t now dlqId, AllAllowed (besideStep rt) Undisturbed (lastSteps t now dlqId) w →
    (execute (besideStep rt) (lastSteps t now dlqId) w).2.attempt.stage = .returned none

theorem Recording.noError {result : HTTPResult}
    (h : Recording worker d result later w) (e : Err) : w.attempt.stage ≠ .returned (some e) := by
  cases h with
  | joining hstage | completing hstage | recorded hstage => rw [hstage]; nofun

theorem run_holds {rt : Runtime} {db₀ : WebhookDatabase}
    {trace : List (BesideInput × Option (Call × Reply))}
    (hsound : ∀ k, Sound (db₀.parcel k)) (htenant : db₀.tenantId ≠ "")
    (hheld : Held false d (db₀.parcel d.deliveryId))
    (hrun : Run (besideStep rt) Alone ⟨{ worker := worker, delivery := d }, db₀⟩ trace w) :
    Running worker d w ∧ w.attempt.Holds w.db ∧ w.attempt.Renewing := by
  refine hrun.invariant (P := fun w => Running worker d w ∧ w.attempt.Holds w.db ∧
    w.attempt.Renewing) ?_ ⟨⟨rfl, rfl, hsound, htenant⟩, fun _ => hheld, nofun⟩
  intro w input halone ⟨hrunning, hholds, hrenewing⟩
  refine ⟨hrunning.step input, ?_⟩
  cases input with
  | own event => exact ⟨hholds.of_advance hrunning.sound event, hrenewing.of_advance event w.db⟩
  | other call =>
    exact ⟨fun hover => step_held (hrunning.sound _)
      (fun h => halone (Operation.heldClaim_of_reportedClaim h)) (hholds hover), hrenewing⟩

theorem delivered_webhook_recorded (rt : Runtime) {tenantId ownerId : String}
    {before : List (Call × Reply)} {db db₀ : WebhookDatabase} {now again : Time} {limit : Nat}
    {deliveries : List Delivery}
    {trace later : List (BesideInput × Option (Call × Reply))} {w' : Beside} {result : HTTPResult}
    (hreach : Deliveries rt (newTenant tenantId) before db)
    (hclaim : claim now again ownerId limit db = .ok (deliveries, db₀)) (hd : d ∈ deliveries)
    (hrun : Run (besideStep rt) Alone ⟨{ worker := worker, delivery := d }, db₀⟩ trace w)
    (hstage : w.attempt.stage = .requesting)
    (hstatus : 200 ≤ result.statusCode ∧ result.statusCode < 300)
    (htoken : (w.db.deliveries.find? d.deliveryId).map DeliveryRow.claimToken = some d.claimToken)
    (hrenewal : ∀ e, w.attempt.renewal ≠ .ended e)
    (hlater : Run (besideStep rt) Undisturbed
      (besideStep rt (.own (.delivered true result)) w).2 later w') :
    DeliveryRecorded rt worker d result later w' := by
  have heffect := claim_effect hclaim
  have hsound : ∀ k, Sound (db₀.parcel k) := fun k =>
    (heffect.parcels k).invariant (fun _ _ hturn h => h.of_turn hturn) (run_sound hreach k)
  have htenant : db₀.tenantId ≠ "" := by
    rw [heffect.tenant]
    simp only [claim, bind_ok, require_ok, Bool.and_eq_true] at hclaim
    obtain ⟨-, ⟨⟨⟨htenant, -⟩, -⟩, -⟩, -⟩ := hclaim
    simpa using htenant
  obtain ⟨hrunning, hholds, hrenewing⟩ :=
    run_holds hsound htenant (claim_held hclaim hd) hrun
  obtain ⟨⟨worker', d', stage, renewal⟩, dbw⟩ := w
  obtain rfl : worker' = worker := hrunning.worker
  obtain rfl : d' = d := hrunning.delivery
  obtain rfl : stage = .requesting := hstage
  -- the claim is current when the request returns, and nothing has ended the renewals
  have hcurrent : Current d' dbw := by
    obtain ⟨r, hr, -, hheld⟩ := hholds rfl
    have hfind : dbw.deliveries.find? d'.deliveryId = some r := hr
    rw [hfind, Option.map_some, Option.some.injEq] at htoken
    exact ⟨r, hr, htoken, hheld htoken⟩
  have hstart : Recording worker' d' result [] (besideStep rt (.own (.delivered true result))
      ⟨⟨worker', d', .requesting, renewal⟩, dbw⟩).2 := by
    refine .joining rfl ?_ hcurrent
    cases renewal with
    | absent => exact absurd rfl (hrenewing rfl)
    | idle => exact .inl rfl
    | calling => exact .inr (.inl rfl)
    | ended e => exact absurd rfl (hrenewal e)
  have hstep : ∀ later w input, Undisturbed w input →
      Running worker' d' w ∧ Recording worker' d' result later w →
      Running worker' d' (besideStep rt input w).2 ∧ Recording worker' d' result
        (later ++ [(input, (besideStep rt input w).1)]) (besideStep rt input w).2 :=
    fun later w input hallowed h => ⟨h.1.step input, h.2.step hstatus h.1 hallowed⟩
  obtain ⟨hrunning', hrecording⟩ := hlater.invariant_trace
    (P := fun later w => Running worker' d' w ∧ Recording worker' d' result later w) hstep
    ⟨hrunning.step _, hstart⟩
  refine ⟨hrecording.noError, ?_, fun hreturned => ?_, fun t now dlqId hallowed => ?_⟩
  · simp only [Worker.result, if_pos hstatus]
  · cases hrecording with
    | joining h | completing h => rw [h] at hreturned; cases hreturned
    | recorded h hended hsettled hcall =>
      exact ⟨hcall, hsettled, fun next db hnext => settled_silent hrunning'.sound hsettled hnext⟩
  · have hover := hrecording.lastSteps_over hrunning' hallowed
    have hall := (hlater.trans (Run.of_inputs _ hallowed)).invariant_trace
      (P := fun later w => Running worker' d' w ∧ Recording worker' d' result later w) hstep
      ⟨hrunning.step _, hstart⟩
    cases hall.2 with
    | joining h | completing h => rw [h] at hover; cases hover
    | recorded h => exact h

def hookPublished : List Call := hookClaimed.take 2

def hookReady : WebhookDatabase := (execute (step hookRuntime) hookPublished (newTenant "tenant")).2

def hookGiven : WebhookDatabase := (step hookRuntime (2, .claim 2 "worker" 8) hookReady).2

/-- The request is on the wire and a renewal has just begun. -/
def hookRenewing : List BesideInput := [.own (.opened true), .own (.admitClaim 3), .own .tick]

def hookAttempt : Beside := ⟨{ worker := hookWorker 8, delivery := hookDelivery 1 1 }, hookGiven⟩

def hookAnswered : Beside :=
  (besideStep hookRuntime (.own (.delivered true ⟨200, 0⟩))
    (execute (besideStep hookRuntime) hookRenewing hookAttempt).2).2

theorem hookReady_claim : claim 2 2 "worker" 8 hookReady = .ok ([hookDelivery 1 1], hookGiven) := by
  decide +kernel

instance (w : Beside) (input : BesideInput) : Decidable (Undisturbed w input) := by
  cases input with
  | own event =>
    cases event with
    | renewCancelled committed => exact .isFalse id
    | renew now => unfold Undisturbed; infer_instance
    | complete now dlqId => unfold Undisturbed; infer_instance
    | _ => exact .isTrue trivial
  | other call => unfold Undisturbed Alone; infer_instance

/-- The renewal finds its claim, and the success is recorded. -/
theorem hookAnswered_recorded :
    DeliveryRecorded hookRuntime (hookWorker 8) (hookDelivery 1 1) ⟨200, 0⟩
      (execute (besideStep hookRuntime) (lastSteps 4 5 "letter") hookAnswered).1
      (execute (besideStep hookRuntime) (lastSteps 4 5 "letter") hookAnswered).2 := by
  have hreach : Deliveries hookRuntime (newTenant "tenant") _ hookReady :=
    Run.of_inputs hookPublished (by decide +kernel)
  have hrun : Run (besideStep hookRuntime) Alone hookAttempt _ _ :=
    Run.of_inputs hookRenewing ⟨trivial, trivial, trivial, trivial⟩
  have hlater : Run (besideStep hookRuntime) Undisturbed hookAnswered _ _ :=
    Run.of_inputs (lastSteps 4 5 "letter") (by decide +kernel)
  have hworld : (execute (besideStep hookRuntime) hookRenewing hookAttempt).2.attempt.stage =
        .requesting ∧
      (execute (besideStep hookRuntime) hookRenewing hookAttempt).2.attempt.renewal = .calling ∧
      ((execute (besideStep hookRuntime) hookRenewing hookAttempt).2.db.deliveries.find?
        "hook:event").map DeliveryRow.claimToken = some 1 := by
    decide +kernel
  exact delivered_webhook_recorded hookRuntime hreach hookReady_claim List.mem_cons_self hrun
    hworld.1 (by decide) hworld.2.2 (fun e h => by rw [hworld.2.1] at h; cases h) hlater

/-- The renewal returns the error of the context that was cancelled to stop it.
The attempt returns that error, the success is not recorded, and once the claim
has expired the delivery is sent again. -/
theorem hookCancelled_sent_again :
    let w := (execute (besideStep hookRuntime) [.own (.renewCancelled none), .own .joined]
      hookAnswered).2
    (hookAnswered.db.deliveries.find? "hook:event").map DeliveryRow.claimToken = some 1 ∧
      w.attempt.stage = .returned (some errContextCanceled) ∧
      (w.db.deliveries.find? "hook:event").map DeliveryRow.state = some .delivering ∧
      admissions
        (execute (step hookRuntime) [(2 + claimInterval, .claim (2 + claimInterval) "worker" 8),
        (3 + claimInterval, .admitClaim (hookDelivery 2 2))] w.db).1 = [("hook:event", 2)] := by
  decide +kernel

end MessagingGateway.Webhook
