import MessagingGateway.Pairing.Moves

/-!
# Ownership of a pairing attempt

A connection that is being paired names the attempt of the last `BeginPairing`
that succeeded on it, and the row it had before the first one: an attempt that
takes over a stale one keeps the prior state. So an attempt that has been taken
over can neither commit nor restore, and giving up returns the connection to where
the first attempt found it.
-/

namespace MessagingGateway.Pairing

open Relational Store

def recorded (connectionId : String) (trace : List (Call × Reply)) : Option String :=
  (trace.filterMap fun observation => begunBy connectionId observation.1.2 observation.2).getLast?

theorem recorded_snoc (connectionId : String) (trace : List (Call × Reply)) (e : Call × Reply) :
    recorded connectionId (trace ++ [e]) =
      (begunBy connectionId e.1.2 e.2).or (recorded connectionId trace) := by
  unfold recorded
  rw [List.filterMap_append, List.filterMap_cons, List.filterMap_nil]
  cases begunBy connectionId e.1.2 e.2 with
  | none => simp
  | some attemptId => simp

/-! ### The row behind an attempt -/

variable {c attemptId : String} {p : Phone}

theorem clear_of_checked (hchecked : rowChecked p.1 p.2 = true)
    (hstate : p.1.state ≠ .pairing) : p.2.clear = p.2 := by
  simp only [rowChecked, pairingMetadataRequired, if_neg hstate, Bool.and_eq_true,
    Option.isNone_iff_eq_none] at hchecked
  obtain ⟨⟨-, ⟨hattempt, hprior⟩, hstarted⟩, -⟩ := hchecked
  simp only [PairingColumns.clear, ← hattempt, ← hprior, ← hstarted]

theorem setState_setState {r : ConnectionRow} (h : r.state ≠ .suspended)
    (state state' : ConnectionState) : setState (setState r state) state' = setState r state' := by
  have hnone : r.tenantSuspendPriorState = none := r.suspensionState.resolve_right h
  simp [setState, hnone]

theorem setState_self {r : ConnectionRow} (h : r.state ≠ .suspended) : setState r r.state = r := by
  have hnone : r.tenantSuspendPriorState = none := r.suspensionState.resolve_right h
  unfold setState
  rw [dif_pos hnone]

theorem restoredPhone_begunPhone (now : Time) (attemptId : String)
    (hchecked : rowChecked p.1 p.2 = true) (hstate : pairable p.1.state = true) :
    restoredPhone (begunPhone now attemptId p) = p := by
  have hpairing : p.1.state ≠ .pairing := fun h => by rw [h] at hstate; exact absurd hstate nofun
  have hsuspended : p.1.state ≠ .suspended := fun h => by
    rw [h] at hstate
    exact absurd hstate nofun
  have hclear := clear_of_checked hchecked hpairing
  refine Prod.ext ?_ hclear
  simp only [restoredPhone, restoredRow, begunPhone, priorState, if_neg hpairing, Option.getD_some]
  rw [setState_setState hsuspended, setState_self hsuspended]

theorem restoredPhone_takeover (now : Time) (attemptId : String)
    (hpairing : p.1.state = .pairing) (hprior : p.2.pairingPriorState.any pairable = true) :
    restoredPhone (begunPhone now attemptId p) = restoredPhone p := by
  obtain ⟨prior, hprior, -⟩ := (Option.any_eq_true _ _).1 hprior
  refine Prod.ext ?_ rfl
  simp only [restoredPhone, restoredRow, begunPhone, priorState, if_pos hpairing, hprior,
    Option.getD_some]
  exact setState_setState (by rw [hpairing]; decide) _ _

theorem Turn.pairing {operation : Operation} {status status' : TenantStatus}
    {begun : Option String} {p : Option Phone} {q : Phone}
    (h : Turn c operation status status' begun p (some q)) (hq : q.1.state = .pairing)
    (hchecked : ∀ p', p = some p' → rowChecked p'.1 p'.2 = true) :
    (∃ now attemptId p', p = some p' ∧ begun = some attemptId ∧ q = begunPhone now attemptId p' ∧
        (pairable p'.1.state = true ∨
          p'.1.state = .pairing ∧ p'.2.pairingPriorState.any pairable = true)) ∨
      begun = none ∧ p = some q := by
  generalize hnext : some q = q' at h
  cases h with
  | stay =>
    cases hnext
    exact .inr ⟨rfl, rfl⟩
  | absentSuspended | absentResumed => cases hnext
  | created record _ hstate | overwritten _ _ hstate =>
    cases hnext
    exact absurd hq hstate
  | begun now attemptId ttl hstate =>
    cases hnext
    exact .inl ⟨now, attemptId, _, rfl, rfl, rfl, hstate⟩
  | @restored _ _ p _ hstate hprior =>
    cases hnext
    obtain ⟨prior, hprior, hpairable⟩ := (Option.any_eq_true _ _).1 hprior
    rw [restoredPhone, restoredRow, hprior, Option.getD_some,
      setState_of_pairing (by rw [hstate]; decide)] at hq
    rw [hq] at hpairable
    cases hpairable
  | @committed _ _ _ fingerprint p hstate =>
    cases hnext
    rw [committedPhone, setState_of_pairing (by rw [hstate]; decide)] at hq
    cases hq
  | quarantined =>
    cases hnext
    cases hq
  | @marked _ _ p eventId r _ hstate hmark =>
    cases hnext
    obtain ⟨_, rfl⟩ := ConnectionRow.requireReauthorization_ok hmark
    cases hq
  | @suspended p hstate =>
    cases hnext
    simp only [suspendedPhone] at hq
    split at hq
    · cases hq
    · exact absurd hq hstate
  | resumed p =>
    cases hnext
    -- the schema does not let a suspended row remember that it was pairing
    have hcheck := hchecked p rfl
    simp only [rowChecked, suspendPriorState, Bool.and_eq_true, bne_iff_ne] at hcheck
    simp only [resumedPhone] at hq
    split at hq
    · next hresumed =>
      obtain ⟨prior, hprior⟩ := Option.isSome_iff_exists.1 (Bool.and_eq_true_iff.1 hresumed).2
      have hresume : p.1.resume.state = p.1.tenantSuspendPriorState.getD p.1.state := rfl
      rw [hresume, hprior, Option.getD_some] at hq
      rw [hprior, hq] at hcheck
      exact absurd rfl hcheck.2
    · next hresumed =>
      refine .inr ⟨rfl, ?_⟩
      rw [resumedPhone, if_neg hresumed]

theorem Turn.of_begun {operation : Operation} {status status' : TenantStatus} {p q : Option Phone}
    (h : Turn c operation status status' (some attemptId) p q) :
    ∃ now p', p = some p' ∧ q = some (begunPhone now attemptId p') ∧
      (pairable p'.1.state = true ∨
        p'.1.state = .pairing ∧ p'.2.pairingPriorState.any pairable = true) := by
  cases h with
  | begun now _ _ hstate => exact ⟨now, _, rfl, rfl, hstate⟩

/-! ### Runs -/

abbrev Pairings (rt : Runtime) : PhoneDatabase → List (Call × Reply) → PhoneDatabase → Prop :=
  Run (step rt) fun _ _ => True

section

variable {rt : Runtime} {tenantId : String} {trace : List (Call × Reply)}
  {db db' db₀ : PhoneDatabase}

def Recorded (trace : List (Call × Reply)) (db : PhoneDatabase) : Prop :=
  ∀ c p, db.phone c = some p → p.1.state = .pairing →
    p.2.pairingAttemptId = recorded c trace

theorem step_recorded (call : Call) (h : Recorded trace db) :
    Recorded (trace ++ [(call, (step rt call db).1)]) (step rt call db).2 := by
  intro c q hq hstate
  have hturn := step_turn rt call db c
  rw [hq] at hturn
  rw [recorded_snoc]
  rcases hturn.pairing hstate fun p' hp' => phone_checked hp' with
    ⟨now, attemptId, p', -, hbegun, rfl, -⟩ | ⟨hbegun, hp⟩
  · rw [hbegun]
    rfl
  · rw [hbegun, Option.none_or]
    exact h c q hp hstate

theorem run_recorded (hrun : Pairings rt (newTenant tenantId) trace db) : Recorded trace db :=
  Run.invariant_trace (P := Recorded) (fun _ _ call _ h => step_recorded call h) hrun
    fun c p hp _ => by cases hp

/-! ### Chains of takeovers -/

/-- `Chain rt c db₀ db`: an attempt begun in `db₀`, where the connection was not
being paired, and any calls after it that leave the connection paired by some
attempt lead to `db`. -/
inductive Chain (rt : Runtime) (c : String) (db₀ : PhoneDatabase) : PhoneDatabase → Prop
  | first (call : Call) :
      (∀ p, db₀.phone c = some p → p.1.state ≠ .pairing) →
      (begunBy c call.2 (step rt call db₀).1).isSome = true →
      Chain rt c db₀ (step rt call db₀).2
  | next {db : PhoneDatabase} (call : Call) :
      Chain rt c db₀ db →
      (∃ p, (step rt call db).2.phone c = some p ∧ p.1.state = .pairing) →
      Chain rt c db₀ (step rt call db).2

theorem Chain.restores (h : Chain rt c db₀ db) :
    ∃ p, db.phone c = some p ∧ p.1.state = .pairing ∧ db₀.phone c = some (restoredPhone p) := by
  induction h with
  | first call hnot hbegun =>
    have hturn := step_turn rt call db₀ c
    obtain ⟨attemptId, hattempt⟩ := Option.isSome_iff_exists.1 hbegun
    rw [hattempt] at hturn
    obtain ⟨now, p, hbefore, hafter, hstate⟩ := hturn.of_begun
    have hpairable := hstate.resolve_right fun h => hnot p hbefore h.1
    have hsuspended : p.1.state ≠ .suspended := fun h => by
      rw [h] at hpairable
      exact absurd hpairable nofun
    refine ⟨_, hafter, setState_of_pairing hsuspended _, ?_⟩
    rw [hbefore, restoredPhone_begunPhone now attemptId (phone_checked hbefore) hpairable]
  | @next db call _ hpairing ih =>
    obtain ⟨p, hphone, hstate, hfirst⟩ := ih
    obtain ⟨q, hq, hqstate⟩ := hpairing
    have hturn := step_turn rt call db c
    rw [hq, hphone] at hturn
    refine ⟨q, hq, hqstate, ?_⟩
    rcases hturn.pairing hqstate fun p' hp' => by cases hp'; exact phone_checked hphone with
      ⟨now, attemptId, p', hp', -, rfl, hbegun⟩ | ⟨-, hsame⟩
    · cases hp'
      rcases hbegun with hpairable | ⟨-, hprior⟩
      · rw [hstate] at hpairable
        exact absurd hpairable nofun
      · rw [hfirst, restoredPhone_takeover now attemptId hstate hprior]
    · cases hsame
      exact hfirst

theorem givesUp_restores {call : Call} {q : Phone} (hcall : call.2.givesUp = true)
    (hphone : db.phone c = some p) (hstate : p.1.state = .pairing)
    (hafter : (step rt call db).2.phone c = some q) (hq : q.1.state ≠ .pairing) :
    q = restoredPhone p := by
  obtain ⟨now, operation⟩ := call
  revert hafter
  refine step_rule rt (now, operation) db (fun _ _ hafter => ?_) fun reply db' hperform hafter => ?_
  · obtain rfl := Option.mem_unique hphone hafter
    exact absurd hstate hq
  · cases operation with
    | restorePairing connectionId attemptId =>
      obtain ⟨state, hok, -⟩ := replying_ok hperform
      obtain ⟨-, p', hp', -, -, -, hphones⟩ := restorePairing_ok hok
      rw [hphones c] at hafter
      split at hafter
      · next hc =>
        rw [hc, hphone] at hp'
        cases hp'
        exact (Option.some.inj hafter).symm
      · rw [hphone] at hafter
        cases hafter
        exact absurd hstate hq
    | reconcileStalePairings ttl =>
      obtain ⟨count, hok, -⟩ := replying_ok hperform
      rw [(reconcileStalePairings_ok hok).2 c, hphone, Option.map_some, Option.some.injEq] at hafter
      split at hafter
      · exact hafter.symm
      · rw [← hafter] at hq
        exact absurd hstate hq
    | _ => exact absurd hcall nofun

/-! ### Giving up -/

/-- The row an attempt would be given up to passes the checks of the schema. -/
def Restorable (db : PhoneDatabase) : Prop :=
  ∀ c p, db.phone c = some p → p.1.state = .pairing →
    rowChecked (restoredPhone p).1 (restoredPhone p).2 = true

theorem step_restorable (call : Call) (h : Restorable db) : Restorable (step rt call db).2 := by
  intro c q hq hstate
  have hturn := step_turn rt call db c
  rw [hq] at hturn
  rcases hturn.pairing hstate fun p' hp' => phone_checked hp' with
    ⟨now, attemptId, p, hp, -, rfl, hpairable | ⟨hpairing, hprior⟩⟩ | ⟨-, hp⟩
  · rw [restoredPhone_begunPhone now attemptId (phone_checked hp) hpairable]
    exact phone_checked hp
  · rw [restoredPhone_takeover now attemptId hpairing hprior]
    exact h c p hp hpairing
  · exact h c q hp hstate

theorem run_restorable (hrun : Pairings rt (newTenant tenantId) trace db) : Restorable db :=
  Run.invariant (P := Restorable) (fun _ call _ h => step_restorable call h) hrun
    fun c p hp _ => by cases hp

theorem Chain.restorable (h : Chain rt c db₀ db) (hfirst : Restorable db₀) : Restorable db := by
  induction h with
  | first call => exact step_restorable call hfirst
  | next call _ _ ih => exact step_restorable call ih

theorem reconcileStalePairings_succeeds (now : Time) {ttl : Nat} (h : Restorable db)
    (hinput : (db.gateway.tenantId != "" && validAttemptTTL ttl) = true) :
    ∃ count db', reconcileStalePairings now ttl db = .ok (count, db') := by
  have hupdate : ∃ db', db.update "reconcile stale pairings" (reconcileStalePairingsSQL now ttl) =
      .ok db' := by
    refine update_succeeds _ (fun c p hp hselects => h c p hp ?_) (unique_of_kept fun _ _ => rfl)
    simp only [reconcileStalePairingsSQL, restoring, stale, Bool.and_eq_true, beq_iff_eq]
      at hselects
    exact hselects.1.1
  obtain ⟨db', hupdate⟩ := hupdate
  refine ⟨db.affected (reconcileStalePairingsSQL now ttl), db', ?_⟩
  simp only [reconcileStalePairings, bind_ok, require_ok, pure_pair]
  exact ⟨(), hinput, db', hupdate, trivial, rfl⟩

theorem restorePairing_succeeds
    (hinput : (db.gateway.tenantId != "" && c != "" && validPairingID attemptId) = true)
    (hphone : db.phone c = some p) (hstate : p.1.state = .pairing)
    (hattempt : p.2.pairingAttemptId = some attemptId)
    (hfirst : db₀.phone c = some (restoredPhone p)) :
    ∃ state db', restorePairing c attemptId db = .ok (state, db') := by
  have hmetadata := phone_checked hphone
  simp only [rowChecked, pairingMetadataRequired, if_pos hstate, Bool.and_eq_true] at hmetadata
  have hselects : (restorePairingSQL c attemptId).selects p.1 p.2 = true := by
    simp [restorePairingSQL, restoring, phone_connectionId hphone, hstate, hattempt,
      hmetadata.1.2.1.2]
  have hupdate : ∃ db', db.update "restore pairing" (restorePairingSQL c attemptId) = .ok db' := by
    refine update_succeeds _ (fun c' p' hp' hselects' => ?_) (unique_of_kept fun _ _ => rfl)
    have hc : c' = c := by
      simp only [restorePairingSQL, restoring, Bool.and_eq_true, beq_iff_eq] at hselects'
      exact (phone_connectionId hp').symm.trans hselects'.1.1.1
    rw [hc, hphone, Option.some.injEq] at hp'
    exact hp' ▸ phone_checked hfirst
  obtain ⟨db', hupdate⟩ := hupdate
  refine ⟨(restoredRow p.1 p.2).state, db', ?_⟩
  simp only [restorePairing, bind_ok, require_ok, orFail_ok, pure_pair]
  exact ⟨(), hinput, p, Option.filter_eq_some_iff.2 ⟨hphone, hselects⟩, db', hupdate, rfl, rfl⟩

/-! ### The guarantee -/

/-- What attempts can do in a state that `trace` has led to. -/
structure AttemptsOwned (rt : Runtime) (trace : List (Call × Reply)) (db : PhoneDatabase) :
    Prop where
  /-- a commit that succeeds is of the attempt recorded last -/
  commits : ∀ now c attemptId envelope fingerprint,
    (step rt (now, .commitPairedSession c attemptId envelope fingerprint) db).1 = .done →
    recorded c trace = some attemptId
  /-- so is a restore -/
  restores : ∀ now c attemptId state,
    (step rt (now, .restorePairing c attemptId) db).1 = .restored state →
    recorded c trace = some attemptId
  /-- the commit of an attempt that another has superseded fails, and neither the
  connection nor the session it wrote first has changed -/
  superseded : ∀ now c attemptId envelope fingerprint, recorded c trace ≠ some attemptId →
    ∃ e, step rt (now, .commitPairedSession c attemptId envelope fingerprint) db = (.failed e, db)
  /-- giving up after a chain of takeovers returns the connection to the row it had
  before the first attempt of the chain -/
  givenUp : ∀ c db' call q, Chain rt c db db' → call.2.givesUp = true →
    (step rt call db').2.phone c = some q → q.1.state ≠ .pairing → db.phone c = some q
  /-- the attempt that holds the connection then can give it up, and does return it -/
  canGiveUp : ∀ now c db', Chain rt c db db' → db'.gateway.tenantId ≠ "" → c ≠ "" →
    ∃ p attemptId state, db'.phone c = some p ∧ p.2.pairingAttemptId = some attemptId ∧
      (step rt (now, .restorePairing c attemptId) db').1 = .restored state ∧
      (step rt (now, .restorePairing c attemptId) db').2.phone c = db.phone c
  /-- and so does a reconcile that finds the attempt stale -/
  reconciles : ∀ now ttl c db' p, Chain rt c db db' → db'.phone c = some p →
    stale now ttl p.1 p.2 = true → db'.gateway.tenantId ≠ "" → validAttemptTTL ttl = true →
    (step rt (now, .reconcileStalePairings ttl) db').2.phone c = db.phone c

theorem commit_recorded {now : Time} {envelope : SessionEnvelope}
    {fingerprint : Bytes} {reply : Reply} (h : Recorded trace db)
    (hok : perform rt now (.commitPairedSession c attemptId envelope fingerprint) db =
      .ok (reply, db')) : recorded c trace = some attemptId := by
  obtain ⟨-, p, hphone, hstate, hattempt, -⟩ := commitPairedSession_ok (finishing_ok hok).1
  rw [← h c p hphone hstate, hattempt]

/-- An attempt owns its connection until another takes it over: in any order of
calls by any number of replicas, only the attempt recorded last commits or restores,
a superseded commit changes nothing, and giving up after any chain of takeovers
restores what the first attempt found. -/
theorem pairing_attempts_owned (rt : Runtime) {tenantId : String} {trace : List (Call × Reply)}
    {db : PhoneDatabase} (hrun : Pairings rt (newTenant tenantId) trace db) :
    AttemptsOwned rt trace db := by
  have hrecorded := run_recorded hrun
  refine ⟨?_, ?_, ?_, ?_, ?_, ?_⟩
  · intro now c attemptId envelope fingerprint
    exact step_rule rt (now, .commitPairedSession c attemptId envelope fingerprint) db nofun
      fun _ _ hperform _ => commit_recorded hrecorded hperform
  · intro now c attemptId state
    refine step_rule rt (now, .restorePairing c attemptId) db nofun fun _ _ hperform _ => ?_
    obtain ⟨_, hok, -⟩ := replying_ok hperform
    obtain ⟨-, p, hphone, hstate, hattempt, -⟩ := restorePairing_ok hok
    rw [← hrecorded c p hphone hstate, hattempt]
  · intro now c attemptId envelope fingerprint hother
    exact step_rule rt (now, .commitPairedSession c attemptId envelope fingerprint) db
      (fun e _ => ⟨e, rfl⟩) fun _ _ hperform => absurd (commit_recorded hrecorded hperform) hother
  · intro c db' call q hchain hcall hafter hq
    obtain ⟨p, hphone, hstate, hfirst⟩ := hchain.restores
    rw [givesUp_restores hcall hphone hstate hafter hq, hfirst]
  · intro now c db' hchain htenant hc
    obtain ⟨p, hphone, hstate, hfirst⟩ := hchain.restores
    have hmetadata := phone_checked hphone
    simp only [rowChecked, pairingMetadataRequired, if_pos hstate, Bool.and_eq_true] at hmetadata
    obtain ⟨attemptId, hattempt, hvalid⟩ := (Option.any_eq_true _ _).1 hmetadata.1.2.1.1
    obtain ⟨state, db'', hok⟩ := restorePairing_succeeds
      (by simp [htenant, hc, hvalid]) hphone hstate hattempt hfirst
    obtain ⟨-, p', hp', -, -, -, hphones⟩ := restorePairing_ok hok
    obtain rfl := Option.mem_unique hphone hp'
    have hstep : step rt (now, .restorePairing c attemptId) db' = (.restored state, db'') := by
      simp [step, outcome, perform, replying, hok, Except.map]
    refine ⟨p, attemptId, state, hphone, hattempt, by rw [hstep], ?_⟩
    rw [hstep, hphones c, if_pos rfl, hfirst]
  · intro now ttl c db' p hchain hphone hstale htenant httl
    obtain ⟨p', hp', -, hfirst⟩ := hchain.restores
    obtain rfl := Option.mem_unique hphone hp'
    have hinput : (db'.gateway.tenantId != "" && validAttemptTTL ttl) = true := by
      simp [htenant, httl]
    obtain ⟨count, db'', hok⟩ :=
      reconcileStalePairings_succeeds now (hchain.restorable (run_restorable hrun)) hinput
    have hstep : (step rt (now, .reconcileStalePairings ttl) db').2 = db'' := by
      simp [step, outcome, perform, replying, hok, Except.map]
    rw [hstep, (reconcileStalePairings_ok hok).2 c, hphone, hfirst, Option.map_some, if_pos hstale]

end

/-! ### A takeover -/

def phoneRuntime : Runtime where
  sha256 _ := List.replicate 32 0
  sha256_length := zeros_length
  jsonSize _ := 1
  cursorUnmarshal _ := none
  cursorMarshal _ := []

def phoneSecret : SessionEnvelope where
  version := 1
  provider := "gmessages"
  ciphertext := List.replicate 16 0
  wrappedDEK := [0]
  nonce := List.replicate 12 0
  keyId := "key"
  keyVersion := 1

def takenOver : List Call :=
  [(1, .saveConnection { connectionId := "phone", name := "front desk" }),
    (2, .beginPairing "phone" "attempt-1" 10),
    (13, .beginPairing "phone" "attempt-2" 10)]

theorem takenOver_owned :
    AttemptsOwned phoneRuntime (execute (step phoneRuntime) takenOver (newTenant "tenant")).1
        (execute (step phoneRuntime) takenOver (newTenant "tenant")).2 ∧
      recorded "phone" (execute (step phoneRuntime) takenOver (newTenant "tenant")).1 =
        some "attempt-2" ∧
      (step phoneRuntime (14, .commitPairedSession "phone" "attempt-2" phoneSecret
        (List.replicate 32 1)) (execute (step phoneRuntime) takenOver (newTenant "tenant")).2).1 =
        .done := by
  have hrun : Pairings phoneRuntime (newTenant "tenant") _ _ :=
    .of_inputs takenOver (by simp [takenOver, AllAllowed])
  exact ⟨pairing_attempts_owned phoneRuntime hrun, by decide +kernel, by decide +kernel⟩

end MessagingGateway.Pairing
