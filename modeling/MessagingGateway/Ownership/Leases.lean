import MessagingGateway.Dispatch.Guarantees
import MessagingGateway.Fencing.Tokens

/-!
# Connection leases as fencing tokens

Each connection is a resource held under the owner and the token of its lease
row. Every call is a turn of every connection: acquiring grants it, releasing
vacates it, quarantine, reauthorization and suspension fence it, and the rest
leave owner and token as they are. A write that names a pair other than the
recorded one changes nothing.
-/

namespace MessagingGateway.Ownership

open Relational Domain Store Ingress Gateway Fencing

variable {rt : Runtime} {now : Time} {db db' db₀ : Database} {connectionId ownerId c o : String}
  {fencingToken : Nat} {trace : List (Call × Reply)}

def holding (db : Database) (connectionId : String) : Option (Holding String) :=
  (db.fleet.leases.find? connectionId).map fun r => ⟨r.ownerId, r.fencingToken⟩

def grantedBy (connectionId : String) : Operation → Reply → Option (String × Nat)
  | .acquireConnectionLease c _ _, .granted (some lease) =>
    if c = connectionId then some (lease.ownerId, lease.fencingToken) else none
  | _, _ => none

def grants (connectionId : String) (trace : List (Call × Reply)) : List (String × Nat) :=
  trace.filterMap fun observation => grantedBy connectionId observation.1.2 observation.2

def Turns (connectionId : String) (grant : Option (String × Nat)) (db db' : Database) : Prop :=
  ∃ granted, Turn (holding db connectionId) granted (holding db' connectionId) ∧
    grantOf granted (holding db' connectionId) = grant.toList

theorem Turns.of_eq (h : holding db' c = holding db c) : Turns c none db db' := by
  refine ⟨none, h ▸ .stay _, ?_⟩
  cases holding db' c <;> rfl

theorem Turns.of_leases (h : db'.fleet.leases = db.fleet.leases) :
    Turns c none db db' := .of_eq (by simp only [holding, h])

theorem Turns.of_fleet (h : db'.fleet = db.fleet) : Turns c none db db' :=
  .of_leases (by rw [h])

theorem holding_update {p : LeaseRow → Bool} {f : LeaseRow → LeaseRow}
    {hf : ∀ r, (f r).connectionId = r.connectionId} (c : String) :
    holding (db.setLeases (db.fleet.leases.update p f hf)) c =
      (db.fleet.leases.find? c).map fun r =>
        ⟨(if p r then f r else r).ownerId, (if p r then f r else r).fencingToken⟩ := by
  simp only [holding, Database.setLeases, Table.find?_update, Option.map_map, Function.comp_def]

theorem fenceLeases_turns (now : Time) (db : Database) (p : LeaseRow → Bool) (c : String) :
    Turns c none db (db.fenceLeases now p) := by
  have hafter : holding (db.fenceLeases now p) c = (db.fleet.leases.find? c).map fun r =>
      ⟨(if p r then r.fence now else r).ownerId, (if p r then r.fence now else r).fencingToken⟩ :=
    holding_update c
  rw [Turns, hafter]
  cases hrow : db.fleet.leases.find? c with
  | none =>
    rw [show holding db c = none by simp [holding, hrow]]
    exact ⟨none, .stay none, rfl⟩
  | some row =>
    rw [show holding db c = some ⟨row.ownerId, row.fencingToken⟩ by simp [holding, hrow]]
    refine ⟨none, ?_, rfl⟩
    by_cases hp : p row = true
    · simp only [hp, Option.map_some, if_true]
      exact .fence _
    · simp only [hp, Option.map_some]
      exact .stay _

/-! ### One call -/

theorem acquireConnectionLease_turns {ttl : Nat} {granted : Option ConnectionLease}
    (h : acquireConnectionLease now connectionId ownerId ttl db = .ok (granted, db')) (c : String) :
    Turns c (grantedBy c (.acquireConnectionLease connectionId ownerId ttl) (.granted granted))
      db db' := by
  simp only [acquireConnectionLease, bind_ok] at h
  obtain ⟨-, -, h⟩ := h
  split at h
  case h_1 hnone =>
    simp only [bind_ok, pure_ok, orFail_ok, Prod.mk.injEq] at h
    obtain ⟨-, -, leases, hinsert, rfl, rfl⟩ := h
    by_cases hc : connectionId = c
    · subst hc
      have hafter : holding (db.setLeases leases) connectionId = some ⟨some ownerId, 1⟩ := by
        simp [holding, Database.setLeases, Table.find?_insert hinsert]
      have hbefore : holding db connectionId = none := by simp [holding, hnone]
      rw [Turns, hafter, hbefore]
      exact ⟨some ownerId, .first ownerId 1, by simp [grantOf, grantedBy, LeaseRow.granted]⟩
    · rw [grantedBy, if_neg hc]
      exact .of_eq (by simp [holding, Database.setLeases, Table.find?_insert hinsert, hc])
  case h_2 lease hlease =>
    have hkey : lease.connectionId = connectionId := Table.key_of_find? hlease
    split at h <;> rw [pure_pair] at h <;> obtain ⟨rfl, rfl⟩ := h
    · by_cases hc : connectionId = c
      · subst hc
        rw [Turns, holding_update]
        rw [show holding db connectionId = some ⟨lease.ownerId, lease.fencingToken⟩ by
          simp [holding, hlease]]
        refine ⟨some ownerId, ?_, ?_⟩
        · -- the same live owner keeps its token; any other acquisition takes a new one
          simp only [hlease, Option.map_some, hkey, beq_self_eq_true, if_true]
          unfold LeaseRow.acquire
          split
          case isTrue hsame =>
            rw [hsame.1]
            exact .keep _ _
          case isFalse => exact .take _ _
        · simp [hlease, hkey, grantOf, grantedBy, LeaseRow.granted]
      · rw [grantedBy, if_neg hc]
        refine .of_eq ?_
        simp only [holding, Database.setLeases]
        rw [Table.find?_update_key, if_neg (Ne.symm hc)]
    · exact .of_eq rfl

theorem releaseConnectionLease_turns {held : Bool}
    (h : releaseConnectionLease now connectionId ownerId fencingToken db = .ok (held, db'))
    (c : String) : Turns c none db db' := by
  simp only [releaseConnectionLease, bind_ok] at h
  obtain ⟨-, -, h⟩ := h
  split at h <;> rw [pure_pair] at h <;> obtain ⟨-, rfl⟩ := h
  · rw [Turns, holding_update, holding]
    cases hrow : db.fleet.leases.find? c with
    | none => exact ⟨none, .stay none, rfl⟩
    | some row =>
      refine ⟨none, ?_, rfl⟩
      by_cases hkey : row.connectionId = connectionId
      · simp only [hkey, Option.map_some, beq_self_eq_true, if_true]
        exact .vacate ⟨row.ownerId, row.fencingToken⟩
      · simp only [hkey, Option.map_some, beq_iff_eq, if_false]
        exact .stay _
  · exact .of_eq rfl

theorem holding_extend (db : Database) (p : LeaseRow → Bool) (expiry : LeaseRow → Time)
    (c : String) :
    holding (db.setLeases (db.fleet.leases.update p
      (fun r => { r with expiresAt := expiry r }))) c = holding db c := by
  rw [holding_update, holding]
  congr 1
  funext row
  split <;> rfl

theorem renewConnectionLease_turns {ttl : Nat} {held : Bool}
    (h : renewConnectionLease now connectionId ownerId fencingToken ttl db = .ok (held, db'))
    (c : String) : Turns c none db db' := by
  simp only [renewConnectionLease, bind_ok] at h
  obtain ⟨-, -, h⟩ := h
  split at h <;> rw [pure_pair] at h <;> obtain ⟨-, rfl⟩ := h
  · exact .of_eq (holding_extend _ _ _ c)
  · exact .of_eq rfl

theorem quarantineBackfillConnection_turns {safeReason : SafeReason}
    (h : quarantineBackfillConnection now connectionId safeReason db = .ok ((), db')) (c : String) :
    Turns c none db db' := by
  obtain ⟨_, _, -, -, rfl⟩ := quarantineBackfillConnection_ok h
  have hfenced := fenceLeases_turns now db (fun r => r.connectionId == connectionId) c
  exact hfenced

theorem markReauthorizationRequired_turns {occurredAt : Time} {newEventId : String}
    {transition : AuthorizationTransition}
    (h : markReauthorizationRequired rt now occurredAt connectionId newEventId db =
      .ok (transition, db')) (c : String) : Turns c none db db' := by
  have hfenced := fenceLeases_turns now db
    (fun r => r.connectionId == connectionId && r.ownerId.isSome) c
  obtain ⟨_, -, ⟨_, -, -, hevent⟩ | ⟨_, -, -, -, hevent⟩⟩ := markReauthorizationRequired_ok h
  all_goals
    obtain ⟨events, rfl⟩ := insertReauthorizationEvent_ok hevent
    exact hfenced

theorem changeSuspension_turns {suspend : Bool}
    (h : changeSuspension now suspend db = .ok ((), db')) (c : String) : Turns c none db db' := by
  have hfenced := fenceLeases_turns now db (fun r => r.ownerId.isSome) c
  obtain ⟨rfl, -⟩ | ⟨-, -, -, rfl⟩ | ⟨-, -, rfl⟩ := changeSuspension_ok h
  · exact .of_eq rfl
  · exact hfenced
  · exact .of_leases rfl

theorem perform_turns {op : Operation} {reply : Reply}
    (h : perform rt now op db = .ok (reply, db')) (c : String) :
    Turns c (grantedBy c op reply) db db' := by
  have hbeside (hmessages : op.onMessages = true) : Turns c none db db' :=
    .of_fleet (perform_beside hmessages h).fleet
  cases op <;> simp only [perform] at h <;> obtain ⟨result, hop, rfl⟩ := replying_ok h
  any_goals exact hbeside rfl
  case acquireConnectionLease => exact acquireConnectionLease_turns hop c
  case renewConnectionLease => exact renewConnectionLease_turns hop c
  case releaseConnectionLease => exact releaseConnectionLease_turns hop c
  case quarantineBackfillConnection => exact quarantineBackfillConnection_turns hop c
  case markReauthorizationRequired => exact markReauthorizationRequired_turns hop c
  case markReauthorizationRequiredFenced =>
    obtain ⟨-, rfl⟩ | ⟨_, _, -, -, -, hevent⟩ := markReauthorizationRequiredFenced_ok hop
    · exact .of_eq rfl
    · obtain ⟨events, rfl⟩ := insertReauthorizationEvent_ok hevent
      exact .of_leases rfl
  case changeSuspension => exact changeSuspension_turns hop c
  case writeConnectionHealthFenced =>
    obtain ⟨_, rfl⟩ := writeConnectionHealthFenced_ok hop
    exact .of_leases rfl
  case compareAndSwapEncryptedSessionFenced =>
    obtain ⟨_, rfl⟩ := compareAndSwapEncryptedSessionFenced_ok hop
    exact .of_leases rfl
  case commitEnvelope => exact .of_fleet (commitEnvelope_fleet hop)
  case markProviderACKedFenced =>
    obtain rfl | rfl := markProviderACKedFenced_ok hop <;> exact .of_fleet rfl
  case coordinateProviderACKsFenced =>
    obtain rfl | rfl | ⟨_, rfl⟩ := coordinateProviderACKsFenced_ok hop
    · exact .of_fleet rfl
    all_goals exact .of_eq (holding_extend _ _ _ c)
  case listPendingProviderACKsFenced =>
    obtain rfl := listPendingProviderACKsFenced_ok hop
    exact .of_fleet rfl

theorem grantedBy_failed (c : String) (op : Operation) (e : Err) :
    grantedBy c op (.failed e) = none := by
  cases op <;> rfl

theorem step_turns (rt : Runtime) (call : Call) (db : Database) (c : String) :
    Turns c (grantedBy c call.2 (step rt call db).1) db (step rt call db).2 := by
  refine step_rule rt call db (fun e _ => ?_) fun _ _ hperform => perform_turns hperform c
  rw [grantedBy_failed]
  exact .of_eq rfl

/-! ### Writes under a pair -/

/-- The connection, owner and token a fenced operation names. `ClaimNext` names
an owner only. -/
def fencedBy : Operation → Option (String × String × Nat)
  | .renewConnectionLease connectionId ownerId fencingToken _
  | .releaseConnectionLease connectionId ownerId fencingToken
  | .markReauthorizationRequiredFenced _ connectionId ownerId fencingToken _
  | .writeConnectionHealthFenced connectionId ownerId fencingToken _
  | .compareAndSwapEncryptedSessionFenced connectionId ownerId fencingToken _ _
  | .recordCreatedConversationFenced connectionId _ _ _ _ ownerId fencingToken
  | .markProviderACKedFenced connectionId ownerId fencingToken _
  | .coordinateProviderACKsFenced connectionId ownerId fencingToken _ _ _
  | .listPendingProviderACKsFenced connectionId ownerId fencingToken _ =>
    some (connectionId, ownerId, fencingToken)
  | .beginProviderIo claim ownerId | .renewProviderIo claim ownerId =>
    some (claim.message.connectionId, ownerId, claim.fencingToken)
  | .completeDispatch _ claim _ _ | .releaseBeforeDispatch _ claim _ =>
    some (claim.message.connectionId, claim.ownerId, claim.fencingToken)
  | .commitEnvelope _ record => some (record.connectionId, record.ownerId, record.fencingToken)
  | _ => none

def Stale (db : Database) (connectionId ownerId : String) (fencingToken : Nat) : Prop :=
  holding db connectionId ≠ some ⟨some ownerId, fencingToken⟩

instance (db : Database) (connectionId ownerId : String) (fencingToken : Nat) :
    Decidable (Stale db connectionId ownerId fencingToken) :=
  inferInstanceAs (Decidable (_ ≠ _))

section

variable {c o : String} {t : Nat}

theorem holding_of_heldBy (h : ((db.fleet.leases.find? c).any fun r => r.heldBy now o t) = true) :
    holding db c = some ⟨some o, t⟩ := by
  obtain ⟨row, hrow, hheld⟩ := (Option.any_eq_true _ _).1 h
  simp only [LeaseRow.heldBy, Bool.and_eq_true, beq_iff_eq] at hheld
  simp [holding, hrow, hheld.1.1, hheld.1.2]

theorem holding_of_ownsLease (h : db.ownsLease now c o t = true) :
    holding db c = some ⟨some o, t⟩ := by
  simp only [Database.ownsLease, Bool.and_eq_true] at h
  exact holding_of_heldBy h.2

theorem holding_of_guard {guard : ClaimGuard} {claim : DispatchClaim} {ownerId : String}
    (h : guard.holds now claim ownerId db = true) :
    holding db claim.message.connectionId = some ⟨some ownerId, claim.fencingToken⟩ := by
  simp only [ClaimGuard.holds, Bool.and_eq_true] at h
  obtain ⟨row, hrow, hheld⟩ := (Option.any_eq_true _ _).1 h.1.1.1.2
  simp only [Bool.and_eq_true, beq_iff_eq] at hheld
  simp [holding, hrow, hheld.1.1, hheld.1.2]

theorem Stale.not_held (h : Stale db c o t) (now : Time) :
    ((db.fleet.leases.find? c).any fun r => r.heldBy now o t) = false :=
  Bool.eq_false_iff.2 fun hheld => h (holding_of_heldBy hheld)

theorem Stale.not_owned (h : Stale db c o t) (now : Time) : db.ownsLease now c o t = false :=
  Bool.eq_false_iff.2 fun howned => h (holding_of_ownsLease howned)

theorem Stale.guard {claim : DispatchClaim} {ownerId : String}
    (h : Stale db claim.message.connectionId ownerId claim.fencingToken) (guard : ClaimGuard)
    (now : Time) : guard.holds now claim ownerId db = false :=
  Bool.eq_false_iff.2 fun hholds => h (holding_of_guard hholds)

end

theorem eq_of_pure_ok {α : Type} {a b : α} (h : (pure (a, db) : Tx (α × Database)) = .ok (b, db')) :
    db' = db :=
  (congrArg Prod.snd (pure_ok.1 h)).symm

theorem perform_stale {op : Operation} {t : Nat} {reply : Reply}
    (hpair : fencedBy op = some (c, o, t)) (hstale : Stale db c o t)
    (h : perform rt now op db = .ok (reply, db')) : db' = db := by
  cases op <;> simp only [fencedBy, Option.some.injEq, Prod.mk.injEq, reduceCtorEq] at hpair <;>
    obtain ⟨rfl, rfl, rfl⟩ := hpair <;> simp only [perform] at h <;>
    obtain ⟨result, hop, -⟩ := replying_ok h
  -- the guard matches no row, and nothing is written
  case renewConnectionLease | releaseConnectionLease | writeConnectionHealthFenced |
      compareAndSwapEncryptedSessionFenced | markProviderACKedFenced =>
    simp only [renewConnectionLease, releaseConnectionLease, writeConnectionHealthFenced,
      compareAndSwapEncryptedSessionFenced, markProviderACKedFenced, hstale.not_held,
      hstale.not_owned, bind_ok, Bool.false_and] at hop
    obtain ⟨-, -, hop⟩ := hop
    exact eq_of_pure_ok hop
  case beginProviderIo | renewProviderIo =>
    simp only [beginProviderIo, renewProviderIo, hstale.guard beginGuard, hstale.guard renewGuard,
      bind_ok] at hop
    obtain ⟨-, -, hop⟩ := hop
    exact eq_of_pure_ok hop
  case markReauthorizationRequiredFenced =>
    simp only [markReauthorizationRequiredFenced, hstale.not_owned, bind_ok, Bool.and_false] at hop
    obtain ⟨-, -, -, -, hop⟩ := hop
    split at hop <;> exact eq_of_pure_ok hop
  -- the guard is required
  case completeDispatch =>
    simp only [completeDispatch, hstale.guard completeGuard, bind_ok, require_ok] at hop
    obtain ⟨-, -, -, -, -, hfalse, -⟩ := hop
    cases hfalse
  case releaseBeforeDispatch =>
    simp only [releaseBeforeDispatch, hstale.guard releaseGuard, bind_ok, require_ok] at hop
    obtain ⟨-, -, -, hfalse, -⟩ := hop
    cases hfalse
  case recordCreatedConversationFenced | coordinateProviderACKsFenced =>
    simp only [recordCreatedConversationFenced, coordinateProviderACKsFenced, hstale.not_owned,
      bind_ok, require_ok] at hop
    obtain ⟨-, -, -, hfalse, -⟩ := hop
    cases hfalse
  case commitEnvelope =>
    obtain ⟨-, -, -, -, howned, -⟩ := commitEnvelope_ok hop
    exact absurd (holding_of_ownsLease howned) hstale
  case listPendingProviderACKsFenced => exact listPendingProviderACKsFenced_ok hop

theorem step_stale {call : Call} {t : Nat} (hpair : fencedBy call.2 = some (c, o, t))
    (hstale : Stale db c o t) : (step rt call db).2 = db := by
  refine step_rule rt call db (fun _ _ => rfl) fun reply db' hperform => ?_
  exact perform_stale hpair hstale hperform

theorem holding_of_lockedLease {lease : LeaseRow} (h : lockedLease now c o db = some lease) :
    holding db c = some ⟨some o, lease.fencingToken⟩ := by
  obtain ⟨hrow, hlive⟩ := Option.filter_eq_some_iff.1 h
  simp only [Bool.and_eq_true, beq_iff_eq] at hlive
  simp [holding, hrow, hlive.1.2]

theorem claimNext_fenced {ids : ClaimIds} {locked : List String} {k : String}
    {result : Option DispatchClaim} (h : claimNext rt now ids locked c k o db = .ok (result, db')) :
    (db' ≠ db → ∃ t, holding db c = some ⟨some o, t⟩) ∧
      ∀ claim, result = some claim → claim.ownerId = o ∧
        holding db c = some ⟨some o, claim.fencingToken⟩ := by
  simp only [claimNext, bind_ok] at h
  obtain ⟨-, -, h⟩ := h
  split at h
  case h_2 =>
    rw [pure_pair] at h
    obtain ⟨rfl, rfl⟩ := h
    exact ⟨fun hne => absurd rfl hne, by simp⟩
  case h_1 lease lane hlease hlane =>
    have hheld := holding_of_lockedLease hlease
    refine ⟨fun _ => ⟨_, hheld⟩, ?_⟩
    rintro claim rfl
    split at h
    · simp only [bind_ok, pure_pair, reduceCtorEq, false_and, and_false,
        exists_false] at h
    · split at h
      · simp only [bind_ok, pure_pair, Option.some.injEq] at h
        obtain ⟨⟨claim', db₁⟩, hclaim, rfl, -⟩ := h
        simp only [claimMessage, bind_ok, pure_pair] at hclaim
        obtain ⟨-, -, -, -, -, -, -, -, rfl, -⟩ := hclaim
        exact ⟨rfl, hheld⟩
      · simp only [pure_pair, reduceCtorEq, false_and] at h

/-! ### Runs -/

theorem grants_snoc (c : String) (trace : List (Call × Reply)) (call : Call) (reply : Reply) :
    grants c (trace ++ [(call, reply)]) = grants c trace ++ (grantedBy c call.2 reply).toList := by
  simp only [grants, List.filterMap_append]
  cases h : grantedBy c call.2 reply <;> simp [h]

theorem run_grants {allowed : Database → Call → Prop}
    (hrun : Run (step rt) allowed db₀ trace db) (c : String) :
    Covers (grants c trace) (holding db c) ∧ Unshared (grants c trace) := by
  refine hrun.invariant_trace
    (P := fun trace db => Covers (grants c trace) (holding db c) ∧ Unshared (grants c trace))
    (fun trace db call _ h => ?_) ⟨fun o t hmem => ?_, fun o o' t hmem => ?_⟩
  · obtain ⟨granted, hturn, hgrant⟩ := step_turns rt call db c
    rw [grants_snoc, ← hgrant]
    exact h.1.turn h.2 hturn
  · simp [grants] at hmem
  · simp [grants] at hmem

theorem run_token_le {allowed : Database → Call → Prop} (hrun : Run (step rt) allowed db₀ trace db)
    {before : Holding String} (hbefore : holding db₀ c = some before) :
    ∃ after, holding db c = some after ∧ before.token ≤ after.token := by
  refine hrun.invariant (P := fun db => ∃ after, holding db c = some after ∧
    before.token ≤ after.token) (fun db call _ h => ?_) ⟨before, hbefore, Nat.le_refl _⟩
  obtain ⟨middle, hmiddle, hle⟩ := h
  obtain ⟨granted, hturn, -⟩ := step_turns rt call db c
  obtain ⟨after, hafter, hle'⟩ := hturn.token_le hmiddle
  exact ⟨after, hafter, Nat.le_trans hle hle'⟩

/-- In every run the token of a connection never falls and is never granted to
two owners, at most one pair is live, and a pair that is not the recorded one
writes nothing. `ClaimNext`, which names no token, writes nothing for an owner
that is not the recorded one, and hands out the recorded token. -/
theorem leases_fence_stale_pairs (hrun : Run (step rt) (fun _ _ => True) db₀ trace db) :
    (∀ lease ∈ db₀.fleet.leases, ∃ lease' ∈ db.fleet.leases,
      lease'.connectionId = lease.connectionId ∧ lease.fencingToken ≤ lease'.fencingToken) ∧
    (∀ c o o' t, (o, t) ∈ grants c trace → (o', t) ∈ grants c trace → o = o') ∧
    (∀ now c o t o' t', db.ownsLease now c o t = true → db.ownsLease now c o' t' = true →
      o = o' ∧ t = t') ∧
    (∀ call c o t, fencedBy call.2 = some (c, o, t) → Stale db c o t →
      (step rt call db).2 = db) ∧
    ∀ now ids locked c k o, ((∀ t, Stale db c o t) →
        (step rt (now, .claimNext ids locked c k o) db).2 = db) ∧
      ∀ claim, (step rt (now, .claimNext ids locked c k o) db).1 = .claimed (some claim) →
        claim.ownerId = o ∧ ¬ Stale db c o claim.fencingToken := by
  refine ⟨fun lease hlease => ?_, fun c => (run_grants hrun c).2, fun now c o t o' t' h h' => ?_,
    fun call c o t => step_stale, fun now ids locked c k o => ?_⟩
  · have hbefore : holding db₀ lease.connectionId = some ⟨lease.ownerId, lease.fencingToken⟩ := by
      simp [holding, Table.find?_of_mem hlease]
    obtain ⟨after, hafter, hle⟩ := run_token_le hrun hbefore
    obtain ⟨lease', hlease', rfl⟩ := Option.map_eq_some_iff.1 hafter
    exact ⟨lease', Table.mem_of_find? hlease', Table.key_of_find? hlease', hle⟩
  · have heq := (holding_of_ownsLease h).symm.trans (holding_of_ownsLease h')
    simpa using heq
  · refine step_rule rt (now, .claimNext ids locked c k o) db (fun _ _ => ⟨fun _ => rfl, nofun⟩)
      fun reply db' hperform => ?_
    obtain ⟨result, hclaim, rfl⟩ := replying_ok hperform
    obtain ⟨hwrites, hpair⟩ := claimNext_fenced hclaim
    refine ⟨fun hstale => ?_, fun claim hreply => ?_⟩
    · by_contra hne
      obtain ⟨t, ht⟩ := hwrites hne
      exact hstale t ht
    · obtain ⟨howner, hheld⟩ := hpair claim (by simpa using hreply)
      exact ⟨howner, fun hstale => hstale hheld⟩

/-- The lease of the worker runs out and is granted again under the next token. -/
def leaseTwice : List Call := [Dispatch.createCall "m1" 1, Dispatch.leaseCall 2,
  Dispatch.leaseCall 600000010]

theorem leaseTwice_fences_first_token :
    (step Dispatch.phoneRuntime (600000011, .releaseConnectionLease "phone" "worker" 1)
      (execute (step Dispatch.phoneRuntime) leaseTwice Dispatch.phoneDatabase).2).2 =
    (execute (step Dispatch.phoneRuntime) leaseTwice Dispatch.phoneDatabase).2 :=
  (leases_fence_stale_pairs (Run.of_inputs leaseTwice (by decide +kernel))).2.2.2.1 _ "phone"
    "worker" 1 rfl (by decide +kernel)

/-- The worker that was granted the first token claims a message under the second. -/
theorem leaseTwice_claims_without_token : ∃ trace db,
    Run (step Dispatch.phoneRuntime) (fun _ _ => True) Dispatch.phoneDatabase trace db ∧
      ("worker", 1) ∈ grants "phone" trace ∧ Stale db "phone" "worker" 1 ∧
      (step Dispatch.phoneRuntime (Dispatch.claimCall "1" 600000011) db).2 ≠ db :=
  ⟨_, _, Run.of_inputs leaseTwice (by decide +kernel), by decide +kernel, by decide +kernel,
    by decide +kernel⟩

end MessagingGateway.Ownership
