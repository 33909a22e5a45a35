import MessagingGateway.Pairing.Suspension

/-!
# What survives a suspension

The law of one tenant's connections over whole runs: no operation is rejected by a
constraint, a suspended tenant has only suspended connections, a suspension and the
resumption after it change no row, and a quarantine is not lifted. It holds while the
calls keep the two reasons for a suspension apart (`Apart`); a quarantine that meets
a suspended tenant is lost when the tenant is resumed.
-/

namespace MessagingGateway.Pairing

open Relational Store

structure Lawful (db : PhoneDatabase) : Prop where
  settled : ∀ c p, db.phone c = some p → Settled db.gateway.fleet.tenantStatus p
  outbox : OutboxNamed db.gateway.events

theorem newTenant_lawful (tenantId : String) : Lawful (newTenant tenantId) where
  settled c p hp := by cases hp
  outbox r hr := by simp [newTenant] at hr

/-! ### No operation is rejected by a constraint -/

section

variable {rt : Runtime} {now : Time} {db : PhoneDatabase} {connectionId operation : String}

theorem saveConnection_unrejected {record : ConnectionRecord} (hstate : record.state = .unpaired)
    (hnew : db.phone record.connectionId = none) : Unrejected (saveConnection record db) := by
  have hnone : db.connections.find? record.connectionId = none := phone_eq_none.1 hnew
  have hcolumns : db.columns.find? record.connectionId = none := by
    cases hk : db.columns.find? record.connectionId with
    | none => rfl
    | some k =>
      obtain ⟨r, hr⟩ := connection_of_columns hk
      rw [hnone] at hr
      exact absurd hr nofun
  simp only [saveConnection, hnone]
  refine .require_bind (by simp) fun _ => .require_bind (by simp) fun _ =>
    .require_bind (by simp) fun _ => .require_bind (by simp) fun hvalid =>
    .require_bind (by simp) fun _ => .require_bind (by simp) fun _ =>
    .require_bind (by simp) fun _ => ?_
  -- the new row passes its checks and has no fingerprint
  obtain ⟨connections, hrows⟩ : ∃ t, db.connections.insert record.phone.1 = some t :=
    Table.exists_insert hnone
  obtain ⟨columns, hcols⟩ : ∃ t, db.columns.insert record.phone.2 = some t :=
    Table.exists_insert hcolumns
  have hchecked := recordPhone_checked hstate hvalid
  have hempty : record.phone.2.providerDeviceFingerprint = none := by
    rw [hstate, validFingerprintForState, beq_iff_eq, List.length_eq_zero_iff] at hvalid
    simp [ConnectionRecord.phone, hvalid]
  have hstore : ∃ db', db.store "save connection" (db.gateway.setConnections connections) columns =
      .ok db' := by
    unfold PhoneDatabase.store
    rw [dif_pos, dif_pos]
    · exact ⟨_, rfl⟩
    · rw [rowsChecked_iff]
      simp only [Database.setConnections, Table.find?_insert hrows, Table.find?_insert hcols]
      refine ⟨fun c r hr => ?_, fun c k hk => ?_⟩
      · split at hr
        · next hc =>
          cases hr
          exact ⟨_, if_pos hc, hchecked⟩
        · next hc =>
          obtain ⟨k, hk, hold⟩ := columns_of_connection hr
          exact ⟨k, by rw [if_neg]; exacts [hk, hc], hold⟩
      · split at hk
        · next hc => exact ⟨_, if_pos hc⟩
        · next hc =>
          obtain ⟨r, hr⟩ := connection_of_columns hk
          exact ⟨r, by rw [if_neg]; exacts [hr, hc]⟩
    · have hunique := db.unique
      simp only [fingerprintsUnique, List.all_eq_true, Bool.or_eq_true, bne_iff_ne,
        Option.isNone_iff_eq_none] at hunique ⊢
      intro k hk l hl
      rcases (Table.mem_insert hcols).1 hk with hk | rfl
      · rcases (Table.mem_insert hcols).1 hl with hl | rfl
        · exact hunique k hk l hl
        · rw [hempty]
          by_cases hnone : k.providerDeviceFingerprint = none
          · exact .inl (.inl hnone)
          · exact .inl (.inr hnone)
      · exact .inl (.inl hempty)
  obtain ⟨db', hstore⟩ := hstore
  rw [if_neg (by simp)]
  refine .of_ok ⟨db', ?_⟩
  simp only [ConnectionRecord.insert, bind_ok, orFail_ok]
  exact ⟨connections, hrows, columns, hcols, hstore⟩

variable {attemptId : String} {ttl : Nat} {fingerprint : Bytes} {reply : Reply}

theorem beginPairing_unrejected : Unrejected (beginPairing now connectionId attemptId ttl db) := by
  refine .require_bind (by simp) fun hvalid => .require_bind (by simp) fun _ =>
    .orFail_bind (by simp) fun ⟨r, k⟩ _ => ?_
  simp only [Bool.and_eq_true] at hvalid ⊢
  split
  · refine .bind (.of_ok ?_) fun _ _ => .of_ok ⟨_, rfl⟩
    refine update_succeeds _ (fun c q hq hselects => ?_) (unique_of_kept fun _ _ => rfl)
    simp only [beginPairingSQL, stale, Bool.and_eq_true, Bool.or_eq_true, beq_iff_eq] at hselects
    refine begunPhone_checked now hvalid.1.2 (phone_checked hq) ?_
    rcases hselects.2 with hpairable | ⟨⟨hpairing, -⟩, hprior⟩
    · exact .inl hpairable
    · exact .inr ⟨hpairing, hprior⟩
  · split
    · exact .fail (isViolation_plain _ (by simp))
    · exact .fail (isViolation_plain _ (by simp))

theorem restoring_succeeds (operation : String) {selects : ConnectionRow → PairingColumns → Bool}
    (hsettled : ∀ c p, db.phone c = some p → Settled db.gateway.fleet.tenantStatus p)
    (hpairing : ∀ r k, selects r k = true → r.state = .pairing) :
    ∃ db', db.update operation (restoring selects) = .ok db' := by
  refine update_succeeds _ (fun c p hp hselects => ?_) (unique_of_kept fun _ _ => rfl)
  have hhome := (hsettled c p hp).home
  rwa [homePhone, if_pos (hpairing p.1 p.2 hselects)] at hhome

theorem restorePairing_unrejected (hlawful : Lawful db) :
    Unrejected (restorePairing connectionId attemptId db) := by
  refine .require_bind (by simp) fun _ => .orFail_bind (by simp) fun _ _ => .bind (.of_ok ?_)
    fun _ _ => .of_ok ⟨_, rfl⟩
  refine restoring_succeeds _ hlawful.settled fun r k hselects => ?_
  simp only [Bool.and_eq_true, beq_iff_eq] at hselects
  exact hselects.1.1.2

theorem reconcileStalePairings_unrejected (hlawful : Lawful db) :
    Unrejected (reconcileStalePairings now ttl db) := by
  refine .require_bind (by simp) fun _ => .bind (.of_ok ?_) fun _ _ => .of_ok ⟨_, rfl⟩
  refine restoring_succeeds _ hlawful.settled fun r k hselects => ?_
  simp only [stale, Bool.and_eq_true, beq_iff_eq] at hselects
  exact hselects.1.1

theorem commitPairedSession_unrejected {envelope : SessionEnvelope}
    (hstored : (db.phone connectionId).isSome = true) (hfingerprint : ∀ c p, db.phone c = some p →
      p.2.providerDeviceFingerprint = some fingerprint → c = connectionId) :
    Unrejected (commitPairedSession connectionId attemptId envelope fingerprint db) := by
  obtain ⟨p, hp⟩ := Option.isSome_iff_exists.1 hstored
  have hconnection := (phone_eq_some.1 hp).1
  refine .require_bind (by simp) fun hvalid => .bind ?_ fun gateway hsession => ?_
  · refine .bind (.of_ok ⟨(), require_ok.2 ?_⟩) fun _ _ => ?_
    · exact Option.isSome_of_mem hconnection
    · split
      · next hnone =>
        obtain ⟨sessions, hinsert⟩ : ∃ t, db.gateway.fleet.sessions.insert
            ⟨connectionId, envelope, 1⟩ = some t := Table.exists_insert hnone
        rw [hinsert]
        exact .of_ok ⟨_, rfl⟩
      · exact .of_ok ⟨_, rfl⟩
  obtain ⟨sessions, rfl⟩ := commitEncryptedSession_ok hsession
  refine .bind (.of_ok (stored_of_same _ rfl)) fun db₁ hstore => .bind (.of_ok ?_) fun _ _ =>
    .require_bind (by simp) fun _ => .of_ok ⟨_, rfl⟩
  have hphones := phone_of_session hstore
  simp only [Bool.and_eq_true, beq_iff_eq] at hvalid
  refine update_succeeds _ (fun c q _ hselects => ?_) fun c q d s hq hs hsome hsame => ?_
  · simp only [commitConnectionStateSQL, Bool.and_eq_true, beq_iff_eq] at hselects
    exact committedPhone_checked hvalid.2 hselects.1.2
  · -- the committed fingerprint is of no other connection
    rw [hphones] at hq hs
    have hselected : ∀ c q, db.phone c = some q →
        (commitConnectionStateSQL connectionId attemptId fingerprint).selects q.1 q.2 = true →
        c = connectionId := fun c q hq hselects => by
      simp only [commitConnectionStateSQL, Bool.and_eq_true, beq_iff_eq] at hselects
      exact (phone_connectionId hq).symm.trans hselects.1.1
    simp only [ConnectionUpdate.after] at hsome hsame
    split at hsame
    · next hfirst =>
      rw [if_pos hfirst] at hsome
      split at hsame
      · next hsecond => rw [hselected c q hq hfirst, hselected d s hs hsecond]
      · rw [hselected c q hq hfirst]
        exact (hfingerprint d s hs hsame.symm).symm
    · next hfirst =>
      rw [if_neg hfirst] at hsome
      split at hsame
      · next hsecond =>
        rw [hselected d s hs hsecond]
        exact hfingerprint c q hq hsame
      · exact fingerprint_unique hq hs hsome hsame

theorem onGateway_unrejected {α : Type} {reply : α → Reply}
    {tx : Database → Tx (α × Database)} (htx : Unrejected (tx db.gateway))
    (hstored : ∀ a gateway, tx db.gateway = .ok (a, gateway) →
      ∃ db', db.store operation gateway db.columns = .ok db') :
    Unrejected (onGateway operation reply tx db) :=
  htx.bind fun ⟨a, gateway⟩ hok =>
    .bind (.of_ok (hstored a gateway hok)) fun _ _ => .of_ok ⟨_, rfl⟩

theorem changeSuspension_unrejected {suspend : Bool} {reply : Unit → Reply} (hlawful : Lawful db) :
    Unrejected (onGateway operation reply (changeSuspension now suspend) db) := by
  refine onGateway_unrejected (.require_bind (by simp) fun _ => ?_) (fun _ gateway hok => ?_)
  · extract_lets wantStatus
    split
    · exact .of_ok ⟨_, rfl⟩
    · split
      · exact .require_bind (by simp) fun _ => .of_ok ⟨_, rfl⟩
      · exact .of_ok ⟨_, rfl⟩
  · cases changeSuspension_suspending hok with
    | same hsame => exact stored_of_same _ (by rw [hsame])
    | suspended _ _ _ hstates hrows =>
      refine store_mapped _ hrows fun c p hp => ?_
      exact suspendedPhone_checked (phone_checked hp)
        (hstates p.1 (Table.mem_of_find? (phone_eq_some.1 hp).1))
    | resumed _ hstatus _ hrows =>
      refine store_mapped _ hrows fun c p hp => ?_
      have hsettled := hlawful.settled c p hp
      have hpairing : p.1.state ≠ .pairing := by
        rw [(hsettled.suspended hstatus).1]
        decide
      have hhome := hsettled.home
      rwa [homePhone, if_neg hpairing] at hhome

theorem quarantine_unrejected {safeReason : SafeReason} {reply : Unit → Reply} :
    Unrejected (onGateway operation reply
      (quarantineBackfillConnection now connectionId safeReason) db) := by
  refine onGateway_unrejected (.require_bind (by simp) fun _ => .orFail_bind (by simp)
    fun _ _ => .require_bind (by simp) fun _ => .orFail_bind (by simp)
    fun _ _ => .of_ok ⟨_, rfl⟩) (fun _ gateway hok => ?_)
  obtain ⟨-, r, hrow, hpaired, hrows⟩ := quarantineBackfillConnection_row hok
  refine store_mapped _ hrows fun c p hp => ?_
  split
  · next hc =>
    subst hc
    have hconnection := (phone_eq_some.1 hp).1
    rw [PhoneDatabase.connections, hrow, Option.some.injEq] at hconnection
    exact quarantinedPhone_checked (phone_checked hp) (hconnection ▸ hpaired)
  · exact phone_checked hp

theorem requireReauthorization_of_not_suspended {r : ConnectionRow} (eventId : String)
    (h : r.state ≠ .suspended) : ∃ r', r.requireReauthorization eventId = some r' := by
  have hnone : r.tenantSuspendPriorState = none := r.suspensionState.resolve_right h
  exact ⟨_, dif_pos hnone⟩

section

variable {occurredAt : Time} {connectionId newEventId : String}

theorem markReauthorizationRequired_unrejected {reply : AuthorizationTransition → Reply}
    {operation : String} (hlawful : Lawful db) (hnew : notBlank newEventId = true)
    (hfits : MarkFits rt db occurredAt connectionId)
    (hapart : ∀ p, db.phone connectionId = some p → p.1.state ≠ .suspended) :
    Unrejected (onGateway operation reply
      (markReauthorizationRequired rt now occurredAt connectionId newEventId) db) := by
  refine onGateway_unrejected (.require_bind (by simp) fun _ => .orFail_bind (by simp)
    fun r hrow => ?_)
    (fun _ gateway hok =>
      (markReauthorizationRequired_marking hok).stored operation hlawful.settled hnew)
  split
  · exact .bind (insertReauthorizationEvent_unrejected hlawful.outbox (hfits _)) fun _ _ =>
      .of_ok ⟨_, rfl⟩
  · obtain ⟨k, hk⟩ : ∃ k, db.phone connectionId = some (r, k) := phone_of_connection hrow
    obtain ⟨r', hr'⟩ := requireReauthorization_of_not_suspended newEventId (hapart _ hk)
    exact .require_bind (by simp) fun _ => .require_bind (by simp) fun _ =>
      .bind (.of_ok ⟨r', orFail_ok.2 hr'⟩)
      fun _ _ => .bind (insertReauthorizationEvent_unrejected hlawful.outbox (hfits _)) fun _ _ =>
        .of_ok ⟨_, rfl⟩

theorem markReauthorizationRequiredFenced_unrejected {reply : Bool → Reply} {operation : String}
    {ownerId : String} {fencingToken : Nat} (hlawful : Lawful db)
    (hnew : notBlank newEventId = true) (hfits : MarkFits rt db occurredAt connectionId)
    (hapart : db.gateway.ownsLease now connectionId ownerId fencingToken = true →
      ∀ p, db.phone connectionId = some p → p.1.state ≠ .suspended) :
    Unrejected (onGateway operation reply (markReauthorizationRequiredFenced rt now occurredAt
      connectionId ownerId fencingToken newEventId) db) := by
  refine onGateway_unrejected (.require_bind (by simp) fun _ => .require_bind (by simp) fun _ => ?_)
    (fun _ gateway hok =>
      (markReauthorizationRequiredFenced_marking hok).stored operation hlawful.settled hnew)
  split
  · exact .of_ok ⟨_, rfl⟩
  · next r hrow =>
    split
    · next howns =>
      obtain ⟨k, hk⟩ : ∃ k, db.phone connectionId = some (r, k) := phone_of_connection hrow
      obtain ⟨r', hr'⟩ := requireReauthorization_of_not_suspended
        ((r.reauthorizationEventId.bind nullIf).getD newEventId)
        (hapart (Bool.and_eq_true_iff.1 howns).2 _ hk)
      exact .bind (.of_ok ⟨r', orFail_ok.2 hr'⟩) fun _ _ =>
        .bind (insertReauthorizationEvent_unrejected hlawful.outbox (hfits _)) fun _ _ =>
          .of_ok ⟨_, rfl⟩
    · exact .of_ok ⟨_, rfl⟩

end

theorem acquireConnectionLease_unrejected {ownerId : String}
    (hstored : (db.phone connectionId).isSome = true) :
    Unrejected (acquireConnectionLease now connectionId ownerId ttl db.gateway) := by
  obtain ⟨p, hp⟩ := Option.isSome_iff_exists.1 hstored
  have hconnection := (phone_eq_some.1 hp).1
  refine .require_bind (by simp) fun _ => ?_
  split
  · next hnone =>
    obtain ⟨leases, hinsert⟩ : ∃ t, db.gateway.fleet.leases.insert
        ⟨connectionId, some ownerId, 1, now + ttl, Nat.one_pos⟩ = some t :=
      Table.exists_insert hnone
    refine .bind (.of_ok ⟨(), require_ok.2 ?_⟩) fun _ _ =>
      .bind (.of_ok ⟨leases, orFail_ok.2 hinsert⟩) fun _ _ => .of_ok ⟨_, rfl⟩
    exact Option.isSome_of_mem hconnection
  · split <;> exact .of_ok ⟨_, rfl⟩

theorem perform_unrejected {operation : Operation} (hlawful : Lawful db)
    (hpromised : Promised rt db (now, operation)) (hapart : Apart db (now, operation)) :
    Unrejected (perform rt now operation db) := by
  cases operation with
  | saveConnection record => exact (saveConnection_unrejected hpromised.1 hpromised.2).map
  | beginPairing connectionId attemptId ttl => exact beginPairing_unrejected.map
  | restorePairing connectionId attemptId => exact (restorePairing_unrejected hlawful).map
  | reconcileStalePairings ttl => exact (reconcileStalePairings_unrejected hlawful).map
  | commitPairedSession connectionId attemptId envelope fingerprint =>
    exact (commitPairedSession_unrejected hpromised hapart).map
  | changeSuspension suspend =>
    rw [perform]
    exact changeSuspension_unrejected hlawful
  | quarantineBackfillConnection connectionId safeReason =>
    rw [perform]
    exact quarantine_unrejected
  | markReauthorizationRequired occurredAt connectionId newEventId =>
    exact markReauthorizationRequired_unrejected hlawful hpromised.1 hpromised.2 hapart
  | markReauthorizationRequiredFenced occurredAt connectionId ownerId fencingToken newEventId =>
    exact markReauthorizationRequiredFenced_unrejected hlawful hpromised.1 hpromised.2 hapart
  | acquireConnectionLease connectionId ownerId ttl =>
    exact onGateway_unrejected (acquireConnectionLease_unrejected hpromised)
      fun _ _ hok => stored_of_same _ (SameFleet.of_leases (acquireConnectionLease_ok hok)).1
  | renewConnectionLease connectionId ownerId fencingToken ttl =>
    refine onGateway_unrejected (.require_bind (by simp) fun _ => ?_)
      fun _ _ hok => stored_of_same _ (SameFleet.of_leases (renewConnectionLease_ok hok)).1
    extract_lets held
    split <;> exact .of_ok ⟨_, rfl⟩
  | releaseConnectionLease connectionId ownerId fencingToken =>
    refine onGateway_unrejected (.require_bind (by simp) fun _ => ?_)
      fun _ _ hok => stored_of_same _ (SameFleet.of_leases (releaseConnectionLease_ok hok)).1
    extract_lets held
    split <;> exact .of_ok ⟨_, rfl⟩

end

/-! ### Runs -/

section

variable {rt : Runtime} {now : Time} {db db' : PhoneDatabase} {operation : Operation} {call : Call}
  {trace : List (Call × Reply)} {c tenantId : String}

theorem update_events {operation : String} {statement : ConnectionUpdate}
    (h : db.update operation statement = .ok db') : db'.gateway.events = db.gateway.events := by
  rw [(store_ok h).1]
  rfl

theorem saveConnection_events {record : ConnectionRecord} (h : saveConnection record db = .ok db') :
    db'.gateway.events = db.gateway.events := by
  simp only [saveConnection, bind_ok] at h
  obtain ⟨-, -, -, -, -, -, -, -, -, -, -, -, -, -, h⟩ := h
  split at h
  · exact update_events h
  · simp only [ConnectionRecord.insert, bind_ok] at h
    obtain ⟨_, -, _, -, hstore⟩ := h
    rw [(store_ok hstore).1]
    rfl

theorem commitPairedSession_events {connectionId : String} {envelope : SessionEnvelope}
    (h : commitPairedSession connectionId attemptId envelope fingerprint db = .ok db') :
    db'.gateway.events = db.gateway.events := by
  simp only [commitPairedSession, bind_ok, pure_ok] at h
  obtain ⟨-, -, gateway, hsession, db₁, hstore, db₂, hupdate, -, -, rfl⟩ := h
  obtain ⟨sessions, rfl⟩ := commitEncryptedSession_ok hsession
  rw [update_events hupdate, (store_ok hstore).1]
  rfl

theorem beginPairing_events {connectionId : String} {prior : Option ConnectionState}
    (h : beginPairing now connectionId attemptId ttl db = .ok (prior, db')) :
    db'.gateway.events = db.gateway.events := by
  simp only [beginPairing, bind_ok] at h
  obtain ⟨-, -, -, -, p, -, h⟩ := h
  split at h
  · simp only [bind_ok, pure_pair] at h
    obtain ⟨_, hupdate, -, rfl⟩ := h
    exact update_events hupdate
  · split at h <;> cases h

theorem perform_events (hmarks : operation.marks = none)
    (h : perform rt now operation db = .ok (reply, db')) :
    db'.gateway.events = db.gateway.events := by
  cases operation with
  | saveConnection record => exact saveConnection_events (finishing_ok h).1
  | beginPairing connectionId attemptId ttl =>
    obtain ⟨_, hok, -⟩ := replying_ok h
    exact beginPairing_events hok
  | restorePairing connectionId attemptId =>
    obtain ⟨_, hok, -⟩ := replying_ok h
    simp only [restorePairing, bind_ok, pure_pair] at hok
    obtain ⟨-, -, _, -, _, hupdate, -, rfl⟩ := hok
    exact update_events hupdate
  | reconcileStalePairings ttl =>
    obtain ⟨_, hok, -⟩ := replying_ok h
    simp only [reconcileStalePairings, bind_ok, pure_pair] at hok
    obtain ⟨-, -, _, hupdate, -, rfl⟩ := hok
    exact update_events hupdate
  | commitPairedSession connectionId attemptId envelope fingerprint =>
    exact commitPairedSession_events (finishing_ok h).1
  | changeSuspension suspend =>
    rw [perform] at h
    obtain ⟨_, hok, -⟩ := onGateway_ok h
    obtain ⟨hsame, -⟩ | ⟨-, -, -, hsame⟩ | ⟨-, -, hsame⟩ := changeSuspension_ok hok <;> rw [hsame]
  | quarantineBackfillConnection connectionId safeReason =>
    rw [perform] at h
    obtain ⟨_, hok, -⟩ := onGateway_ok h
    obtain ⟨_, _, -, -, hgateway⟩ := quarantineBackfillConnection_ok hok
    rw [hgateway]
    rfl
  | markReauthorizationRequired occurredAt connectionId newEventId => cases hmarks
  | markReauthorizationRequiredFenced occurredAt connectionId ownerId fencingToken newEventId =>
    cases hmarks
  | acquireConnectionLease connectionId ownerId ttl =>
    rw [perform] at h
    obtain ⟨_, hok, -⟩ := onGateway_ok h
    exact (SameFleet.of_leases (acquireConnectionLease_ok hok)).events
  | renewConnectionLease connectionId ownerId fencingToken ttl =>
    rw [perform] at h
    obtain ⟨_, hok, -⟩ := onGateway_ok h
    exact (SameFleet.of_leases (renewConnectionLease_ok hok)).events
  | releaseConnectionLease connectionId ownerId fencingToken =>
    rw [perform] at h
    obtain ⟨_, hok, -⟩ := onGateway_ok h
    exact (SameFleet.of_leases (releaseConnectionLease_ok hok)).events

theorem perform_outbox (hnamed : OutboxNamed db.gateway.events)
    (h : perform rt now operation db = .ok (reply, db')) : OutboxNamed db'.gateway.events := by
  cases operation with
  | markReauthorizationRequired occurredAt connectionId newEventId =>
    rw [perform] at h
    obtain ⟨_, hok, -⟩ := onGateway_ok h
    obtain ⟨_, -, ⟨_, -, -, hevent⟩ | ⟨_, -, -, -, hevent⟩⟩ :=
      markReauthorizationRequired_ok hok <;>
      exact insertReauthorizationEvent_named hevent hnamed
  | markReauthorizationRequiredFenced occurredAt connectionId ownerId fencingToken newEventId =>
    rw [perform] at h
    obtain ⟨_, hok, -⟩ := onGateway_ok h
    obtain ⟨-, hsame⟩ | ⟨_, _, -, -, -, hevent⟩ := markReauthorizationRequiredFenced_ok hok
    · exact hsame ▸ hnamed
    · exact insertReauthorizationEvent_named hevent hnamed
  | _ => rwa [perform_events rfl h]

theorem step_lawful (hlawful : Lawful db) (hpromised : Promised rt db call)
    (hapart : Apart db call) : Lawful (step rt call db).2 where
  settled := step_settled hlawful.settled hpromised hapart
  outbox := by
    refine step_rule rt call db (fun _ _ => hlawful.outbox) fun reply db' hperform => ?_
    exact perform_outbox hlawful.outbox hperform

/-- Calls that keep the promises of the environment and the two reasons for a
suspension apart. -/
abbrev Kept (rt : Runtime) (db : PhoneDatabase) (call : Call) : Prop :=
  Promised rt db call ∧ Apart db call

theorem run_lawful (hrun : Run (step rt) (Kept rt) (newTenant tenantId) trace db) : Lawful db :=
  hrun.invariant (P := Lawful) (fun _ _ hkept h => step_lawful h hkept.1 hkept.2)
    (newTenant_lawful tenantId)

theorem Turn.held {status' : TenantStatus} {begun : Option String} {p p' : Option Phone}
    (h : Turn c operation .suspended status' begun p p')
    (hsettled : ∀ q, p = some q → Settled .suspended q)
    (hquarantine : ∀ safeReason, operation = .quarantineBackfillConnection c safeReason →
      ∀ q, p = some q → Unheld q)
    (hmarks : operation.marks = some c → ∀ q, p = some q → q.1.state ≠ .suspended)
    (hresume : operation ≠ .changeSuspension false) : p' = p ∧ status' = .suspended := by
  generalize hstatus : TenantStatus.suspended = status at h hsettled
  cases h with
  | stay => exact ⟨rfl, rfl⟩
  | absentSuspended | created | overwritten | begun | suspended => exact absurd hstatus nofun
  | absentResumed | resumed => exact absurd rfl hresume
  | @restored _ _ p _ hstate | @committed _ _ _ _ p hstate =>
    have hwas := ((hsettled p rfl).suspended hstatus.symm).1
    rw [hstate] at hwas
    exact absurd hwas nofun
  | @quarantined _ _ p =>
    rcases hquarantine _ rfl p rfl with hnone | hprior
    · have hsome := ((hsettled p rfl).suspended hstatus.symm).2
      rw [hnone] at hsome
      exact absurd hsome nofun
    · exact ⟨congrArg some (quarantinedPhone_of_held hprior), rfl⟩
  | @marked _ _ p _ _ hmark =>
    exact absurd ((hsettled p rfl).suspended hstatus.symm).1 (hmarks hmark p rfl)

theorem step_held (hlawful : Lawful db) (hapart : Apart db call)
    (hstatus : db.gateway.fleet.tenantStatus = .suspended)
    (hresume : call.2 ≠ .changeSuspension false) (c : String) :
    (step rt call db).2.phone c = db.phone c ∧
      (step rt call db).2.gateway.fleet.tenantStatus = .suspended := by
  rcases hapart.unsuspended rt with hunsuspended | ⟨hgateway, hphones⟩
  case inr => exact ⟨hphones c, hgateway ▸ hstatus⟩
  have hturn := step_turn rt call db c
  rw [hstatus] at hturn
  refine hturn.held (fun q hq => hstatus ▸ hlawful.settled c q hq) ?_ ?_ hresume
  · intro safeReason hcall q hq
    obtain ⟨now, operation⟩ := call
    obtain rfl : operation = _ := hcall
    exact hapart q hq
  · exact fun hmarks q hq => hunsuspended c q hmarks hq

theorem run_held
    (hrun : Run (step rt) (fun db call => Kept rt db call ∧ call.2 ≠ .changeSuspension false)
      db trace db') (hlawful : Lawful db) (hstatus : db.gateway.fleet.tenantStatus = .suspended) :
    Lawful db' ∧ db'.gateway.fleet.tenantStatus = .suspended ∧ ∀ c, db'.phone c = db.phone c := by
  refine hrun.invariant (P := fun db₁ => Lawful db₁ ∧
    db₁.gateway.fleet.tenantStatus = .suspended ∧ ∀ c, db₁.phone c = db.phone c) ?_
    ⟨hlawful, hstatus, fun _ => rfl⟩
  rintro db₁ call ⟨⟨hpromised, hapart⟩, hresume⟩ ⟨hlawful₁, hstatus₁, hphones⟩
  refine ⟨step_lawful hlawful₁ hpromised hapart,
    (step_held hlawful₁ hapart hstatus₁ hresume "").2, fun c => ?_⟩
  rw [(step_held hlawful₁ hapart hstatus₁ hresume c).1, hphones c]

theorem changeSuspension_step {suspend : Bool}
    (h : step rt (now, .changeSuspension suspend) db = (.done, db')) :
    db'.columns = db.columns ∧ Suspending suspend db.gateway db'.gateway := by
  revert h
  refine step_rule rt (now, .changeSuspension suspend) db nofun ?_
  rintro _ _ hperform ⟨⟩
  rw [perform] at hperform
  obtain ⟨_, hok, -, hcolumns⟩ := onGateway_ok hperform
  exact ⟨hcolumns, changeSuspension_suspending hok⟩

/-- A suspension and the resumption after it change no row, whatever is called in
between. -/
theorem suspension_round_trip {now' : Time} {db₁ db₂ db₃ : PhoneDatabase} (hlawful : Lawful db)
    (hactive : db.gateway.fleet.tenantStatus = .active)
    (hsuspend : step rt (now, .changeSuspension true) db = (.done, db₁))
    (hrun : Run (step rt) (fun db call => Kept rt db call ∧ call.2 ≠ .changeSuspension false)
      db₁ trace db₂) (hresume : step rt (now', .changeSuspension false) db₂ = (.done, db₃))
    (c : String) : db₃.phone c = db.phone c := by
  have hlawful₁ : Lawful db₁ := by
    have hstep : Lawful (step rt (now, .changeSuspension true) db).2 :=
      step_lawful hlawful trivial trivial
    rwa [hsuspend] at hstep
  obtain ⟨hcolumns, hsuspending⟩ := changeSuspension_step hsuspend
  cases hsuspending with
  | same _ hstatus =>
    rw [hactive, if_pos rfl] at hstatus
    exact absurd hstatus nofun
  | resumed hfalse => exact absurd hfalse nofun
  | suspended _ _ hafter _ hrows =>
    obtain ⟨-, hstatus₂, hphones⟩ := run_held hrun hlawful₁ hafter
    obtain ⟨hcolumns₂, hresuming⟩ := changeSuspension_step hresume
    cases hresuming with
    | same _ hstatus =>
      rw [hstatus₂, if_neg (by decide)] at hstatus
      exact absurd hstatus nofun
    | suspended htrue => exact absurd htrue nofun
    | resumed _ _ _ hrows₂ =>
      rw [phone_of_map hcolumns₂ (hrows₂ c), hphones c, phone_of_map hcolumns (hrows c),
        Option.map_map]
      cases hphone : db.phone c with
      | none => rfl
      | some p =>
        have hprior := (hlawful.settled c p hphone).active hactive
        exact congrArg some (resumedPhone_suspendedPhone hprior)

theorem perform_reply (h : perform rt now operation db = .ok (reply, db'))
    (e : Err) : reply ≠ .failed e := by
  cases operation with
  | saveConnection | commitPairedSession =>
    rw [(finishing_ok h).2]
    rintro ⟨⟩
  | beginPairing | restorePairing | reconcileStalePairings =>
    obtain ⟨_, -, rfl⟩ := replying_ok h
    rintro ⟨⟩
  | _ =>
    rw [perform] at h
    obtain ⟨_, -, rfl, -⟩ := onGateway_ok h
    rintro ⟨⟩

/-! ### Quarantine -/

def quarantinedBy : Operation → Reply → Option String
  | .quarantineBackfillConnection connectionId _, .done => some connectionId
  | _, _ => none

def quarantines (trace : List (Call × Reply)) : List String :=
  trace.filterMap fun observation => quarantinedBy observation.1.2 observation.2

/-- A connection whose suspension does not end with that of its tenant. -/
def Stopped (p : Phone) : Prop := p.1.state = .suspended ∧ Unheld p

theorem Turn.stopped {status status' : TenantStatus} {begun : Option String} {p : Phone}
    {p' : Option Phone} (h : Turn c operation status status' begun (some p) p')
    (hstopped : Stopped p)
    (hsave : ∀ record, operation = .saveConnection record → record.connectionId ≠ c)
    (hmarks : operation.marks = some c → p.1.state ≠ .suspended) :
    ∃ q, p' = some q ∧ Stopped q := by
  obtain ⟨hstate, hprior⟩ := hstopped
  cases h with
  | stay => exact ⟨p, rfl, hstate, hprior⟩
  | overwritten hid => exact absurd hid (hsave _ rfl)
  | begun now attemptId ttl hbegun =>
    rcases hbegun with hpairable | ⟨hpairing, -⟩
    · rw [hstate] at hpairable
      exact absurd hpairable nofun
    · rw [hstate] at hpairing
      exact absurd hpairing nofun
  | restored _ _ hpairing | committed _ _ hpairing =>
    rw [hstate] at hpairing
    exact absurd hpairing nofun
  | quarantined => exact ⟨_, rfl, rfl, hprior⟩
  | marked _ hmark => exact absurd hstate (hmarks hmark)
  | suspended =>
    refine ⟨_, rfl, ?_⟩
    rcases hprior with hnone | hsome
    · simp [suspendedPhone, hnone, ConnectionRow.suspend, Stopped, Unheld, hstate]
    · simp [suspendedPhone, hsome, Stopped, Unheld, hstate]
  | resumed =>
    refine ⟨_, rfl, ?_⟩
    rcases hprior with hnone | hsome
    · simp [resumedPhone, hnone, Stopped, Unheld, hstate]
    · simp [resumedPhone, hsome, hstate, ConnectionRow.resume, Stopped, Unheld]

theorem step_stopped {p : Phone} (hpromised : Promised rt db call) (hapart : Apart db call)
    (hphone : db.phone c = some p) (hstopped : Stopped p) :
    ∃ q, (step rt call db).2.phone c = some q ∧ Stopped q := by
  rcases hapart.unsuspended rt with hunsuspended | ⟨-, hphones⟩
  case inr => exact ⟨p, (hphones c).trans hphone, hstopped⟩
  have hturn := step_turn rt call db c
  rw [hphone] at hturn
  refine hturn.stopped hstopped ?_ fun hmarks => hunsuspended c p hmarks hphone
  intro record hcall hid
  obtain ⟨now, operation⟩ := call
  obtain rfl : operation = _ := hcall
  have hnew : db.phone record.connectionId = none := hpromised.2
  rw [hid, hphone] at hnew
  exact absurd hnew nofun

theorem quarantine_stopped (hapart : Apart db call)
    (h : quarantinedBy call.2 (step rt call db).1 = some c) :
    ∃ q, (step rt call db).2.phone c = some q ∧ Stopped q := by
  obtain ⟨now, operation⟩ := call
  cases operation with
  | quarantineBackfillConnection connectionId safeReason =>
    revert h
    refine step_rule rt (now, .quarantineBackfillConnection connectionId safeReason) db
      (by rintro _ _ ⟨⟩) fun reply db' hperform h => ?_
    rw [perform] at hperform
    obtain ⟨_, hok, rfl, hcolumns⟩ := onGateway_ok hperform
    obtain rfl : connectionId = c := Option.some.inj h
    obtain ⟨-, r, hrow, hpaired, hrows⟩ := quarantineBackfillConnection_row hok
    obtain ⟨k, hk⟩ : ∃ k, db.phone connectionId = some (r, k) := phone_of_connection hrow
    have hafter := phone_of_map hcolumns (hrows connectionId)
    rw [hk, Option.map_some, if_pos rfl] at hafter
    exact ⟨_, hafter, rfl, hapart (r, k) hk⟩
  | _ => cases h

theorem run_stopped (hrun : Run (step rt) (Kept rt) (newTenant tenantId) trace db) :
    ∀ c ∈ quarantines trace, ∃ p, db.phone c = some p ∧ Stopped p := by
  refine hrun.invariant_trace (P := fun trace db =>
    ∀ c ∈ quarantines trace, ∃ p, db.phone c = some p ∧ Stopped p) ?_ (by simp [quarantines])
  intro trace db call hkept ih c hc
  rw [quarantines, List.filterMap_append, List.mem_append] at hc
  rcases hc with hc | hc
  · obtain ⟨p, hphone, hstopped⟩ := ih c hc
    exact step_stopped hkept.1 hkept.2 hphone hstopped
  · refine quarantine_stopped hkept.2 ?_
    simpa using hc

/-! ### The law -/

/-- The law of suspensions in a state that `trace` has led to. -/
structure SuspensionLaw (rt : Runtime) (trace : List (Call × Reply)) (db : PhoneDatabase) :
    Prop where
  /-- a suspended tenant has only suspended connections -/
  suspended : db.gateway.fleet.tenantStatus = .suspended →
    ∀ c p, db.phone c = some p → p.1.state = .suspended
  /-- `Suspend`, any calls but `Resume`, and `Resume` leave every row as it was -/
  roundTrip : ∀ now now' later db₁ db₂ db₃, db.gateway.fleet.tenantStatus = .active →
    step rt (now, .changeSuspension true) db = (.done, db₁) →
    Run (step rt) (fun db call => Kept rt db call ∧ call.2 ≠ .changeSuspension false) db₁ later
      db₂ →
    step rt (now', .changeSuspension false) db₂ = (.done, db₃) → ∀ c, db₃.phone c = db.phone c
  /-- a connection that has been quarantined is suspended -/
  quarantined : ∀ c ∈ quarantines trace, ∃ p, db.phone c = some p ∧ p.1.state = .suspended
  /-- a call that fails is not rejected by a constraint -/
  noViolation : ∀ call e, Kept rt db call → (step rt call db).1 = .failed e → isViolation e = false

/-- In every run that keeps the tenant's suspension and quarantines apart, a
suspended tenant has only suspended connections, a suspension is undone exactly, a
quarantine survives it, and no call violates a constraint. -/
theorem suspension_law_when_apart (rt : Runtime) {trace : List (Call × Reply)}
    {db : PhoneDatabase} (hrun : Run (step rt) (Kept rt) (newTenant tenantId) trace db) :
    SuspensionLaw rt trace db := by
  have hlawful := run_lawful hrun
  refine ⟨?_, ?_, ?_, ?_⟩
  · intro hstatus c p hphone
    exact ((hlawful.settled c p hphone).suspended hstatus).1
  · intro now now' later db₁ db₂ db₃ hactive hsuspend hlater hresume
    exact suspension_round_trip hlawful hactive hsuspend hlater hresume
  · intro c hc
    obtain ⟨p, hphone, hstopped⟩ := run_stopped hrun c hc
    exact ⟨p, hphone, hstopped.1⟩
  · intro call e hkept hfailed
    revert hfailed
    refine step_rule rt call db (fun e' hperform hfailed => ?_) fun reply db' hperform hfailed => ?_
    · rw [← Reply.failed.inj hfailed]
      exact perform_unrejected hlawful hkept.1 hkept.2 e' hperform
    · -- no operation answers with a failure
      exact absurd hfailed (perform_reply hperform e)

end

/-! ### A quarantine before a suspension, and one during it -/

theorem forall_phone {db : PhoneDatabase} {c : String} {P : Phone → Prop} [DecidablePred P]
    (h : (db.phone c).all (fun p => decide (P p)) = true) (p : Phone)
    (hphone : db.phone c = some p) : P p := by
  rw [hphone, Option.all_some, decide_eq_true_iff] at h
  exact h

theorem fingerprint_free {db : PhoneDatabase} {c : String}
    (h : ∀ k ∈ db.columns, k.providerDeviceFingerprint = some fingerprint → k.connectionId = c)
    (d : String) (p : Phone) (hphone : db.phone d = some p)
    (hsame : p.2.providerDeviceFingerprint = some fingerprint) : d = c := by
  have hcolumns := (phone_eq_some.1 hphone).2
  rw [← h p.2 (Table.mem_of_find? hcolumns) hsame, Table.key_of_find? hcolumns]

def phonePaired : List Call :=
  [(1, .saveConnection { connectionId := "phone", name := "front desk" }),
    (2, .beginPairing "phone" "attempt-1" 10),
    (3, .commitPairedSession "phone" "attempt-1" phoneSecret (List.replicate 32 1)),
    (4, .acquireConnectionLease "phone" "replica" 1000000)]

def quarantinedFirst : List Call :=
  phonePaired ++ [(5, .quarantineBackfillConnection "phone" .providerProtocol),
    (6, .changeSuspension true), (7, .quarantineBackfillConnection "phone" .providerProtocol),
    (8, .markReauthorizationRequiredFenced 8 "phone" "replica" 2 "event-1"),
    (9, .changeSuspension false)]

theorem quarantinedFirst_lawful :
    SuspensionLaw phoneRuntime
        (execute (step phoneRuntime) quarantinedFirst (newTenant "tenant")).1
        (execute (step phoneRuntime) quarantinedFirst (newTenant "tenant")).2 ∧
      quarantines (execute (step phoneRuntime) quarantinedFirst (newTenant "tenant")).1 =
        ["phone", "phone"] := by
  refine ⟨suspension_law_when_apart phoneRuntime (.of_inputs quarantinedFirst ?_),
    by decide +kernel⟩
  simp only [quarantinedFirst, phonePaired, List.cons_append, List.nil_append, AllAllowed, Kept,
    Promised, NewConnection, Apart, and_true, true_and]
  refine ⟨rfl, ⟨by decide +kernel, ?_⟩, by decide +kernel, ?_, ?_,
    ⟨by decide, fun _ _ _ => Nat.le_of_ble_eq_true rfl⟩, fun howns => absurd howns ?_⟩
  · exact fingerprint_free (by decide +kernel)
  · exact forall_phone (by decide +kernel)
  · exact forall_phone (by decide +kernel)
  · decide +kernel

def suspendedFirst : List Call :=
  phonePaired ++ [(5, .changeSuspension true),
    (6, .quarantineBackfillConnection "phone" .providerProtocol), (7, .changeSuspension false)]

/-- `Resume` lifts a quarantine that came during the suspension, and a mark of a
connection of a suspended tenant violates the constraint of the column. -/
theorem suspendedFirst_lifts_quarantine :
    quarantines (execute (step phoneRuntime) suspendedFirst (newTenant "tenant")).1 = ["phone"] ∧
      ((execute (step phoneRuntime) suspendedFirst (newTenant "tenant")).2.phone "phone").map
        (fun p => p.1.state) = some .connected ∧
      (step phoneRuntime (6, .markReauthorizationRequired 6 "phone" "event-1")
        (execute (step phoneRuntime) (phonePaired ++ [(5, .changeSuspension true)])
          (newTenant "tenant")).2).1 = .failed (checkViolation "mark reauthorization required") ∧
      isViolation (checkViolation "mark reauthorization required") = true := by
  refine ⟨?_, ?_, ?_, ?_⟩ <;> decide +kernel

end MessagingGateway.Pairing
