import MessagingGateway.Actor.Sessions

/-!
# The sessions of a run in the store

Whoever changes the session row of a connection raises its revision, so a row that
still has the revision of the actor is the one that the actor loaded or wrote. With
the order of the sessions in a run this gives what is stored when a generation ends.
-/

namespace MessagingGateway.Actor

open Relational Store

variable {rt : Runtime} {now : Time} {db db' db : Database} {connectionId ownerId : String}
  {fencingToken expectedRevision : Nat} {vault : Vault} {snapshot : SessionSnapshot} {s s : Setting}
  {plaintext : Bytes} {w w w' : World} {trace : List (WorldInput × Output)}

/-! ### Writers of the session row -/

def Advances (db db' : Database) : Prop :=
  ∀ connectionId row, db.fleet.sessions.find? connectionId = some row →
    ∃ row', db'.fleet.sessions.find? connectionId = some row' ∧
      (row' = row ∨ row.revision < row'.revision)

theorem Advances.of_sessions (h : db'.fleet.sessions = db.fleet.sessions) : Advances db db' :=
  fun _ row hrow => ⟨row, h ▸ hrow, .inl rfl⟩

theorem Advances.of_fleet (h : db'.fleet = db.fleet) : Advances db db' :=
  .of_sessions (by rw [h])

theorem Advances.trans {db'' : Database} (h : Advances db db') (h' : Advances db' db'') :
    Advances db db'' := by
  intro connectionId row hrow
  obtain ⟨row', hrow', hadvance⟩ := h connectionId row hrow
  obtain ⟨row'', hrow'', hadvance'⟩ := h' connectionId row' hrow'
  refine ⟨row'', hrow'', ?_⟩
  rcases hadvance with rfl | hlt
  · exact hadvance'
  · rcases hadvance' with rfl | hlt'
    · exact .inr hlt
    · exact .inr (hlt.trans hlt')

theorem Advances.write (db : Database) (connectionId : String) (envelope : SessionEnvelope) :
    Advances db (db.setSessions (db.fleet.sessions.update (fun r => r.connectionId == connectionId)
      (fun r => { r with envelope := envelope, revision := r.revision + 1 }))) := by
  intro c row hrow
  simp only [Database.setSessions, Table.find?_update, hrow, Option.map_some, Option.some.injEq,
    exists_eq_left']
  split
  · exact .inr (Nat.lt_succ_self _)
  · exact .inl rfl

variable {α : Type} {tx : Tx (α × Database)} {envelope : SessionEnvelope} {m : Moment}
  {input : Input}

theorem compareAndSwapEncryptedSessionFenced_advances {swapped : Bool}
    (h : compareAndSwapEncryptedSessionFenced now connectionId ownerId fencingToken
      expectedRevision envelope db = .ok (swapped, db')) : Advances db db' := by
  simp only [compareAndSwapEncryptedSessionFenced, bind_ok] at h
  obtain ⟨-, -, h⟩ := h
  split at h <;> rw [pure_pair] at h <;> obtain ⟨-, rfl⟩ := h
  · exact .write db connectionId envelope
  · exact .of_fleet rfl

theorem compareAndSwapEncryptedSession_advances {swapped : Bool}
    (h : compareAndSwapEncryptedSession connectionId expectedRevision envelope db =
      .ok (swapped, db')) : Advances db db' := by
  simp only [compareAndSwapEncryptedSession, bind_ok] at h
  obtain ⟨-, -, h⟩ := h
  split at h <;> rw [pure_pair] at h <;> obtain ⟨-, rfl⟩ := h
  · exact .write db connectionId envelope
  · exact .of_fleet rfl

theorem commitEncryptedSession_advances
    (h : Pairing.commitEncryptedSession connectionId envelope db = .ok db') : Advances db db' := by
  simp only [Pairing.commitEncryptedSession, bind_ok] at h
  obtain ⟨-, -, h⟩ := h
  split at h
  · next hnone =>
      simp only [bind_ok, orFail_ok, pure_ok] at h
      obtain ⟨sessions, hinsert, rfl⟩ := h
      intro c row hrow
      refine ⟨row, ?_, .inl rfl⟩
      have hne : connectionId ≠ c := fun heq => by
        rw [← heq, hnone] at hrow
        cases hrow
      exact (Table.find?_insert_of_ne hinsert hne).trans hrow
  · rw [pure_ok] at h
    subst h
    exact .write db connectionId envelope

/-! ### Calls that leave the sessions as they are -/

theorem markReauthorizationRequiredFenced_sessions {occurredAt : Time} {newEventId : String}
    {marked : Bool}
    (h : markReauthorizationRequiredFenced rt now occurredAt connectionId ownerId fencingToken
      newEventId db = .ok (marked, db')) : db'.fleet.sessions = db.fleet.sessions := by
  obtain ⟨-, rfl⟩ | ⟨_, _, -, -, -, hevent⟩ := markReauthorizationRequiredFenced_ok h
  · rfl
  · obtain ⟨events, rfl⟩ := insertReauthorizationEvent_ok hevent
    rfl

theorem gateway_perform_advances {op : Gateway.Operation} {reply : Gateway.Reply}
    (h : Gateway.perform rt now op db = .ok (reply, db')) : Advances db db' := by
  have hbeside (hmessages : op.onMessages = true) : Advances db db' :=
    .of_fleet (Gateway.perform_beside hmessages h).fleet
  cases op <;> simp only [Gateway.perform] at h <;> obtain ⟨result, hop, rfl⟩ := replying_ok h
  any_goals exact hbeside rfl
  case acquireConnectionLease =>
    obtain ⟨_, rfl⟩ := acquireConnectionLease_ok hop
    exact .of_sessions rfl
  case renewConnectionLease =>
    obtain ⟨_, rfl⟩ := renewConnectionLease_ok hop
    exact .of_sessions rfl
  case releaseConnectionLease => exact .of_sessions (releaseConnectionLease_sameRows hop).2
  case quarantineBackfillConnection =>
    obtain ⟨_, _, -, -, rfl⟩ := quarantineBackfillConnection_ok hop
    exact .of_sessions rfl
  case markReauthorizationRequired =>
    obtain ⟨_, -, ⟨_, -, -, hevent⟩ | ⟨_, -, -, -, hevent⟩⟩ := markReauthorizationRequired_ok hop
    all_goals
      obtain ⟨events, rfl⟩ := insertReauthorizationEvent_ok hevent
      exact .of_sessions rfl
  case markReauthorizationRequiredFenced =>
    exact .of_sessions (markReauthorizationRequiredFenced_sessions hop)
  case changeSuspension =>
    obtain ⟨rfl, -⟩ | ⟨-, -, -, rfl⟩ | ⟨-, -, rfl⟩ := changeSuspension_ok hop <;>
      exact .of_sessions rfl
  case writeConnectionHealthFenced =>
    exact .of_sessions (writeConnectionHealthFenced_sameRows hop).2
  case compareAndSwapEncryptedSessionFenced =>
    exact compareAndSwapEncryptedSessionFenced_advances hop
  case commitEnvelope => exact .of_fleet (commitEnvelope_fleet hop)
  case markProviderACKedFenced =>
    obtain rfl | rfl := markProviderACKedFenced_ok hop <;> exact .of_fleet rfl
  case coordinateProviderACKsFenced =>
    obtain rfl | rfl | ⟨_, rfl⟩ := coordinateProviderACKsFenced_ok hop <;> exact .of_sessions rfl
  case listPendingProviderACKsFenced =>
    obtain rfl := listPendingProviderACKsFenced_ok hop
    exact .of_fleet rfl

theorem gateway_step_advances (rt : Runtime) (call : Gateway.Call) (db : Database) :
    Advances db (Gateway.step rt call db).2 := by
  refine Gateway.step_rule rt call db (fun _ _ => .of_fleet rfl) fun reply db' hperform => ?_
  exact gateway_perform_advances hperform

/-! ### The store calls of a run -/

theorem Fault.call_advances (fault : Fault)
    (h : ∀ a db', tx = .ok (a, db') → Advances db db') : Advances db (fault.call tx db).2 := by
  have refl : Advances db db := .of_fleet rfl
  rcases fault with _ | causes | causes <;> rcases htx : tx with e | ⟨a, db'⟩
  · exact refl
  · exact h a db' htx
  · exact refl
  · exact refl
  · exact refl
  · exact h a db' htx

theorem underContext_advances (c : Control) (fault : Fault)
    (h : ∀ a db', tx = .ok (a, db') → Advances db db') :
    Advances db (c.underContext fault tx db).2 := by
  unfold Control.underContext
  split
  · exact .of_fleet rfl
  · exact fault.call_advances h

theorem perform_advances (s : Setting) (m : Moment) (c : Control) (db : Database)
    (call : StoreCall) : Advances db (call.perform s m c db).2 := by
  cases call with
  | acquire =>
    refine underContext_advances c m.fault fun _ _ h => ?_
    obtain ⟨_, rfl⟩ := acquireConnectionLease_ok h
    exact .of_sessions rfl
  | check =>
    refine underContext_advances c m.fault fun _ _ h => ?_
    simp only [getConnectionState, bind_ok, pure_pair] at h
    obtain ⟨_, _, _, rfl⟩ := h
    exact .of_fleet rfl
  | load =>
    refine underContext_advances c m.fault fun _ _ h => ?_
    simp only [loadVersioned, bind_ok, pure_pair] at h
    obtain ⟨_, _, _, _, _, _, _, rfl⟩ := h
    exact .of_fleet rfl
  | renew =>
    refine underContext_advances c m.fault fun _ _ h => ?_
    obtain ⟨_, rfl⟩ := renewConnectionLease_ok h
    exact .of_sessions rfl
  | writeHealth health =>
    exact underContext_advances c m.fault fun _ _ h =>
      .of_sessions (writeConnectionHealthFenced_sameRows h).2
  | writeSession plaintext =>
    refine m.fault.call_advances fun _ _ h => ?_
    simp only [compareAndSwapFenced, bind_ok] at h
    obtain ⟨_, _, h⟩ := h
    exact compareAndSwapEncryptedSessionFenced_advances h
  | mark =>
    exact underContext_advances c m.fault fun _ _ h =>
      .of_sessions (markReauthorizationRequiredFenced_sessions h)

theorem World.resolve_advances (s : Setting) (m : Moment) (input : Input) (w : World) :
    Advances w.db (w.resolve s m input).2 := by
  unfold World.resolve
  split
  · exact .of_fleet rfl
  · exact perform_advances s m w.control w.db _

theorem World.step_advances (s : Setting) (input : WorldInput) (w : World) :
    Advances w.db (World.step s input w).2.db := by
  cases input with
  | run m input =>
    exact (w.resolve_advances s m input).trans
      (.of_sessions (partWith_sameRows s m w.control _ _ _).2)
  | gateway call => exact gateway_step_advances s.rt call w.db
  | saveSession connectionId envelope =>
    show Advances w.db (settled w.db (Pairing.commitEncryptedSession connectionId envelope w.db) id)
    rcases htx : Pairing.commitEncryptedSession connectionId envelope w.db with e | db'
    · exact .of_fleet rfl
    · exact commitEncryptedSession_advances htx
  | swapSession connectionId expectedRevision envelope =>
    show Advances w.db (settled w.db (compareAndSwapEncryptedSession connectionId expectedRevision
      envelope w.db) Prod.snd)
    rcases htx : compareAndSwapEncryptedSession connectionId expectedRevision envelope w.db with
      e | ⟨swapped, db'⟩
    · exact .of_fleet rfl
    · exact compareAndSwapEncryptedSession_advances htx

/-! ### The row of the actor -/

def Holding (vault : Vault) (db : Database) (connectionId : String) (snapshot : SessionSnapshot) :
    Prop :=
  ∃ row, db.fleet.sessions.find? connectionId = some row ∧ row.revision = snapshot.revision ∧
    vault.openSession row.envelope = some snapshot.plaintext

/-- The row is not older than the snapshot of the actor, and the same session if it
has the same revision. -/
def Saved (vault : Vault) (db : Database) (connectionId : String) (snapshot : SessionSnapshot) :
    Prop :=
  ∃ row, db.fleet.sessions.find? connectionId = some row ∧ snapshot.revision ≤ row.revision ∧
    (row.revision = snapshot.revision → vault.openSession row.envelope = some snapshot.plaintext)

theorem Holding.saved (h : Holding vault db connectionId snapshot) :
    Saved vault db connectionId snapshot := by
  obtain ⟨row, hrow, hrevision, hopen⟩ := h
  exact ⟨row, hrow, hrevision.ge, fun _ => hopen⟩

theorem Saved.advances (h : Saved vault db connectionId snapshot) (hadvances : Advances db db') :
    Saved vault db' connectionId snapshot := by
  obtain ⟨row, hrow, hle, hopen⟩ := h
  obtain ⟨row', hrow', heq | hlt⟩ := hadvances connectionId row hrow
  · exact ⟨row', hrow', heq ▸ hle, fun hrevision => heq ▸ hopen (heq ▸ hrevision)⟩
  · exact ⟨row', hrow', by omega, fun hrevision => by omega⟩

theorem compareAndSwapFenced_holding {c : Control}
    (h : compareAndSwapFenced s m c plaintext db = .ok (true, db')) :
    Holding s.vault db' c.key.connectionId ⟨plaintext, c.snapshot.revision + 1⟩ := by
  simp only [compareAndSwapFenced, bind_ok, orFail_ok, compareAndSwapEncryptedSessionFenced] at h
  obtain ⟨envelope, hseal, -, -, h⟩ := h
  split at h
  · next hcurrent =>
      simp only [pure_pair, true_and] at h
      subst h
      rw [Bool.and_eq_true] at hcurrent
      obtain ⟨row, hrow, hrevision⟩ := (Option.any_eq_true _ _).1 hcurrent.2
      refine ⟨{ row with envelope := envelope, revision := row.revision + 1 }, ?_, ?_, ?_⟩
      · have hkey : row.connectionId = c.key.connectionId := Table.key_of_find? hrow
        simp [Database.setSessions, Table.find?_update, hrow, hkey]
      · rw [beq_iff_eq] at hrevision
        exact congrArg (· + 1) hrevision
      · exact s.vault.opens hseal
  · simp [pure_ok] at h

theorem loadVersioned_holding (h : loadVersioned vault connectionId db = .ok (snapshot, db')) :
    Holding vault db connectionId snapshot ∧ db' = db := by
  simp only [loadVersioned, bind_ok, orFail_ok, pure_pair] at h
  obtain ⟨row, hrow, -, -, plaintext, hopen, rfl, rfl⟩ := h
  exact ⟨⟨row, hrow, rfl, hopen⟩, rfl⟩

theorem Holding.sameRows (h : Holding vault db connectionId snapshot) (hsame : SameRows db db') :
    Holding vault db' connectionId snapshot := by
  rw [Holding, hsame.2]
  exact h

theorem Fault.call_ok {fault : Fault} {a : α}
    (h : (fault.call tx db).1 = .ok a) : tx = .ok (a, (fault.call tx db).2) := by
  rcases fault with _ | causes | causes <;> rcases tx with e | ⟨a', db'⟩ <;> cases h
  rfl

theorem underContext_ok {c : Control} {fault : Fault} {a : α}
    (h : (c.underContext fault tx db).1 = .ok a) :
    tx = .ok (a, (c.underContext fault tx db).2) := by
  unfold Control.underContext at h ⊢
  split at h
  · cases h
  · next hlive =>
      rw [if_neg hlive]
      exact Fault.call_ok h

theorem calls_answered (c : Control) (input : Input) (answer : Answer) :
    c.calls (input.answered answer) = c.calls input := by
  cases input <;> cases answer <;> first
    | rfl
    | (simp only [Input.answered, Control.calls]; cases c.phase <;> rfl)

theorem resolve_calls (s : Setting) (m : Moment) (input : Input) (w : World) :
    w.control.calls (w.resolve s m input).1 = w.control.calls input := by
  unfold World.resolve
  split
  · rfl
  · exact calls_answered w.control input _

theorem answered_written {reply : StoreReply}
    (h : input.answered (.done reply) = .debounce (.ok true) ∨
      input.answered (.done reply) = .flush (.ok true))
    (hcalls : ∃ c : Control, ∃ plaintext, c.calls input = some (.writeSession plaintext)) :
    reply = .ok true := by
  cases input <;> simp_all [Input.answered]

/-- A session that a step writes is the one in the row, under the revision of the
actor. -/
theorem World.step_written (h : (World.step s (.run m input) w).1 = .written plaintext) :
    (World.step s (.run m input) w).2.control.snapshot =
        ⟨plaintext, w.control.snapshot.revision + 1⟩ ∧
      Holding s.vault (World.step s (.run m input) w).2.db w.control.key.connectionId
        (World.step s (.run m input) w).2.control.snapshot := by
  have hcontrol : (Control.step (w.resolve s m input).1 w.control).1 = .written plaintext := h
  obtain ⟨hcalls, hinput, hsnapshot⟩ := Control.step_written hcontrol
  rw [resolve_calls] at hcalls
  have hresolve : w.resolve s m input = (input.answered (.done
      (m.fault.call (compareAndSwapFenced s m w.control plaintext w.db) w.db).1),
      (m.fault.call (compareAndSwapFenced s m w.control plaintext w.db) w.db).2) := by
    rw [World.resolve, hcalls]
    rfl
  rw [hresolve] at hinput
  have hswap := Fault.call_ok (answered_written hinput ⟨_, _, hcalls⟩)
  refine ⟨hsnapshot, ?_⟩
  have hholding := compareAndSwapFenced_holding hswap
  rw [show (World.step s (.run m input) w).2.control.snapshot = _ from hsnapshot]
  refine Holding.sameRows ?_ (partWith_sameRows s m w.control _ _ _)
  rw [hresolve]
  exact hholding

theorem World.step_loading (h : w.control.phase = .loading) :
    (World.step s (.run m input) w).2.control.snapshot = w.control.snapshot ∨
      Holding s.vault (World.step s (.run m input) w).2.db w.control.key.connectionId
        (World.step s (.run m input) w).2.control.snapshot := by
  rcases @Control.step_loading (w.resolve s m input).1 _ h with
    hsame | ⟨snapshot, hload, hsnapshot⟩
  · exact .inl hsame
  · right
    rw [show (World.step s (.run m input) w).2.control.snapshot = _ from hsnapshot]
    refine Holding.sameRows ?_ (partWith_sameRows s m w.control _ _ _)
    have hcalls : w.control.calls input = some .load := by
      rw [← resolve_calls s m input w, hload]
      simp [Control.calls, h]
    have hresolve : w.resolve s m input = (input.answered (.snapshot (w.control.underContext m.fault
        (loadVersioned s.vault w.control.key.connectionId w.db) w.db).1),
        (w.control.underContext m.fault
          (loadVersioned s.vault w.control.key.connectionId w.db) w.db).2) := by
      rw [World.resolve, hcalls]
      rfl
    rw [hresolve] at hload ⊢
    have hreply : (w.control.underContext m.fault
        (loadVersioned s.vault w.control.key.connectionId w.db) w.db).1 = .ok snapshot := by
      cases input <;> simp_all [Input.answered, Control.calls]
    obtain ⟨hholding, hdb⟩ := loadVersioned_holding (underContext_ok hreply)
    rw [hdb]
    exact hholding

/-- The row against the snapshot of the actor, once it has loaded one. -/
def World.Kept (s : Setting) (w : World) : Prop :=
  w.control.snapshot = ⟨[], 0⟩ ∨
    Saved s.vault w.db w.control.key.connectionId w.control.snapshot

theorem World.Kept.of_advances (h : w.Kept s) (hadvances : Advances w.db w'.db)
    (hkey : w'.control.key = w.control.key) (hsnapshot : w'.control.snapshot = w.control.snapshot) :
    w'.Kept s := by
  rw [World.Kept, hkey, hsnapshot]
  exact h.imp_right fun hsaved => hsaved.advances hadvances

theorem World.Kept.step (h : w.Kept s) (input : WorldInput) : (World.step s input w).2.Kept s := by
  have hadvances := World.step_advances s input w
  cases input with
  | run m input =>
    have hmove := Control.step_move (w.resolve s m input).1 w.control
    have hkey : (World.step s (.run m input) w).2.control.key = w.control.key := hmove.key_eq
    have holding : Holding s.vault (World.step s (.run m input) w).2.db w.control.key.connectionId
        (World.step s (.run m input) w).2.control.snapshot →
        (World.step s (.run m input) w).2.Kept s := fun hholding => by
      rw [World.Kept, hkey]
      exact .inr hholding.saved
    rcases hmove.snapshot_cases with hsame | ⟨plaintext, hwritten⟩ | hloading
    · exact h.of_advances hadvances hkey hsame
    · exact holding (World.step_written hwritten).2
    · rcases World.step_loading hloading with hsame | hholding
      · exact h.of_advances hadvances hkey hsame
      · exact holding hholding
  | gateway call | saveSession connectionId envelope
  | swapSession connectionId expectedRevision envelope => exact h.of_advances hadvances rfl rfl

/-! ### Whole runs -/

def passed (trace : List (WorldInput × Output)) : List Bytes :=
  trace.filterMap fun e => match e.1 with
    | .run _ (.sessionChanged _ plaintext) => some plaintext
    | _ => none

def accepted (trace : List (WorldInput × Output)) : List Bytes :=
  trace.flatMap fun e => Control.acceptedOf e.2

def written (trace : List (WorldInput × Output)) : List Bytes :=
  trace.flatMap fun e => Control.writtenOf e.2

/-- Every session that the provider passes is an encoded one, which is not empty. -/
def Encoded (trace : List (WorldInput × Output)) : Prop :=
  ∀ plaintext ∈ passed trace, plaintext ≠ []

theorem passed_concat (trace : List (WorldInput × Output)) (e : WorldInput × Output) :
    passed (trace ++ [e]) = passed trace ++ passed [e] := List.filterMap_append

theorem accepted_concat (trace : List (WorldInput × Output)) (e : WorldInput × Output) :
    accepted (trace ++ [e]) = accepted trace ++ Control.acceptedOf e.2 := by
  simp [accepted]

theorem written_concat (trace : List (WorldInput × Output)) (e : WorldInput × Output) :
    written (trace ++ [e]) = written trace ++ Control.writtenOf e.2 := by
  simp [written]

theorem accepted_getLast? (trace : List (WorldInput × Output)) (e : WorldInput × Output) :
    (accepted (trace ++ [e])).getLast? = Control.lastAfter (accepted trace).getLast? e.2 := by
  rw [accepted_concat]
  rcases e.2 with _ | plaintext | plaintext
  · simp [Control.acceptedOf, Control.lastAfter]
  · simp [Control.acceptedOf, Control.lastAfter]
  · simp [Control.acceptedOf, Control.lastAfter]

theorem World.step_accepted {input : WorldInput}
    (h : (World.step s input w).1 = .accepted plaintext) :
    ∃ m generation, input = .run m (.sessionChanged generation plaintext) := by
  cases input with
  | run m input =>
    have hcontrol : (Control.step (w.resolve s m input).1 w.control).1 = .accepted plaintext := h
    obtain ⟨generation, hinput⟩ := Control.step_accepted hcontrol
    have hcalls : w.control.calls input = none := by
      rw [← resolve_calls s m input w, hinput]
      simp [Control.calls]
    rw [World.resolve, hcalls] at hinput
    exact ⟨m, generation, congrArg (WorldInput.run m) hinput⟩
  | gateway call => cases h
  | saveSession connectionId envelope => cases h
  | swapSession connectionId expectedRevision envelope => cases h

theorem World.step_accepted_passed (s : Setting) (input : WorldInput) (w : World) :
    (Control.acceptedOf (World.step s input w).1).Sublist
      (passed [(input, (World.step s input w).1)]) := by
  cases houtput : (World.step s input w).1 with
  | accepted plaintext =>
    obtain ⟨m, generation, rfl⟩ := World.step_accepted houtput
    exact .refl _
  | _ => exact List.nil_sublist _

theorem World.step_control (s : Setting) (input : WorldInput) (w : World) :
    Control.Move w.control (World.step s input w).1 (World.step s input w).2.control := by
  cases input with
  | run m input => exact Control.step_move (w.resolve s m input).1 w.control
  | gateway call | saveSession connectionId envelope
  | swapSession connectionId expectedRevision envelope => exact .same

structure Persisted (s : Setting) (trace : List (WorldInput × Output)) (w : World) : Prop where
  accepted : (Actor.accepted trace).Sublist (passed trace)
  order : (written trace ++ w.control.unwritten).Sublist (Actor.accepted trace)
  mailbox : Encoded trace → ∀ session, w.control.mailbox = some session → session ≠ []
  fresh : Encoded trace → w.control.Fresh (Actor.accepted trace).getLast?
  kept : w.Kept s

theorem Encoded.of_concat {e : WorldInput × Output} (h : Encoded (trace ++ [e])) :
    Encoded trace := fun plaintext hmem =>
  h plaintext (by rw [passed_concat]; exact List.mem_append_left _ hmem)

theorem Persisted.step {trace : List (WorldInput × Output)}
    (h : Persisted s trace w) (input : WorldInput) :
    Persisted s (trace ++ [(input, (World.step s input w).1)]) (World.step s input w).2 := by
  have hmove := World.step_control s input w
  have hpassed := World.step_accepted_passed s input w
  constructor
  case accepted =>
      rw [accepted_concat, passed_concat]
      exact h.accepted.append hpassed
  case order =>
      rw [accepted_concat, written_concat, List.append_assoc]
      have hstep := List.Sublist.append_left hmove.unwritten (written trace)
      rw [← List.append_assoc (written trace) w.control.unwritten] at hstep
      exact hstep.trans (h.order.append_right _)
  case mailbox =>
      intro hencoded
      refine hmove.mailbox_ne (fun plaintext houtput => ?_) (h.mailbox hencoded.of_concat)
      obtain ⟨m, generation, rfl⟩ := World.step_accepted houtput
      refine hencoded plaintext ?_
      rw [passed_concat]
      exact List.mem_append_right _ (List.mem_singleton.2 rfl)
  case fresh =>
      intro hencoded
      rw [accepted_getLast?]
      exact hmove.fresh (h.mailbox hencoded.of_concat) (h.fresh hencoded.of_concat)
  case kept => exact h.kept.step input

theorem Worlds.persisted {key : Key}
    (hrun : Worlds s { control := { key := key }, db := db } trace w) : Persisted s trace w := by
  refine hrun.invariant_trace (P := Persisted s) (fun trace w input _ h => h.step input) ?_
  refine ⟨.refl _, .refl _, fun _ => nofun, fun _ => ?_, .inl rfl⟩
  exact ⟨rfl, rfl, rfl⟩

theorem Worlds.returned {err : Failure} (hrun : Worlds s w trace w')
    (h : w.control.phase = .returned err) : w'.control.phase = .returned err :=
  hrun.invariant (P := fun w => w.control.phase = .returned err)
    (fun w input _ hw => (World.step_control s input w).returned_eq hw) h

theorem answered_settle (mark : StoreReply) (answer : Answer) :
    ∃ mark', (Input.settle mark).answered answer = .settle mark' := by
  cases answer <;> exact ⟨_, rfl⟩

theorem World.step_settle (s : Setting) (m : Moment) (mark : StoreReply) {swap : StoreReply}
    (h : w.control.phase = .settling swap) :
    (World.step s (.run m (.settle mark)) w).1 = .quiet ∧
      ((World.step s (.run m (.settle mark)) w).2.control.phase.isPausing = true ∨
        ∃ err, (World.step s (.run m (.settle mark)) w).2.control.phase = .returned err) := by
  obtain ⟨mark', hinput⟩ : ∃ mark', (w.resolve s m (.settle mark)).1 = .settle mark' := by
    unfold World.resolve
    split
    · exact ⟨mark, rfl⟩
    · exact answered_settle mark _
  have hstep : Control.step (w.resolve s m (.settle mark)).1 w.control =
      (.quiet, w.control.settle swap mark') := by
    rw [hinput, Control.step_settle mark' h]
  refine ⟨congrArg Prod.fst hstep, ?_⟩
  rw [show (World.step s (.run m (.settle mark)) w).2.control = _ from congrArg Prod.snd hstep]
  rcases Control.settle_cases w.control swap mark' with
    ⟨_, _, _, health, heq⟩ | ⟨health, err, heq, _⟩
  · rw [heq]
    exact .inl rfl
  · rw [heq]
    exact .inr ⟨err, rfl⟩

theorem Persisted.stored (h : Persisted s trace w) (hencoded : Encoded trace)
    (hpausing : w.control.phase.isPausing)
    (hlast : (Actor.accepted trace).getLast? = some plaintext) :
    w.control.snapshot.plaintext = plaintext ∧
      Saved s.vault w.db w.control.key.connectionId w.control.snapshot := by
  obtain ⟨hstopped, hpending, hnewest⟩ := (Control.fresh_of_pausing hpausing).1 (h.fresh hencoded)
  have hsnapshot : w.control.snapshot.plaintext = plaintext := by
    have hnew := hnewest plaintext hlast
    simpa [Control.newest, hstopped.2, hpending] using hnew
  refine ⟨hsnapshot, h.kept.resolve_left fun hempty => ?_⟩
  have hmem : plaintext ∈ passed trace := h.accepted.subset (List.mem_of_getLast? hlast)
  rw [hempty] at hsnapshot
  exact hencoded plaintext hmem hsnapshot.symm

/-- In every run the sessions that are written form a subsequence of those passed
to `SessionChanged`, a written session is the one in the row under the revision of
the actor, and when a generation ends either the run has returned for good or the
last session accepted is the one that the actor has stored. -/
theorem sessions_persisted (s : Setting) {key : Key} {trace : List (WorldInput × Output)}
    (hrun : Worlds s { control := { key := key }, db := db } trace w) :
    (written trace).Sublist (passed trace) ∧
      (∀ input plaintext, (World.step s input w).1 = .written plaintext →
        (World.step s input w).2.control.snapshot = ⟨plaintext, w.control.snapshot.revision + 1⟩ ∧
          Holding s.vault (World.step s input w).2.db key.connectionId
            (World.step s input w).2.control.snapshot) ∧
      (Encoded trace → ∀ m mark swap, w.control.phase = .settling swap →
        (∃ err, ∀ later w', Worlds s (World.step s (.run m (.settle mark)) w).2 later w' →
          w'.control.phase = .returned err) ∨
        ∀ plaintext, (accepted trace).getLast? = some plaintext →
          (World.step s (.run m (.settle mark)) w).2.control.snapshot.plaintext = plaintext ∧
            Saved s.vault (World.step s (.run m (.settle mark)) w).2.db key.connectionId
              (World.step s (.run m (.settle mark)) w).2.control.snapshot) := by
  have hpersisted := hrun.persisted
  have hkey : w.control.key = key := hrun.invariant (P := fun w => w.control.key = key)
    (fun w input _ hw => (World.step_control s input w).key_eq.trans hw) rfl
  refine ⟨?_, fun input plaintext hwritten => ?_, fun hencoded m mark swap hphase => ?_⟩
  · exact (List.sublist_append_left _ _).trans (hpersisted.order.trans hpersisted.accepted)
  · cases input with
    | run m input =>
      rw [← hkey]
      exact World.step_written hwritten
    | gateway call | saveSession connectionId envelope
    | swapSession connectionId expectedRevision envelope => cases hwritten
  · obtain ⟨hquiet, hpausing | ⟨err, hreturned⟩⟩ := World.step_settle s m mark hphase
    · right
      intro plaintext hlast
      have hafter := hpersisted.step (.run m (.settle mark))
      rw [hquiet] at hafter
      have hkey' := (World.step_control s (.run m (.settle mark)) w).key_eq.trans hkey
      rw [← hkey']
      refine hafter.stored ?_ hpausing ?_
      · intro p hmem
        rw [passed_concat, List.mem_append] at hmem
        exact hencoded p (hmem.resolve_right nofun)
      · rw [accepted_concat]
        simpa [Control.acceptedOf] using hlast
    · exact .inl ⟨err, fun later w' hlater => hlater.returned hreturned⟩

/-- One session is written by the timer, the next one when `Connect` has failed. -/
def phoneRetrying : List WorldInput :=
  phoneConnecting ++
    [atTime 7 (.sessionChanged 1 [2]), atTime 8 .takeSession, atTime 9 (.debounce (.ok true)),
      atTime 10 (.sessionChanged 1 [3]), atTime 11 (.connectReturns (some [.providerTransient])),
      atTime 12 .connectResult, atTime 13 (.disconnect true), atTime 14 .stopCallbacks,
      atTime 15 (.flush (.ok true))]

def phoneRetryingRun : List (WorldInput × Output) × World :=
  execute (World.step phoneSetting) phoneRetrying phoneWorld

/-- The generation after it starts from the last session. -/
theorem phoneRetrying_persisted :
    written phoneRetryingRun.1 = [[2], [3]] ∧
      (World.step phoneSetting (atTime 16 (.settle (.ok true)))
        phoneRetryingRun.2).2.control.phase =
        .reporting ∧
      Saved phoneVault (World.step phoneSetting (atTime 16 (.settle (.ok true)))
        phoneRetryingRun.2).2.db "phone" ⟨[3], 3⟩ := by
  have hrun : Worlds phoneSetting
      { control := { key := { tenantId := "tenant", connectionId := "phone" } },
        db := phoneWorld.db }
      phoneRetryingRun.1 phoneRetryingRun.2 := Run.of_inputs phoneRetrying (by decide +kernel)
  have hphase : phoneRetryingRun.2.control.phase = .settling (.ok true) := by decide +kernel
  have hreporting : (World.step phoneSetting (atTime 16 (.settle (.ok true)))
      phoneRetryingRun.2).2.control.phase = .reporting := by decide +kernel
  refine ⟨by decide +kernel, hreporting, ?_⟩
  obtain ⟨-, -, hends⟩ := sessions_persisted phoneSetting hrun
  rcases hends (by unfold Encoded; decide +kernel) (phoneMoment 16) (.ok true) _ hphase with
    ⟨err, hreturned⟩ | hstored
  · have hnever : Phase.reporting = .returned err := hreporting.symm.trans (hreturned [] _ .nil)
    cases hnever
  · obtain ⟨-, hsaved⟩ := hstored [3] (by decide +kernel)
    have hsnapshot : (World.step phoneSetting (atTime 16 (.settle (.ok true)))
        phoneRetryingRun.2).2.control.snapshot = ⟨[3], 3⟩ := by decide +kernel
    rw [← hsnapshot]
    exact hsaved

/-! ### Swaps lose no update -/

theorem Worlds.advances (hrun : Worlds s w trace w') : Advances w.db w'.db := by
  refine Run.invariant (P := fun w' => Advances w.db w'.db) (fun w' input _ h => ?_) hrun
    (.of_fleet rfl)
  exact h.trans (w'.step_advances s input)

/-- A swap, fenced or of the key rotation. -/
def Swapped (connectionId : String) (expectedRevision : Nat) (envelope : SessionEnvelope)
    (db db' : Database) : Prop :=
  (∃ now ownerId fencingToken, compareAndSwapEncryptedSessionFenced now connectionId ownerId
      fencingToken expectedRevision envelope db = .ok (true, db')) ∨
    compareAndSwapEncryptedSession connectionId expectedRevision envelope db = .ok (true, db')

theorem Swapped.row (h : Swapped connectionId expectedRevision envelope db db') :
    ∃ row, db.fleet.sessions.find? connectionId = some row ∧ row.revision = expectedRevision ∧
      db'.fleet.sessions.find? connectionId =
        some { row with envelope := envelope, revision := row.revision + 1 } := by
  have hwritten : (db.fleet.sessions.find? connectionId).any (·.revision == expectedRevision) ∧
      db' = db.setSessions (db.fleet.sessions.update (fun r => r.connectionId == connectionId)
        (fun r => { r with envelope := envelope, revision := r.revision + 1 })
        (SessionRow.rewrite_key envelope)) := by
    rcases h with ⟨_, _, _, h⟩ | h
    · simp only [compareAndSwapEncryptedSessionFenced, bind_ok] at h
      grind [pure_pair]
    · simp only [compareAndSwapEncryptedSession, bind_ok] at h
      grind [pure_pair]
  obtain ⟨hcurrent, rfl⟩ := hwritten
  obtain ⟨row, hrow, hrevision⟩ := (Option.any_eq_true _ _).1 hcurrent
  have hkey : row.connectionId = connectionId := Table.key_of_find? hrow
  exact ⟨row, hrow, beq_iff_eq.1 hrevision,
    by simp [Database.setSessions, Table.find?_update, hrow, hkey]⟩

/-- What a swap replaces is what its caller has read, whoever wrote in between, and of
two swaps from one reading the later one fails. -/
theorem swaps_lose_no_update {row : SessionRow} (hrun : Worlds s w trace w')
    (hread : w.db.fleet.sessions.find? connectionId = some row)
    (hswap : Swapped connectionId row.revision envelope w'.db db') :
    w'.db.fleet.sessions.find? connectionId = some row ∧
      db'.fleet.sessions.find? connectionId =
        some { row with envelope := envelope, revision := row.revision + 1 } ∧
      ∀ later w'' other db'', Worlds s { w' with db := db' } later w'' →
        ¬ Swapped connectionId row.revision other w''.db db'' := by
  obtain ⟨row', hrow', hrevision, hafter⟩ := hswap.row
  obtain ⟨_, hkept, hadvance⟩ := hrun.advances connectionId row hread
  obtain rfl := Option.some.inj (hkept.symm.trans hrow')
  rcases hadvance with rfl | hlt
  · refine ⟨hrow', hafter, fun later w'' other db'' hlater hagain => ?_⟩
    obtain ⟨_, hlast, hsame, -⟩ := hagain.row
    obtain ⟨_, hkept', hadvance'⟩ := hlater.advances connectionId _ hafter
    obtain rfl := Option.some.inj (hkept'.symm.trans hlast)
    rcases hadvance' with rfl | hlt'
    · exact absurd hsame (Nat.succ_ne_self _)
    · exact absurd hsame (Nat.lt_of_succ_lt hlt').ne'
  · exact absurd hrevision hlt.ne'

def phoneConnected : World := (execute (World.step phoneSetting) phoneConnecting phoneWorld).2

/-- The key rotation swaps the session that a run has loaded: the run cannot save its own. -/
theorem rotated_swaps_once :
    ∃ envelope db', Swapped "phone" 1 envelope phoneConnected.db db' ∧
      ∀ other db'', ¬ Swapped "phone" 1 other db' db'' := by
  have hrun : Worlds phoneSetting phoneWorld _ phoneConnected :=
    Run.of_inputs phoneConnecting (by decide +kernel)
  have hread : phoneWorld.db.fleet.sessions.find? "phone" = some phoneSession := rfl
  have hswap : Swapped "phone" 1 ((phoneVault.sealSession 0 [1]).get rfl) phoneConnected.db _ :=
    .inr rfl
  have hswaps := swaps_lose_no_update hrun hread hswap
  exact ⟨_, _, hswap, fun other db'' => hswaps.2.2 [] _ other db'' .nil⟩

end MessagingGateway.Actor
