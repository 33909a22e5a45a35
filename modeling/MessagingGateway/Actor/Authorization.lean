import MessagingGateway.Actor.World

/-!
# The loss of authorization

`Connect` reports that the provider has withdrawn its authorization. The report
reaches `finalizeGeneration` when `Connect` is joined, and leads to the mark of the
connection only if every goroutine was joined, the last session was written and
the context of the run is still alive.
-/

namespace MessagingGateway.Actor

open Relational Store

variable {w : World}

/-- The exit carries what `Connect` reported, if that is terminal. -/
def Control.Heard (c : Control) (reported : Option Failure) : Prop :=
  ∃ result, reported = some result ∧ (terminalProviderError result → c.exit.providerErr = result)

/-- Where the report of `Connect` is in each phase. -/
def Control.Told (c : Control) (reported : Option Failure) : Prop :=
  match c.phase with
  | .joiningOperation | .disconnecting =>
    if c.exit.providerJoined then c.Heard reported else c.exit.providerErr = none
  | .joiningConnect => c.exit.providerErr = none
  | .stoppingCallbacks | .flushing | .settling _ => c.connectJoined → c.Heard reported
  | _ => True

/-- A result that waits in the channel of `Connect` is the reported one. -/
def Control.Waits (c : Control) (reported : Option Failure) : Prop :=
  ∀ result, c.connect = some (.ended result) → reported = some result

theorem waits_after (c c' : Control) (input : Input) (reported : Option Failure) :
    c'.Waits (reportedAfter c c' input reported) := by
  intro result hresult
  rw [reportedAfter, hresult]

variable {c' : Control} {result : Failure} {swap : StoreReply}

theorem reportedAfter_of_none {c : Control} (input : Input) {reported : Option Failure}
    (hreported : reported = some result) (hconnect : c'.connect = none)
    (hgeneration : c'.generation = c.generation) :
    reportedAfter c c' input reported = some result := by
  rw [reportedAfter, hconnect, hreported]
  exact if_pos hgeneration

theorem Control.Heard.after {c : Control} {reported : Option Failure} (input : Input)
    (h : c.Heard reported) (hexit : c'.exit.providerErr = c.exit.providerErr)
    (hconnect : c'.connect = none) (hgeneration : c'.generation = c.generation) :
    c'.Heard (reportedAfter c c' input reported) := by
  obtain ⟨result, hreported, hterminal⟩ := h
  exact ⟨result, reportedAfter_of_none input hreported hconnect hgeneration,
    fun h => hexit.trans (hterminal h)⟩

namespace Control

variable {c : Control} {reported : Option Failure}

theorem leave_told {exit : Exit}
    (h : if exit.providerJoined then (c.leave exit).Heard reported else exit.providerErr = none) :
    (c.leave exit).Told reported := by
  unfold Told
  rcases c.leave_phase exit with hphase | hphase <;> rw [hphase] <;> exact h

theorem told_of_calm (h : c.phase.isCalm) : c.Told reported := by
  unfold Told
  split <;> simp_all [Phase.isCalm, Phase.isOpening, Phase.isPausing]

theorem told_of_looping (h : c.phase = .looping) : c.Told reported := by
  rw [Told, h]
  trivial

theorem disconnected_told (input : Input) (hreported : reported = some result) :
    (c.disconnected result).Told (reportedAfter c (c.disconnected result) input reported) := by
  unfold disconnected
  dsimp only
  split
  · next hquiet =>
      refine leave_told ?_
      rw [if_pos rfl]
      refine ⟨result, reportedAfter_of_none input hreported rfl rfl, fun hterminal => ?_⟩
      simp [hterminal] at hquiet
  · refine leave_told ?_
    rw [if_pos rfl]
    exact ⟨result, reportedAfter_of_none input hreported rfl rfl, fun _ => rfl⟩

theorem joinConnect_heard (input : Input) (hnone : c.exit.providerErr = none)
    (hreported : reported = some result) :
    (c.joinConnect result).Heard (reportedAfter c (c.joinConnect result) input reported) := by
  refine ⟨result, reportedAfter_of_none input hreported rfl rfl, fun hterminal => ?_⟩
  simp only [joinConnect, hterminal, if_true, hnone]
  rfl

theorem Told.keep (input : Input) (h : c.Told reported) (hstaffed : c.Staffed)
    (hphase : c'.phase = c.phase) (hexit : c'.exit = c.exit)
    (hjoined : c'.connectJoined = c.connectJoined) (hgeneration : c'.generation = c.generation)
    (hconnect : c.connect = none → c'.connect = none) :
    c'.Told (reportedAfter c c' input reported) := by
  have heard : c.connect = none → c.Heard reported → c'.Heard (reportedAfter c c' input reported) :=
    fun hnone hheard => hheard.after input (by rw [hexit]) (hconnect hnone) hgeneration
  unfold Told at h ⊢
  unfold Staffed at hstaffed
  rw [hphase, hexit, hjoined]
  cases hc : c.phase with
  | joiningOperation =>
    simp only [hc] at h hstaffed ⊢
    split at h
    · next hprovider => exact (if_pos hprovider).symm ▸ heard (hstaffed hprovider) h
    · next hprovider => exact (if_neg hprovider).symm ▸ h
  | disconnecting =>
    simp only [hc] at h hstaffed ⊢
    split at h
    · next hprovider => exact (if_pos hprovider).symm ▸ heard (hstaffed.2 hprovider) h
    · next hprovider => exact (if_neg hprovider).symm ▸ h
  | joiningConnect =>
    simp only [hc] at h ⊢
    exact h
  | stoppingCallbacks | flushing | settling swap =>
    simp only [hc] at h hstaffed ⊢
    exact fun hj => heard hstaffed.1 (h hj)
  | _ => trivial

theorem told_disconnecting (input : Input)
    (h : if c.exit.providerJoined then c.Heard reported else c.exit.providerErr = none)
    (hstaffed : c.exit.providerJoined → c.connect = none) (hphase : c'.phase = .disconnecting)
    (hprovider : c'.exit.providerJoined = c.exit.providerJoined)
    (herr : c'.exit.providerErr = c.exit.providerErr) (hconnect : c'.connect = c.connect)
    (hgeneration : c'.generation = c.generation) : c'.Told (reportedAfter c c' input reported) := by
  rw [Told, hphase]
  show if c'.exit.providerJoined then _ else _
  rw [hprovider]
  split at h
  · next hjoined =>
      rw [if_pos hjoined]
      exact h.after input herr (hconnect.trans (hstaffed hjoined)) hgeneration
  · next hjoined =>
      rw [if_neg hjoined]
      exact herr.trans h

theorem Move.told {output : Output} (input : Input) (h : Move c output c')
    (hstaffed : c.Staffed) (hwaits : c.Waits reported) (htold : c.Told reported) :
    c'.Told (reportedAfter c c' input reported) := by
  cases h with
  | opened phase token runId h h' => exact told_of_calm (isCalm_of_opening h')
  | loaded snapshot h | prepared h => exact told_of_calm rfl
  | paused phase health h h' => exact told_of_calm (isCalm_of_pausing h')
  | returned health err h | started h => trivial
  | observed health admitting h | served h hidle | answered h | took session h hsession
  | collected h hnone | wrote h hsome => exact told_of_looping h
  | left health kind err h hkind | interrupted h | conflicted err h => exact leave_told rfl
  | disconnected result h hresult => exact disconnected_told input (hwaits result hresult)
  | joinedOperation h | gaveUpOperation loose h hloose =>
    rw [Told, h] at htold
    rw [Staffed, h] at hstaffed
    exact told_disconnecting input htold hstaffed rfl rfl rfl rfl rfl
  | disconnect joined h =>
    rw [Told, h] at htold
    rw [Staffed, h] at hstaffed
    cases hprovider : c.exit.providerJoined with
    | true =>
      simp only [hprovider, if_true] at htold
      exact fun _ => htold.after input rfl (hstaffed.2 hprovider) rfl
    | false =>
      simp only [hprovider] at htold
      exact htold
  | joinedConnect result h hresult =>
    rw [Told, h] at htold
    exact fun _ => joinConnect_heard input htold (hwaits result hresult)
  | gaveUpConnect loose h hloose =>
    rw [Staffed, h] at hstaffed
    intro hjoined
    rw [hstaffed.2] at hjoined
    cases hjoined
  | stopped h | flushedNothing h hnone | flushed h hsome | flushFailed swap h hswap =>
    rw [Told, h] at htold
    rw [Staffed, h] at hstaffed
    exact fun hjoined => (htold hjoined).after input rfl hstaffed.1 rfl
  | settled swap mark h =>
    exact settle_rule c swap mark (fun _ _ _ => told_of_calm rfl) fun _ _ => trivial
  | connectEnded result h =>
    refine htold.keep input hstaffed rfl rfl rfl rfl fun hnone => ?_
    rw [hnone] at h
    cases h
  | _ => exact htold.keep input hstaffed rfl rfl rfl rfl id

end Control

/-! ### The system -/

structure World.Informed (w : World) : Prop where
  orderly : w.control.Orderly
  waits : w.control.Waits w.reported
  told : w.control.Told w.reported

theorem World.step_informed (s : Setting) (input : WorldInput) (h : w.Informed) :
    (World.step s input w).2.Informed := by
  cases input with
  | run m input =>
    have hmove := Control.step_move (w.resolve s m input).1 w.control
    exact ⟨hmove.orderly h.orderly, waits_after _ _ _ _,
      hmove.told _ h.orderly.staffed h.waits h.told⟩
  | gateway call | saveSession connectionId envelope
  | swapSession connectionId expectedRevision envelope => exact ⟨h.orderly, h.waits, h.told⟩

theorem Worlds.informed {s : Setting} {w' : World} {trace : List (WorldInput × Output)}
    (hrun : Worlds s w trace w') (h : w.Informed) : w'.Informed :=
  hrun.invariant (P := World.Informed) (fun _ input _ hw => World.step_informed s input hw) h

theorem World.informed_init (key : Key) (db : Database) :
    World.Informed { control := { key := key }, db := db } :=
  ⟨⟨⟨rfl, rfl⟩, fun h => absurd rfl h, by simp, by simp⟩, nofun, trivial⟩

def connectionState (db : Database) (connectionId : String) : Option ConnectionState :=
  (db.fleet.connections.find? connectionId).map (·.state)

theorem markReauthorizationRequiredFenced_state {rt : Runtime} {now occurredAt : Time}
    {connectionId ownerId newEventId : String} {fencingToken : Nat} {db db' : Database}
    (h : markReauthorizationRequiredFenced rt now occurredAt connectionId ownerId fencingToken
      newEventId db = .ok (true, db')) :
    connectionState db' connectionId = some .reauthorizationRequired := by
  obtain ⟨hfalse, -⟩ | ⟨connection, row, hfound, -, hrow, hevent⟩ :=
    markReauthorizationRequiredFenced_ok h
  · cases hfalse
  · obtain ⟨events, rfl⟩ := insertReauthorizationEvent_ok hevent
    unfold ConnectionRow.requireReauthorization at hrow
    split at hrow
    · cases hrow
      have hkey := Table.key_of_find? hfound
      simp [connectionState, Database.putConnection, Database.setConnections,
        Table.find?_update, hfound, hkey]
    · cases hrow

/-- The provider has withdrawn its authorization, and nothing else is wrong. -/
def AuthorizationAlone (result : Failure) : Prop :=
  is result .providerAuthorization = true ∧ is result .staleGeneration = false ∧
    is result .sharedInfrastructure = false

theorem AuthorizationAlone.terminal (h : AuthorizationAlone result) :
    terminalProviderError result = true := by
  simp [terminalProviderError, h.1]

theorem Exit.marks_iff {exit : Exit} {disconnectJoined connectJoined : Bool}
    (h : exit.joined disconnectJoined connectJoined = true → AuthorizationAlone exit.providerErr) :
    exit.marks disconnectJoined connectJoined swap = true ↔
      swap = .ok true ∧ exit.joined disconnectJoined connectJoined = true := by
  constructor
  · intro hmarks
    simp only [Exit.marks, Bool.and_eq_true, beq_iff_eq] at hmarks
    exact ⟨hmarks.1.1.1.1.1, hmarks.1.1.1.1.2⟩
  · rintro ⟨rfl, hjoined⟩
    obtain ⟨hauth, hstale, hshared⟩ := h hjoined
    have hkind : exit.finalKind = .provider := by
      rw [Exit.finalKind, if_pos (h hjoined).terminal]
    simp [Exit.marks, hjoined, hkind, hauth, hstale, hshared]

theorem World.Informed.authorization (h : w.Informed) (hphase : w.control.phase = .settling swap)
    (hreported : w.reported = some result) (halone : AuthorizationAlone result)
    (hjoined : w.control.exit.joined w.control.disconnectJoined w.control.connectJoined = true) :
    AuthorizationAlone w.control.exit.providerErr := by
  have htold := h.told
  rw [Control.Told, hphase] at htold
  simp only [Exit.joined, Bool.and_eq_true] at hjoined
  obtain ⟨result', hreported', hterminal⟩ := htold hjoined.1.2
  rw [hreported] at hreported'
  cases hreported'
  rw [hterminal halone.terminal]
  exact halone

theorem settle_state (s : Setting) {m : Moment} {reply : StoreReply} {db' : Database}
    (hphase : w.control.phase = .settling swap) (hfault : m.fault = .none)
    (haccepts : markReauthorizationRequiredFenced s.rt m.now m.occurredAt w.control.key.connectionId
      s.ownerId w.control.token m.eventId w.db = .ok (true, db')) :
    connectionState (World.step s (.run m (.settle reply)) w).2.db w.control.key.connectionId =
      if w.control.exit.marks w.control.disconnectJoined w.control.connectJoined swap = true ∧
          w.control.cancelled = false then
        some .reauthorizationRequired
      else connectionState w.db w.control.key.connectionId := by
  have hpart : connectionState (World.step s (.run m (.settle reply)) w).2.db
      w.control.key.connectionId =
      connectionState (w.resolve s m (.settle reply)).2 w.control.key.connectionId := by
    have hsame : SameRows (w.resolve s m (.settle reply)).2
        (World.step s (.run m (.settle reply)) w).2.db := partWith_sameRows s m w.control _ _ _
    rw [connectionState, connectionState, hsame.1]
  rw [hpart]
  unfold World.resolve Control.calls
  simp only [hphase]
  by_cases hmarks : w.control.exit.marks w.control.disconnectJoined w.control.connectJoined swap
  · rw [if_pos hmarks]
    simp only [StoreCall.perform, Control.underContext]
    cases hcancelled : w.control.cancelled with
    | true => simp
    | false =>
      simp only [Bool.false_eq_true, if_false, hfault, haccepts, Fault.call]
      rw [if_pos ⟨hmarks, trivial⟩]
      exact markReauthorizationRequiredFenced_state haccepts
  · rw [if_neg hmarks, if_neg fun h => hmarks h.1]

/-- The end of a generation of which `Connect` has reported the loss of the
authorization, where the database accepts the mark: the connection is marked as
requiring reauthorization exactly if the last session was written, every goroutine
of the generation was joined and the context of the run is not cancelled, or it
had been marked before. -/
theorem authorization_loss_marked (s : Setting) (m : Moment) (reply : StoreReply) {key : Key}
    {db db' : Database} {trace : List (WorldInput × Output)} {w : World} {swap : StoreReply}
    {result : Failure} (hrun : Worlds s { control := { key := key }, db := db } trace w)
    (hphase : w.control.phase = .settling swap) (hreported : w.reported = some result)
    (halone : AuthorizationAlone result) (hfault : m.fault = .none)
    (haccepts : markReauthorizationRequiredFenced s.rt m.now m.occurredAt w.control.key.connectionId
      s.ownerId w.control.token m.eventId w.db = .ok (true, db')) :
    connectionState (World.step s (.run m (.settle reply)) w).2.db w.control.key.connectionId =
        some .reauthorizationRequired ↔
      (swap = .ok true ∧
          w.control.exit.joined w.control.disconnectJoined w.control.connectJoined = true ∧
          w.control.cancelled = false) ∨
        connectionState w.db w.control.key.connectionId = some .reauthorizationRequired := by
  have hinformed := hrun.informed (World.informed_init key db)
  have hmarks := @Exit.marks_iff swap _ _ _ fun hjoined =>
    hinformed.authorization hphase hreported halone hjoined
  rw [settle_state s hphase hfault haccepts]
  split
  · next h =>
      obtain ⟨hswap, hjoined⟩ := hmarks.1 h.1
      exact ⟨fun _ => .inl ⟨hswap, hjoined, h.2⟩, fun _ => rfl⟩
  · next h =>
      refine ⟨.inr, fun h' => h'.resolve_left fun h'' => h ?_⟩
      exact ⟨hmarks.2 ⟨h''.1, h''.2.1⟩, h''.2.2⟩

/-- `Connect` reports the loss and the generation is torn down. -/
def phoneUnauthorized : List WorldInput :=
  phoneConnecting ++
    [atTime 7 (.connectReturns (some [.providerAuthorization])), atTime 8 .connectResult,
      atTime 9 (.disconnect true), atTime 10 .stopCallbacks, atTime 11 (.flush (.ok true))]

def phoneShutDown : List WorldInput :=
  phoneConnecting ++
    [atTime 7 .cancel, atTime 8 .shutdown, atTime 9 (.disconnect true),
      atTime 10 (.connectReturns (some [.providerAuthorization])), atTime 11 .joinConnect,
      atTime 12 .stopCallbacks, atTime 13 (.flush (.ok true))]

def phoneMark (w : World) : Tx (Bool × Database) :=
  markReauthorizationRequiredFenced phoneSetting.rt (phoneMoment 20).now (phoneMoment 20).occurredAt
    w.control.key.connectionId phoneSetting.ownerId w.control.token (phoneMoment 20).eventId w.db

def phoneAccepts (w : World) : Bool :=
  match phoneMark w with
  | .ok (true, _) => true
  | _ => false

theorem phoneAccepts_iff : phoneAccepts w = true ↔ ∃ db, phoneMark w = .ok (true, db) := by
  unfold phoneAccepts
  split
  · next db h => exact ⟨fun _ => ⟨db, h⟩, fun _ => rfl⟩
  · next hother => exact ⟨nofun, fun ⟨db, h⟩ => absurd h (hother db)⟩

def phoneUnauthorizedWorld : World :=
  (execute (World.step phoneSetting) phoneUnauthorized phoneWorld).2

theorem phoneUnauthorized_marked :
    connectionState phoneUnauthorizedWorld.db "phone" = some .connected ∧
      connectionState (World.step phoneSetting (atTime 20 (.settle (.ok true)))
        phoneUnauthorizedWorld).2.db "phone" = some .reauthorizationRequired := by
  have hrun : Worlds phoneSetting phoneWorld _ phoneUnauthorizedWorld :=
    Run.of_inputs phoneUnauthorized (by decide +kernel)
  obtain ⟨db', haccepts⟩ := phoneAccepts_iff.1
    (show phoneAccepts phoneUnauthorizedWorld = true by decide +kernel)
  have hphase : phoneUnauthorizedWorld.control.phase = .settling (.ok true) := by decide +kernel
  have hreported : phoneUnauthorizedWorld.reported = some (some [.providerAuthorization]) := by
    decide +kernel
  refine ⟨by decide +kernel, ?_⟩
  exact (authorization_loss_marked phoneSetting (phoneMoment 20) _ hrun hphase hreported
    ⟨by decide, by decide, by decide⟩ rfl haccepts).2 (.inl (by decide +kernel))

/-- A run that is shut down leaves its connection as it was. -/
theorem phoneShutDown_not_marked :
    ∃ trace w db', Worlds phoneSetting phoneWorld trace w ∧
      w.control.phase = .settling (.ok true) ∧
      w.reported = some (some [.providerAuthorization]) ∧
      w.control.exit.joined w.control.disconnectJoined w.control.connectJoined = true ∧
      phoneMark w = .ok (true, db') ∧
      connectionState (World.step phoneSetting (atTime 20 (.settle (.ok true))) w).2.db "phone" =
        some .connected := by
  obtain ⟨db', haccepts⟩ := phoneAccepts_iff.1 (show phoneAccepts
    (execute (World.step phoneSetting) phoneShutDown phoneWorld).2 = true by decide +kernel)
  exact ⟨_, _, db', Run.of_inputs phoneShutDown (by decide +kernel), by decide +kernel,
    by decide +kernel, by decide +kernel, haccepts, by decide +kernel⟩

end MessagingGateway.Actor
