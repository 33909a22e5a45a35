import MessagingGateway.Actor.Moves
import MessagingGateway.Relational.Runs

/-!
# Joining the goroutines of a generation

A generation waits a bounded time for its operation, for `Disconnect` and for
`Connect`. `overdue` says that one of these waits has ended without a join; it is
read off the local variables of the teardown. A run that is overdue starts no
further generation and returns an error that is `ErrProviderJoinTimeout`, and only
an overdue run leaves a goroutine behind.
-/

namespace MessagingGateway.Actor

open Relational Store

namespace Control

variable {c c' : Control} {output : Output}

/-- The goroutines of the run that may be calling the provider, each with its
generation. -/
def running (c : Control) : List (Goroutine × Nat) :=
  (if c.connect = some .running then [(.connect, c.generation)] else []) ++
    (if c.operation = some .running then [(.operation, c.generation)] else []) ++
      (if c.phase = .disconnecting then [(.disconnect, c.generation)] else []) ++ c.loose

def overdue (c : Control) : Bool :=
  match c.phase with
  | .disconnecting => is c.exit.err .providerJoinTimeout
  | .joiningConnect => is c.exit.err .providerJoinTimeout || !c.disconnectJoined
  | .stoppingCallbacks | .flushing | .settling _ =>
    !c.exit.joined c.disconnectJoined c.connectJoined
  | .returned err => is err .providerJoinTimeout
  | _ => false

def timesOut (input : Input) (c : Control) : Bool :=
  match input, c.phase with
  | .giveUpOperation, .joiningOperation | .disconnect false, .disconnecting
  | .giveUpConnect, .joiningConnect => true
  | _, _ => false

/-- The goroutines that a run waits for in each phase. -/
def Staffed (c : Control) : Prop :=
  match c.phase with
  | .looping => True
  | .joiningOperation => c.exit.providerJoined → c.connect = none
  | .disconnecting => c.operation = none ∧ (c.exit.providerJoined → c.connect = none)
  | .joiningConnect => c.operation = none ∧ c.connectJoined = false
  | _ => c.connect = none ∧ c.operation = none

structure Orderly (c : Control) : Prop where
  staffed : c.Staffed
  late : c.loose ≠ [] → c.overdue
  current : ∀ goroutine ∈ c.loose, goroutine.2 = c.generation
  operations : c.loose.countP (·.1 == .operation) ≤ 1

theorem staffed_of_calm (h : c.phase.isCalm) :
    c.Staffed ↔ c.connect = none ∧ c.operation = none := by
  unfold Staffed
  split <;> simp_all [Phase.isCalm, Phase.isOpening, Phase.isPausing]

theorem overdue_of_calm (h : c.phase.isCalm) : c.overdue = false := by
  unfold overdue
  split <;> simp_all [Phase.isCalm, Phase.isOpening, Phase.isPausing]

theorem overdue_of_looping (h : c.phase = .looping) : c.overdue = false := by
  rw [overdue, h]

theorem leave_staffed {exit : Exit} (hconnect : exit.providerJoined → c.connect = none) :
    (c.leave exit).Staffed := by
  unfold Control.leave
  cases hoperation : c.operation with
  | some errand => exact hconnect
  | none => exact ⟨rfl, hconnect⟩

theorem finalizeGeneration_unjoined (health : ConnectionActorHealth) {exit : Exit}
    {disconnectJoined connectJoined : Bool} (swap mark : StoreReply)
    (h : exit.joined disconnectJoined connectJoined = false) :
    ∃ err, (finalizeGeneration health exit disconnectJoined connectJoined swap mark).1 = .stop err ∧
      is err .providerJoinTimeout := by
  have hunjoined : is exit.err .providerJoinTimeout ∨
      is (joinError disconnectJoined connectJoined) .providerJoinTimeout := by
    revert h
    cases disconnectJoined <;> cases connectJoined <;> simp [Exit.joined, joinError, is]
  rcases swap with causes | (_ | _)
  · exact ⟨_, rfl, by rcases hunjoined with h | h <;> simp [h]⟩
  · exact ⟨_, rfl, by rcases hunjoined with h | h <;> simp [h]⟩
  · simp only [finalizeGeneration, h, Bool.not_false, if_true]
    exact ⟨_, rfl, by rcases hunjoined with h | h <;> simp [h]⟩

/-- A generation after which the run goes on has written its last session, has
joined everything, and ended with a failure of the provider that is not terminal. -/
theorem finalizeGeneration_retry {health : ConnectionActorHealth} {exit : Exit}
    {disconnectJoined connectJoined : Bool} {swap mark : StoreReply}
    (h : (finalizeGeneration health exit disconnectJoined connectJoined swap mark).1 = .retry) :
    swap = .ok true ∧ exit.joined disconnectJoined connectJoined = true ∧
      exit.transient = true := by
  rcases swap with causes | (_ | _)
  · cases h
  · cases h
  · cases hjoined : exit.joined disconnectJoined connectJoined with
    | false =>
      obtain ⟨err, hstop, _⟩ := finalizeGeneration_unjoined health (.ok true) mark hjoined
      rw [hstop] at h
      cases h
    | true =>
      refine ⟨rfl, rfl, ?_⟩
      simp only [finalizeGeneration, hjoined, Bool.not_true] at h
      cases hkind : exit.finalKind with
      | provider =>
        simp only [hkind] at h
        have hterminal : terminalProviderError exit.providerErr = false := by
          cases hstale : is exit.providerErr .staleGeneration
          case true => simp [hstale] at h
          cases hshared : is exit.providerErr .sharedInfrastructure
          case true => simp [hstale, hshared] at h
          cases hauth : is exit.providerErr .providerAuthorization
          case true =>
              simp only [hstale, hshared, hauth] at h
              rcases mark with causes | (_ | _) <;> cases h
          cases hconfig : is exit.providerErr .providerPermanentConfig
          case true => simp [hstale, hshared, hauth, hconfig] at h
          cases hprotocol : is exit.providerErr .providerPermanentProtocol
          case true => simp [hstale, hshared, hauth, hconfig, hprotocol] at h
          simp [terminalProviderError, hstale, hshared, hauth, hconfig, hprotocol]
        rw [Exit.finalKind, hterminal] at hkind
        simp [Exit.transient, hterminal, show exit.kind = .provider from hkind]
      | _ =>
        simp only [hkind] at h
        cases h

theorem settle_cases (c : Control) (swap mark : StoreReply) :
    (swap = .ok true ∧ c.exit.joined c.disconnectJoined c.connectJoined = true ∧
        c.exit.transient = true ∧
        ∃ health, c.settle swap mark = { c with phase := .reporting, health := health }) ∨
      ∃ health err, c.settle swap mark = { c with health := health }.returns err ∧
        (c.exit.joined c.disconnectJoined c.connectJoined = false →
          is err .providerJoinTimeout) := by
  unfold settle
  split
  · next health heq =>
      obtain ⟨hswap, hjoined, htransient⟩ := finalizeGeneration_retry (congrArg Prod.fst heq)
      exact .inl ⟨hswap, hjoined, htransient, _, rfl⟩
  · next err health heq =>
      refine .inr ⟨_, err, rfl, fun hjoined => ?_⟩
      obtain ⟨err', hstop, hkind⟩ := finalizeGeneration_unjoined c.health swap mark hjoined
      rw [heq] at hstop
      cases hstop
      exact hkind

@[elab_as_elim]
theorem settle_rule {motive : Control → Prop} (c : Control) (swap mark : StoreReply)
    (goesOn : ∀ health, swap = .ok true → c.exit.transient = true →
      motive { c with phase := .reporting, health := health })
    (ends : ∀ health err, motive ({ c with health := health }.returns err)) :
    motive (c.settle swap mark) := by
  rcases settle_cases c swap mark with ⟨hswap, _, htransient, health, heq⟩ | ⟨health, err, heq, _⟩
  · exact heq ▸ goesOn health hswap htransient
  · exact heq ▸ ends health err

@[elab_as_elim]
theorem disconnected_rule {motive : Control → Prop} (c : Control) (result : Failure)
    (leaves : ∀ exit : Exit, motive ({ c with connect := none }.leave exit)) :
    motive (c.disconnected result) := by
  unfold Control.disconnected
  dsimp only
  split
  · exact leaves _
  · exact leaves _

theorem Move.overdue (h : Move c output c') (hc : c.overdue = true) : c'.overdue = true := by
  -- before the teardown nothing is overdue
  have calm : c.phase.isCalm → c'.overdue = true := fun hcalm => by
    rw [overdue_of_calm hcalm] at hc
    cases hc
  have looping : c.phase = .looping → c'.overdue = true := fun hlooping => by
    rw [overdue_of_looping hlooping] at hc
    cases hc
  cases h with
  | opened phase token runId h h' => exact calm (isCalm_of_opening h)
  | loaded snapshot h | started h => exact calm (by rw [h]; rfl)
  | paused phase health h h' => exact calm (isCalm_of_pausing h)
  | returned health err h => exact calm h
  | prepared h => exact calm (by rcases h with h | h <;> rw [h] <;> rfl)
  | observed health admitting h | left health kind err h hkind | served h hidle | answered h
  | took session h hsession | collected h hnone | wrote h hsome | interrupted h | conflicted err h
  | disconnected result h hresult => exact looping h
  | joinedOperation h | gaveUpOperation loose h hloose =>
    rw [Control.overdue, h] at hc
    cases hc
  | disconnect joined h =>
    simp only [Control.overdue, h] at hc
    cases hprovider : c.exit.providerJoined <;> simp [Control.overdue, Exit.joined, hc]
  | joinedConnect result h hresult =>
    simp only [Control.overdue, h, Bool.or_eq_true, Bool.not_eq_true'] at hc
    have herr : (c.joinConnect result).exit.err = c.exit.err := by
      unfold joinConnect
      split <;> rfl
    have hjoined : (c.joinConnect result).exit.joined c.disconnectJoined true = false := by
      rw [Exit.joined, herr]
      rcases hc with hc | hc <;> simp [hc]
    show (!(c.joinConnect result).exit.joined c.disconnectJoined true) = true
    rw [hjoined]
    rfl
  | gaveUpConnect loose h hloose =>
    simp only [Control.overdue, h, Bool.or_eq_true, Bool.not_eq_true'] at hc
    rcases hc with hc | hc <;> simp [Control.overdue, Exit.joined, hc]
  | stopped h | flushedNothing h hnone | flushed h hsome | flushFailed swap h hswap =>
    rw [Control.overdue, h] at hc
    exact hc
  | settled swap mark h =>
    simp only [Control.overdue, h, Bool.not_eq_true'] at hc
    rcases settle_cases c swap mark with ⟨_, hjoined, _⟩ | ⟨health, err, heq, hkind⟩
    · rw [hc] at hjoined
      cases hjoined
    · rw [heq]
      exact hkind hc
  | _ => exact hc

theorem Move.staffed (h : Move c output c') (hc : c.Staffed) : c'.Staffed := by
  cases h with
  | opened phase token runId h h' =>
    have hcalm := (staffed_of_calm (isCalm_of_opening h)).1 hc
    exact (staffed_of_calm (isCalm_of_opening h')).2 hcalm
  | loaded snapshot h | stopped h | flushedNothing h hnone | flushed h hsome
  | flushFailed swap h hswap =>
    rw [Staffed, h] at hc
    exact hc
  | paused phase health h h' =>
    have hcalm := (staffed_of_calm (isCalm_of_pausing h)).1 hc
    exact (staffed_of_calm (isCalm_of_pausing h')).2 hcalm
  | returned health err h => exact (staffed_of_calm h).1 hc
  | prepared h =>
    have hcalm : c.phase.isCalm := by rcases h with h | h <;> rw [h] <;> rfl
    exact (staffed_of_calm hcalm).1 hc
  | started h => trivial
  | left health kind err h hkind | interrupted h | conflicted err h => exact leave_staffed nofun
  | served h hidle | answered h =>
    rw [Staffed, h]
    trivial
  | disconnected result h hresult =>
    exact disconnected_rule c result fun _ => leave_staffed fun _ => rfl
  | joinedOperation h | gaveUpOperation loose h hloose =>
    rw [Staffed, h] at hc
    exact ⟨rfl, hc⟩
  | disconnect joined h =>
    rw [Staffed, h] at hc
    cases hprovider : c.exit.providerJoined with
    | true => exact ⟨hc.2 hprovider, hc.1⟩
    | false => exact ⟨hc.1, rfl⟩
  | joinedConnect result h hresult | gaveUpConnect loose h hloose =>
    rw [Staffed, h] at hc
    exact ⟨rfl, hc.1⟩
  | settled swap mark h =>
    rw [Staffed, h] at hc
    exact settle_rule c swap mark (fun _ _ _ => hc) fun _ _ => hc
  | connectEnded result h =>
    -- a goroutine that runs is not one that was joined
    unfold Staffed at hc ⊢
    split <;> simp_all
  | operationEnded result h =>
    unfold Staffed at hc ⊢
    split <;> simp_all
  | _ => exact hc

/-- A step leaves no goroutine behind, or one of the current generation because
its join has timed out. Only then may the generation not change. -/
theorem Move.loose_cases (h : Move c output c') (hc : c.Staffed) :
    (c'.loose.Sublist c.loose ∧ (c'.generation = c.generation ∨ c.overdue = false)) ∨
      ∃ kind, c'.loose = (kind, c.generation) :: c.loose ∧ c'.generation = c.generation ∧
        c'.overdue = true ∧ (kind = .operation → c.overdue = false) := by
  have kept : c'.loose = c.loose → c'.generation = c.generation →
      (c'.loose.Sublist c.loose ∧ (c'.generation = c.generation ∨ c.overdue = false)) ∨
        ∃ kind, c'.loose = (kind, c.generation) :: c.loose ∧ c'.generation = c.generation ∧
          c'.overdue = true ∧ (kind = .operation → c.overdue = false) := fun hloose hgeneration =>
    .inl ⟨hloose ▸ .refl _, .inl hgeneration⟩
  cases h with
  | prepared h =>
    have hcalm : c.phase.isCalm := by rcases h with h | h <;> rw [h] <;> rfl
    exact .inl ⟨.refl _, .inr (overdue_of_calm hcalm)⟩
  | gaveUpOperation loose h hloose =>
    rcases hloose with rfl | rfl
    · exact .inl ⟨.refl _, .inl rfl⟩
    · refine .inr ⟨.operation, rfl, rfl, ?_, fun _ => ?_⟩
      · simp [Control.overdue]
      · rw [Control.overdue, h]
  | disconnect joined h =>
    cases joined with
    | true => exact .inl ⟨.refl _, .inl rfl⟩
    | false =>
      refine .inr ⟨.disconnect, rfl, rfl, ?_, nofun⟩
      cases hprovider : c.exit.providerJoined <;> simp [Control.overdue, Exit.joined]
  | gaveUpConnect loose h hloose =>
    rw [Staffed, h] at hc
    rcases hloose with rfl | rfl
    · exact .inl ⟨.refl _, .inl rfl⟩
    · refine .inr ⟨.connect, rfl, rfl, ?_, nofun⟩
      simp [Control.overdue, Exit.joined, hc.2]
  | looseEnded goroutine => exact .inl ⟨List.erase_sublist, .inl rfl⟩
  | disconnected result h hresult =>
    exact disconnected_rule c result fun _ => .inl ⟨.refl _, .inl rfl⟩
  | settled swap mark h =>
    exact settle_rule c swap mark (fun _ _ _ => .inl ⟨.refl _, .inl rfl⟩)
      fun _ _ => .inl ⟨.refl _, .inl rfl⟩
  | _ => exact kept rfl rfl

theorem Move.orderly (h : Move c output c') (hc : c.Orderly) : c'.Orderly := by
  obtain ⟨hstaffed, hlate, hcurrent, hoperations⟩ := hc
  have hnone : c.overdue = false → c.loose = [] := fun hoverdue => by
    by_contra hloose
    rw [hlate hloose] at hoverdue
    cases hoverdue
  rcases h.loose_cases hstaffed with
    ⟨hsub, hgeneration⟩ | ⟨kind, hloose, hgeneration, hoverdue, hkind⟩
  · refine ⟨h.staffed hstaffed, fun hloose => ?_, fun goroutine hmem => ?_, ?_⟩
    · refine h.overdue (hlate fun hempty => hloose ?_)
      rw [hempty] at hsub
      exact List.sublist_nil.1 hsub
    · have hmem := hsub.subset hmem
      rcases hgeneration with hsame | hcalm
      · rw [hsame]
        exact hcurrent goroutine hmem
      · rw [hnone hcalm] at hmem
        cases hmem
    · exact (hsub.countP_le).trans hoperations
  · refine ⟨h.staffed hstaffed, fun _ => hoverdue, fun goroutine hmem => ?_, ?_⟩
    · rw [hloose, List.mem_cons] at hmem
      rw [hgeneration]
      rcases hmem with rfl | hmem
      · rfl
      · exact hcurrent goroutine hmem
    · rw [hloose, List.countP_cons]
      by_cases hop : kind = .operation
      · rw [hnone (hkind hop)]
        split <;> simp
      · simpa [hop] using hoperations

theorem Move.key_eq (h : Move c output c') : c'.key = c.key := by
  cases h with
  | disconnected result h hresult => exact disconnected_rule c result fun _ => rfl
  | settled swap mark h => exact settle_rule c swap mark (fun _ _ _ => rfl) fun _ _ => rfl
  | _ => rfl

theorem Move.returned_eq {err : Failure} (h : Move c output c') (hc : c.phase = .returned err) :
    c'.phase = .returned err := by
  cases h <;> simp_all [Phase.isCalm, Phase.isOpening, Phase.isPausing]

theorem timesOut_overdue {input : Input} (h : timesOut input c = true) (hc : c.Orderly) :
    (step input c).2.overdue = true := by
  unfold timesOut at h
  split at h
  · next hphase => simp [step, hphase, Control.overdue]
  · next hphase =>
      cases hprovider : c.exit.providerJoined <;>
        simp [step, hphase, hprovider, Control.overdue, Exit.joined]
  · next hphase =>
      have hjoined := hc.staffed
      rw [Staffed, hphase] at hjoined
      simp [step, hphase, Control.overdue, Exit.joined, hjoined.2]
  · cases h

/-! ### The end of an overdue run -/

/-- The steps that a teardown still has to make. -/
def rest : Phase → Nat
  | .disconnecting => 5
  | .joiningConnect => 4
  | .stoppingCallbacks => 3
  | .flushing => 2
  | .settling _ => 1
  | .returned _ => 0
  | _ => 6

theorem rest_of_overdue (h : c.overdue = true) : rest c.phase ≤ 5 := by
  unfold Control.overdue at h
  split at h <;> simp_all [rest]

/-- The actor's own steps to the end of a generation, whatever the replies are. -/
def teardown (joined : Bool) (reply mark : StoreReply) : List Input :=
  [.disconnect joined, .giveUpConnect, .stopCallbacks, .flush reply, .settle mark]

theorem execute_overdue (inputs : List Input) (h : c.overdue = true) :
    (execute step inputs c).2.overdue = true := by
  induction inputs generalizing c with
  | nil => exact h
  | cons input inputs ih => exact ih ((step_move input c).overdue h)

theorem rest_disconnect (joined : Bool) (h : rest c.phase ≤ 5) :
    rest (step (.disconnect joined) c).2.phase ≤ 4 := by
  cases hprovider : c.exit.providerJoined <;> cases hphase : c.phase <;> simp_all [step, rest]

theorem rest_giveUpConnect (h : rest c.phase ≤ 4) : rest (step .giveUpConnect c).2.phase ≤ 3 := by
  cases hphase : c.phase <;> simp_all [step, rest]

theorem rest_stopCallbacks (h : rest c.phase ≤ 3) : rest (step .stopCallbacks c).2.phase ≤ 2 := by
  cases hphase : c.phase <;> simp_all [step, rest]

theorem rest_flush (reply : StoreReply) (h : rest c.phase ≤ 2) :
    rest (step (.flush reply) c).2.phase ≤ 1 := by
  cases hphase : c.phase <;> simp_all [step, rest]

theorem rest_settle (mark : StoreReply) (h : rest c.phase ≤ 1) (hoverdue : c.overdue = true) :
    rest (step (.settle mark) c).2.phase = 0 := by
  cases hphase : c.phase with
  | settling swap =>
    have hafter := (step_move (.settle mark) c).overdue hoverdue
    simp only [step, hphase] at hafter ⊢
    rcases settle_cases c swap mark with ⟨_, _, _, health, heq⟩ | ⟨health, err, heq, _⟩
    · rw [heq] at hafter
      cases hafter
    · rw [heq]
      rfl
  | returned err => simp [step, hphase, rest]
  | _ => simp [hphase, rest] at h

theorem teardown_rest (joined : Bool) (reply mark : StoreReply) (h : c.overdue = true) :
    rest (execute step (teardown joined reply mark) c).2.phase = 0 :=
  rest_settle mark
    (rest_flush reply (rest_stopCallbacks (rest_giveUpConnect
      (rest_disconnect joined (rest_of_overdue h)))))
    (execute_overdue [.disconnect joined, .giveUpConnect, .stopCallbacks, .flush reply] h)

theorem overdue_returns (joined : Bool) (reply mark : StoreReply) (h : c.overdue = true) :
    ∃ err, (execute step (teardown joined reply mark) c).2.phase = .returned err ∧
      is err .providerJoinTimeout := by
  have hrest := teardown_rest joined reply mark h
  have hoverdue := execute_overdue (teardown joined reply mark) h
  generalize (execute step (teardown joined reply mark) c).2 = c' at hrest hoverdue
  unfold Control.overdue at hoverdue
  cases hphase : c'.phase with
  | returned err =>
    rw [hphase] at hoverdue
    exact ⟨err, rfl, hoverdue⟩
  | _ =>
    rw [hphase] at hrest
    cases hrest

/-! ### The goroutines of a run -/

theorem Orderly.running_current (h : c.Orderly) {goroutine : Goroutine × Nat}
    (hrunning : goroutine ∈ c.running) : goroutine.2 = c.generation := by
  simp only [running, List.mem_append, List.mem_ite_nil_right, List.mem_singleton] at hrunning
  rcases hrunning with ((⟨_, rfl⟩ | ⟨_, rfl⟩) | ⟨_, rfl⟩) | hloose
  · rfl
  · rfl
  · rfl
  · exact h.current goroutine hloose

theorem Orderly.one_operation (h : c.Orderly) : c.running.countP (·.1 == .operation) ≤ 1 := by
  have hconnect : (if c.connect = some .running then [(Goroutine.connect, c.generation)]
      else []).countP (·.1 == .operation) = 0 := by split <;> rfl
  have hdisconnect : (if c.phase = .disconnecting then [(Goroutine.disconnect, c.generation)]
      else []).countP (·.1 == .operation) = 0 := by split <;> rfl
  rw [running, List.countP_append, List.countP_append, List.countP_append, hconnect, hdisconnect]
  by_cases hoperation : c.operation = some .running
  · have hloose : c.loose = [] := by
      by_contra hloose
      have hoverdue := h.late hloose
      have hstaffed := h.staffed
      unfold Control.overdue at hoverdue
      unfold Staffed at hstaffed
      split at hoverdue <;> simp_all
    simp [hoperation, hloose]
  · have hloose := h.operations
    simpa [hoperation] using hloose

theorem Orderly.returned_running {err : Failure} (h : c.Orderly) (hphase : c.phase = .returned err)
    (hintime : c.overdue = false) : c.running = [] := by
  have hstaffed := h.staffed
  rw [Staffed, hphase] at hstaffed
  have hloose : c.loose = [] := by
    by_contra hloose
    rw [h.late hloose] at hintime
    cases hintime
  simp [running, hstaffed.1, hstaffed.2, hphase, hloose]

end Control

end MessagingGateway.Actor
