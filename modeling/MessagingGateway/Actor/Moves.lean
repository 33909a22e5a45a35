import MessagingGateway.Actor.Control

/-!
# What a step of a run can do

`Move` lists the effects a step can have, each with the conditions under which
it happens. Every invariant of a run is proved from this list.
-/

namespace MessagingGateway.Actor

open Store

def Phase.isOpening : Phase → Bool
  | .acquiring | .beginning | .checking | .loading | .announcing => true
  | _ => false

def Phase.isPausing : Phase → Bool
  | .reporting | .waiting | .resuming => true
  | _ => false

def Phase.isCalm (phase : Phase) : Bool :=
  phase.isOpening || phase.isPausing || phase == .restoring

namespace Control

/-- `Output` is what the step shows, the last control the one after it. -/
inductive Move (c : Control) : Output → Control → Prop
  | same : Move c .quiet c
  | cancelled : Move c .quiet { c with cancelled := true }
  | opened (phase : Phase) (token runId : Nat) (h : c.phase.isOpening) (h' : phase.isOpening) :
      Move c .quiet { c with phase := phase, token := token, runId := runId }
  | loaded (snapshot : SessionSnapshot) (h : c.phase = .loading) :
      Move c .quiet { c with phase := .announcing, snapshot := snapshot }
  | paused (phase : Phase) (health : ConnectionActorHealth)
      (h : c.phase.isPausing) (h' : phase.isPausing) :
      Move c .quiet { c with phase := phase, health := health }
  | returned (health : ConnectionActorHealth) (err : Failure) (h : c.phase.isCalm) :
      Move c .quiet ({ c with health := health }.returns err)
  | prepared (h : c.phase = .announcing ∨ c.phase = .resuming) : Move c .quiet c.prepare
  | started (h : c.phase = .restoring) : Move c .quiet c.start
  | observed (health : ConnectionActorHealth) (admitting : Bool) (h : c.phase = .looping) :
      Move c .quiet { c with health := health, admitting := admitting }
  | left (health : ConnectionActorHealth) (kind : ExitKind) (err : Failure)
      (h : c.phase = .looping) (hkind : kind = .shutdown ∨ kind = .leaseLost) :
      Move c .quiet ({ c with health := health }.leave { kind := kind, err := err })
  | served (h : c.phase = .looping) (hidle : c.operation = none) :
      Move c .quiet { c with operation := some .running }
  | answered (h : c.phase = .looping) : Move c .quiet { c with operation := none }
  | took (session : Bytes) (h : c.phase = .looping) (hsession : c.mailbox = some session) :
      Move c .quiet ({ c with mailbox := none }.keepSession session)
  | collected (h : c.phase = .looping) (hnone : c.collect.pending = []) : Move c .quiet c.collect
  | wrote (h : c.phase = .looping) (hsome : c.collect.pending ≠ []) :
      Move c (.written c.collect.pending) c.collect.stored
  | interrupted (h : c.phase = .looping) : Move c .quiet (c.collect.leave { kind := .shutdown })
  | conflicted (err : Failure) (h : c.phase = .looping) :
      Move c .quiet
        ({ c.collect with pending := [] }.leave { kind := .sessionConflict, err := err })
  | disconnected (result : Failure) (h : c.phase = .looping)
      (hresult : c.connect = some (.ended result)) : Move c .quiet (c.disconnected result)
  | joinedOperation (h : c.phase = .joiningOperation) :
      Move c .quiet { c with phase := .disconnecting, operation := none }
  | gaveUpOperation (loose : List (Goroutine × Nat)) (h : c.phase = .joiningOperation)
      (hloose : loose = [] ∨ loose = [(.operation, c.generation)]) :
      Move c .quiet
        { c with
          phase := .disconnecting
          operation := none
          loose := loose ++ c.loose
          exit := { c.exit with err := join c.exit.err (some [.providerJoinTimeout]) } }
  | disconnect (joined : Bool) (h : c.phase = .disconnecting) :
      Move c .quiet
        { c with
          phase := if c.exit.providerJoined then .stoppingCallbacks else .joiningConnect
          disconnectJoined := joined
          connectJoined := c.exit.providerJoined
          loose := (if joined then [] else [(.disconnect, c.generation)]) ++ c.loose }
  | joinedConnect (result : Failure) (h : c.phase = .joiningConnect)
      (hresult : c.connect = some (.ended result)) : Move c .quiet (c.joinConnect result)
  | gaveUpConnect (loose : List (Goroutine × Nat)) (h : c.phase = .joiningConnect)
      (hloose : loose = [] ∨ loose = [(.connect, c.generation)]) :
      Move c .quiet
        { c with phase := .stoppingCallbacks, connect := none, loose := loose ++ c.loose }
  | stopped (h : c.phase = .stoppingCallbacks) :
      Move c .quiet { c.takeLatest with phase := .flushing, accepting := false }
  | flushedNothing (h : c.phase = .flushing) (hnone : c.pending = []) :
      Move c .quiet { c with phase := .settling (.ok true) }
  | flushed (h : c.phase = .flushing) (hsome : c.pending ≠ []) :
      Move c (.written c.pending) { c.stored with phase := .settling (.ok true) }
  | flushFailed (swap : StoreReply) (h : c.phase = .flushing) (hswap : swap ≠ .ok true) :
      Move c .quiet { c with phase := .settling swap, pending := [] }
  | settled (swap mark : StoreReply) (h : c.phase = .settling swap) :
      Move c .quiet (c.settle swap mark)
  | connectEnded (result : Failure) (h : c.connect = some .running) :
      Move c .quiet { c with connect := some (.ended result) }
  | operationEnded (result : Failure) (h : c.operation = some .running) :
      Move c .quiet { c with operation := some (.ended result) }
  | looseEnded (goroutine : Goroutine × Nat) :
      Move c .quiet { c with loose := c.loose.erase goroutine }
  | accepted (plaintext : Bytes) (h : c.accepting) :
      Move c (.accepted plaintext) { c with mailbox := some plaintext }

theorem afterWrite_move (reply : StoreReply) {c next : Control} (health : ConnectionActorHealth)
    (h : c.phase.isCalm) (hnext : Move c .quiet next) :
    Move c .quiet ({ c with health := health }.afterWrite reply next) := by
  rcases reply with causes | (_ | _)
  · exact .returned health _ h
  · exact .returned health _ h
  · exact hnext

theorem lose_move {c : Control} (health : ConnectionActorHealth) (err : Failure)
    (h : c.phase = .looping) : Move c .quiet ({ c with health := health }.lose err) := by
  unfold lose
  split
  · exact .left health _ _ h (.inl rfl)
  · exact .left health _ _ h (.inr rfl)

theorem observe_move {c : Control} (kind : EventKind) (now : Time) (reply : StoreReply)
    (h : c.phase = .looping) : Move c .quiet (c.observe kind now reply) := by
  rcases reply with causes | (_ | _) <;> cases kind
  all_goals first
    | exact lose_move _ _ h
    | exact .observed _ _ h

theorem flushSession_cases (c : Control) (reply : StoreReply) :
    (c.pending = [] ∧ c.flushSession reply = (.quiet, .ok true, c)) ∨
      (c.pending ≠ [] ∧ reply = .ok true ∧
        c.flushSession reply = (.written c.pending, .ok true, c.stored)) ∨
      ∃ swap, swap ≠ .ok true ∧ c.flushSession reply =
        (.quiet, swap, { c with pending := [] }) := by
  unfold flushSession
  by_cases hpending : c.pending = []
  · exact .inl ⟨hpending, if_pos hpending⟩
  · rw [if_neg hpending]
    rcases reply with causes | (_ | _)
    · exact .inr (.inr ⟨.error causes, nofun, rfl⟩)
    · exact .inr (.inr ⟨.ok false, nofun, rfl⟩)
    · exact .inr (.inl ⟨hpending, rfl, rfl⟩)

theorem debounce_move {c : Control} (reply : StoreReply) (h : c.phase = .looping) :
    Move c (c.debounce reply).1 (c.debounce reply).2 := by
  unfold debounce
  by_cases hcancelled : c.cancelled = true
  · rw [if_pos hcancelled]
    exact .interrupted h
  · rw [if_neg hcancelled]
    rcases flushSession_cases c.collect reply with
      ⟨hnone, heq⟩ | ⟨hsome, _, heq⟩ | ⟨swap, hswap, heq⟩
    · rw [heq]
      exact .collected h hnone
    · rw [heq]
      exact .wrote h hsome
    · rw [heq]
      rcases swap with causes | (_ | _)
      · exact .conflicted _ h
      · exact .conflicted _ h
      · exact absurd rfl hswap

theorem flush_move {c : Control} (reply : StoreReply) (h : c.phase = .flushing) :
    Move c (c.flushSession reply).1
      { (c.flushSession reply).2.2 with phase := .settling (c.flushSession reply).2.1 } := by
  rcases flushSession_cases c reply with ⟨hnone, heq⟩ | ⟨hsome, _, heq⟩ | ⟨swap, hswap, heq⟩
  · rw [heq]
    exact .flushedNothing h hnone
  · rw [heq]
    exact .flushed h hsome
  · rw [heq]
    exact .flushFailed swap h hswap

theorem isCalm_of_opening {phase : Phase} (h : phase.isOpening) : phase.isCalm := by
  simp [Phase.isCalm, h]

theorem isCalm_of_pausing {phase : Phase} (h : phase.isPausing) : phase.isCalm := by
  simp [Phase.isCalm, h]

theorem step_move (input : Input) (c : Control) : Move c (step input c).1 (step input c).2 := by
  fun_cases step input c
  all_goals try dsimp only
  -- the steps whose move is determined by the phase alone
  all_goals first
    | exact .same
    | exact .cancelled
    | exact .started ‹_›
    | exact observe_move _ _ _ ‹_›
    | exact lose_move _ _ ‹_›
    | exact debounce_move _ ‹_›
    | exact .disconnect _ ‹_›
    | exact .stopped ‹_›
    | exact .settled _ _ ‹_›
    | exact .looseEnded _
    | skip
  case case2 reply h =>
      have hopen : c.phase.isOpening := by rw [h]; rfl
      have hcalm := isCalm_of_opening hopen
      split
      · exact .returned _ _ hcalm
      · exact .returned _ _ hcalm
      · exact .returned _ _ hcalm
      · exact .opened _ _ _ hopen rfl
  case case3 h => exact .returned _ _ (by rw [h]; rfl)
  case case4 runId h => exact .opened _ _ _ (by rw [h]; rfl) rfl
  case case5 reply h =>
      have hopen : c.phase.isOpening := by rw [h]; rfl
      split
      · exact .returned _ _ (isCalm_of_opening hopen)
      · exact .opened _ _ _ hopen rfl
      · exact .opened _ _ _ hopen rfl
      · exact .opened _ _ _ hopen rfl
      · exact .returned _ _ (isCalm_of_opening hopen)
  case case6 reply h =>
      have hopen : c.phase.isOpening := by rw [h]; rfl
      split
      · exact .returned _ _ (isCalm_of_opening hopen)
      · split
        · exact .returned _ _ (isCalm_of_opening hopen)
        · exact .loaded _ h
  case case7 reply h => exact afterWrite_move reply _ (by rw [h]; rfl) (.prepared (.inl h))
  case case8 h => exact .returned _ _ (by rw [h]; rfl)
  case case10 h =>
      split
      · exact .left _ _ _ h (.inl rfl)
      · exact .same
  case case14 request h =>
      unfold serve
      split
      · next hserve =>
          simp only [Bool.and_eq_true, Option.isNone_iff_eq_none] at hserve
          exact .served h hserve.1.1.1.1
      · exact .same
  case case15 h =>
      split
      · exact .answered h
      · exact .same
  case case16 h =>
      split
      · next session hsession => exact .took session h hsession
      · exact .same
  case case19 h =>
      split
      · next result hresult => exact .disconnected result h hresult
      · exact .same
  case case20 h =>
      split
      · exact .joinedOperation h
      · exact .same
  case case21 h => exact .gaveUpOperation _ h (by split <;> simp)
  case case23 h =>
      split
      · next result hresult => exact .joinedConnect result h hresult
      · exact .same
  case case24 h => exact .gaveUpConnect _ h (by split <;> simp)
  case case26 reply h output swap after heq =>
      have hmove := flush_move reply h
      rw [heq] at hmove
      exact hmove
  case case28 delay reply h =>
      have hpause : c.phase.isPausing := by rw [h]; rfl
      exact afterWrite_move reply _ (isCalm_of_pausing hpause) (.paused .waiting _ hpause rfl)
  case case29 h =>
      split
      · exact .returned _ _ (by rw [h]; rfl)
      · exact .same
  case case31 reply _ h _ => exact .returned _ _ (by rw [h]; rfl)
  case case32 h => exact .paused .resuming _ (by rw [h]; rfl) rfl
  case case33 reply h => exact afterWrite_move reply _ (by rw [h]; rfl) (.prepared (.inr h))
  case case34 result =>
      split
      · next h => exact .connectEnded result h
      · exact .same
  case case35 result =>
      split
      · next h => exact .operationEnded result h
      · exact .same
  case case37 generation plaintext h =>
      rw [Bool.and_eq_true] at h
      exact .accepted plaintext h.1

end Control

end MessagingGateway.Actor
