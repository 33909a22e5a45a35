import MessagingGateway.Dispatch.Machine

/-!
# Consistency of the dispatch machine

`Consistent` relates lanes, attempts and messages; every step keeps it. It
yields the two facts about sends: an attempt under which provider I/O may still
begin, or has begun, is the only such attempt of its message, and its message is
not queued.
-/

namespace MessagingGateway.Dispatch

open Domain

variable {M L A : Type} {μ : Message L}

def Attempt.Active (att : Attempt M L) : Prop := att.phase = .claimed ∨ att.begun = true

structure Consistent (s : Machine M L A) : Prop where
  claim_message : ∀ l m, (s.lane l).claim = some m → s.laneOf m = some l
  claim_attempt : ∀ l m, (s.lane l).claim = some m →
    ∃ a att, s.Holds l a att ∧ att.lane = l ∧ att.phase ≠ .complete
  attempt_message : ∀ a att, s.attempt a = some att → s.laneOf att.message = some att.lane
  attempt_token : ∀ a att, s.attempt a = some att → att.token ≤ (s.lane att.lane).token
  token_unique : ∀ a b att btt, s.attempt a = some att → s.attempt b = some btt →
    att.lane = btt.lane → att.token = btt.token → a = b
  claimed_fresh : ∀ a att, s.attempt a = some att → att.phase = .claimed → att.begun = false
  started_begun : ∀ a att, s.attempt a = some att → att.phase = .started → att.begun = true
  active_unique : ∀ a b att btt, s.attempt a = some att → s.attempt b = some btt →
    att.Active → btt.Active → att.message = btt.message → a = b
  active_busy : ∀ a att, s.attempt a = some att → att.Active →
    s.stateOf att.message ≠ some .queued
  history_busy : ∀ m μ, s.message m = some μ → μ.state ≠ .queued →
    deriveMessageState μ.history ≠ some .queued

namespace Consistent

variable {s : Machine M L A} {a : A} {l : L} {att : Attempt M L}

theorem lane_of_claim (hs : Consistent s) (hold : s.Holds l a att) : att.lane = l := by
  have h := hs.attempt_message a att hold.attempt
  rw [hs.claim_message l _ hold.claim, Option.some.injEq] at h
  exact h.symm

variable [DecidableEq M] [DecidableEq L] [DecidableEq A]

/-! ### Messages on their own -/

/-- A message may be stored, or an existing one changed, if it keeps its lane
and no attempt that can send it sees it queued. -/
theorem setMessage (hs : Consistent s) {m : M} (hlane : ∀ l, s.laneOf m = some l → μ.lane = l)
    (hbusy : ∀ a att, s.attempt a = some att → att.Active → att.message = m → μ.state ≠ .queued)
    (hhistory : μ.state ≠ .queued → deriveMessageState μ.history ≠ some .queued) :
    Consistent (s.setMessage m μ) := by
  have laneOf_mono : ∀ m' l, s.laneOf m' = some l → (s.setMessage m μ).laneOf m' = some l := by
    intro m' l h
    by_cases hm : m' = m
    · subst hm
      simp [Machine.laneOf, hlane l h]
    · simpa [Machine.laneOf, hm] using h
  constructor
  case claim_message => exact fun l m' h => laneOf_mono m' l (hs.claim_message l m' h)
  case claim_attempt => simpa using hs.claim_attempt
  case attempt_message => exact fun a att h => laneOf_mono _ _ (hs.attempt_message a att h)
  case attempt_token => exact hs.attempt_token
  case token_unique => exact hs.token_unique
  case claimed_fresh => exact hs.claimed_fresh
  case started_begun => exact hs.started_begun
  case active_unique => exact hs.active_unique
  case active_busy =>
    intro a att ha hactive
    by_cases hm : att.message = m
    · simpa [Machine.stateOf, hm] using hbusy a att ha hactive hm
    · simpa [Machine.stateOf, hm] using hs.active_busy a att ha hactive
  case history_busy =>
    intro m' μ' h hstate
    rcases Machine.of_setMessage h with ⟨-, rfl⟩ | ⟨-, h⟩
    · exact hhistory hstate
    · exact hs.history_busy m' μ' h hstate

/-! ### Claims and attempts -/

theorem freeLane (hs : Consistent s) (l : L) : Consistent (s.freeLane l) := by
  have claim_of : ∀ l' m, ((s.freeLane l).lane l').claim = some m →
      l' ≠ l ∧ (s.lane l').claim = some m := by
    intro l' m h
    by_cases hl : l' = l
    · simp [hl] at h
    · exact ⟨hl, by simpa [hl] using h⟩
  have token_eq : ∀ l', ((s.freeLane l).lane l').token = (s.lane l').token := by
    intro l'
    by_cases hl : l' = l <;> simp [hl]
  constructor
  case claim_message => exact fun l' m h => hs.claim_message l' m (claim_of l' m h).2
  case claim_attempt =>
    intro l' m h
    obtain ⟨hl, h⟩ := claim_of l' m h
    obtain ⟨a, att, hold, hrest⟩ := hs.claim_attempt l' m h
    refine ⟨a, att, ⟨hold.attempt, ?_, ?_⟩, hrest⟩
    · simpa [hl] using hold.claim
    · simpa [hl] using hold.token
  case attempt_message => exact hs.attempt_message
  case attempt_token => exact fun a att h => (hs.attempt_token a att h).trans (token_eq _).ge
  case token_unique => exact hs.token_unique
  case claimed_fresh => exact hs.claimed_fresh
  case started_begun => exact hs.started_begun
  case active_unique => exact hs.active_unique
  case active_busy => exact hs.active_busy
  case history_busy => exact hs.history_busy

theorem setPhase (hs : Consistent s) {phase : Phase} {begun : Bool} (ha : s.attempt a = some att)
    (hactive : phase = .claimed ∨ begun = true → att.Active)
    (hclaimed : phase = .claimed → begun = false) (hstarted : phase = .started → begun = true)
    (hopen : ∀ l, s.Holds l a att → phase ≠ .complete) :
    Consistent (s.setAttempt a { att with phase := phase, begun := begun }) := by
  have old : ∀ b btt, (s.setAttempt a { att with phase := phase, begun := begun }).attempt b =
      some btt → ∃ btt₀, s.attempt b = some btt₀ ∧ btt₀.message = btt.message ∧
        btt₀.lane = btt.lane ∧ btt₀.token = btt.token ∧ (btt.Active → btt₀.Active) := by
    intro b btt h
    rcases Machine.of_setAttempt h with ⟨rfl, rfl⟩ | ⟨-, h⟩
    · exact ⟨att, ha, rfl, rfl, rfl, hactive⟩
    · exact ⟨btt, h, rfl, rfl, rfl, id⟩
  constructor
  case claim_message => exact hs.claim_message
  case claim_attempt =>
    intro l m h
    obtain ⟨b, btt, hold, hlane, hphase⟩ := hs.claim_attempt l m h
    by_cases hb : b = a
    · subst hb
      have hbtt : btt = att := Option.some.inj (hold.attempt.symm.trans ha)
      subst hbtt
      exact ⟨b, { btt with phase := phase, begun := begun },
        ⟨by simp, hold.claim, hold.token⟩, hlane, hopen l hold⟩
    · exact ⟨b, btt, ⟨by simpa [hb] using hold.attempt, hold.claim, hold.token⟩, hlane, hphase⟩
  case attempt_message =>
    intro b btt h
    obtain ⟨btt₀, h₀, hmessage, hlane, -, -⟩ := old b btt h
    rw [← hmessage, ← hlane]
    exact hs.attempt_message b btt₀ h₀
  case attempt_token =>
    intro b btt h
    obtain ⟨btt₀, h₀, -, hlane, htoken, -⟩ := old b btt h
    rw [← hlane, ← htoken]
    exact hs.attempt_token b btt₀ h₀
  case token_unique =>
    intro b c btt ctt hb hc hlane htoken
    obtain ⟨btt₀, hb₀, -, hbl, hbt, -⟩ := old b btt hb
    obtain ⟨ctt₀, hc₀, -, hcl, hct, -⟩ := old c ctt hc
    exact hs.token_unique b c btt₀ ctt₀ hb₀ hc₀ (by rw [hbl, hcl, hlane]) (by rw [hbt, hct, htoken])
  case claimed_fresh =>
    intro b btt h hphase
    rcases Machine.of_setAttempt h with ⟨-, rfl⟩ | ⟨-, h⟩
    · exact hclaimed hphase
    · exact hs.claimed_fresh b btt h hphase
  case started_begun =>
    intro b btt h hphase
    rcases Machine.of_setAttempt h with ⟨-, rfl⟩ | ⟨-, h⟩
    · exact hstarted hphase
    · exact hs.started_begun b btt h hphase
  case active_unique =>
    intro b c btt ctt hb hc hba hca hmessage
    obtain ⟨btt₀, hb₀, hbm, -, -, hbact⟩ := old b btt hb
    obtain ⟨ctt₀, hc₀, hcm, -, -, hcact⟩ := old c ctt hc
    exact hs.active_unique b c btt₀ ctt₀ hb₀ hc₀ (hbact hba) (hcact hca)
      (by rw [hbm, hcm, hmessage])
  case active_busy =>
    intro b btt h hact
    obtain ⟨btt₀, h₀, hmessage, -, -, hact₀⟩ := old b btt h
    rw [← hmessage]
    exact hs.active_busy b btt₀ h₀ (hact₀ hact)
  case history_busy => exact hs.history_busy

theorem lend (hs : Consistent s) {m : M} (hm : s.laneOf m = some l)
    (hstate : s.stateOf m ≠ some .queued) (ha : s.attempt a = none)
    (hidle : ∀ b btt, s.attempt b = some btt → btt.Active →
      btt.message ≠ m) :
    Consistent ((s.setLane l ⟨(s.lane l).token + 1, some m⟩).setAttempt a
      ⟨m, l, (s.lane l).token + 1, .claimed, false⟩) := by
  set s' := (s.setLane l ⟨(s.lane l).token + 1, some m⟩).setAttempt a
    ⟨m, l, (s.lane l).token + 1, .claimed, false⟩ with hs'
  have claim_of : ∀ l' m', (s'.lane l').claim = some m' →
      (l' = l ∧ m' = m) ∨ (l' ≠ l ∧ (s.lane l').claim = some m') := by
    intro l' m' h
    by_cases hl : l' = l
    · exact .inl ⟨hl, by simpa [hs', hl] using h.symm⟩
    · exact .inr ⟨hl, by simpa [hs', hl] using h⟩
  have token_le : ∀ l', (s.lane l').token ≤ (s'.lane l').token := by
    intro l'
    by_cases hl : l' = l <;> simp [hs', hl]
  constructor
  case claim_message =>
    intro l' m' h
    rcases claim_of l' m' h with ⟨rfl, rfl⟩ | ⟨-, h⟩
    · exact hm
    · exact hs.claim_message l' m' h
  case claim_attempt =>
    intro l' m' h
    rcases claim_of l' m' h with ⟨rfl, rfl⟩ | ⟨hl, h⟩
    · exact ⟨a, ⟨m', l', (s.lane l').token + 1, .claimed, false⟩,
        ⟨by simp [hs'], by simp [hs'], by simp [hs']⟩, rfl, by simp⟩
    · obtain ⟨b, btt, hold, hrest⟩ := hs.claim_attempt l' m' h
      have hb : b ≠ a := by
        rintro rfl
        exact absurd hold.attempt (by simp [ha])
      exact ⟨b, btt, ⟨by simpa [hs', hb] using hold.attempt, by simpa [hs', hl] using hold.claim,
        by simpa [hs', hl] using hold.token⟩, hrest⟩
  case attempt_message =>
    intro b btt h
    rcases Machine.of_setAttempt h with ⟨-, rfl⟩ | ⟨-, h⟩
    · exact hm
    · exact hs.attempt_message b btt h
  case attempt_token =>
    intro b btt h
    rcases Machine.of_setAttempt h with ⟨-, rfl⟩ | ⟨-, h⟩
    · simp [hs']
    · exact (hs.attempt_token b btt h).trans (token_le _)
  case token_unique =>
    -- the token of the new attempt is above every token of its lane
    have above : ∀ b btt, s.attempt b = some btt → btt.lane = l →
        btt.token ≠ (s.lane l).token + 1 := by
      rintro b btt h rfl
      have := hs.attempt_token b btt h
      omega
    intro b c btt ctt hb hc hlane htoken
    rcases Machine.of_setAttempt hb with ⟨rfl, rfl⟩ | ⟨-, hb'⟩ <;>
      rcases Machine.of_setAttempt hc with ⟨rfl, rfl⟩ | ⟨-, hc'⟩
    · rfl
    · exact absurd htoken.symm (above c ctt hc' hlane.symm)
    · exact absurd htoken (above b btt hb' hlane)
    · exact hs.token_unique b c btt ctt hb' hc' hlane htoken
  case claimed_fresh =>
    intro b btt h hphase
    rcases Machine.of_setAttempt h with ⟨-, rfl⟩ | ⟨-, h⟩
    · rfl
    · exact hs.claimed_fresh b btt h hphase
  case started_begun =>
    intro b btt h hphase
    rcases Machine.of_setAttempt h with ⟨-, rfl⟩ | ⟨-, h⟩
    · simp at hphase
    · exact hs.started_begun b btt h hphase
  case active_unique =>
    intro b c btt ctt hb hc hba hca hmessage
    rcases Machine.of_setAttempt hb with ⟨rfl, rfl⟩ | ⟨-, hb'⟩ <;>
      rcases Machine.of_setAttempt hc with ⟨rfl, rfl⟩ | ⟨-, hc'⟩
    · rfl
    · exact absurd hmessage.symm (hidle c ctt hc' hca)
    · exact absurd hmessage (hidle b btt hb' hba)
    · exact hs.active_unique b c btt ctt hb' hc' hba hca hmessage
  case active_busy =>
    intro b btt h hactive
    rcases Machine.of_setAttempt h with ⟨-, rfl⟩ | ⟨-, h⟩
    · exact hstate
    · exact hs.active_busy b btt h hactive
  case history_busy => exact hs.history_busy

theorem settle (hs : Consistent s) (hold : s.Holds l a att) :
    Consistent ((s.freeLane l).setAttempt a { att with phase := .complete }) := by
  refine (hs.freeLane l).setPhase hold.attempt (fun h => ?_) (by simp) (by simp) ?_
  · rcases h with h | h
    · simp at h
    · exact .inr h
  · -- no other lane claims the message
    intro l' hold'
    have hl := hs.lane_of_claim hold
    have hl' := (hs.freeLane l).lane_of_claim hold'
    subst hl hl'
    simpa using hold'.claim

theorem begun_of_settled (hs : Consistent s)
    (hold : s.Holds l a att) (hphase : att.phase ≠ .complete) {b : A} {btt : Attempt M L}
    (hb : ((s.freeLane l).setAttempt a { att with phase := .complete }).attempt b = some btt)
    (hactive : btt.Active) (hmessage : btt.message = att.message) : att.begun = true := by
  have hatt : att.Active := by
    cases hph : att.phase with
    | claimed => exact .inl hph
    | started => exact .inr (hs.started_begun a att hold.attempt hph)
    | complete => exact absurd hph hphase
  rcases Machine.of_setAttempt hb with ⟨-, rfl⟩ | ⟨hba, hb⟩
  · simpa [Attempt.Active] using hactive
  · exact absurd (hs.active_unique b a btt att hb hold.attempt hactive hatt hmessage) hba

/-- An attempt is settled together with its message, which goes back to the
queue only if nothing was begun. -/
theorem settleMessage (hs : Consistent s) {μ₀ : Message L}
    (hold : s.Holds l a att) (hphase : att.phase ≠ .complete)
    (hm : s.message att.message = some μ₀) (hlane : μ.lane = μ₀.lane)
    (hbusy : att.begun = true → μ.state ≠ .queued)
    (hhistory : μ.state ≠ .queued → deriveMessageState μ.history ≠ some .queued) :
    Consistent (((s.setMessage att.message μ).setAttempt a
      { att with phase := .complete }).freeLane l) := by
  refine (hs.settle hold).setMessage ?_ (fun b btt hb hactive hmessage => ?_) hhistory
  · intro l' h
    simp only [Machine.laneOf, Machine.setAttempt_message, Machine.freeLane_message, hm,
      Option.map_some, Option.some.injEq] at h
    rw [hlane, h]
  · exact hbusy (hs.begun_of_settled hold hphase hb hactive hmessage)

end Consistent

/-! ### Observations -/

theorem Message.reconciled_ne_queued {observed : Option MessageState}
    (hstate : μ.state ≠ .queued) (hhistory : deriveMessageState μ.history ≠ some .queued)
    (hobserved : ∀ state ∈ observed, state ≠ .queued) : μ.reconciled observed ≠ .queued := by
  have hlater : ∀ state ∈ observed.toList, state ≠ MessageState.queued := by
    simpa using hobserved
  have hfold : deriveMessageState ((if μ.history = [] then [μ.state] else μ.history) ++
      observed.toList) ≠ some .queued := by
    rw [deriveMessageState_append]
    refine foldl_observe_ne_queued ?_ hlater
    split
    · simpa using hstate
    · exact hhistory
  unfold Message.reconciled
  cases h : deriveMessageState ((if μ.history = [] then [μ.state] else μ.history) ++
      observed.toList) with
  | none => exact hstate
  | some state => simpa [h] using hfold

theorem Message.reconcile_history {observed : Option MessageState}
    (hobserved : ∀ state ∈ observed, state ≠ .queued) (hstate : μ.reconciled observed ≠ .queued) :
    deriveMessageState (μ.reconcile observed).history ≠ some .queued := by
  have hlater : ∀ state ∈ observed.toList, state ≠ MessageState.queued := by
    simpa using hobserved
  by_cases hempty : μ.history = []
  · -- nothing was recorded: the new history is the observation alone
    simp only [Message.reconcile, hempty]
    rw [deriveMessageState_append]
    exact foldl_observe_ne_queued (by simp) hlater
  · intro hfold
    simp only [Message.reconcile] at hfold
    simp [Message.reconciled, hempty, hfold] at hstate

section

variable [DecidableEq M] [DecidableEq L] [DecidableEq A] {s s' : Machine M L A}

theorem Step.consistent {label : Label M L} (hstep : Step s label s') (hs : Consistent s) :
    Consistent s' := by
  cases hstep with
  | create hm =>
    refine hs.setMessage (by simp [Machine.laneOf, hm]) ?_ (by simp)
    rintro a att ha - rfl
    exact absurd (hs.attempt_message a att ha) (by simp [Machine.laneOf, hm])
  | @claim m l a μ hm hl hstate ha =>
    have hrecord : Consistent (s.setMessage m (μ.record .dispatching)) := by
      refine hs.setMessage ?_ (fun _ _ _ _ _ => by simp [Message.record]) fun _ => ?_
      · simp [Machine.laneOf, hm, Message.record]
      · rw [Message.record, deriveMessageState_concat]
        exact observe_dispatching_ne_queued _
    refine hrecord.lend ?_ ?_ ha ?_
    · simp [Machine.laneOf, Message.record, hl]
    · simp [Machine.stateOf, Message.record]
    · -- an attempt that can send would keep its message out of the queue
      rintro b btt hb hactive rfl
      exact hs.active_busy b btt hb hactive (by simp [Machine.stateOf, hm, hstate])
  | @recover l a att μ hold hl hphase hm hstate =>
    have hhistory := hs.history_busy _ μ hm (by simp [hstate])
    refine hs.settleMessage hold hphase hm rfl (fun hbegun => ?_) fun hne => ?_
    · have hph : att.phase ≠ .claimed := fun h => by
        simp [hs.claimed_fresh a att hold.attempt h] at hbegun
      cases hp : att.phase <;> simp_all [Message.record, recoveredState]
    · rw [Message.record, deriveMessageState_concat]
      exact observe_ne_queued hhistory hne
  | abandon hclaim hm hstate => exact hs.freeLane _
  | @begin l a att μ hold hphase hm hstate =>
    exact hs.setPhase hold.attempt (fun _ => .inl hphase) (by simp) (by simp) (by simp)
  | @finish l a att μ states hold hphase hm hstate hstates =>
    have hhistory := hs.history_busy _ μ hm (by simp [hstate])
    refine hs.settleMessage hold (by simp [hphase]) hm rfl (fun _ => ?_) fun _ => ?_
    · have hfold : deriveMessageState (.dispatching :: states) ≠ some .queued := by
        rw [← List.singleton_append, deriveMessageState_append]
        exact foldl_observe_ne_queued (by simp) hstates
      cases hd : deriveMessageState (.dispatching :: states) <;> simp_all
    · rw [deriveMessageState_append]
      exact foldl_observe_ne_queued hhistory hstates
  | @requeue l a att μ hold hphase hm hstate =>
    refine hs.settleMessage hold (by simp [hphase]) hm rfl (fun hbegun => ?_)
      (by simp [Message.record])
    simp [hs.claimed_fresh a att hold.attempt hphase] at hbegun
  | @discover m l t observed hm hobserved =>
    refine hs.setMessage (by simp [Machine.laneOf, hm]) (fun _ _ _ _ _ => hobserved) fun _ => ?_
    simpa using hobserved
  | adopt hm =>
    exact hs.setMessage (by simp [Machine.laneOf, hm]) (by simp) (by simp)
  | @observe m μ observed hm hobserved =>
    refine hs.setMessage (by simp [Machine.laneOf, hm, Message.reconcile]) ?_
      (Message.reconcile_history hobserved)
    rintro a att ha hactive rfl
    have hstate : μ.state ≠ .queued := by
      simpa [Machine.stateOf, hm] using hs.active_busy a att ha hactive
    exact Message.reconciled_ne_queued hstate (hs.history_busy _ μ hm hstate) hobserved

end

end MessagingGateway.Dispatch
