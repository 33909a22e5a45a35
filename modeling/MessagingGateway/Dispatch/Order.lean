import MessagingGateway.Dispatch.Consistency

/-!
# Exclusive lanes, states with their histories and first-in first-out lanes

Two invariants that consistent machines keep as long as the steps avoid the labels that
break them: lanes stay exclusive while no claim is abandoned, and first-in first-out
while messages are created and claimed in order. A third one every step keeps: a state
is the fold of its history, but for the messages that say so themselves.
-/

namespace MessagingGateway.Dispatch

open Domain

variable {M L A : Type}

def Exclusive (s : Machine M L A) : Prop :=
  ∀ a att, s.attempt a = some att → att.phase ≠ .complete → s.Holds att.lane a att

variable {μ : Message L} {a : A} {m : M} {att : Attempt M L} {label : Label M L} {l : L}

theorem Exclusive.unique {s : Machine M L A} (hs : Consistent s) (hex : Exclusive s) {b : A}
    {btt : Attempt M L}
    (ha : s.attempt a = some att) (hb : s.attempt b = some btt) (hlane : att.lane = btt.lane)
    (haopen : att.phase ≠ .complete) (hbopen : btt.phase ≠ .complete) : a = b := by
  have h₁ := (hex a att ha haopen).token
  have h₂ := (hex b btt hb hbopen).token
  rw [hlane] at h₁
  exact hs.token_unique a b att btt ha hb hlane (h₁.symm.trans h₂)

section

variable [DecidableEq M] [DecidableEq L] [DecidableEq A] {s s' : Machine M L A}

theorem Exclusive.setMessage (hex : Exclusive s) (m : M) (μ : Message L) :
    Exclusive (s.setMessage m μ) :=
  fun a att ha hopen => Machine.holds_setMessage.2 (hex a att ha hopen)

theorem Exclusive.settle (hs : Consistent s) (hex : Exclusive s)
    (hold : s.Holds l a att) (hphase : att.phase ≠ .complete) :
    Exclusive ((s.setAttempt a { att with phase := .complete }).freeLane l) := by
  intro b btt hb hopen
  rcases Machine.of_setAttempt hb with ⟨-, rfl⟩ | ⟨hba, hold'⟩
  · exact absurd rfl hopen
  · have hheld := hex b btt hold' hopen
    have hl := hs.lane_of_claim hold
    have hne : btt.lane ≠ l := by
      rintro rfl
      exact hba (hex.unique hs hold' hold.attempt hl.symm hopen hphase)
    refine ⟨hb, ?_, ?_⟩
    · simpa [hne] using hheld.claim
    · simpa [hne] using hheld.token

theorem Step.exclusive (hstep : Step s label s') (hs : Consistent s)
    (hex : Exclusive s) (hlabel : ∀ l, label ≠ .abandon l) : Exclusive s' := by
  cases hstep with
  | @claim m l a μ hm hl hstate ha hidle =>
    intro b btt hb hopen
    rcases Machine.of_setAttempt hb with ⟨rfl, rfl⟩ | ⟨hba, hb⟩
    · exact ⟨by simp, by simp, by simp⟩
    · have hheld := hex b btt hb hopen
      have hne : btt.lane ≠ l := by
        rintro rfl
        exact hopen (hidle b btt hheld rfl)
      refine ⟨by simpa [hba] using hb, ?_, ?_⟩
      · simpa [hne] using hheld.claim
      · simpa [hne] using hheld.token
  | recover hold hl hphase hm hstate => exact (hex.settle hs hold hphase).setMessage _ _
  | abandon => exact absurd rfl (hlabel _)
  | @begin l a att μ hold hphase hm hstate =>
    intro b btt hb hopen
    rcases Machine.of_setAttempt hb with ⟨rfl, rfl⟩ | ⟨hba, hb⟩
    · have hheld := hex b att hold.attempt (by simp [hphase])
      exact ⟨by simp, hheld.claim, hheld.token⟩
    · have hheld := hex b btt hb hopen
      exact ⟨by simpa [hba] using hb, hheld.claim, hheld.token⟩
  | finish hold hphase hm hstate hstates | requeue hold hphase hm hstate =>
    exact (hex.settle hs hold (by simp [hphase])).setMessage _ _
  | _ => exact hex.setMessage _ _

end

/-! ### States and their histories -/

/-- A claimed message went back into the queue: the history ends there, but still folds
to `dispatching`. -/
structure Message.PutBack (μ : Message L) : Prop where
  state : μ.state = .queued
  last : μ.history.getLast? = some .queued
  fold : deriveMessageState μ.history = some .dispatching

/-- A state is the fold of the history behind it, except that a message without a
history is uncertain, and that of a message that was put back. -/
inductive Message.Tracked (μ : Message L) : Prop
  | unrecorded (empty : μ.history = []) (state : μ.state = .uncertain)
  | derived (fold : deriveMessageState μ.history = some μ.state)
  | putBack (back : μ.PutBack)

theorem observe_uncertain (observed : MessageState) :
    observe (some .uncertain) observed = some observed := by
  cases observed <;> rfl

namespace Message.Tracked

theorem dispatching (h : μ.Tracked) (hstate : μ.state = .dispatching) :
    deriveMessageState μ.history = some .dispatching := by
  cases h with
  | unrecorded _ huncertain => simp [hstate] at huncertain
  | derived hfold => rw [hfold, hstate]
  | putBack hback => exact hback.fold

theorem requeue (h : μ.Tracked) (hstate : μ.state = .dispatching) : (μ.record .queued).Tracked := by
  refine .putBack ⟨rfl, by simp [Message.record], ?_⟩
  rw [Message.record, deriveMessageState_concat, h.dispatching hstate]
  rfl

theorem claim (h : μ.Tracked) (hstate : μ.state = .queued) : (μ.record .dispatching).Tracked := by
  refine .derived ?_
  rw [Message.record, deriveMessageState_concat]
  cases h with
  | unrecorded _ huncertain => simp [hstate] at huncertain
  | derived hfold => rw [hfold, hstate]; rfl
  | putBack hback => rw [hback.fold]; rfl

theorem reconcile (h : μ.Tracked) (observed : Option MessageState) :
    (μ.reconcile observed).Tracked := by
  by_cases hempty : μ.history = []
  · have hstate : μ.state = .uncertain := by
      cases h with
      | unrecorded _ hstate => exact hstate
      | derived hfold => simp [hempty] at hfold
      | putBack hback => simpa [hempty] using hback.fold
    cases observed with
    | none => exact .unrecorded (by simp [Message.reconcile, hempty]) (by
        simp [Message.reconcile, Message.reconciled, hempty, hstate])
    | some observed =>
      have hfold : deriveMessageState [.uncertain, observed] = some observed := by
        rw [← List.singleton_append, deriveMessageState_concat, deriveMessageState_singleton,
          observe_uncertain]
      refine .derived ?_
      simp [Message.reconcile, Message.reconciled, hempty, hstate, hfold]
  · have hsome : (deriveMessageState (μ.history ++ observed.toList)).isSome :=
      deriveMessageState_isSome (by simp [hempty])
    obtain ⟨state, hstate⟩ := Option.isSome_iff_exists.1 hsome
    refine .derived ?_
    simp [Message.reconcile, Message.reconciled, hempty, hstate]

/-- What a receipt without a state makes of a message. -/
theorem reconciled_none (h : μ.Tracked) :
    μ.reconciled none = μ.state ∨ μ.PutBack ∧ μ.reconciled none = .dispatching := by
  cases h with
  | unrecorded hempty hstate => left; simp [Message.reconciled, hempty, hstate]
  | derived hfold =>
    have hne : μ.history ≠ [] := by
      intro hempty
      simp [hempty] at hfold
    left
    simp [Message.reconciled, hne, hfold]
  | putBack hback =>
    have hne : μ.history ≠ [] := by
      intro hempty
      simpa [hempty] using hback.last
    exact .inr ⟨hback, by simp [Message.reconciled, hne, hback.fold]⟩

end Message.Tracked

section

variable [DecidableEq M] [DecidableEq L] [DecidableEq A] {s s' : Machine M L A}

def Tracked (s : Machine M L A) : Prop := ∀ m μ, s.message m = some μ → μ.Tracked

theorem Tracked.setMessage (h : Tracked s) (hμ : μ.Tracked) : Tracked (s.setMessage m μ) := by
  intro m' μ' hm'
  rcases Machine.of_setMessage hm' with ⟨-, rfl⟩ | ⟨-, hm'⟩
  · exact hμ
  · exact h m' μ' hm'

theorem Step.tracked (hstep : Step s label s') (h : Tracked s) : Tracked s' := by
  cases hstep with
  | create hm => exact h.setMessage (.derived rfl)
  | @claim m l a μ hm hl hstate => exact h.setMessage (m := m) ((h m μ hm).claim hstate)
  | @recover l a att μ hold hl hphase hm hstate =>
    refine h.setMessage (m := att.message) ?_
    cases hp : att.phase with
    | claimed => exact (h _ μ hm).requeue hstate
    | started =>
      refine .derived ?_
      rw [Message.record, deriveMessageState_concat, (h _ μ hm).dispatching hstate]
      rfl
    | complete => exact absurd hp hphase
  | abandon => exact h
  | begin => exact h
  | @finish l a att μ states hold hphase hm hstate hstates =>
    -- the completion folds the current state alone, which is the fold of the history
    refine h.setMessage (m := att.message) (.derived ?_)
    have hsome := deriveMessageState_isSome (List.cons_ne_nil MessageState.dispatching states)
    obtain ⟨state, hd⟩ := Option.isSome_iff_exists.1 hsome
    simp [deriveMessageState_resume ((h _ μ hm).dispatching hstate), hd]
  | @requeue l a att μ hold hphase hm hstate =>
    exact h.setMessage (m := att.message) ((h _ μ hm).requeue hstate)
  | discover => exact h.setMessage (.derived (by simp))
  | adopt => exact h.setMessage (.unrecorded rfl rfl)
  | observe hm => exact h.setMessage ((h _ _ hm).reconcile _)

end

/-! ### First in, first out -/

/-- The messages of a lane leave the queue for good in the order they were
created: once a message has been claimed, the older ones of its lane are
neither queued nor claimed. -/
structure Fifo (s : Machine M L A) : Prop where
  attempt_queued : ∀ a att μ, s.attempt a = some att → s.message att.message = some μ →
    .queued ∈ μ.history
  state_queued : ∀ m μ, s.message m = some μ → μ.state = .queued → .queued ∈ μ.history
  created_unique : ∀ m m' μ μ', s.message m = some μ → s.message m' = some μ' →
    μ.lane = μ'.lane → .queued ∈ μ.history → .queued ∈ μ'.history →
    μ.createdAt = μ'.createdAt → m = m'
  older_done : ∀ a att μ m' μ', s.attempt a = some att → s.message att.message = some μ →
    s.message m' = some μ' → μ'.lane = att.lane → μ'.createdAt < μ.createdAt →
    μ'.state ≠ .queued ∧ (s.lane att.lane).claim ≠ some m'

def Label.InOrder (s : Machine M L A) : Label M L → Prop
  | .create l t => ∀ m μ, s.message m = some μ → μ.lane = l → .queued ∈ μ.history →
      μ.createdAt < t
  | .claim l m => ∀ μ, s.message m = some μ → ∀ m' μ', s.message m' = some μ' → μ'.lane = l →
      μ'.state = .queued → μ.createdAt ≤ μ'.createdAt
  | _ => True

namespace Fifo

variable [DecidableEq M] [DecidableEq L] [DecidableEq A] {s : Machine M L A}

theorem addMessage (hs : Consistent s) (hf : Fifo s)
    (hm : s.message m = none) (hstate : μ.state = .queued → .queued ∈ μ.history)
    (horder : .queued ∈ μ.history → ∀ m' μ', s.message m' = some μ' → μ'.lane = μ.lane →
      .queued ∈ μ'.history → μ'.createdAt < μ.createdAt) : Fifo (s.setMessage m μ) := by
  have not_attempted : ∀ a att, s.attempt a = some att → att.message ≠ m := by
    rintro a att ha rfl
    exact absurd (hs.attempt_message a att ha) (by simp [Machine.laneOf, hm])
  constructor
  case attempt_queued =>
    intro a att μ' ha h
    rcases Machine.of_setMessage h with ⟨h, -⟩ | ⟨-, h⟩
    · exact absurd h (not_attempted a att ha)
    · exact hf.attempt_queued a att μ' ha h
  case state_queued =>
    intro m' μ' h hqueued
    rcases Machine.of_setMessage h with ⟨-, rfl⟩ | ⟨-, h⟩
    · exact hstate hqueued
    · exact hf.state_queued m' μ' h hqueued
  case created_unique =>
    intro m₁ m₂ μ₁ μ₂ h₁ h₂ hlane hq₁ hq₂ hcreated
    rcases Machine.of_setMessage h₁ with ⟨rfl, rfl⟩ | ⟨-, k₁⟩ <;>
      rcases Machine.of_setMessage h₂ with ⟨rfl, rfl⟩ | ⟨-, k₂⟩
    · rfl
    · exact absurd hcreated (horder hq₁ m₂ μ₂ k₂ hlane.symm hq₂).ne'
    · exact absurd hcreated (horder hq₂ m₁ μ₁ k₁ hlane hq₁).ne
    · exact hf.created_unique m₁ m₂ μ₁ μ₂ k₁ k₂ hlane hq₁ hq₂ hcreated
  case older_done =>
    intro a att μ₁ m' μ' ha h₁ h' hlane holder
    rcases Machine.of_setMessage h₁ with ⟨h, -⟩ | ⟨-, k₁⟩
    · exact absurd h (not_attempted a att ha)
    · rcases Machine.of_setMessage h' with ⟨rfl, rfl⟩ | ⟨-, k'⟩
      · -- a queued newcomer is younger than the claimed message
        have hlane₁ : μ₁.lane = att.lane := by
          simpa [Machine.laneOf, k₁] using hs.attempt_message a att ha
        constructor
        · intro hqueued
          exact lt_asymm holder (horder (hstate hqueued) _ μ₁ k₁ (hlane₁.trans hlane.symm)
            (hf.attempt_queued a att μ₁ ha k₁))
        · intro hclaim
          exact absurd (hs.claim_message _ _ hclaim) (by simp [Machine.laneOf, hm])
      · exact hf.older_done a att μ₁ m' μ' ha k₁ k' hlane holder

theorem setMessage (hf : Fifo s) {μ₀ : Message L} (hm : s.message m = some μ₀)
    (hlane : μ.lane = μ₀.lane) (hcreated : μ.createdAt = μ₀.createdAt)
    (hhistory : .queued ∈ μ.history ↔ .queued ∈ μ₀.history)
    (hstate : μ.state = .queued → .queued ∈ μ₀.history)
    (hback : μ.state = .queued → ∀ a att μ₁, s.attempt a = some att →
      s.message att.message = some μ₁ → μ₀.lane = att.lane → ¬ μ₀.createdAt < μ₁.createdAt) :
    Fifo (s.setMessage m μ) := by
  have old : ∀ m' μ', (s.setMessage m μ).message m' = some μ' →
      ∃ μ₁, s.message m' = some μ₁ ∧ μ'.lane = μ₁.lane ∧ μ'.createdAt = μ₁.createdAt ∧
        (.queued ∈ μ'.history ↔ .queued ∈ μ₁.history) ∧
          ((m' = m ∧ μ' = μ ∧ μ₁ = μ₀) ∨ μ' = μ₁) := by
    intro m' μ' h
    rcases Machine.of_setMessage h with ⟨rfl, rfl⟩ | ⟨-, h⟩
    · exact ⟨μ₀, hm, hlane, hcreated, hhistory, .inl ⟨rfl, rfl, rfl⟩⟩
    · exact ⟨μ', h, rfl, rfl, Iff.rfl, .inr rfl⟩
  constructor
  case attempt_queued =>
    intro a att μ' ha h
    obtain ⟨μ₁, h₁, -, -, hiff, -⟩ := old _ μ' h
    exact hiff.2 (hf.attempt_queued a att μ₁ ha h₁)
  case state_queued =>
    intro m' μ' h hqueued
    obtain ⟨μ₁, h₁, -, -, hiff, ⟨-, rfl, rfl⟩ | rfl⟩ := old m' μ' h
    · exact hiff.2 (hstate hqueued)
    · exact hf.state_queued m' μ' h₁ hqueued
  case created_unique =>
    intro m₁ m₂ μ₁ μ₂ h₁ h₂ hl hq₁ hq₂ hc
    obtain ⟨ν₁, k₁, hl₁, hc₁, hiff₁, -⟩ := old m₁ μ₁ h₁
    obtain ⟨ν₂, k₂, hl₂, hc₂, hiff₂, -⟩ := old m₂ μ₂ h₂
    exact hf.created_unique m₁ m₂ ν₁ ν₂ k₁ k₂ (by rw [← hl₁, hl, hl₂]) (hiff₁.1 hq₁) (hiff₂.1 hq₂)
      (by rw [← hc₁, hc, hc₂])
  case older_done =>
    intro a att μ₁ m' μ' ha h₁ h' hl holder
    obtain ⟨ν₁, k₁, hl₁, hc₁, -, -⟩ := old _ μ₁ h₁
    obtain ⟨ν', k', hl', hc', -, hcases⟩ := old m' μ' h'
    have holder' : ν'.createdAt < ν₁.createdAt := by rw [← hc', ← hc₁]; exact holder
    have hdone := hf.older_done a att ν₁ m' ν' ha k₁ k' (hl'.symm.trans hl) holder'
    refine ⟨?_, hdone.2⟩
    rcases hcases with ⟨rfl, rfl, rfl⟩ | rfl
    · intro hqueued
      exact hback hqueued a att ν₁ ha k₁ (hl'.symm.trans hl) holder'
    · exact hdone.1

end Fifo

section

variable [DecidableEq M] [DecidableEq L] [DecidableEq A] {s s' : Machine M L A}

theorem Step.immutable (hstep : Step s label s')
    (hm : s.message m = some μ) : ∃ μ', s'.message m = some μ' ∧ μ'.lane = μ.lane ∧
      μ'.createdAt = μ.createdAt ∧ μ.history <+: μ'.history := by
  have keep : ∀ m₀ (ν : Message L), (∀ ν₀, s.message m₀ = some ν₀ → ν.lane = ν₀.lane ∧
      ν.createdAt = ν₀.createdAt ∧ ν₀.history <+: ν.history) →
      ∃ μ', (s.setMessage m₀ ν).message m = some μ' ∧ μ'.lane = μ.lane ∧
        μ'.createdAt = μ.createdAt ∧ μ.history <+: μ'.history := by
    intro m₀ ν hν
    by_cases h : m = m₀
    · subst h
      exact ⟨ν, by simp, hν μ hm⟩
    · exact ⟨μ, by simp [h, hm], rfl, rfl, List.prefix_rfl⟩
  have same : ∃ μ', s.message m = some μ' ∧ μ'.lane = μ.lane ∧ μ'.createdAt = μ.createdAt ∧
      μ.history <+: μ'.history := ⟨μ, hm, rfl, rfl, List.prefix_rfl⟩
  cases hstep with
  | create h | finish hold hphase h | discover h | adopt h => exact keep _ _ (by simp [h])
  | claim h | recover hold hl hphase h | requeue hold hphase h =>
    exact keep _ _ (by simp [h, Message.record])
  | abandon | begin => exact same
  | observe h => exact keep _ _ (by simp [h, Message.reconcile])

namespace Fifo

theorem freeLane (hf : Fifo s) (l : L) : Fifo (s.freeLane l) := by
  refine ⟨hf.attempt_queued, hf.state_queued, hf.created_unique, ?_⟩
  intro a att μ m' μ' ha h h' hlane holder
  have hdone := hf.older_done a att μ m' μ' ha h h' hlane holder
  refine ⟨hdone.1, ?_⟩
  by_cases hl : att.lane = l
  · simp [hl]
  · simpa [hl] using hdone.2

theorem setPhase (hf : Fifo s) (ha : s.attempt a = some att) (phase : Phase) (begun : Bool) :
    Fifo (s.setAttempt a { att with phase := phase, begun := begun }) := by
  have old : ∀ b btt, (s.setAttempt a { att with phase := phase, begun := begun }).attempt b =
      some btt → ∃ btt₀, s.attempt b = some btt₀ ∧ btt₀.message = btt.message ∧
        btt₀.lane = btt.lane := by
    intro b btt h
    rcases Machine.of_setAttempt h with ⟨rfl, rfl⟩ | ⟨-, h⟩
    · exact ⟨att, ha, rfl, rfl⟩
    · exact ⟨btt, h, rfl, rfl⟩
  refine ⟨?_, hf.state_queued, hf.created_unique, ?_⟩
  · intro b btt μ hb h
    obtain ⟨btt₀, hb₀, hmessage, -⟩ := old b btt hb
    rw [← hmessage] at h
    exact hf.attempt_queued b btt₀ μ hb₀ h
  · intro b btt μ m' μ' hb h h' hlane holder
    obtain ⟨btt₀, hb₀, hmessage, hl⟩ := old b btt hb
    rw [← hmessage] at h
    rw [← hl] at hlane ⊢
    exact hf.older_done b btt₀ μ m' μ' hb₀ h h' hlane holder

theorem lend (hf : Fifo s) {token : Nat} (hm : s.message m = some μ) (hqueued : .queued ∈ μ.history)
    (hfirst : ∀ m' μ', s.message m' = some μ' → μ'.lane = l → μ'.createdAt < μ.createdAt →
      μ'.state ≠ .queued)
    (hlast : ∀ b btt μ₁, s.attempt b = some btt → s.message btt.message = some μ₁ →
      btt.lane = l → ¬ μ.createdAt < μ₁.createdAt) :
    Fifo ((s.setLane l ⟨token, some m⟩).setAttempt a ⟨m, l, token, .claimed, false⟩) := by
  refine ⟨?_, hf.state_queued, hf.created_unique, ?_⟩
  · intro b btt μ₁ hb h
    rcases Machine.of_setAttempt hb with ⟨-, rfl⟩ | ⟨-, hb⟩
    · cases Option.some.inj (hm.symm.trans h)
      exact hqueued
    · exact hf.attempt_queued b btt μ₁ hb h
  · intro b btt μ₁ m' μ' hb h h' hlane holder
    rcases Machine.of_setAttempt hb with ⟨-, rfl⟩ | ⟨-, hb'⟩
    · cases Option.some.inj (hm.symm.trans h)
      refine ⟨hfirst m' μ' h' hlane holder, ?_⟩
      rintro hclaim
      have hmm : m' = m := by simpa using hclaim.symm
      subst hmm
      cases Option.some.inj (hm.symm.trans h')
      exact lt_irrefl _ holder
    · have hdone := hf.older_done b btt μ₁ m' μ' hb' h h' hlane holder
      refine ⟨hdone.1, ?_⟩
      by_cases hbl : btt.lane = l
      · intro hclaim
        have hmm : m' = m := by simpa [hbl] using hclaim.symm
        subst hmm
        cases Option.some.inj (hm.symm.trans h')
        exact hlast b btt μ₁ hb' h hbl holder
      · simpa [hbl] using hdone.2

/-- Settling a claim may put its message back into the queue: the lane claims
it, so no younger message of the lane has been claimed. -/
theorem settle (hs : Consistent s) (hf : Fifo s)
    {μ₀ : Message L} (hold : s.Holds l a att) (hm : s.message att.message = some μ₀)
    (hlane : μ.lane = μ₀.lane) (hcreated : μ.createdAt = μ₀.createdAt)
    (hgrows : μ₀.history <+: μ.history) (phase : Phase) :
    Fifo (((s.setMessage att.message μ).setAttempt a { att with phase := phase }).freeLane l) := by
  have hqueued := hf.attempt_queued a att μ₀ hold.attempt hm
  have hmessage : Fifo (s.setMessage att.message μ) := by
    refine hf.setMessage hm hlane hcreated ?_ (fun _ => hqueued) ?_
    · exact ⟨fun _ => hqueued, fun h => hgrows.subset h⟩
    · intro _ b btt μ₁ hb h₁ hl hyounger
      have hl₀ : μ₀.lane = l := by
        simpa [Machine.laneOf, hm] using hs.claim_message l _ hold.claim
      have hdone := hf.older_done b btt μ₁ att.message μ₀ hb h₁ hm hl hyounger
      rw [← hl, hl₀] at hdone
      exact hdone.2 hold.claim
  exact (hmessage.setPhase hold.attempt phase att.begun).freeLane l

end Fifo

theorem Step.fifo (hstep : Step s label s') (hs : Consistent s)
    (hf : Fifo s) (horder : label.InOrder s) : Fifo s' := by
  cases hstep with
  | create hm =>
    refine hf.addMessage hs hm (by simp) fun _ m' μ' h hlane hqueued => ?_
    exact horder m' μ' h hlane hqueued
  | @claim m l a μ hm hl hstate ha hidle =>
    have hqueued := hf.state_queued m μ hm hstate
    have hrecord : Fifo (s.setMessage m (μ.record .dispatching)) :=
      hf.setMessage hm rfl rfl (by simp [Message.record]) (fun _ => hqueued)
        (by simp [Message.record])
    refine hrecord.lend (m := m) (μ := μ.record .dispatching) (by simp) ?_ ?_ ?_
    · simpa [Message.record] using hqueued
    · intro m' μ' h' hl' holder hstate'
      rcases Machine.of_setMessage h' with ⟨-, rfl⟩ | ⟨-, h'⟩
      · exact lt_irrefl _ holder
      · exact absurd (horder μ hm m' μ' h' hl' hstate') (not_le.2 holder)
    · -- a younger message of the lane would have been claimed after this one
      intro b btt μ₁ hb h₁ hbl hyounger
      rcases Machine.of_setMessage h₁ with ⟨-, rfl⟩ | ⟨-, h₁⟩
      · exact lt_irrefl _ hyounger
      · exact (hf.older_done b btt μ₁ m μ hb h₁ hm (hl.trans hbl.symm) hyounger).1 hstate
  | recover hold hl hphase hm hstate | finish hold hphase hm | requeue hold hphase hm =>
    refine hf.settle hs hold hm ?_ ?_ ?_ .complete
    exacts [rfl, rfl, List.prefix_append _ _]
  | abandon => exact hf.freeLane _
  | begin hold => exact hf.setPhase hold.attempt .started true
  | discover hm hobserved =>
    refine hf.addMessage hs hm (fun h => absurd h hobserved) fun h => ?_
    simp only [List.mem_singleton] at h
    exact absurd h.symm hobserved
  | adopt hm => exact hf.addMessage hs hm (by simp) (by simp)
  | @observe m μ observed hm hobserved =>
    have hhistory : .queued ∈ (μ.reconcile observed).history ↔ .queued ∈ μ.history := by
      simp only [Message.reconcile, List.mem_append, Option.mem_toList, or_iff_left_iff_imp]
      exact fun h => absurd rfl (hobserved _ h)
    -- only a queued message is queued after an observation
    have hstate : (μ.reconcile observed).state = .queued → μ.state = .queued := by
      intro h
      by_contra hne
      exact Message.reconciled_ne_queued hne (hs.history_busy m μ hm hne) hobserved h
    refine hf.setMessage hm rfl rfl hhistory (fun h => hf.state_queued m μ hm (hstate h)) ?_
    intro h a att μ₁ ha h₁ hl hyounger
    exact (hf.older_done a att μ₁ m μ ha h₁ hm hl hyounger).1 (hstate h)

end

theorem Fifo.claimed_younger {s : Machine M L A} (hs : Consistent s) (hf : Fifo s) {b : A}
    {btt : Attempt M L} {ν : Message L} (hold : s.Holds l a att)
    (hb : s.attempt b = some btt) (hμ : s.message att.message = some μ)
    (hν : s.message btt.message = some ν) (hlane : btt.lane = att.lane)
    (hne : btt.message ≠ att.message) : ν.createdAt < μ.createdAt := by
  have hμl : μ.lane = att.lane := by
    simpa [Machine.laneOf, hμ] using hs.attempt_message a att hold.attempt
  have hνl : ν.lane = btt.lane := by
    simpa [Machine.laneOf, hν] using hs.attempt_message b btt hb
  rcases lt_trichotomy ν.createdAt μ.createdAt with h | h | h
  · exact h
  · exact absurd (hf.created_unique _ _ ν μ hν hμ (hνl.trans (hlane.trans hμl.symm))
      (hf.attempt_queued b btt ν hb hν) (hf.attempt_queued a att μ hold.attempt hμ) h) hne
  · have hdone := hf.older_done b btt ν att.message μ hb hν hμ (hμl.trans hlane.symm) h
    rw [hlane, hs.lane_of_claim hold] at hdone
    exact absurd hold.claim hdone.2

end MessagingGateway.Dispatch
