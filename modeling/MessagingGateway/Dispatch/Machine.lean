import MessagingGateway.Domain.Message
import MessagingGateway.EventContract

/-!
# The dispatch machine

What the dispatch tables are for, without the tables. Messages wait in lanes.
A lane lends its one claim to a message, each claim under a new token, and every
claim is recorded as an attempt; provider I/O begins under an attempt, and the
attempt is settled by a completion, a release or a crash recovery. Provider
receipts observe messages at any moment and know nothing of lanes. The
identifiers of messages, lanes and attempts are arbitrary types.
-/

namespace MessagingGateway.Dispatch

open Domain

inductive Phase
  | claimed
  | started
  | complete
  deriving DecidableEq

/-- A message with its status history, oldest observation first. -/
structure Message (L : Type) where
  lane : L
  createdAt : Time
  state : MessageState
  history : List MessageState

/-- An attempt; `begun` records that provider I/O was permitted under it. -/
structure Attempt (M L : Type) where
  message : M
  lane : L
  token : Nat
  phase : Phase
  begun : Bool

structure Lane (M : Type) where
  token : Nat
  claim : Option M

@[ext] structure Machine (M L A : Type) where
  message : M → Option (Message L)
  lane : L → Lane M
  attempt : A → Option (Attempt M L)

inductive Label (M L : Type)
  /-- a message was queued on a lane -/
  | create (l : L) (t : Time)
  /-- a lane lent its claim to a message -/
  | claim (l : L) (m : M)
  /-- provider I/O was permitted for a message -/
  | begin (m : M)
  /-- a lane was taken from a claim that stayed unsettled -/
  | abandon (l : L)
  | silent

def Label.sends {M L : Type} : Label M L → Option M
  | .begin m => some m
  | _ => none

section

-- the machine is updated at messages, lanes and attempts, so all three are compared
set_option linter.unusedSectionVars false

variable {M L A : Type} [DecidableEq M] [DecidableEq L] [DecidableEq A]

namespace Machine

def setMessage (s : Machine M L A) (m : M) (μ : Message L) : Machine M L A :=
  { s with message := Function.update s.message m (some μ) }

def setLane (s : Machine M L A) (l : L) (lane : Lane M) : Machine M L A :=
  { s with lane := Function.update s.lane l lane }

def setAttempt (s : Machine M L A) (a : A) (att : Attempt M L) : Machine M L A :=
  { s with attempt := Function.update s.attempt a (some att) }

def freeLane (s : Machine M L A) (l : L) : Machine M L A :=
  s.setLane l { s.lane l with claim := none }

def modifyMessage (s : Machine M L A) (m : M) (f : Message L → Message L) : Machine M L A :=
  { s with message := Function.update s.message m ((s.message m).map f) }

def modifyAttempt (s : Machine M L A) (a : A) (f : Attempt M L → Attempt M L) : Machine M L A :=
  { s with attempt := Function.update s.attempt a ((s.attempt a).map f) }

variable (s : Machine M L A)

@[simp] theorem setMessage_message (m m' : M) (μ : Message L) :
    (s.setMessage m μ).message m' = if m' = m then some μ else s.message m' :=
  Function.update_apply s.message m (some μ) m'

@[simp] theorem setMessage_lane (m : M) (μ : Message L) :
    (s.setMessage m μ).lane = s.lane := rfl

@[simp] theorem setMessage_attempt (m : M) (μ : Message L) :
    (s.setMessage m μ).attempt = s.attempt := rfl

@[simp] theorem setLane_message (l : L) (lane : Lane M) :
    (s.setLane l lane).message = s.message := rfl

@[simp] theorem setLane_lane (l l' : L) (lane : Lane M) :
    (s.setLane l lane).lane l' = if l' = l then lane else s.lane l' :=
  Function.update_apply s.lane l lane l'

@[simp] theorem setLane_attempt (l : L) (lane : Lane M) :
    (s.setLane l lane).attempt = s.attempt := rfl

@[simp] theorem setAttempt_message (a : A) (att : Attempt M L) :
    (s.setAttempt a att).message = s.message := rfl

@[simp] theorem setAttempt_lane (a : A) (att : Attempt M L) :
    (s.setAttempt a att).lane = s.lane := rfl

@[simp] theorem setAttempt_attempt (a a' : A) (att : Attempt M L) :
    (s.setAttempt a att).attempt a' = if a' = a then some att else s.attempt a' :=
  Function.update_apply s.attempt a (some att) a'

theorem of_setMessage {s : Machine M L A} {m m' : M} {μ μ' : Message L}
    (h : (s.setMessage m μ).message m' = some μ') :
    (m' = m ∧ μ' = μ) ∨ (m' ≠ m ∧ s.message m' = some μ') := by
  rw [setMessage_message] at h
  split at h
  · next hm => exact .inl ⟨hm, (Option.some.inj h).symm⟩
  · next hm => exact .inr ⟨hm, h⟩

theorem of_setAttempt {s : Machine M L A} {a b : A} {att btt : Attempt M L}
    (h : (s.setAttempt a att).attempt b = some btt) :
    (b = a ∧ btt = att) ∨ (b ≠ a ∧ s.attempt b = some btt) := by
  rw [setAttempt_attempt] at h
  split at h
  · next hb => exact .inl ⟨hb, (Option.some.inj h).symm⟩
  · next hb => exact .inr ⟨hb, h⟩

@[simp] theorem freeLane_message (l : L) : (s.freeLane l).message = s.message := rfl

@[simp] theorem freeLane_attempt (l : L) : (s.freeLane l).attempt = s.attempt := rfl

@[simp] theorem freeLane_lane (l l' : L) :
    (s.freeLane l).lane l' = if l' = l then { s.lane l with claim := none } else s.lane l' :=
  setLane_lane s l l' _

theorem modifyMessage_of_some {s : Machine M L A} {m : M} {μ : Message L}
    (h : s.message m = some μ) (f : Message L → Message L) :
    s.modifyMessage m f = s.setMessage m (f μ) := by
  rw [modifyMessage, h, Option.map_some, setMessage]

theorem modifyAttempt_of_some {s : Machine M L A} {a : A} {att : Attempt M L}
    (h : s.attempt a = some att) (f : Attempt M L → Attempt M L) :
    s.modifyAttempt a f = s.setAttempt a (f att) := by
  rw [modifyAttempt, h, Option.map_some, setAttempt]

theorem setMessage_setMessage (m : M) (μ ν : Message L) :
    (s.setMessage m μ).setMessage m ν = s.setMessage m ν := by
  simp [setMessage]

theorem modifyMessage_twice {s : Machine M L A} {m : M} {μ : Message L}
    (h : s.message m = some μ) (f g : Message L → Message L) :
    (s.modifyMessage m f).modifyMessage m g = s.setMessage m (g (f μ)) := by
  simp [modifyMessage, setMessage, h]

theorem modifyMessage_setMessage (m : M) (μ : Message L) (f : Message L → Message L) :
    (s.setMessage m μ).modifyMessage m f = s.setMessage m (f μ) := by
  simp [modifyMessage, setMessage]

theorem setLane_self (l : L) : s.setLane l (s.lane l) = s := by
  simp [setLane]

theorem modifyMessage_id (m : M) : s.modifyMessage m id = s := by
  simp [modifyMessage]

end Machine

def Machine.laneOf (s : Machine M L A) (m : M) : Option L := (s.message m).map (·.lane)

def Machine.stateOf (s : Machine M L A) (m : M) : Option MessageState :=
  (s.message m).map (·.state)

def Message.record (μ : Message L) (state : MessageState) : Message L :=
  { μ with state := state, history := μ.history ++ [state] }

/-- The state a receipt makes of a message: the fold of its history, or of its
current state where nothing was recorded yet. -/
def Message.reconciled (μ : Message L) (observed : Option MessageState) : MessageState :=
  (deriveMessageState
    ((if μ.history = [] then [μ.state] else μ.history) ++ observed.toList)).getD μ.state

def Message.reconcile (μ : Message L) (observed : Option MessageState) : Message L :=
  { μ with state := μ.reconciled observed, history := μ.history ++ observed.toList }

/-- An attempt is the open attempt of the claim a lane has lent. -/
structure Machine.Holds (s : Machine M L A) (l : L) (a : A) (att : Attempt M L) : Prop where
  attempt : s.attempt a = some att
  claim : (s.lane l).claim = some att.message
  token : (s.lane l).token = att.token

section

variable {s : Machine M L A} {l : L} {a : A} {att : Attempt M L}

@[simp] theorem Machine.holds_setMessage {m : M} {μ : Message L} :
    (s.setMessage m μ).Holds l a att ↔ s.Holds l a att :=
  ⟨fun ⟨h₁, h₂, h₃⟩ => ⟨h₁, h₂, h₃⟩, fun ⟨h₁, h₂, h₃⟩ => ⟨h₁, h₂, h₃⟩⟩

end

/-- The states a settled crash leaves, by the phase it interrupted. -/
def recoveredState : Phase → MessageState
  | .claimed => .queued
  | _ => .uncertain

inductive Step (s : Machine M L A) : Label M L → Machine M L A → Prop
  | create {m : M} {l : L} {t : Time} (hm : s.message m = none) :
      Step s (.create l t) (s.setMessage m ⟨l, t, .queued, [.queued]⟩)
  | claim {m : M} {l : L} {a : A} {μ : Message L} (hm : s.message m = some μ) (hl : μ.lane = l)
      (hstate : μ.state = .queued) (ha : s.attempt a = none)
      (hidle : ∀ a' att, s.Holds l a' att → att.lane = l → att.phase = .complete) :
      Step s (.claim l m) (((s.setMessage m (μ.record .dispatching)).setLane l
        ⟨(s.lane l).token + 1, some m⟩).setAttempt a
          ⟨m, l, (s.lane l).token + 1, .claimed, false⟩)
  | recover {l : L} {a : A} {att : Attempt M L} {μ : Message L} (hold : s.Holds l a att)
      (hl : att.lane = l) (hphase : att.phase ≠ .complete)
      (hm : s.message att.message = some μ) (hstate : μ.state = .dispatching) :
      Step s .silent (((s.setMessage att.message
        (μ.record (recoveredState att.phase))).setAttempt a
          { att with phase := .complete }).freeLane l)
  | abandon {l : L} {m : M} {μ : Message L} (hclaim : (s.lane l).claim = some m)
      (hm : s.message m = some μ) (hstate : μ.state ≠ .dispatching) :
      Step s (.abandon l) (s.freeLane l)
  | begin {l : L} {a : A} {att : Attempt M L} {μ : Message L} (hold : s.Holds l a att)
      (hphase : att.phase = .claimed) (hm : s.message att.message = some μ)
      (hstate : μ.state = .dispatching) :
      Step s (.begin att.message) (s.setAttempt a { att with phase := .started, begun := true })
  | finish {l : L} {a : A} {att : Attempt M L} {μ : Message L} {states : List MessageState}
      (hold : s.Holds l a att) (hphase : att.phase = .started)
      (hm : s.message att.message = some μ) (hstate : μ.state = .dispatching)
      (hstates : ∀ state ∈ states, state ≠ .queued) :
      Step s .silent (((s.setMessage att.message
        { μ with
          state := (deriveMessageState (.dispatching :: states)).getD .dispatching
          history := μ.history ++ states }).setAttempt a
            { att with phase := .complete }).freeLane l)
  | requeue {l : L} {a : A} {att : Attempt M L} {μ : Message L} (hold : s.Holds l a att)
      (hphase : att.phase = .claimed) (hm : s.message att.message = some μ)
      (hstate : μ.state = .dispatching) :
      Step s .silent (((s.setMessage att.message (μ.record .queued)).setAttempt a
        { att with phase := .complete }).freeLane l)
  | discover {m : M} {l : L} {t : Time} {observed : MessageState} (hm : s.message m = none)
      (hobserved : observed ≠ .queued) :
      Step s .silent (s.setMessage m ⟨l, t, observed, [observed]⟩)
  | adopt {m : M} {l : L} {t : Time} (hm : s.message m = none) :
      Step s .silent (s.setMessage m ⟨l, t, .uncertain, []⟩)
  | observe {m : M} {μ : Message L} {observed : Option MessageState}
      (hm : s.message m = some μ) (hobserved : ∀ state ∈ observed, state ≠ .queued) :
      Step s .silent (s.setMessage m (μ.reconcile observed))

def Observations : Machine M L A → Machine M L A → Prop :=
  Relation.ReflTransGen fun s s' => Step s .silent s'

theorem Observations.invariant {P : Machine M L A → Prop}
    (rule : ∀ {s s' : Machine M L A}, Step s .silent s' → P s → P s') {s s' : Machine M L A}
    (h : Observations s s') (hs : P s) : P s' := by
  induction h with
  | refl => exact hs
  | tail _ hstep ih => exact rule hstep ih

end

end MessagingGateway.Dispatch
