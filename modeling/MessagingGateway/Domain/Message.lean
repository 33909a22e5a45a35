import Mathlib

/-!
# Message states

The externally visible state of a message and the fold that derives it from the
immutable status history. `deriveMessageState` follows the loop of
`DeriveMessageState` with its two accumulators; `deriveMessageState_append`
then shows that the second accumulator is a function of the first, so the fold
is iteration of `observe`, and every later proof uses that form only.
-/

namespace MessagingGateway.Domain

inductive MessageState
  | queued
  | dispatching
  | providerAccepted
  | awaitingPhone
  | sent
  | delivered
  | read
  | uncertain
  | failed
  deriving DecidableEq

namespace MessageState

def text : MessageState → String
  | queued => "queued"
  | dispatching => "dispatching"
  | providerAccepted => "provider_accepted"
  | awaitingPhone => "awaiting_phone"
  | sent => "sent"
  | delivered => "delivered"
  | read => "read"
  | uncertain => "uncertain"
  | failed => "failed"

def messageStateRank : MessageState → Int
  | queued => 0
  | dispatching => 1
  | providerAccepted => 2
  | awaitingPhone => 3
  | sent => 4
  | delivered => 5
  | read => 6
  | uncertain => 2
  | failed => 7

end MessageState

open MessageState

def unsettled (state : MessageState) : Bool := state == queued || state == dispatching

/-- One iteration of the loop of `DeriveMessageState`. The first accumulator is
`none` for the empty state the loop starts from. -/
def deriveStep (acc : Option MessageState × Int) (observed : MessageState) :
    Option MessageState × Int :=
  match observed with
  | uncertain =>
    if acc.2 < messageStateRank sent then (some uncertain, messageStateRank uncertain) else acc
  | failed =>
    if acc.2 < messageStateRank sent then (some failed, messageStateRank failed) else acc
  | other =>
    if acc.1 = some uncertain ∨ (acc.1 ≠ some failed ∧ messageStateRank other ≥ acc.2) then
      (some other, messageStateRank other)
    else acc

/-- The state a status history stands for, `none` for the empty history. -/
def deriveMessageState (history : List MessageState) : Option MessageState :=
  (history.foldl deriveStep (none, -1)).1

/-! ### The fold as an iteration on states -/

def currentRank : Option MessageState → Int
  | none => -1
  | some state => messageStateRank state

def observe (current : Option MessageState) (observed : MessageState) : Option MessageState :=
  (deriveStep (current, currentRank current) observed).1

theorem deriveStep_rank (current : Option MessageState) (observed : MessageState) :
    deriveStep (current, currentRank current) observed =
      (observe current observed, currentRank (observe current observed)) := by
  unfold observe
  cases observed <;> simp only [deriveStep] <;> split <;> rfl

theorem foldl_deriveStep (history : List MessageState) (current : Option MessageState) :
    history.foldl deriveStep (current, currentRank current) =
      (history.foldl observe current, currentRank (history.foldl observe current)) := by
  induction history generalizing current with
  | nil => rfl
  | cons observed history ih =>
    rw [List.foldl_cons, List.foldl_cons, deriveStep_rank, ih]

theorem deriveMessageState_eq (history : List MessageState) :
    deriveMessageState history = history.foldl observe none := by
  have h := foldl_deriveStep history none
  simp only [currentRank] at h
  rw [deriveMessageState, h]

@[simp] theorem deriveMessageState_nil : deriveMessageState [] = none := rfl

theorem deriveMessageState_append (history later : List MessageState) :
    deriveMessageState (history ++ later) = later.foldl observe (deriveMessageState history) := by
  rw [deriveMessageState_eq, deriveMessageState_eq, List.foldl_append]

theorem deriveMessageState_concat (history : List MessageState) (observed : MessageState) :
    deriveMessageState (history ++ [observed]) = observe (deriveMessageState history) observed :=
  deriveMessageState_append history [observed]

@[simp] theorem deriveMessageState_singleton (observed : MessageState) :
    deriveMessageState [observed] = some observed := by
  cases observed <;> rfl

/-- The fold can be resumed from the state derived so far. -/
theorem deriveMessageState_resume {history : List MessageState} {state : MessageState}
    (h : deriveMessageState history = some state) (later : List MessageState) :
    deriveMessageState (history ++ later) = deriveMessageState (state :: later) := by
  rw [← List.singleton_append, deriveMessageState_append, deriveMessageState_append, h,
    deriveMessageState_singleton]

/-! ### What an observation can do -/

theorem observe_cases (current : Option MessageState) (observed : MessageState) :
    observe current observed = some observed ∨ observe current observed = current := by
  unfold observe
  cases observed <;> simp only [deriveStep] <;> split <;> simp

@[simp] theorem observe_none (observed : MessageState) : observe none observed = some observed := by
  cases observed <;> rfl

theorem observe_isSome (current : Option MessageState) (observed : MessageState) :
    (observe current observed).isSome := by
  rcases observe_cases current observed with h | h
  · rw [h]; rfl
  · cases current with
    | none => rw [observe_none]; rfl
    | some state => rw [h]; rfl

theorem deriveMessageState_isSome {history : List MessageState} (h : history ≠ []) :
    (deriveMessageState history).isSome := by
  induction history using List.reverseRecOn with
  | nil => exact absurd rfl h
  | append_singleton history observed _ =>
    rw [deriveMessageState_concat]
    exact observe_isSome _ _

theorem observe_ne_queued {current : Option MessageState} {observed : MessageState}
    (hcurrent : current ≠ some queued) (hobserved : observed ≠ queued) :
    observe current observed ≠ some queued := by
  rcases observe_cases current observed with h | h
  · rw [h]
    simpa using hobserved
  · rw [h]
    exact hcurrent

theorem observe_dispatching_ne_queued (current : Option MessageState) :
    observe current dispatching ≠ some queued := by
  cases current with
  | none => simp
  | some state => cases state <;> decide

theorem foldl_observe_ne_queued {current : Option MessageState} {later : List MessageState}
    (hcurrent : current ≠ some queued) (hlater : ∀ state ∈ later, state ≠ queued) :
    later.foldl observe current ≠ some queued := by
  induction later generalizing current with
  | nil => exact hcurrent
  | cons observed later ih =>
    exact ih (observe_ne_queued hcurrent (hlater observed (by simp)))
      fun state hstate => hlater state (by simp [hstate])

end MessagingGateway.Domain
