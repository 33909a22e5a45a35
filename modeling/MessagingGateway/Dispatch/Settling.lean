import MessagingGateway.Dispatch.Guarantees

/-!
# Settled messages stay settled

A message that is neither queued nor dispatching does not become so again, as
long as receipts carry the states of the adapter. The state of a message may
differ from what its history folds to, so the invariant speaks of both.
-/

namespace MessagingGateway.Dispatch

open Relational Domain Store Ingress Gateway

/-! ### The fold -/

/-- What a derived state says that matters here: whether it is unsettled, whether
an observed dispatch would make it so, and whether it can become uncertain. -/
structure Follows (state state' : Option MessageState) : Prop where
  unsettled : state'.any unsettled = true → state.any unsettled = true
  resumable : observe state' .dispatching = some .dispatching →
    observe state .dispatching = some .dispatching
  doubtful : observe state' .uncertain = some .uncertain →
    observe state .uncertain = some .uncertain

instance (state state' : Option MessageState) : Decidable (Follows state state') :=
  decidable_of_iff (_ ∧ _ ∧ _)
    ⟨fun h => ⟨h.1, h.2.1, h.2.2⟩, fun h => ⟨h.unsettled, h.resumable, h.doubtful⟩⟩

theorem follows_observe {state state' : Option MessageState} {observed : MessageState}
    (h : Follows state state') (hobserved : observed ≠ .queued) :
    Follows (observe state observed) (observe state' observed) := by
  revert h hobserved
  cases state with
  | none =>
    cases state' with
    | none => cases observed <;> decide
    | some state' => cases state' <;> cases observed <;> decide
  | some state =>
    cases state' with
    | none => cases state <;> cases observed <;> decide
    | some state' => cases state <;> cases state' <;> cases observed <;> decide

theorem follows_foldl {state state' : Option MessageState} {states : List MessageState}
    (h : Follows state state') (hstates : ∀ observed ∈ states, observed ≠ .queued) :
    Follows (states.foldl observe state) (states.foldl observe state') := by
  induction states generalizing state state' with
  | nil => exact h
  | cons observed states ih =>
    obtain ⟨hfirst, hrest⟩ := List.forall_mem_cons.1 hstates
    exact ih (follows_observe h hfirst) hrest

theorem follows_dispatching (state : Option MessageState) : Follows (some .dispatching) state := by
  cases state with
  | none => decide
  | some state => cases state <;> decide

theorem observe_settled (state : Option MessageState) {observed : MessageState}
    (h : unsettled observed = false) : (observe state observed).any unsettled = false := by
  revert h
  cases state with
  | none => cases observed <;> decide
  | some state => cases state <;> cases observed <;> decide

/-! ### The machine -/

section

variable {M L A : Type}

/-- A settled message has a settled history, and only an uncertain message has
none. -/
structure Message.Settled (μ : Message L) : Prop where
  empty : μ.history = [] → μ.state = .uncertain
  history : unsettled μ.state = false → (deriveMessageState μ.history).any unsettled = false

def AllSettled (s : Machine M L A) : Prop := ∀ m μ, s.message m = some μ → μ.Settled

variable {μ : Message L} {db : Database}

theorem Message.Settled.of_unsettled (hstate : unsettled μ.state = true)
    (hhistory : μ.history ≠ []) : μ.Settled :=
  ⟨fun h => absurd h hhistory, fun h => by simp [hstate] at h⟩

theorem Message.Settled.of_folds (h : deriveMessageState μ.history = some μ.state) : μ.Settled := by
  refine ⟨fun hempty => ?_, fun hstate => ?_⟩
  · simp [hempty] at h
  · rw [h]
    exact hstate

theorem Message.Settled.finish (h : μ.Settled) (hstate : μ.state = .dispatching)
    {states : List MessageState} (hstates : ∀ observed ∈ states, observed ≠ .queued) :
    ({ μ with
      state := (deriveMessageState (.dispatching :: states)).getD .dispatching
      history := μ.history ++ states } : Message L).Settled := by
  have hfold : deriveMessageState (.dispatching :: states) =
      states.foldl observe (some .dispatching) := deriveMessageState_append [.dispatching] states
  have hsome : (deriveMessageState (.dispatching :: states)).isSome :=
    deriveMessageState_isSome (by simp)
  obtain ⟨final, hfinal⟩ := Option.isSome_iff_exists.1 hsome
  refine ⟨fun hempty => ?_, fun hsettled => ?_⟩
  · have huncertain := h.empty (List.append_eq_nil_iff.1 hempty).1
    rw [hstate] at huncertain
    cases huncertain
  · -- the history before the completion does not matter to whether it settles
    have hfollows := follows_foldl (follows_dispatching (deriveMessageState μ.history)) hstates
    simp only [hfinal, Option.getD_some] at hsettled
    rw [deriveMessageState_append]
    refine Bool.eq_false_iff.2 fun hunsettled => ?_
    have hdispatching := hfollows.unsettled hunsettled
    rw [← hfold, hfinal] at hdispatching
    simp [hsettled] at hdispatching

theorem Message.Settled.reconcile (h : μ.Settled)
    (observed : Option MessageState) : (μ.reconcile observed).Settled := by
  by_cases hhistory : μ.history = []
  · have hstate := h.empty hhistory
    cases observed with
    | none => exact ⟨fun _ => by simp [Message.reconcile, Message.reconciled, hhistory, hstate],
        fun _ => by simp [Message.reconcile, hhistory]⟩
    | some observed =>
      refine .of_folds ?_
      have hfold : deriveMessageState [.uncertain, observed] = some observed :=
        observe_uncertain observed
      simp [Message.reconcile, Message.reconciled, hhistory, hstate, hfold]
  · refine .of_folds ?_
    obtain ⟨state, hfold⟩ := Option.isSome_iff_exists.1 (deriveMessageState_isSome
      (List.append_ne_nil_of_left_ne_nil hhistory observed.toList))
    simp [Message.reconcile, Message.reconciled, hhistory, hfold]

theorem Message.Settled.reconciled (h : μ.Settled)
    (hstate : unsettled μ.state = false) {observed : Option MessageState}
    (hobserved : observed.any unsettled = false) : unsettled (μ.reconciled observed) = false := by
  have hbefore : (deriveMessageState (if μ.history = [] then [μ.state] else μ.history)).any
      unsettled = false := by
    split
    · simpa using hstate
    · exact h.history hstate
  have hafter : (deriveMessageState ((if μ.history = [] then [μ.state] else μ.history) ++
      observed.toList)).any unsettled = false := by
    cases observed with
    | none => simpa using hbefore
    | some observed =>
      rw [Option.toList_some, deriveMessageState_concat]
      exact observe_settled _ (by simpa using hobserved)
  unfold Message.reconciled
  cases hfold : deriveMessageState ((if μ.history = [] then [μ.state] else μ.history) ++
      observed.toList) with
  | none => exact hstate
  | some state => simpa [hfold] using hafter

theorem AllSettled.congr {s s' : Machine M L A} (h : AllSettled s)
    (hmessage : s'.message = s.message) : AllSettled s' :=
  fun m μ hm => h m μ (hmessage ▸ hm)

theorem Message.Settled.record (μ : Message L) {state : MessageState}
    (hstate : unsettled state = true) : (μ.record state).Settled :=
  .of_unsettled hstate (by simp [Message.record])

variable [DecidableEq M] [DecidableEq L] [DecidableEq A] {s s' : Machine M L A}

theorem AllSettled.setMessage (h : AllSettled s) {m : M} (hμ : μ.Settled) :
    AllSettled (s.setMessage m μ) := by
  intro m' μ' hm'
  rcases Machine.of_setMessage hm' with ⟨-, rfl⟩ | ⟨-, hm'⟩
  · exact hμ
  · exact h m' μ' hm'

theorem Step.settled {label : Label M L} (hstep : Step s label s') (h : AllSettled s) :
    AllSettled s' := by
  cases hstep with
  | create hm => exact h.setMessage (.of_unsettled rfl (by simp))
  | claim hm | requeue => exact (h.setMessage (.record _ rfl)).congr rfl
  | @recover l a att μ hold hl hphase hm hstate =>
    refine (h.setMessage ?_).congr rfl
    cases hp : att.phase with
    | claimed => exact .record μ rfl
    | complete => exact absurd hp hphase
    | started =>
      refine ⟨fun hempty => by simp [Message.record] at hempty, fun _ => ?_⟩
      simp only [Message.record, recoveredState, deriveMessageState_concat]
      exact observe_settled _ rfl
  | abandon | begin => exact h.congr rfl
  | finish _ _ hm hstate hstates =>
    exact (h.setMessage ((h _ _ hm).finish hstate hstates)).congr rfl
  | discover => exact h.setMessage (.of_folds (by simp))
  | adopt => exact h.setMessage ⟨fun _ => rfl, fun _ => rfl⟩
  | observe hm => exact h.setMessage ((h _ _ hm).reconcile _)

end

/-! ### Runs -/

structure Settling (s : Tables) : Prop where
  consistent : Consistent s
  settled : AllSettled s

theorem step_settling {rt : Runtime} {call : Call} (hallowed : Allowed db call)
    (h : Settling (abs db)) : Settling (abs (step rt call db).2) :=
  step_preserves (P := Settling) (Q := fun _ _ => True) Settling.consistent
    (fun hstep hs _ => ⟨hstep.consistent hs.consistent, hstep.settled hs.settled⟩)
    (fun _ => trivial) hallowed (fun _ _ => trivial) h

theorem fresh_settling (h : Fresh db) : Settling (abs db) :=
  ⟨fresh_consistent h, fun m μ hm => by simp [abs, h.messages] at hm⟩

theorem reconciledState_settled (h : AllSettled (abs db)) {row : MessageRow}
    (hrow : row ∈ db.content.messages) (hstate : unsettled row.currentState = false)
    {observed : Option MessageState} (hobserved : observed ∈ adapterStates) :
    unsettled (reconciledState row observed db) = false := by
  have hμ := h _ _ (abs_message_of_find? (Table.find?_of_mem hrow))
  have hsettled : observed.any unsettled = false := by
    simp only [adapterStates, List.mem_cons, List.not_mem_nil, or_false] at hobserved
    rcases hobserved with rfl | rfl | rfl | rfl | rfl <;> rfl
  exact hμ.reconciled hstate hsettled

end MessagingGateway.Dispatch
