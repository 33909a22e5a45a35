import MessagingGateway.Domain.Message

/-!
# Status histories as they are stored

The database returns a history as strings, and the loop of `DeriveMessageState`
skips every string that is not a state. The laws below are about such
histories: the derived state can stand in for the history it was derived from, a
carrier receipt is never taken back, and a relay receipt is taken back only by
way of `uncertain`, which every later observation replaces.
-/

namespace MessagingGateway.Domain

open MessageState

/-- The state a string spells; the second result of `messageStateRank` is false
for a string that spells none. -/
def MessageState.ofText (spelling : String) : Option MessageState :=
  [queued, dispatching, providerAccepted, awaitingPhone, sent, delivered, read, uncertain,
    failed].find? fun state => state.text == spelling

def deriveTextStep (acc : Option MessageState × Int) (observed : String) :
    Option MessageState × Int :=
  match MessageState.ofText observed with
  | some state => deriveStep acc state
  | none => acc

/-- `DeriveMessageState` on a stored history; no state is the empty string. -/
def deriveStateText (history : List String) : String :=
  ((history.foldl deriveTextStep (none, -1)).1.map text).getD ""

@[simp] theorem ofText_text (state : MessageState) : ofText state.text = some state := by
  cases state <;> rfl

variable {state : MessageState} {current : Option MessageState}

theorem text_of_ofText {spelling : String}
    (h : ofText spelling = some state) : state.text = spelling := by
  have hfound := List.find?_some h
  exact beq_iff_eq.1 hfound

theorem text_injective {state' : MessageState} (h : state.text = state'.text) : state = state' := by
  have hstate := congrArg ofText h
  rwa [ofText_text, ofText_text, Option.some.injEq] at hstate

theorem foldl_deriveTextStep (history : List String) (acc : Option MessageState × Int) :
    history.foldl deriveTextStep acc = (history.filterMap ofText).foldl deriveStep acc := by
  rw [List.foldl_filterMap]
  congr 1
  funext acc spelling
  unfold deriveTextStep
  cases ofText spelling <;> rfl

theorem deriveStateText_eq (history : List String) :
    deriveStateText history =
      ((deriveMessageState (history.filterMap ofText)).map text).getD "" := by
  rw [deriveStateText, foldl_deriveTextStep]
  rfl

theorem deriveStateText_eq_text {history : List String} :
    deriveStateText history = state.text ↔
      deriveMessageState (history.filterMap ofText) = some state := by
  rw [deriveStateText_eq]
  cases deriveMessageState (history.filterMap ofText) with
  | none =>
    refine ⟨fun h => ?_, nofun⟩
    cases state <;> exact absurd h (by decide)
  | some derived =>
    simp only [Option.map_some, Option.getD_some, Option.some.injEq]
    exact ⟨text_injective, congrArg text⟩

theorem map_text_sublist (history : List String) :
    ((history.filterMap ofText).map text).Sublist history := by
  induction history with
  | nil => exact .slnil
  | cons spelling history ih =>
    cases h : ofText spelling with
    | none =>
      rw [List.filterMap_cons_none h]
      exact ih.cons spelling
    | some state =>
      rw [List.filterMap_cons_some h, List.map_cons, text_of_ofText h]
      exact ih.cons_cons spelling

/-! ### What later observations can do -/

def carried (state : MessageState) : Bool := state == sent || state == delivered || state == read

def receipt (state : MessageState) : Bool :=
  state == providerAccepted || state == awaitingPhone || carried state

theorem observe_carried (h : carried state = true) (observed : MessageState) :
    ∃ next, observe (some state) observed = some next ∧ carried next = true ∧
      messageStateRank state ≤ messageStateRank next := by
  revert h
  cases state <;> cases observed <;> decide

theorem foldl_observe_carried (h : carried state = true) (later : List MessageState) :
    ∃ next, later.foldl observe (some state) = some next ∧ carried next = true ∧
      messageStateRank state ≤ messageStateRank next := by
  induction later generalizing state with
  | nil => exact ⟨state, rfl, h, Int.le_refl _⟩
  | cons observed later ih =>
    obtain ⟨middle, hmiddle, hcarried, hrank⟩ := observe_carried h observed
    obtain ⟨next, hnext, hnextCarried, hnextRank⟩ := ih hcarried
    rw [List.foldl_cons, hmiddle]
    exact ⟨next, hnext, hnextCarried, Int.le_trans hrank hnextRank⟩

def advanced (current : Option MessageState) : Bool :=
  current.any fun state => !unsettled state && state != uncertain

theorem observe_receipt (h : receipt state = true)
    (current : Option MessageState) : advanced (observe current state) = true := by
  revert h
  cases current with
  | none => cases state <;> decide
  | some current => cases current <;> cases state <;> decide

theorem observe_advanced {observed : MessageState}
    (h : advanced current = true) (hobserved : observed ≠ uncertain) :
    advanced (observe current observed) = true := by
  revert h hobserved
  cases current with
  | none => exact nofun
  | some current => cases current <;> cases observed <;> decide

theorem uncertain_mem_of_foldl_observe (h : advanced current = true) {later : List MessageState}
    (hlater : advanced (later.foldl observe current) = false) : uncertain ∈ later := by
  induction later generalizing current with
  | nil => exact absurd (h.symm.trans hlater) nofun
  | cons observed later ih =>
    by_cases hobserved : observed = uncertain
    · exact hobserved ▸ List.mem_cons_self
    · exact List.mem_cons_of_mem observed (ih (observe_advanced h hobserved) hlater)

theorem sublist_of_foldl_observe (hcurrent : advanced current = true) {later : List MessageState}
    (h : later.foldl observe current = some state) (hstate : unsettled state = true) :
    [uncertain, state].Sublist later := by
  have hback : advanced (some state) = false := by simp [advanced, hstate]
  induction later using List.reverseRecOn with
  | nil =>
    rw [List.foldl_nil] at h
    rw [h, hback] at hcurrent
    cases hcurrent
  | append_singleton later observed ih =>
    rw [List.foldl_append, List.foldl_cons, List.foldl_nil] at h
    rcases observe_cases (later.foldl observe current) observed with hobserve | hobserve
    · obtain rfl : observed = state := Option.some.inj (hobserve.symm.trans h)
      -- the last observation was taken over, so the state before it was not advanced
      have huncertain : uncertain ∈ later := by
        refine uncertain_mem_of_foldl_observe hcurrent (Bool.eq_false_iff.2 fun hadvanced => ?_)
        have hnext : advanced (observe (later.foldl observe current) observed) = true :=
          observe_advanced hadvanced (by rintro rfl; cases hstate)
        rw [h, hback] at hnext
        cases hnext
      exact (List.singleton_sublist.2 huncertain).append (List.Sublist.refl [observed])
    · exact (ih (hobserve.symm.trans h)).trans (List.sublist_append_left later [observed])

/-- What the carrier's reports lead to: one of them, or a failure they do not lift. -/
def settled (current : Option MessageState) : Bool :=
  current.any fun state => carried state || state == failed

theorem observe_report (h : carried state = true) (current : Option MessageState) :
    settled (observe current state) = true := by
  revert h
  cases current with
  | none => cases state <;> decide
  | some current => cases current <;> cases state <;> decide

theorem foldl_observe_settled (h : settled current = true) (later : List MessageState) :
    settled (later.foldl observe current) = true := by
  induction later generalizing current with
  | nil => exact h
  | cons observed later ih =>
    refine ih ?_
    revert h
    cases current with
    | none => exact nofun
    | some current => cases current <;> cases observed <;> decide

/-! ### The laws -/

/-- A derived state stands in for its history; a state the carrier reported is
never lowered; after a report of the carrier no history derives `queued` or
`dispatching`, and after another receipt only one that observes first `uncertain`
and then that state. -/
theorem deriveStateText_laws (history later : List String) :
    (deriveStateText history ≠ "" →
      deriveStateText (history ++ later) = deriveStateText ([deriveStateText history] ++ later)) ∧
    (∀ state, carried state = true → deriveStateText history = state.text →
      ∃ next, carried next = true ∧ deriveStateText (history ++ later) = next.text ∧
        messageStateRank state ≤ messageStateRank next) ∧
    ∀ state observed, receipt observed = true → unsettled state = true →
      deriveStateText (history ++ observed.text :: later) = state.text →
      carried observed = false ∧ [uncertain.text, state.text].Sublist later := by
  refine ⟨fun hderived => ?_, fun state hcarried hstate => ?_,
    fun state observed hreceipt hunsettled hstate => ?_⟩
  · cases hstate : deriveMessageState (history.filterMap ofText) with
    | none =>
      rw [deriveStateText_eq, hstate] at hderived
      exact absurd rfl hderived
    | some state =>
      rw [deriveStateText_eq_text.2 hstate, deriveStateText_eq, deriveStateText_eq,
        List.filterMap_append, deriveMessageState_resume hstate, List.singleton_append,
        List.filterMap_cons_some (ofText_text state)]
  · obtain ⟨next, hnext, hnextCarried, hrank⟩ :=
      foldl_observe_carried hcarried (later.filterMap ofText)
    refine ⟨next, hnextCarried, ?_, hrank⟩
    rw [deriveStateText_eq_text, List.filterMap_append, deriveMessageState_append,
      deriveStateText_eq_text.1 hstate, hnext]
  · rw [deriveStateText_eq_text, List.filterMap_append, deriveMessageState_append,
      List.filterMap_cons_some (ofText_text observed), List.foldl_cons] at hstate
    have hsublist := sublist_of_foldl_observe (observe_receipt hreceipt _) hstate hunsettled
    refine ⟨Bool.eq_false_iff.2 fun hcarried => ?_,
      (hsublist.map text).trans (map_text_sublist later)⟩
    have hsettled : settled (some state) = true :=
      hstate ▸ foldl_observe_settled (observe_report hcarried _) (later.filterMap ofText)
    revert hsettled hunsettled
    cases state <;> decide

theorem deriveStateText_sent_read :
    ∃ next, carried next = true ∧
      deriveStateText (["dispatching", "sent"] ++ ["queued", "lost", "read"]) = next.text ∧
      messageStateRank sent ≤ messageStateRank next :=
  (deriveStateText_laws ["dispatching", "sent"] ["queued", "lost", "read"]).2.1 sent rfl (by decide)

/-- A receipt the gateway was then uncertain of does not keep a message from
being queued again. -/
theorem deriveStateText_queued_again :
    deriveStateText (["provider_accepted"] ++ ["uncertain", "queued"]) = "queued" := by
  decide

end MessagingGateway.Domain
