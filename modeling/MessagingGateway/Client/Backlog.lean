import MessagingGateway.Domain.Identifiers
import MessagingGateway.Relational.Runs

/-!
# The restart backlog

After a restart the provider announces how many frames it delivers again. An
unsolicited data frame is classified before it is given to the durable handler: it
is old while the counter is positive. The counter goes down once the handler has
committed the frame. Frames are handled one after the other, while other goroutines
register and give up requests, also between the two halves of a frame.
-/

namespace MessagingGateway.Client

open Relational Domain

inductive BugleRoute
  | pairEvent
  | gaiaEvent
  | dataEvent
  | unknown
  deriving DecidableEq

inductive PayloadSource
  | none
  | encryptedData
  | encryptedData2
  | logoutControl
  deriving DecidableEq

abbrev ActionType := Nat

def unspecified : ActionType := 0

/-- What `decryptInternalMessage` makes of a frame; only a data frame has an
authenticated payload source. -/
structure Decoded where
  source : PayloadSource := .none
  sessionId : String := ""
  action : ActionType := unspecified
  deriving DecidableEq

structure RpcFrame where
  responseId : String
  route : BugleRoute
  decoded : Option Decoded
  decodeFails : Bool := false
  deriving DecidableEq

inductive DurableOutcome
  | unknown
  | committed
  | poisoned
  | duplicatePoisoned
  deriving DecidableEq

def kept (outcome : DurableOutcome) (fails : Bool) : Bool := !fails && outcome != .unknown

structure Presented where
  frame : RpcFrame
  /-- whether a pending request was waiting for the frame -/
  awaited : Bool
  /-- the action of the request the client found for it -/
  request : ActionType
  isOld : Bool
  /-- `dataEventProvenanceClassified` -/
  classified : Bool
  deriving DecidableEq

structure Answered extends Presented where
  success : Bool
  deriving DecidableEq

/-- The counter and the pending requests of a client, the frame it is handling, and
the frames answered since the last announcement. -/
structure BacklogState where
  skipCount : Int := 0
  /-- the pending requests by identifier, with their actions -/
  waiters : List (String × ActionType) := []
  handling : Option Presented := none
  announced : Int := 0
  answered : List Answered := []
  deriving DecidableEq

/-- Announcements, frames and answers of the handler come one after the other;
requests are registered and given up at any time. -/
inductive BacklogInput
  | ack (count : Int)
  | frame (frame : RpcFrame)
  | answer (outcome : DurableOutcome) (fails : Bool)
  | register (requestId : String) (action : ActionType)
  | cancel (requestId : String)
  | cancelAll
  deriving DecidableEq

namespace BacklogState

variable (s : BacklogState)

/-- The waiter of an authenticated response, if the response has its action. -/
def waiterFor (d : Decoded) : Option ActionType :=
  if d.source = .encryptedData then (s.waiters.lookup d.sessionId).filter (· == d.action) else none

def durableRequestFor (decoded : Option Decoded) : ActionType :=
  match decoded with
  | none => unspecified
  | some d => if d.sessionId = "" then unspecified else (s.waiterFor d).getD unspecified

def awaits (frame : RpcFrame) : Bool :=
  match frame.decoded with
  | none => false
  | some d => d.source == .encryptedData && d.sessionId != "" &&
      s.waiters.lookup d.sessionId == some d.action

def decrementSkipCount : BacklogState :=
  if s.skipCount ≤ 0 then s else { s with skipCount := s.skipCount - 1 }

def removeWaiter (requestId : String) : BacklogState :=
  { s with waiters := s.waiters.filter (·.1 != requestId) }

/-- `receiveResponse`. Its exception for unencrypted data does not arise, since the
source of the payload is the encrypted field. -/
def receiveResponse (decoded : Option Decoded) : Bool × BacklogState :=
  match decoded with
  | none => (false, s)
  | some d =>
    if (s.waiterFor d).isSome then (true, s.removeWaiter d.sessionId) else (false, s)

/-- `receiveDurablePoison`: the waiter is told, whatever its action. -/
def receiveDurablePoison (decoded : Option Decoded) : BacklogState :=
  match decoded with
  | none => s
  | some d =>
    if d.source ≠ .encryptedData ∨ d.sessionId = "" then s else s.removeWaiter d.sessionId

/-- `receiveDurableFailure`: the waiter is told if the action is its own. -/
def receiveDurableFailure (decoded : Option Decoded) : BacklogState :=
  match decoded with
  | none => s
  | some d =>
    if d.sessionId ≠ "" ∧ (s.waiterFor d).isSome then s.removeWaiter d.sessionId else s

def present (frame : RpcFrame) : BacklogState :=
  if !validProviderResponseID frame.responseId then s
  else
    let request := s.durableRequestFor frame.decoded
    let classified := !frame.decodeFails && frame.decoded.isSome && frame.route == .dataEvent &&
      request == unspecified
    { s with handling := some {
        frame, awaited := s.awaits frame, request, classified
        isOld := classified && decide (0 < s.skipCount) } }

def resume (p : Presented) (outcome : DurableOutcome) (fails : Bool) : BacklogState :=
  let s := { s with
    handling := none
    answered := s.answered ++ [{ p with success := kept outcome fails }] }
  if !kept outcome fails then s.receiveDurableFailure p.frame.decoded
  else
    let s := if outcome = .committed ∧ p.isOld then s.decrementSkipCount else s
    if outcome ≠ .committed then s.receiveDurablePoison p.frame.decoded
    else if p.frame.decodeFails then s
    else
      let (served, s) := s.receiveResponse p.frame.decoded
      if served then s
      -- a response whose waiter has gone in the meantime comes this way
      else if p.frame.route = .dataEvent ∧ !p.classified then s.decrementSkipCount
      else s

def next : BacklogInput → BacklogState
  | .ack count =>
    if s.handling.isSome then s
    else { s with skipCount := count, announced := count, answered := [] }
  | .frame frame => if s.handling.isSome then s else s.present frame
  | .answer outcome fails =>
    match s.handling with
    | some p => s.resume p outcome fails
    | none => s
  | .register requestId action =>
    { s with waiters := (requestId, action) :: s.waiters.filter (·.1 != requestId) }
  | .cancel requestId => s.removeWaiter requestId
  | .cancelAll => { s with waiters := [] }

end BacklogState

def backlogStep (input : BacklogInput) (s : BacklogState) : Unit × BacklogState :=
  ((), s.next input)

/-! ### What the handler should see -/

def Presented.unsolicited (p : Presented) : Bool := p.frame.route == .dataEvent && !p.awaited

def keptFrames (answered : List Answered) : Nat :=
  answered.countP fun a => a.unsolicited && a.success

/-- Since the last announcement, an unsolicited data frame has been presented as old
exactly when fewer than the announced number had been kept before it. -/
structure ExactBacklog (s : BacklogState) : Prop where
  answered : ∀ before a after, s.answered = before ++ a :: after → a.unsolicited = true →
    (a.isOld = true ↔ (keptFrames before : Int) < s.announced)
  handling : ∀ p, s.handling = some p → p.unsolicited = true →
    (p.isOld = true ↔ (keptFrames s.answered : Int) < s.announced)

def Named : BacklogInput → Prop
  | .register _ action => action ≠ unspecified
  | _ => True

/-- While the counter is positive, unsolicited data frames decode and are not
quarantined, and a response that is committed still finds its waiter. -/
def Undisturbed (s : BacklogState) : BacklogInput → Prop
  | .frame frame => 0 < s.skipCount → frame.route = .dataEvent → s.awaits frame = false →
      frame.decodeFails = false ∧ frame.decoded.isSome = true
  | .answer outcome fails => 0 < s.skipCount → kept outcome fails = true →
      ∀ p ∈ s.handling, p.frame.route = .dataEvent →
        if p.awaited then outcome = .committed → p.frame.decodeFails = false →
          s.awaits p.frame = true
        else outcome = .committed
  | _ => True

instance : DecidablePred Named := fun input => by
  cases input <;> (unfold Named; infer_instance)

instance (s : BacklogState) : DecidablePred (Undisturbed s) := fun input => by
  cases input <;> (unfold Undisturbed; infer_instance)

/-! ### The counter -/

namespace BacklogState

variable (s : BacklogState) {frame : RpcFrame}

theorem waiterFor_of_awaits (h : s.awaits frame = true) :
    ∃ d, frame.decoded = some d ∧ d.sessionId ≠ "" ∧ s.waiterFor d = some d.action := by
  unfold awaits at h
  cases hd : frame.decoded with
  | none => simp [hd] at h
  | some d =>
    simp only [hd, Bool.and_eq_true, beq_iff_eq, bne_iff_ne] at h
    obtain ⟨⟨hsource, hsession⟩, hlookup⟩ := h
    exact ⟨d, rfl, hsession, by simp [waiterFor, hsource, hlookup, Option.filter]⟩

def NamedWaiters : Prop := ∀ w ∈ s.waiters, w.2 ≠ unspecified

theorem mem_of_lookup {waiters : List (String × ActionType)} {key : String} {action : ActionType}
    (h : waiters.lookup key = some action) : (key, action) ∈ waiters := by
  induction waiters with
  | nil => simp at h
  | cons w rest ih =>
    rw [List.lookup_cons] at h
    by_cases hkey : key = w.1
    · subst hkey
      simp at h
      exact List.mem_cons.2 (Or.inl (Prod.ext rfl h.symm))
    · rw [beq_false_of_ne hkey] at h
      exact List.mem_cons_of_mem _ (ih h)

theorem durableRequestFor_eq_unspecified (hnamed : s.NamedWaiters) (frame : RpcFrame) :
    s.durableRequestFor frame.decoded = unspecified ↔ s.awaits frame = false := by
  constructor
  · intro hrequest
    by_contra hawaits
    obtain ⟨d, hd, hsession, hwaiter⟩ := s.waiterFor_of_awaits (by simpa using hawaits)
    have haction : d.action = unspecified := by
      simpa [durableRequestFor, hd, hsession, hwaiter] using hrequest
    have hlookup : s.waiters.lookup d.sessionId = some d.action := by
      unfold waiterFor at hwaiter
      split at hwaiter
      · exact (Option.filter_eq_some_iff.1 hwaiter).1
      · simp at hwaiter
    exact hnamed _ (mem_of_lookup hlookup) haction
  · intro hawaits
    unfold awaits at hawaits
    cases hd : frame.decoded with
    | none => rfl
    | some d =>
      simp only [durableRequestFor]
      split
      · rfl
      next hsession =>
        have hnone : s.waiterFor d = none := by
          unfold waiterFor
          split
          next hsource =>
            rw [Option.filter_eq_none_iff]
            intro action hlookup haction
            simp only [beq_iff_eq] at haction
            simp [hd, hsource, hsession, hlookup, haction] at hawaits
          · rfl
        rw [hnone]
        rfl

theorem receiveResponse_of_awaits (h : s.awaits frame = true) :
    (s.receiveResponse frame.decoded).1 = true := by
  obtain ⟨d, hd, -, hwaiter⟩ := s.waiterFor_of_awaits h
  simp [receiveResponse, hd, hwaiter]

/-- The parts of the state that serving a waiter leaves alone, and the waiters it can
only remove. -/
structure Served (s t : BacklogState) : Prop where
  skipCount : t.skipCount = s.skipCount
  handling : t.handling = s.handling
  announced : t.announced = s.announced
  answered : t.answered = s.answered
  waiters : ∀ w ∈ t.waiters, w ∈ s.waiters

theorem Served.refl : Served s s := ⟨rfl, rfl, rfl, rfl, fun _ h => h⟩

theorem removeWaiter_served (requestId : String) : Served s (s.removeWaiter requestId) :=
  ⟨rfl, rfl, rfl, rfl, fun _ h => (List.mem_filter.1 h).1⟩

theorem receiveResponse_served (decoded : Option Decoded) :
    Served s (s.receiveResponse decoded).2 := by
  unfold receiveResponse
  split
  · exact .refl s
  · split
    · exact s.removeWaiter_served _
    · exact .refl s

theorem receiveDurablePoison_served (decoded : Option Decoded) :
    Served s (s.receiveDurablePoison decoded) := by
  unfold receiveDurablePoison
  split
  · exact .refl s
  · split
    · exact .refl s
    · exact s.removeWaiter_served _

theorem receiveDurableFailure_served (decoded : Option Decoded) :
    Served s (s.receiveDurableFailure decoded) := by
  unfold receiveDurableFailure
  split
  · exact .refl s
  · split
    · exact s.removeWaiter_served _
    · exact .refl s

theorem decrementSkipCount_of_pos (h : 0 < s.skipCount) :
    s.decrementSkipCount = { s with skipCount := s.skipCount - 1 } := if_neg (by omega)

theorem decrementSkipCount_of_nonpos (h : s.skipCount ≤ 0) : s.decrementSkipCount = s := if_pos h

theorem Served.decrementSkipCount {s t : BacklogState} (h : Served s t) :
    Served s.decrementSkipCount t.decrementSkipCount := by
  obtain ⟨hskip, hhandling, hannounced, hanswered, hwaiters⟩ := h
  by_cases hpos : 0 < s.skipCount
  · rw [decrementSkipCount_of_pos s hpos, decrementSkipCount_of_pos t (hskip ▸ hpos)]
    exact ⟨by simp [hskip], hhandling, hannounced, hanswered, hwaiters⟩
  · have hnonpos : s.skipCount ≤ 0 := by omega
    rw [decrementSkipCount_of_nonpos s hnonpos, decrementSkipCount_of_nonpos t (hskip ▸ hnonpos)]
    exact ⟨hskip, hhandling, hannounced, hanswered, hwaiters⟩

def record (p : Presented) (success : Bool) : BacklogState :=
  { s with handling := none, answered := s.answered ++ [{ p with success }] }

/-- The two ways to consume the counter: the frame was old, or it is an unclassified
data frame that no waiter takes. -/
def Consumes (p : Presented) (outcome : DurableOutcome) (fails : Bool) : Prop :=
  kept outcome fails = true ∧ outcome = .committed ∧
    (p.isOld = true ∨ p.frame.decodeFails = false ∧ p.frame.route = .dataEvent ∧
      p.classified = false ∧ (s.receiveResponse p.frame.decoded).1 = false)

/-- A frame is answered by writing it down, consuming the counter or not, and serving
a waiter. -/
inductive Turn (s : BacklogState) (p : Presented) (outcome : DurableOutcome) (fails : Bool)
    (t : BacklogState) : Prop
  | same : ¬ s.Consumes p outcome fails → Served (s.record p (kept outcome fails)) t →
      Turn s p outcome fails t
  | consumed : s.Consumes p outcome fails →
      Served (s.record p (kept outcome fails)).decrementSkipCount t → Turn s p outcome fails t

theorem receiveResponse_record (p : Presented) (success : Bool) (decoded : Option Decoded) :
    ((s.record p success).receiveResponse decoded).1 = (s.receiveResponse decoded).1 := by
  cases decoded with
  | none => rfl
  | some d =>
    simp only [receiveResponse, waiterFor, record]
    split_ifs <;> rfl

variable {fails : Bool} {p : Presented}

theorem resume_old (hkept : kept .committed fails = true)
    (hold : p.isOld = true) (hclassified : p.classified = true) :
    Served (s.record p (kept .committed fails)).decrementSkipCount
      (s.resume p .committed fails) := by
  simp only [resume, hkept, hold, hclassified, Bool.not_true, Bool.false_eq_true,
    if_false, and_self,
    if_true, ne_eq, not_true_eq_false, and_false]
  split
  · exact .refl _
  · split <;> exact receiveResponse_served _ _

theorem resume_live (hkept : kept .committed fails = true)
    (hold : p.isOld = false) : Turn s p .committed fails (s.resume p .committed fails) := by
  have hrecord := s.receiveResponse_record p true p.frame.decoded
  have hserved := (s.record p true).receiveResponse_served p.frame.decoded
  simp only [record] at hrecord hserved
  simp only [resume, hkept, hold, Bool.not_true, Bool.false_eq_true, if_false, and_false, ne_eq,
    not_true_eq_false, Bool.not_eq_true']
  split
  next hdecode =>
    refine .same ?_ (by rw [hkept]; exact .refl _)
    rintro ⟨-, -, h | h⟩
    · simp [hold] at h
    · simp [hdecode] at h
  next hdecode =>
    split
    next hwaiter =>
      refine .same ?_ (by rw [hkept]; exact hserved)
      rintro ⟨-, -, h | ⟨-, -, -, h⟩⟩
      · simp [hold] at h
      · rw [← hrecord, hwaiter] at h
        exact absurd h (by decide)
    next hwaiter =>
      split
      next hdata =>
        refine .consumed ⟨hkept, rfl, Or.inr ⟨by simpa using hdecode, hdata.1, hdata.2, ?_⟩⟩ ?_
        · rw [← hrecord]
          simpa using hwaiter
        · rw [hkept]
          exact hserved.decrementSkipCount
      next hdata =>
        refine .same ?_ (by rw [hkept]; exact hserved)
        rintro ⟨-, -, h | ⟨-, hroute, hclassified, -⟩⟩
        · simp [hold] at h
        · exact hdata ⟨hroute, hclassified⟩

theorem resume_turn (hold : p.isOld = true → p.classified = true)
    (outcome : DurableOutcome) (fails : Bool) :
    Turn s p outcome fails (s.resume p outcome fails) := by
  cases hkept : kept outcome fails with
  | false =>
    refine .same (fun h => by simp [h.1] at hkept) ?_
    have hserved := (s.record p false).receiveDurableFailure_served p.frame.decoded
    simpa [resume, hkept, record] using hserved
  | true =>
    by_cases hcommitted : outcome = .committed
    · subst hcommitted
      cases hisOld : p.isOld with
      | true =>
        exact .consumed ⟨hkept, rfl, Or.inl hisOld⟩ (s.resume_old hkept hisOld (hold hisOld))
      | false => exact s.resume_live hkept hisOld
    · refine .same (fun h => hcommitted h.2.1) ?_
      have hserved := (s.record p true).receiveDurablePoison_served p.frame.decoded
      simpa [resume, hkept, hcommitted, record] using hserved

end BacklogState

/-! ### Whole streams -/

structure Classified (s : BacklogState) (p : Presented) : Prop where
  old : p.isOld = (p.classified && decide (0 < s.skipCount))
  unsolicited : p.classified = true → p.unsolicited = true
  counting : 0 < s.skipCount → p.unsolicited = true → p.classified = true

structure Counted (s : BacklogState) : Prop where
  named : s.NamedWaiters
  positive : 0 < s.skipCount ↔ (keptFrames s.answered : Int) < s.announced
  left : 0 < s.skipCount → s.skipCount = s.announced - keptFrames s.answered
  handling : ∀ p, s.handling = some p → Classified s p
  answered : ∀ before a after, s.answered = before ++ a :: after → a.unsolicited = true →
    (a.isOld = true ↔ (keptFrames before : Int) < s.announced)

variable {s : BacklogState}

theorem Classified.isOld_iff (h : Classified s p)
    (hp : p.unsolicited = true) : p.isOld = true ↔ 0 < s.skipCount := by
  rw [h.old, Bool.and_eq_true, decide_eq_true_eq]
  exact ⟨fun h => h.2, fun hpos => ⟨h.counting hpos hp, hpos⟩⟩

theorem Counted.exactBacklog (h : Counted s) : ExactBacklog s where
  answered := h.answered
  handling p hp hunsolicited := by
    rw [(h.handling p hp).isOld_iff hunsolicited, h.positive]

@[simp] theorem keptFrames_append (answered : List Answered) (a : Answered) :
    keptFrames (answered ++ [a]) = keptFrames answered + if a.unsolicited && a.success then 1
      else 0 := by
  simp [keptFrames, List.countP_append, List.countP_singleton]

theorem Counted.served {t : BacklogState} (h : Counted s) (hserved : s.Served t) : Counted t where
  named w hw := h.named w (hserved.waiters w hw)
  positive := by rw [hserved.skipCount, hserved.answered, hserved.announced]; exact h.positive
  left := by rw [hserved.skipCount, hserved.answered, hserved.announced]; exact h.left
  handling p hp := by
    have hclassified := h.handling p (hserved.handling ▸ hp)
    exact ⟨by rw [hserved.skipCount]; exact hclassified.old, hclassified.unsolicited,
      by rw [hserved.skipCount]; exact hclassified.counting⟩
  answered := by rw [hserved.answered, hserved.announced]; exact h.answered

theorem Counted.present (h : Counted s)
    (hframe : Undisturbed s (.frame frame)) : Counted (s.present frame) := by
  unfold BacklogState.present
  split
  · exact h
  · refine ⟨h.named, h.positive, h.left, ?_, h.answered⟩
    intro p hp
    obtain rfl := Option.some.inj hp
    have hrequest := s.durableRequestFor_eq_unspecified h.named frame
    refine ⟨rfl, ?_, ?_⟩
    · intro hclassified
      simp only [Bool.and_eq_true, beq_iff_eq] at hclassified
      simp [Presented.unsolicited, hclassified.1.2, hrequest.1 hclassified.2]
    · intro hpos hunsolicited
      simp only [Presented.unsolicited, Bool.and_eq_true, beq_iff_eq, Bool.not_eq_true']
        at hunsolicited
      obtain ⟨hdecode, hsome⟩ := hframe hpos hunsolicited.1 hunsolicited.2
      simp [hdecode, hsome, hunsolicited.1, hrequest.2 hunsolicited.2]

theorem Classified.consumes_iff {outcome : DurableOutcome}
    (h : Classified s p) (hp : s.handling = some p) (hpos : 0 < s.skipCount)
    (hanswer : Undisturbed s (.answer outcome fails)) :
    s.Consumes p outcome fails ↔ p.unsolicited = true ∧ kept outcome fails = true := by
  constructor
  · rintro ⟨hkept, rfl, hold | ⟨hdecode, hroute, hclassified, hunserved⟩⟩
    · rw [h.old, Bool.and_eq_true] at hold
      exact ⟨h.unsolicited hold.1, hkept⟩
    · refine ⟨?_, hkept⟩
      have hcond := hanswer hpos hkept p (by simp [hp]) hroute
      cases hawaited : p.awaited with
      | false => simp [Presented.unsolicited, hroute, hawaited]
      | true =>
        rw [hawaited, if_pos rfl] at hcond
        have hserved := s.receiveResponse_of_awaits (hcond rfl hdecode)
        rw [hunserved] at hserved
        exact absurd hserved (by decide)
  · rintro ⟨hunsolicited, hkept⟩
    have hparts := hunsolicited
    simp only [Presented.unsolicited, Bool.and_eq_true, beq_iff_eq, Bool.not_eq_true'] at hparts
    have hcond := hanswer hpos hkept p (by simp [hp]) hparts.1
    rw [hparts.2, if_neg (by decide)] at hcond
    exact ⟨hkept, hcond, Or.inl ((h.isOld_iff hunsolicited).2 hpos)⟩

theorem Counted.answered_record (h : Counted s)
    (hp : s.handling = some p) (success : Bool) (before : List Answered) (a : Answered)
    (after : List Answered) (hcut : s.answered ++ [{ p with success }] = before ++ a :: after)
    (ha : a.unsolicited = true) : a.isOld = true ↔ (keptFrames before : Int) < s.announced := by
  rcases List.eq_nil_or_concat after with rfl | ⟨rest, last, rfl⟩
  · obtain ⟨rfl, hlast⟩ := List.append_inj' hcut rfl
    obtain rfl := (List.cons.inj hlast).1
    rw [(h.handling p hp).isOld_iff ha, h.positive]
  · rw [List.concat_eq_append, ← List.cons_append, ← List.append_assoc] at hcut
    exact h.answered before a rest (List.append_inj' hcut rfl).1 ha

theorem Counted.record (h : Counted s) (hp : s.handling = some p)
    {success : Bool} (count : Int) (hpositive : 0 < count ↔
      ((keptFrames s.answered + if p.unsolicited && success then 1 else 0 : Nat) : Int) <
        s.announced)
    (hleft : 0 < count → count =
      s.announced - (keptFrames s.answered + if p.unsolicited && success then 1 else 0 : Nat)) :
    Counted { s.record p success with skipCount := count } where
  named := h.named
  positive := by
    simp only [BacklogState.record, keptFrames_append]
    exact hpositive
  left := by
    simp only [BacklogState.record, keptFrames_append]
    exact hleft
  handling _ hnone := by simp [BacklogState.record] at hnone
  answered := h.answered_record hp success

theorem Counted.resume {outcome : DurableOutcome}
    (h : Counted s) (hp : s.handling = some p) (hanswer : Undisturbed s (.answer outcome fails)) :
    Counted (s.resume p outcome fails) := by
  have hclassified := h.handling p hp
  have hold : p.isOld = true → p.classified = true := by
    intro hold
    rw [hclassified.old, Bool.and_eq_true] at hold
    exact hold.1
  have hpositive := h.positive
  have hleft := h.left
  by_cases hpos : 0 < s.skipCount
  · have hconsumes := hclassified.consumes_iff hp hpos hanswer
    rw [← Bool.and_eq_true] at hconsumes
    cases s.resume_turn hold outcome fails with
    | same hnot hserved =>
      have hzero := hconsumes.not.1 hnot
      refine Counted.served (h.record hp s.skipCount ?_ ?_) hserved
      all_goals
        rw [if_neg hzero]
        omega
    | consumed hyes hserved =>
      have hone := hconsumes.1 hyes
      have hdown := (s.record p (kept outcome fails)).decrementSkipCount_of_pos hpos
      rw [hdown] at hserved
      refine Counted.served (h.record hp (s.skipCount - 1) ?_ ?_) hserved
      all_goals
        rw [if_pos hone]
        omega
  -- an exhausted counter stays as it is
  · have hrecord : Counted (s.record p (kept outcome fails)) := by
      refine h.record hp s.skipCount ?_ ?_
      all_goals split <;> omega
    have hnonpos : (s.record p (kept outcome fails)).skipCount ≤ 0 := not_lt.1 hpos
    cases s.resume_turn hold outcome fails with
    | same _ hserved => exact hrecord.served hserved
    | consumed _ hserved =>
      rw [BacklogState.decrementSkipCount_of_nonpos _ hnonpos] at hserved
      exact hrecord.served hserved

theorem Counted.next {input : BacklogInput} (h : Counted s) (hnamed : Named input)
    (hinput : Undisturbed s input) : Counted (s.next input) := by
  cases input with
  | ack count =>
    simp only [BacklogState.next]
    split
    · exact h
    next hidle =>
      refine ⟨h.named, by simp [keptFrames], by simp [keptFrames], ?_, by simp⟩
      intro p hp
      exact absurd (by simp [show s.handling = some p from hp]) hidle
  | frame frame =>
    simp only [BacklogState.next]
    split
    · exact h
    · exact h.present hinput
  | answer outcome fails =>
    simp only [BacklogState.next]
    split
    next p hp => exact h.resume hp hinput
    · exact h
  | register requestId action =>
    refine ⟨?_, h.positive, h.left, fun p hp => ?_, h.answered⟩
    · intro w hw
      rcases List.mem_cons.1 hw with rfl | hw
      · exact hnamed
      · exact h.named w (List.mem_filter.1 hw).1
    · obtain ⟨hold, hunsolicited, hcounting⟩ := h.handling p hp
      exact ⟨hold, hunsolicited, hcounting⟩
  | cancel requestId => exact h.served (s.removeWaiter_served requestId)
  | cancelAll => exact h.served ⟨rfl, rfl, rfl, rfl, by simp [BacklogState.next]⟩

/-- **The restart backlog is exact in every undisturbed stream.** After an announcement
the unsolicited data frames are presented as old until the announced number has been
kept, and as live from then on; a frame that was not kept is presented as before, and
responses do not count. -/
theorem backlog_exact {trace : List (BacklogInput × Unit)}
    (hrun : Run backlogStep (fun s input => Named input ∧ Undisturbed s input) {} trace s) :
    ExactBacklog s := by
  have hcounted : Counted s := by
    refine hrun.invariant (P := Counted) (fun _ _ hi h => h.next hi.1 hi.2) ?_
    exact ⟨by simp [BacklogState.NamedWaiters], by simp [keptFrames], by simp, by simp, by simp⟩
  exact hcounted.exactBacklog

def updateFrame (responseId sessionId : String) (action : ActionType) : RpcFrame :=
  { responseId, route := .dataEvent
    decoded := some { source := .encryptedData, sessionId, action } }

def oldFlags (inputs : List BacklogInput) : List Bool :=
  (execute backlogStep inputs {}).2.answered.map (·.isOld)

/-- One announced frame: its first attempt fails, a response comes in between, and the
frame after it is live. -/
def restartStream : List BacklogInput :=
  [.ack 1, .frame (updateFrame "u1" "" 16), .answer .unknown true,
    .register "request" 3, .frame (updateFrame "r1" "request" 3), .answer .committed false,
    .frame (updateFrame "u1" "" 16), .answer .committed false,
    .frame (updateFrame "u2" "" 16), .answer .committed false]

theorem restartStream_exact :
    ExactBacklog (execute backlogStep restartStream {}).2 ∧
      oldFlags restartStream = [true, false, true, false] := by
  have hrun : Run backlogStep (fun s input => Named input ∧ Undisturbed s input) {} _ _ :=
    Run.of_inputs restartStream (by decide +kernel)
  exact ⟨backlog_exact hrun, by decide +kernel⟩

/-- One announced frame is quarantined, and the first live frame after it is presented
as old. -/
def quarantineStream : List BacklogInput :=
  [.ack 1, .frame (updateFrame "u1" "" 16), .answer .poisoned false,
    .frame (updateFrame "u2" "" 16), .answer .committed false]

/-- One announced frame; the caller of a request gives up while its response is being
committed, and the announced frame is presented as live. -/
def abandonedStream : List BacklogInput :=
  [.ack 1, .register "request" 3, .frame (updateFrame "r1" "request" 3), .cancel "request",
    .answer .committed false, .frame (updateFrame "u1" "" 16), .answer .committed false]

/-- A quarantined frame is not counted and an abandoned response is. -/
theorem backlog_miscounted :
    (∀ input ∈ quarantineStream ++ abandonedStream, Named input) ∧
      oldFlags quarantineStream = [true, true] ∧
      ¬ ExactBacklog (execute backlogStep quarantineStream {}).2 ∧
      oldFlags abandonedStream = [false, false] ∧
      ¬ ExactBacklog (execute backlogStep abandonedStream {}).2 := by
  refine ⟨by decide +kernel, by decide +kernel, fun h => ?_, by decide +kernel, fun h => ?_⟩
  · have hlast := h.answered [_] _ [] rfl rfl
    exact absurd (hlast.1 rfl) (by decide +kernel)
  · have hlast := h.answered [_] _ [] rfl rfl
    exact absurd (hlast.2 (by decide +kernel)) (by decide +kernel)

end MessagingGateway.Client
