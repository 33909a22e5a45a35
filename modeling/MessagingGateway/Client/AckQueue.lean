import MessagingGateway.Domain.Identifiers
import MessagingGateway.Relational.Runs

/-!
# The provider ACK queue

`SessionHandler` keeps the response IDs it has yet to acknowledge in `ackMap`, and
the same IDs in `ackSet`. A tick takes a batch off the queue under the lock, has it
acknowledged without the lock, and puts IDs back in front. Other goroutines queue
IDs, and take and finish batches of their own, in between.
-/

namespace MessagingGateway.Client

open Domain Relational

def ackBatchLimit : Nat := 256

def ackQueueLimit : Nat := 1024

structure ACKCoordinationResult where
  admittedIDs : List String := []
  retryIDs : List String := []
  providerError : Bool := false

/-- How the acknowledgement of a batch ends: with a durable coordinator, or with
the request and its observer. -/
inductive ACKOutcome
  | coordinated (result : ACKCoordinationResult) (coordinateErr : Bool)
  | sent (sendErr observeErr : Bool)

/-- The loop of `validateACKCoordinationResult` over one list; a retry must be in
`admitted`. -/
def validateIDs (candidates : List String) (admitted : Option (List String)) :
    List String → List String → Except String Unit
  | _, [] => .ok ()
  | seen, id :: ids =>
    if id ∉ candidates then .error "durable ACK coordinator returned an unknown response ID"
    else if id ∈ seen then .error "durable ACK coordinator returned a duplicate response ID"
    else if admitted.any (id ∉ ·) then .error "provider ACK retry was not admitted"
    else validateIDs candidates admitted (id :: seen) ids

def validateACKCoordinationResult (candidates : List String) (result : ACKCoordinationResult) :
    Except String Unit := do
  validateIDs candidates none [] result.admittedIDs
  validateIDs candidates (if result.providerError then some result.admittedIDs else none) []
    result.retryIDs
  if result.providerError && result.retryIDs.isEmpty then
    throw "provider ACK failure omitted retry IDs"

/-- The IDs `sendAckRequestContext` gives to `requeueMessageACKs`, if it calls it. -/
def ACKOutcome.retryIDs (dataToAck : List String) : ACKOutcome → Option (List String)
  | .coordinated result coordinateErr =>
    if coordinateErr || !(validateACKCoordinationResult dataToAck result).isOk then
      some (if result.retryIDs.isEmpty then dataToAck else result.retryIDs)
    else if result.providerError then some result.retryIDs
    else none
  | .sent sendErr observeErr => if sendErr || observeErr then some dataToAck else none

structure ACKQueue where
  ackMap : List String := []
  ackSet : Finset String := ∅
  inFlight : List (List String) := []

def requeueOne (queued : Nat) (fold : List String × Finset String) (id : String) :
    List String × Finset String :=
  if id ∉ fold.2 ∧ fold.1.length + queued < ackQueueLimit then
    (fold.1 ++ [id], insert id fold.2)
  else fold

namespace ACKQueue

def queueMessageAck (messageId : String) (q : ACKQueue) : ACKQueue :=
  if !validProviderResponseID messageId then q
  else if messageId ∈ q.ackSet then q
  else if q.ackMap.length ≥ ackQueueLimit then q
  else { q with ackMap := q.ackMap ++ [messageId], ackSet := insert messageId q.ackSet }

def takeBatch (q : ACKQueue) : ACKQueue :=
  let batchSize := min q.ackMap.length ackBatchLimit
  let dataToAck := q.ackMap.take batchSize
  { ackMap := q.ackMap.drop batchSize
    ackSet := q.ackSet \ dataToAck.toFinset
    inFlight := if dataToAck.isEmpty then q.inFlight else q.inFlight ++ [dataToAck] }

def requeueMessageACKs (ids : List String) (q : ACKQueue) : ACKQueue :=
  let fold := ids.foldl (requeueOne q.ackMap.length) ([], q.ackSet)
  { q with ackMap := fold.1 ++ q.ackMap, ackSet := fold.2 }

/-- The rest of `sendAckRequestContext` for the batch in place `i`. -/
def finish (i : Nat) (outcome : ACKOutcome) (q : ACKQueue) : ACKQueue :=
  match q.inFlight[i]? with
  | none => q
  | some dataToAck =>
    let landed := { q with inFlight := q.inFlight.eraseIdx i }
    match outcome.retryIDs dataToAck with
    | none => landed
    | some ids => landed.requeueMessageACKs ids

end ACKQueue

inductive ACKCall
  | queueMessageAck (messageId : String)
  | tick
  | finish (i : Nat) (outcome : ACKOutcome)

def ackStep : ACKCall → ACKQueue → Unit × ACKQueue
  | .queueMessageAck messageId, q => ((), q.queueMessageAck messageId)
  | .tick, q => ((), q.takeBatch)
  | .finish i outcome, q => ((), q.finish i outcome)

/-! ### Putting IDs back -/

section

variable {n : Nat} {front : List String} {set : Finset String} {id : String}

theorem foldl_requeueOne_full (h : ackQueueLimit ≤ front.length + n) (ids : List String) :
    ids.foldl (requeueOne n) (front, set) = (front, set) := by
  induction ids with
  | nil => rfl
  | cons id ids ih =>
    rw [List.foldl_cons, requeueOne, if_neg (fun hnew => absurd hnew.2 (Nat.not_lt.2 h)), ih]

theorem foldl_requeueOne_filter (ids : List String) (h : id ∈ set) :
    ids.foldl (requeueOne n) (front, set) =
      (ids.filter (!· == id)).foldl (requeueOne n) (front, set) := by
  induction ids generalizing front set with
  | nil => rfl
  | cons a ids ih =>
    rw [List.foldl_cons]
    by_cases ha : a = id
    · subst ha
      rw [requeueOne, if_neg (fun hnew => hnew.1 h), ih h, List.filter_cons_of_neg (by simp)]
    · rw [List.filter_cons_of_pos (by simpa using ha), List.foldl_cons, requeueOne]
      split
      · exact ih (Finset.mem_insert_of_mem h)
      · exact ih h

theorem foldl_requeueOne (n : Nat) (ids front : List String) (set : Finset String) :
    ∃ more, ids.foldl (requeueOne n) (front, set) = (front ++ more, set ∪ more.toFinset) ∧
      more.Nodup ∧ (∀ id ∈ more, id ∉ set) ∧ more.Sublist ids.eraseDups ∧
      (more ≠ [] → front.length + more.length + n ≤ ackQueueLimit) := by
  -- on the length: what follows an ID is read without its repeats
  induction hlength : ids.length using Nat.strong_induction_on generalizing ids front set with
  | _ length ih =>
    cases ids with
    | nil => exact ⟨[], by simp⟩
    | cons id ids =>
      have hshorter : (ids.filter (!· == id)).length < length :=
        hlength ▸ Nat.lt_succ_of_le (List.length_filter_le _ _)
      rw [List.foldl_cons, requeueOne, List.eraseDups_cons]
      by_cases hset : id ∈ set
      · rw [if_neg (fun hnew => hnew.1 hset), foldl_requeueOne_filter ids hset]
        obtain ⟨more, hfold, hnodup, hnew, hsub, hlimit⟩ := ih _ hshorter _ front set rfl
        exact ⟨more, hfold, hnodup, hnew, hsub.cons id, hlimit⟩
      · by_cases hroom : front.length + n < ackQueueLimit
        · rw [if_pos ⟨hset, hroom⟩, foldl_requeueOne_filter ids (Finset.mem_insert_self id set)]
          obtain ⟨more, hfold, hnodup, hnew, hsub, hlimit⟩ :=
            ih _ hshorter _ (front ++ [id]) (insert id set) rfl
          refine ⟨id :: more, ?_, ?_, ?_, hsub.cons_cons id, fun _ => ?_⟩
          · rw [hfold, List.append_assoc, List.toFinset_cons, Finset.insert_union,
              Finset.union_insert]
            rfl
          · exact List.nodup_cons.2 ⟨fun hid => hnew id hid (Finset.mem_insert_self id set), hnodup⟩
          · rintro a (_ | ⟨_, ha⟩)
            · exact hset
            · exact fun h => hnew a ha (Finset.mem_insert_of_mem h)
          · rcases eq_or_ne more [] with rfl | hmore
            · simp only [List.length_singleton]
              omega
            · have hbound := hlimit hmore
              simp only [List.length_append, List.length_cons, List.length_nil] at hbound ⊢
              omega
        · rw [if_neg (fun hnew => hroom hnew.2), foldl_requeueOne_full (by omega)]
          exact ⟨[], by simp⟩

end

/-! ### Runs -/

theorem eraseDups_sublist (ids : List String) : ids.eraseDups.Sublist ids := by
  induction hlength : ids.length using Nat.strong_induction_on generalizing ids with
  | _ length ih =>
    cases ids with
    | nil => exact .slnil
    | cons id ids =>
      have hshorter : (ids.filter (!· == id)).length < length :=
        hlength ▸ Nat.lt_succ_of_le (List.length_filter_le _ _)
      rw [List.eraseDups_cons]
      exact ((ih _ hshorter _ rfl).trans List.filter_sublist).cons_cons id

/-- If a coordinator's answer puts IDs back, its `RetryIDs` are, without repeats, IDs of
the batch in the batch's order. -/
def Ordered (q : ACKQueue) : ACKCall → Prop
  | .finish i (.coordinated result coordinateErr) => ∀ dataToAck ∈ q.inFlight[i]?,
    ((ACKOutcome.coordinated result coordinateErr).retryIDs dataToAck).isSome = true →
      result.retryIDs.eraseDups.Sublist dataToAck
  | _ => True

theorem Ordered.sublist {q : ACKQueue} {i : Nat} {outcome : ACKOutcome} {batch ids : List String}
    (h : Ordered q (.finish i outcome)) (hbatch : batch ∈ q.inFlight[i]?)
    (hids : outcome.retryIDs batch = some ids) : ids.eraseDups.Sublist batch := by
  cases outcome with
  | sent sendErr observeErr =>
    simp only [ACKOutcome.retryIDs, Option.ite_none_right_eq_some, Option.some.injEq] at hids
    exact hids.2 ▸ eraseDups_sublist batch
  | coordinated result coordinateErr =>
    have hordered := h batch hbatch (by rw [hids]; rfl)
    simp only [ACKOutcome.retryIDs] at hids
    split_ifs at hids <;> obtain rfl := Option.some.inj hids
    · exact eraseDups_sublist _
    · exact hordered
    · exact hordered

structure ACKQueue.Intact (trace : List (ACKCall × Unit)) (q : ACKQueue) : Prop where
  nodup : q.ackMap.Nodup
  same : q.ackSet = q.ackMap.toFinset
  bounded : q.ackMap.length ≤ ackQueueLimit
  queued : ∀ id ∈ q.ackMap, (.queueMessageAck id, ()) ∈ trace
  taken : ∀ batch ∈ q.inFlight, ∀ id ∈ batch, (.queueMessageAck id, ()) ∈ trace

namespace ACKQueue.Intact

variable {trace : List (ACKCall × Unit)} {q : ACKQueue}

theorem more (h : q.Intact trace) (e : ACKCall × Unit) : q.Intact (trace ++ [e]) :=
  { h with
    queued := fun id hid => List.mem_append_left _ (h.queued id hid)
    taken := fun batch hbatch id hid => List.mem_append_left _ (h.taken batch hbatch id hid) }

theorem queueMessageAck (h : q.Intact trace) (id : String) :
    (q.queueMessageAck id).Intact (trace ++ [(.queueMessageAck id, ())]) := by
  unfold ACKQueue.queueMessageAck
  split_ifs with hvalid hset hfull
  · exact h.more _
  · exact h.more _
  · exact h.more _
  · rw [h.same, List.mem_toFinset] at hset
    refine { h.more _ with nodup := ?_, same := ?_, bounded := ?_, queued := fun a ha => ?_ }
    · rw [List.nodup_append_comm]
      exact List.nodup_cons.2 ⟨hset, h.nodup⟩
    · ext a
      simp [h.same]
    · rw [List.length_append]
      exact Nat.lt_of_not_le hfull
    · rcases List.mem_append.1 ha with ha | ha
      · exact (h.more _).queued a ha
      · rw [List.mem_singleton.1 ha]
        exact List.mem_append_right _ (List.mem_singleton_self _)

theorem takeBatch (h : q.Intact trace) : q.takeBatch.Intact trace := by
  obtain ⟨n, hn⟩ : ∃ n, n = min q.ackMap.length ackBatchLimit := ⟨_, rfl⟩
  have hnodup := h.nodup
  rw [← List.take_append_drop n q.ackMap] at hnodup
  obtain ⟨-, hdrop, hapart⟩ := List.nodup_append.1 hnodup
  unfold ACKQueue.takeBatch
  rw [← hn]
  refine ⟨hdrop, ?_, ?_, fun id hid => h.queued id (List.mem_of_mem_drop hid), ?_⟩
  · ext id
    have hmem := List.mem_append (a := id) (s := q.ackMap.take n) (t := q.ackMap.drop n)
    rw [List.take_append_drop] at hmem
    have hnot : id ∈ q.ackMap.drop n → id ∉ q.ackMap.take n :=
      fun hrest htaken => hapart id htaken id hrest rfl
    simp only [h.same, Finset.mem_sdiff, List.mem_toFinset]
    tauto
  · exact (List.length_drop ▸ Nat.sub_le _ _).trans h.bounded
  · dsimp only
    split
    · exact h.taken
    · intro batch hbatch id hid
      rcases List.mem_append.1 hbatch with hbatch | hbatch
      · exact h.taken batch hbatch id hid
      · rw [List.mem_singleton.1 hbatch] at hid
        exact h.queued id (List.mem_of_mem_take hid)

theorem requeueMessageACKs {ids batch : List String} (h : q.Intact trace)
    (hsub : ids.eraseDups.Sublist batch)
    (hbatch : ∀ id ∈ batch, (.queueMessageAck id, ()) ∈ trace) :
    (q.requeueMessageACKs ids).Intact trace ∧
      ∃ front, front.Sublist batch ∧ (q.requeueMessageACKs ids).ackMap = front ++ q.ackMap := by
  obtain ⟨front, hfold, hnodup, hnew, hfront, hlimit⟩ :=
    foldl_requeueOne q.ackMap.length ids [] q.ackSet
  unfold ACKQueue.requeueMessageACKs
  rw [hfold]
  refine ⟨{ h with nodup := ?_, same := ?_, bounded := ?_, queued := fun id hid => ?_ }, front,
    hfront.trans hsub, rfl⟩
  · refine List.nodup_append.2 ⟨hnodup, h.nodup, ?_⟩
    rintro id hid _ hmem rfl
    rw [h.same] at hnew
    exact hnew id hid (List.mem_toFinset.2 hmem)
  · ext id
    simp [h.same, or_comm]
  · rcases eq_or_ne front [] with rfl | hfull
    · exact h.bounded
    · rw [List.length_append]
      have hroom := hlimit hfull
      rwa [List.length_nil, Nat.zero_add] at hroom
  · rcases List.mem_append.1 hid with hid | hid
    · exact hbatch id ((hfront.trans hsub).mem hid)
    · exact h.queued id hid

theorem finish {i : Nat} {outcome : ACKOutcome} (h : q.Intact trace)
    (hordered : Ordered q (.finish i outcome)) : (q.finish i outcome).Intact trace ∧
      ∀ batch ∈ q.inFlight[i]?, ∃ front, front.Sublist batch ∧
        (q.finish i outcome).ackMap = front ++ q.ackMap := by
  unfold ACKQueue.finish
  cases hbatch : q.inFlight[i]? with
  | none => exact ⟨h, by simp⟩
  | some batch =>
    have hlanded : ACKQueue.Intact trace { q with inFlight := q.inFlight.eraseIdx i } :=
      { h with taken := fun b hb => h.taken b (List.mem_of_mem_eraseIdx hb) }
    dsimp only
    cases hids : outcome.retryIDs batch with
    | none => exact ⟨hlanded, fun _ _ => ⟨[], List.nil_sublist _, rfl⟩⟩
    | some ids =>
      obtain ⟨hintact, hfront⟩ := hlanded.requeueMessageACKs (hordered.sublist hbatch hids)
        (h.taken batch (List.mem_of_getElem? hbatch))
      refine ⟨hintact, ?_⟩
      rintro _ ⟨⟩
      exact hfront

end ACKQueue.Intact

theorem run_intact {trace : List (ACKCall × Unit)} {q : ACKQueue}
    (hrun : Run ackStep Ordered {} trace q) : q.Intact trace := by
  refine hrun.invariant_trace (P := fun trace q => q.Intact trace) ?_
    ⟨List.nodup_nil, rfl, Nat.zero_le _, by simp, by simp⟩
  intro trace q call hordered h
  cases call with
  | queueMessageAck id => exact h.queueMessageAck id
  | tick => exact (h.takeBatch).more _
  | finish i outcome => exact (h.finish hordered).1.more _

/-- If no call puts back an ID that is not of its batch, or out of order, the queue
stays intact and what is put back stands in front in the batch's order. -/
theorem ack_queue_intact {trace : List (ACKCall × Unit)} {q : ACKQueue}
    (hrun : Run ackStep Ordered {} trace q) : q.Intact trace ∧
      ∀ i outcome, Ordered q (.finish i outcome) → ∀ batch ∈ q.inFlight[i]?,
        ∃ front, front.Sublist batch ∧
          (ackStep (.finish i outcome) q).2.ackMap = front ++ q.ackMap :=
  ⟨run_intact hrun, fun _ _ hordered => ((run_intact hrun).finish hordered).2⟩

def ackAnswered (result : ACKCoordinationResult) : List ACKCall :=
  [.queueMessageAck "a", .queueMessageAck "b", .tick, .finish 0 (.coordinated result false)]

theorem ackAnswered_intact :
    (execute ackStep (ackAnswered { retryIDs := ["b", "b"] }) {}).2.Intact
      (execute ackStep (ackAnswered { retryIDs := ["b", "b"] }) {}).1 :=
  (ack_queue_intact (Run.of_inputs (ackAnswered { retryIDs := ["b", "b"] }) (by
    simp [ackAnswered, AllAllowed, Ordered]
    decide))).1

/-- An answer that is rejected for an unknown ID puts this ID into the queue in the
place of the batch, and an answer out of order reverses the batch. -/
theorem unknown_id_requeued :
    (execute ackStep (ackAnswered { retryIDs := ["unknown"] }) {}).2.ackMap = ["unknown"] ∧
      (execute ackStep (ackAnswered ⟨["a", "b"], ["b", "a"], true⟩) {}).2.ackMap = ["b", "a"] := by
  decide +kernel

end MessagingGateway.Client
