import MessagingGateway.Dispatch.Echo
import MessagingGateway.Provider.Sending

/-!
# Dispatchers

`DispatchLane`, run by any number of dispatchers beside the other callers of the
gateway. Their store calls may fail, or commit and lose the reply, and a dispatcher
that takes no further step has crashed. Who hears that provider I/O is permitted
enters `SendOnce` at once, so the sends are among the permits of the store.
-/

namespace MessagingGateway.Dispatch

open Relational Domain Store Gateway
open Provider (ProviderSendResult)

/-- Where `DispatchLane` stands. -/
inductive Stage
  | idle
  | claimed (claim : DispatchClaim)
  | releasing (claim : DispatchClaim) (err : Option Err)
  /-- `SendOnce` runs beside the renewals; `lost` once one of them has failed -/
  | sending (claim : DispatchClaim) (lost : Bool)
  | completing (claim : DispatchClaim) (states : List MessageState) (reason : String)

inductive Transport
  | heard
  | failed (e : Err)
  /-- the transaction commits but its reply is lost -/
  | lost (e : Err)

/-- What comes to a step of a dispatcher from outside. -/
structure Occasion where
  now : Time
  transport : Transport := .heard
  connectionId : String := ""
  orderingKey : String := ""
  claimIds : ClaimIds
  locked : List String := []
  statusIds : Nat → StatusIds
  /-- `SendOnce` returns this, and whether a renewal then in flight fails; `none` for a tick of
  `renewProviderIO` -/
  returned : Option (Except Err ProviderSendResult × Bool) := none

def operation (ownerId : String) (o : Occasion) : Stage → Option Operation
  | .idle =>
    if o.connectionId = "" ∨ o.orderingKey = "" then none
    else some (.claimNext o.claimIds o.locked o.connectionId o.orderingKey ownerId)
  | .claimed claim => some (.beginProviderIo claim ownerId)
  | .releasing claim _ => some (.releaseBeforeDispatch (o.statusIds 0).statusId claim "fence_lost")
  | .sending claim lost =>
    if lost ∨ o.returned.isSome then none else some (.renewProviderIo claim ownerId)
  | .completing claim states reason => some (.completeDispatch o.statusIds claim states reason)

/-- What is reported when `SendOnce` has returned and the renewals have ended. -/
def report (claim : DispatchClaim) (lost : Bool) : Except Err ProviderSendResult → Stage
  | .error _ =>
    .completing claim [.uncertain] (if lost then "dispatch_fence_lost" else "provider_io_ambiguous")
  | .ok result =>
    if lost then .completing claim [.uncertain] "dispatch_fence_lost"
    else
      let message := if result.conversationId = "" then claim.message
        else { claim.message with conversationId := result.conversationId }
      let claim := { claim with message := message }
      if result.accepted then .completing claim [.providerAccepted, .awaitingPhone] ""
      else if result.failureReason ≠ "" then .completing claim [.failed] result.failureReason
      else .completing claim [.uncertain] "provider_response_ambiguous"

/-- The next stage after the answer of the store, and what `DispatchLane` returns. -/
def follow (o : Occasion) (answer : Except Err Reply) : Stage → Stage × Option (Bool × Option Err)
  | .idle =>
    if o.connectionId = "" ∨ o.orderingKey = "" then
      (.idle, some (false, some Sentinel.invalidRoute.err))
    else match answer with
      | .ok (.claimed (some claim)) => (.claimed claim, none)
      | .ok _ => (.idle, some (false, none))
      | .error e => (.idle, some (false, some e))
  | .claimed claim =>
    match answer with
    | .ok (.answered true) => (.sending claim false, none)
    | .ok _ => (.releasing claim none, none)
    | .error e => (.releasing claim (some e), none)
  | .releasing _ err =>
    let releaseErr := match answer with
      | .ok _ => Sentinel.dispatchFenceLost.err
      | .error e => e
    (.idle, some (true, some (err.getD releaseErr)))
  | .sending claim lost =>
    match o.returned, answer with
    | some (result, late), _ => (report claim (lost || late) result, none)
    | none, .ok (.answered true) => (.sending claim lost, none)
    | none, _ => (.sending claim true, none)
  | .completing .. =>
    match answer with
    | .ok _ => (.idle, some (true, none))
    | .error e => (.idle, some (true, some e))

/-- The message that `SendOnce` is called for. -/
def sentBy (answer : Except Err Reply) : Stage → Option String
  | .claimed claim =>
    match answer with
    | .ok (.answered true) => some claim.message.id
    | _ => none
  | _ => none

structure Dispatchers where
  db : Database
  stages : Nat → Stage := fun _ => .idle

inductive DispatchInput
  | gateway (call : Call)
  | dispatcher (i : Nat) (o : Occasion)

structure DispatchOutput where
  call : Option (Call × Reply)
  sent : Option String := none
  returned : Option (Bool × Option Err) := none

/-- The call that reaches the store. -/
def callOf (owner : Nat → String) : DispatchInput → Dispatchers → Option Call
  | .gateway call, _ => some call
  | .dispatcher i o, w =>
    match o.transport with
    | .failed _ => none
    | _ => (operation (owner i) o (w.stages i)).map (o.now, ·)

def Transport.answer : Transport → Option Reply → Except Err Reply
  | .heard, some (.failed e) | .failed e, _ | .lost e, _ => .error e
  | .heard, some reply => .ok reply
  | .heard, none => .error ⟨"no call", []⟩

def dispatchStep (rt : Runtime) (owner : Nat → String) (input : DispatchInput) (w : Dispatchers) :
    DispatchOutput × Dispatchers :=
  let called := (callOf owner input w).map fun call => (call, Gateway.step rt call w.db)
  let observed := called.map fun c => (c.1, c.2.1)
  -- what was committed stays, whether or not its reply is heard
  let db := (called.map fun c => c.2.2).getD w.db
  match input with
  | .gateway _ => ({ call := observed }, { w with db := db })
  | .dispatcher i o =>
    let answer := o.transport.answer (observed.map Prod.snd)
    let next := follow o answer (w.stages i)
    ({ call := observed, sent := sentBy answer (w.stages i), returned := next.2 },
      { db := db, stages := Function.update w.stages i next.1 })

def Lawful (owner : Nat → String) (w : Dispatchers) (input : DispatchInput) : Prop :=
  ∀ call ∈ callOf owner input w, Allowed w.db call

def calls (trace : List (DispatchInput × DispatchOutput)) : List (Call × Reply) :=
  trace.filterMap (·.2.call)

/-- The messages that `SendOnce` was called for, in order. -/
def sends (trace : List (DispatchInput × DispatchOutput)) : List String :=
  trace.filterMap (·.2.sent)

variable {rt : Runtime} {owner : Nat → String} {w : Dispatchers}
  {trace : List (DispatchInput × DispatchOutput)}

/-- The store sees a run of calls. -/
theorem calls_run {db₀ : Database}
    (hrun : Run (dispatchStep rt owner) (Lawful owner) { db := db₀ } trace w) :
    Run (Gateway.step rt) Allowed db₀ (calls trace) w.db := by
  refine hrun.invariant_trace (P := fun trace w =>
    Run (Gateway.step rt) Allowed db₀ (calls trace) w.db) (fun trace w input hlawful h => ?_) .nil
  cases hcall : callOf owner input w with
  | none => cases input <;> simpa [calls, dispatchStep, hcall] using h
  | some call =>
    have hsnoc := h.snoc (hlawful call hcall)
    cases input <;> simpa [calls, dispatchStep, hcall] using hsnoc

theorem Transport.answer_ok {transport : Transport} {observed : Option Reply} {reply : Reply}
    (h : transport.answer observed = .ok reply) : transport = .heard ∧ observed = some reply := by
  revert h
  fun_cases Transport.answer transport observed <;> simp

theorem sentBy_eq_some {answer : Except Err Reply} {stage : Stage} {m : String}
    (h : sentBy answer stage = some m) :
    ∃ claim, stage = .claimed claim ∧ answer = .ok (.answered true) ∧ claim.message.id = m := by
  revert h
  fun_cases sentBy answer stage <;> simp

/-- Who calls `SendOnce` has just been permitted to. -/
theorem sent_step {input : DispatchInput} {m : String}
    (h : (dispatchStep rt owner input w).1.sent = some m) :
    ∃ observation, (dispatchStep rt owner input w).1.call = some observation ∧
      begunBy observation.1.2 observation.2 = some m := by
  cases input with
  | gateway call => cases h
  | dispatcher i o =>
    obtain ⟨claim, hstage, hanswer, rfl⟩ := sentBy_eq_some h
    obtain ⟨hheard, hreply⟩ := Transport.answer_ok hanswer
    simp only [callOf, hheard, hstage, operation, Option.map_some, Option.some.injEq] at hreply
    simp [dispatchStep, callOf, hheard, hstage, operation, begunBy, hreply]

theorem sends_sublist {s : Dispatchers}
    (hrun : Run (dispatchStep rt owner) (Lawful owner) s trace w) :
    (sends trace).Sublist (begun (calls trace)) := by
  refine hrun.invariant_trace (P := fun trace _ => (sends trace).Sublist (begun (calls trace)))
    (fun trace w input _ h => ?_) .slnil
  cases hsent : (dispatchStep rt owner input w).1.sent with
  | none =>
    simp only [sends, calls, begun, List.filterMap_append, List.filterMap_cons, hsent,
      List.filterMap_nil, List.append_nil]
    exact h.trans (List.sublist_append_left _ _)
  | some m =>
    obtain ⟨observation, hcall, hbegun⟩ := sent_step hsent
    simp only [sends, calls, begun, List.filterMap_append, List.filterMap_cons, hsent,
      hcall, hbegun,
      List.filterMap_nil]
    exact h.append (.refl _)

/-- However many dispatchers there are and whatever they meet, `SendOnce` is called at
most once for a message, and a message it was called for is never queued again. -/
theorem dispatchers_send_once {db₀ : Database} (hfresh : Fresh db₀)
    (hrun : Run (dispatchStep rt owner) (Lawful owner) { db := db₀ } trace w) :
    (sends trace).Nodup ∧ ∀ m ∈ sends trace, ∀ row ∈ w.db.content.messages,
      row.messageId = m → row.currentState ≠ .queued := by
  have hinv : SentOnce (calls trace) w.db :=
    (calls_run hrun).invariant_trace (fun _ _ _ hallowed h => h.step hallowed)
      ⟨fresh_consistent hfresh, by simp [begun], by simp [begun]⟩
  refine ⟨hinv.nodup.sublist (sends_sublist hrun), ?_⟩
  rintro m hmem row hrow rfl hqueued
  refine (hinv.sent _ ((sends_sublist hrun).subset hmem)).not_queued hinv.consistent ?_
  simp [Machine.stateOf, abs_message_of_find? (Table.find?_of_mem hrow), viewMessage, hqueued]

instance (w : Dispatchers) (input : DispatchInput) : Decidable (Lawful owner w input) :=
  inferInstanceAs (Decidable (∀ call ∈ callOf owner input w, Allowed w.db call))

def occasion (suffix : String) (now : Time) : Occasion where
  now := now
  connectionId := "phone"
  orderingKey := "new:+14155550100"
  claimIds := claimIds suffix
  statusIds := statusIds

/-- Two dispatchers share an owner; the second one finds the lane claimed. -/
def twoDispatchers : List DispatchInput :=
  [.gateway (createCall "m1" 1), .gateway (leaseCall 2), .dispatcher 0 (occasion "1" 3),
    .dispatcher 1 (occasion "2" 4), .dispatcher 0 (occasion "1" 5),
    .dispatcher 0 { occasion "1" 6 with returned := some (.ok { accepted := true }, false) },
    .dispatcher 0 (occasion "1" 7)]

theorem twoDispatchers_send_once :
    sends (execute (dispatchStep phoneRuntime fun _ => "worker") twoDispatchers
        { db := phoneDatabase }).1 = ["m1"] ∧
      (sends (execute (dispatchStep phoneRuntime fun _ => "worker") twoDispatchers
        { db := phoneDatabase }).1).Nodup :=
  ⟨by decide +kernel, (dispatchers_send_once phoneDatabase_fresh
    (Run.of_inputs twoDispatchers (by decide +kernel))).1⟩

end MessagingGateway.Dispatch
