import MessagingGateway.Dispatch.Runs

/-!
# What the dispatch store guarantees

The invariants of the dispatch machine, carried along every run of the gateway:
a message is sent at most once, states are derived from the audit history but for two
kinds of messages, lanes are exclusive while the calls avoid what breaks it, and the
messages of a lane are sent in the order they were created unless a lock hides one.
-/

namespace MessagingGateway.Dispatch

open Relational Domain Store Ingress Gateway

variable {rt : Runtime} {db db₀ : Database} {call : Call} {trace : List (Call × Reply)}

/-! ### Invariants of the machine along a run -/

/-- An invariant of the machine is kept by a call if it is kept by the steps
whose labels the call explains. -/
theorem step_preserves {P : Tables → Prop} {Q : Tables → Label String LaneKey → Prop}
    (hcons : ∀ {s}, P s → Consistent s)
    (rule : ∀ {s label s'}, Step s label s' → P s → Q s label → P s')
    (hsilent : ∀ s, Q s .silent) (hallowed : Allowed db call)
    (hexplains : ∀ label, Explains call.1 call.2 db label → Q (abs db) label)
    (h : P (abs db)) : P (abs (step rt call db).2) := by
  refine step_rule rt call db (fun _ _ => h) fun reply db' hperform => ?_
  cases perform_effect hperform (hcons h) hallowed with
  | step hstep hexplained => exact rule hstep h (hexplains _ hexplained)
  | observed hpath => exact hpath.invariant (fun hstep hs => rule hstep hs (hsilent _)) h

theorem fresh_consistent (h : Fresh db) : Consistent (abs db) := by
  have hmessage : ∀ m, (abs db).message m = none := fun m => by simp [abs, h.messages]
  have hlane : ∀ l, (abs db).lane l = ⟨0, none⟩ := fun l => by simp [abs, h.lanes, viewLane]
  have hattempt : ∀ a, (abs db).attempt a = none := fun a => by simp [abs, h.attempts]
  constructor <;> simp [hmessage, hlane, hattempt]

theorem step_consistent (hallowed : Allowed db call) (h : Consistent (abs db)) :
    Consistent (abs (step rt call db).2) :=
  step_preserves (P := Consistent) (Q := fun _ _ => True) id
    (fun hstep hs _ => hstep.consistent hs) (fun _ => trivial) hallowed (fun _ _ => trivial) h

/-! ### Sends -/

theorem step_sends (rt : Runtime) (hallowed : Allowed db call) (hs : Consistent (abs db)) :
    (∀ m, (abs db).Sent m → (abs (step rt call db).2).Sent m) ∧
      ∀ m, begunBy call.2 (step rt call db).1 = some m →
        Step (abs db) (.begin m) (abs (step rt call db).2) := by
  refine step_rule rt call db (fun e _ => ⟨fun m h => h, fun m h => ?_⟩) fun reply db' hperform =>
    ?_
  · cases hop : call.2 <;> simp [hop, begunBy] at h
  · cases perform_effect hperform hs hallowed with
    | @step label hstep _ hsends =>
      refine ⟨fun m h => hstep.sent h, fun m h => ?_⟩
      rw [hsends] at h
      cases label <;> simp only [Label.sends, Option.some.injEq, reduceCtorEq] at h
      exact h ▸ hstep
    | observed hpath hsends =>
      refine ⟨fun m h => ?_, fun m h => ?_⟩
      · exact hpath.invariant (P := fun s => s.Sent m) (fun hstep hsent => hstep.sent hsent) h
      · simp [hsends] at h

theorem begun_snoc (trace : List (Call × Reply)) (call : Call) (reply : Reply) :
    begun (trace ++ [(call, reply)]) = begun trace ++ (begunBy call.2 reply).toList := by
  simp only [begun, List.filterMap_append]
  cases h : begunBy call.2 reply <;> simp [h]

structure SentOnce (trace : List (Call × Reply)) (db : Database) : Prop where
  consistent : Consistent (abs db)
  nodup : (begun trace).Nodup
  sent : ∀ m ∈ begun trace, (abs db).Sent m

theorem SentOnce.step (hallowed : Allowed db call) (h : SentOnce trace db) :
    SentOnce (trace ++ [(call, (Gateway.step rt call db).1)]) (Gateway.step rt call db).2 := by
  obtain ⟨hkeep, hsend⟩ := step_sends rt hallowed h.consistent
  refine ⟨step_consistent hallowed h.consistent, ?_, ?_⟩
  · rw [begun_snoc]
    cases hbegun : begunBy call.2 (Gateway.step rt call db).1 with
    | none => simpa using h.nodup
    | some m =>
      have hfresh := ((hsend m hbegun).begin_sends h.consistent).1
      rw [Option.toList_some, ← List.concat_eq_append]
      exact h.nodup.concat fun hmem => hfresh (h.sent m hmem)
  · rw [begun_snoc]
    intro m hmem
    rcases List.mem_append.1 hmem with hmem | hmem
    · exact hkeep m (h.sent m hmem)
    · simp only [Option.mem_toList] at hmem
      exact ((hsend m hmem).begin_sends h.consistent).2

/-- Provider I/O is permitted at most once for a message, and a message for
which it was permitted is never queued again. -/
theorem provider_send_at_most_once
    (hfresh : Fresh db₀) (hrun : Run (Gateway.step rt) Allowed db₀ trace db) :
    (begun trace).Nodup ∧ ∀ m ∈ begun trace, ∀ row ∈ db.content.messages,
      row.messageId = m → row.currentState ≠ .queued := by
  have hinv : SentOnce trace db :=
    hrun.invariant_trace (fun _ _ _ hallowed h => h.step hallowed)
      ⟨fresh_consistent hfresh, by simp [begun], by simp [begun]⟩
  refine ⟨hinv.nodup, ?_⟩
  rintro m hmem row hrow rfl hqueued
  refine (hinv.sent _ hmem).not_queued hinv.consistent ?_
  simp [Machine.stateOf, abs_message_of_find? (Table.find?_of_mem hrow), viewMessage, hqueued]

/-! ### A tenant with one phone -/

def phoneRuntime : Runtime where
  sha256 bytes :=
    let code := bytes.foldl (fun acc b => (acc * 257 + b.toNat + 1) % 2 ^ 256) 0
    (List.range 32).map fun i => UInt8.ofNat (code / 256 ^ i)
  sha256_length bytes := by simp
  jsonSize _ := 0
  cursorUnmarshal bytes := some ⟨"", bytes.length⟩
  cursorMarshal _ := []

def phoneDatabase : Database where
  tenantId := "tenant"
  fleet := { connections := .single (.connected "phone") }

def helloCommand (id : String) (createdAt : Time) : CreateOutbound where
  idempotencyKey := id
  requestDigest := List.replicate 32 0
  message :=
    { id := id
      connectionId := "phone"
      recipient := "+14155550100"
      text := "hello"
      providerTmpId := "tmp-" ++ id
      state := .queued
      createdAt := createdAt }

def helloClaim (id attemptId : String) (createdAt laneToken : Nat) : DispatchClaim where
  message := { (helloCommand id createdAt).message with state := .dispatching }
  orderingKey := "new:+14155550100"
  ownerId := "worker"
  attemptId := attemptId
  laneToken := laneToken
  fencingToken := 1

def claimIds (suffix : String) : ClaimIds where
  attemptId := "attempt-" ++ suffix
  statusId := "dispatching-" ++ suffix
  recoveryStatusId := "recovered-" ++ suffix
  recoveryEventId := "recovery-" ++ suffix
  recoveryWebhookOutboxId := "recovery-webhook-" ++ suffix
  recoveryKafkaOutboxId := "recovery-kafka-" ++ suffix

def createCall (id : String) (now : Time) : Call :=
  (now, .createOutbound ⟨"queued-" ++ id, "event-" ++ id, "outbox-" ++ id, "command-" ++ id⟩
    (helloCommand id now))

def leaseCall (now : Time) : Call := (now, .acquireConnectionLease "phone" "worker" 600000000)

def claimCall (suffix : String) (now : Time) : Call :=
  (now, .claimNext (claimIds suffix) [] "phone" "new:+14155550100" "worker")

def beginCall (id attemptId : String) (createdAt laneToken : Nat) (now : Time) : Call :=
  (now, .beginProviderIo (helloClaim id attemptId createdAt laneToken) "worker")

/-- A message is created, claimed and sent, and a second permission is asked for. -/
def sendTwice : List Call :=
  [createCall "m1" 1, leaseCall 2, claimCall "1" 3, beginCall "m1" "attempt-1" 1 1 4,
    beginCall "m1" "attempt-1" 1 1 5]

def receipt (tmpId : String) (state : Option MessageState) : Envelope where
  connectionId := "phone"
  ownerId := "worker"
  fencingToken := 1
  providerResponseId := "response-" ++ tmpId
  raw := [1]
  projection := { messages := [
    { providerMessageId := "provider-" ++ tmpId
      providerTmpId := tmpId
      conversationId := "conversation"
      direction := some .outbound
      provenance := some .live
      recipients := ["+14155550100"]
      text := "hello"
      state := state }] }

def commitIds : CommitIds where
  inboxId := "inbox"
  conflictId := "conflict"
  poisonOutboxId := "poison"
  message index :=
    ⟨"message-" ++ toString index, "receipt-" ++ toString index, "transition-" ++ toString index⟩
  media index := ⟨"media-" ++ toString index, "job-" ++ toString index⟩
  eventOutboxId index := "ingress-" ++ toString index

def receiptCall (tmpId : String) (state : Option MessageState) (now : Time) : Call :=
  (now, .commitEnvelope commitIds ((receipt tmpId state).record phoneRuntime "tenant" now))

theorem phoneDatabase_fresh : Fresh phoneDatabase := ⟨rfl, rfl, rfl⟩

theorem sendTwice_sends_once :
    begun (execute (Gateway.step phoneRuntime) sendTwice phoneDatabase).1 = ["m1"] ∧
      (begun (execute (Gateway.step phoneRuntime) sendTwice phoneDatabase).1).Nodup :=
  ⟨by decide +kernel, (provider_send_at_most_once phoneDatabase_fresh
    (Run.of_inputs _ (by decide +kernel))).1⟩

/-! ### Exclusive lanes -/

/-- Every open attempt is for the message and the token its lane claims, and a
lane has at most one. -/
structure LaneExclusive (db : Database) : Prop where
  claimed : ∀ attempt ∈ db.dispatch.attempts, attempt.isOpen = true →
    ∃ lane ∈ db.dispatch.lanes, lane.key = attempt.laneKey ∧
      lane.claimedMessageId = some attempt.messageId ∧ lane.laneToken = attempt.laneToken
  unique : ∀ a ∈ db.dispatch.attempts, ∀ b ∈ db.dispatch.attempts, a.isOpen = true →
    b.isOpen = true → a.laneKey = b.laneKey → a = b

instance (db : Database) : Decidable (LaneExclusive db) :=
  decidable_of_iff (_ ∧ _) ⟨fun h => ⟨h.1, h.2⟩, fun h => ⟨h.claimed, h.unique⟩⟩

theorem laneExclusive_iff (hs : Consistent (abs db)) : LaneExclusive db ↔ Exclusive (abs db) := by
  constructor
  · intro h a att ha hphase
    obtain ⟨row, hrow, rfl⟩ := Option.map_eq_some_iff.1 ha
    obtain ⟨lane, hlane, hkey, hclaim, htoken⟩ :=
      h.claimed row (Table.mem_of_find? hrow) (isOpen_of_viewPhase hphase)
    have hfind : db.dispatch.lanes.find? row.laneKey = some lane := hkey ▸ Table.find?_of_mem hlane
    refine ⟨ha, ?_, ?_⟩
    · exact congrArg Lane.claim (abs_lane_of_find? hfind) |>.trans hclaim
    · exact congrArg Lane.token (abs_lane_of_find? hfind) |>.trans htoken
  · intro h
    refine ⟨fun attempt hmem hopen => ?_, fun a ha b hb haopen hbopen hlane => ?_⟩
    · have hold := h attempt.attemptId _ (abs_attempt_of_find? (Table.find?_of_mem hmem))
        (viewPhase_ne_complete hopen)
      have hclaim : ((abs db).lane attempt.laneKey).claim = some attempt.messageId := hold.claim
      have htoken : ((abs db).lane attempt.laneKey).token = attempt.laneToken := hold.token
      cases hfind : db.dispatch.lanes.find? attempt.laneKey with
      | none => simp [abs, hfind, viewLane] at hclaim
      | some lane =>
        rw [abs_lane_of_find? hfind] at hclaim htoken
        exact ⟨lane, Table.mem_of_find? hfind, Table.key_of_find? hfind, hclaim, htoken⟩
    · refine Table.eq_of_key_eq ha hb (h.unique hs
        (abs_attempt_of_find? (Table.find?_of_mem ha))
          (abs_attempt_of_find? (Table.find?_of_mem hb))
        hlane (viewPhase_ne_complete haopen) (viewPhase_ne_complete hbopen))

theorem fresh_exclusive (h : Fresh db) : Exclusive (abs db) := by
  intro a att ha
  simp [abs, h.attempts] at ha

theorem step_exclusive (hallowed : Allowed db call) (hsettles : settles call.1 call.2 db = true)
    (h : Consistent (abs db) ∧ Exclusive (abs db)) :
    Consistent (abs (Gateway.step rt call db).2) ∧ Exclusive (abs (Gateway.step rt call db).2) := by
  refine step_preserves (P := fun s => Consistent s ∧ Exclusive s)
    (Q := fun _ label => ∀ l, label ≠ .abandon l) And.left
    (fun hstep hs hlabel => ⟨hstep.consistent hs.1, hstep.exclusive hs.1 hs.2 hlabel⟩) (by simp)
    hallowed ?_ h
  rintro label hexplained l rfl
  simp [Explains, hsettles] at hexplained

/-- Taking a lane over from a message that is not dispatching leaves the attempt
open on a released lane. -/
theorem takeover_breaks_exclusive (h : settles call.1 call.2 db = false) :
    ¬ LaneExclusive (Gateway.step rt call db).2 := by
  obtain ⟨now, op⟩ := call
  cases op <;> simp only [settles, reduceCtorEq] at h
  case claimNext ids locked connectionId orderingKey ownerId =>
    cases htaken : takenOver now connectionId orderingKey ownerId db with
    | none => simp [htaken] at h
    | some attempt =>
      rw [htaken, Option.all_some] at h
      obtain ⟨hvalid, lease, lane, hlease, hlane, hattempt⟩ := takenOver_eq_some.1 htaken
      have hlocked : (db.content.messages.find? attempt.messageId).filter
          (fun r => r.currentState == .dispatching) = none := by
        cases hmessage : db.content.messages.find? attempt.messageId with
        | none => rfl
        | some message => simpa [hmessage] using h
      have hstep : Gateway.step rt (now, .claimNext ids locked connectionId orderingKey ownerId)
        db =
          (.claimed none, db.releaseLane connectionId orderingKey) := by
        simp [Gateway.step, outcome, perform, claimNext, hvalid, hlease, hlane, hattempt,
          settleCrash,
          hlocked, require, replying, bind, Except.bind, pure, Except.pure, Except.map]
      rw [hstep]
      intro hex
      obtain ⟨hmem, hkey, -, -, hopen⟩ := mem_openAttempts hattempt
      obtain ⟨lane', hlane', hkey', hclaim, -⟩ := hex.claimed attempt hmem hopen
      rw [hkey, Table.key_of_find? (lockedLane_find? hlane)] at hkey'
      simp [releaseLane_unclaimed hlane' hkey'] at hclaim

/-- In a run whose takeovers all find the message dispatching, lanes are
exclusive; and a takeover that does not breaks exclusivity at once. -/
theorem lanes_exclusive_iff_takeovers_settle (hfresh : Fresh db₀)
    (hrun : Run (Gateway.step rt) (fun db call => Allowed db call ∧ settles call.1 call.2 db = true)
      db₀ trace db) :
    LaneExclusive db ∧ ∀ call, Allowed db call →
      (LaneExclusive (Gateway.step rt call db).2 ↔ settles call.1 call.2 db = true) := by
  have hinv : Consistent (abs db) ∧ Exclusive (abs db) :=
    hrun.invariant (P := fun db => Consistent (abs db) ∧ Exclusive (abs db))
      (fun _ _ hcall h => step_exclusive hcall.1 hcall.2 h)
      ⟨fresh_consistent hfresh, fresh_exclusive hfresh⟩
  refine ⟨(laneExclusive_iff hinv.1).2 hinv.2, fun call hallowed => ⟨fun hex => ?_, fun h => ?_⟩⟩
  · by_contra hsettles
    exact takeover_breaks_exclusive (by simpa using hsettles) hex
  · obtain ⟨hs, hex⟩ := step_exclusive hallowed h hinv
    exact (laneExclusive_iff hs).2 hex

/-- The phone is taken over while its message is still dispatching: the attempt is
settled, and lanes stay exclusive. -/
def takeover : List Call :=
  [createCall "m1" 1, leaseCall 2, claimCall "1" 3, beginCall "m1" "attempt-1" 1 1 4,
    claimCall "2" 30000010]

theorem takeover_lanes_exclusive :
    LaneExclusive (execute (Gateway.step phoneRuntime) takeover phoneDatabase).2 :=
  (lanes_exclusive_iff_takeovers_settle phoneDatabase_fresh
    (Run.of_inputs _ (by decide +kernel))).1

/-- An echo arrives before the claim expires: the takeover releases the lane and
leaves the attempt open, and the next claim opens a second one. -/
def echoedTakeover : List Call :=
  [createCall "m1" 1, createCall "m2" 2, leaseCall 3, claimCall "1" 4,
    beginCall "m1" "attempt-1" 1 1 5, receiptCall "tmp-m1" (some .sent) 6, claimCall "2" 30000010,
    claimCall "3" 30000011]

theorem echoedTakeover_opens_two_attempts : ∃ trace db,
    Run (Gateway.step phoneRuntime) Allowed phoneDatabase trace db ∧ ¬ LaneExclusive db ∧
      (db.dispatch.attempts.select fun r =>
        r.laneKey == ("phone", "new:+14155550100") && r.isOpen).length = 2 :=
  ⟨_, _, Run.of_inputs echoedTakeover (by decide +kernel), by decide +kernel,
    by decide +kernel⟩

/-! ### States derived from the audit history -/

/-- The claim of a message was taken back, and nothing was recorded since: it is queued,
but its history folds to `dispatching`. -/
def PutBack (row : MessageRow) (db : Database) : Prop :=
  row.currentState = .queued ∧ (messageHistory db row.messageId).getLast? = some .queued ∧
    deriveMessageState (messageHistory db row.messageId) = some .dispatching

/-- A state is the fold of the history of its message; but a message that no status was
recorded for is uncertain, and a message may have been put back. -/
def AuditDerived (db : Database) : Prop :=
  ∀ row ∈ db.content.messages,
    (messageHistory db row.messageId = [] ∧ row.currentState = .uncertain) ∨
      deriveMessageState (messageHistory db row.messageId) = some row.currentState ∨
        PutBack row db

theorem run_tracked (hfresh : Fresh db₀)
    (hrun : Run (step rt) Allowed db₀ trace db) : Tracked (abs db) := by
  have hinv : Consistent (abs db) ∧ Tracked (abs db) := by
    refine hrun.invariant (P := fun db => Consistent (abs db) ∧ Tracked (abs db))
      (fun _ _ hallowed h => ?_) ⟨fresh_consistent hfresh, fun m μ hm => ?_⟩
    · exact step_preserves (P := fun s => Consistent s ∧ Tracked s) (Q := fun _ _ => True) And.left
        (fun hstep hs _ => ⟨hstep.consistent hs.1, hstep.tracked hs.2⟩) (fun _ => trivial) hallowed
        (fun _ _ => trivial) h
    · simp [abs, hfresh.messages] at hm
  exact hinv.2

/-- In every run states are derived from the audit history, and a receipt without a state
changes none of them, except that it turns a message that was put back to dispatching. -/
theorem states_audit_derived (hfresh : Fresh db₀)
    (hrun : Run (Gateway.step rt) Allowed db₀ trace db) :
    AuditDerived db ∧ ∀ now ids record result db',
      commitEnvelope rt now ids record db = .ok (result, db') →
      (∀ p ∈ record.projection.messages, p.state = none) →
      ∀ row ∈ db.content.messages, ∃ row' ∈ db'.content.messages, row'.messageId = row.messageId ∧
        (row'.currentState = row.currentState ∨
          PutBack row db ∧ row'.currentState = .dispatching) := by
  have htracked : ∀ row ∈ db.content.messages,
      (viewMessage row (messageHistory db row.messageId)).Tracked := fun row hrow =>
    run_tracked hfresh hrun _ _ (abs_message_of_find? (Table.find?_of_mem hrow))
  have hback : ∀ {row}, (viewMessage row (messageHistory db row.messageId)).PutBack →
      PutBack row db := fun h => ⟨h.state, h.last, h.fold⟩
  refine ⟨fun row hrow => ?_, fun now ids record result db' hcommit hstates row hrow => ?_⟩
  · cases htracked row hrow with
    | unrecorded hempty hstate => exact .inl ⟨hempty, hstate⟩
    | derived hfold => exact .inr (.inl hfold)
    | putBack h => exact .inr (.inr (hback h))
  · obtain ⟨row', hrow', hid, hstate⟩ := (commitEnvelope_stateless hcommit hstates).rows row hrow
    refine ⟨row', hrow', hid, ?_⟩
    rcases hstate with hstate | hstate
    · exact .inl hstate
    · rcases (htracked row hrow).reconciled_none with hkept | ⟨h, hfold⟩
      · exact .inl (hstate.trans hkept)
      · exact .inr ⟨hback h, hstate.trans hfold⟩

/-- The older of two messages is claimed and released again. -/
def released : List Call :=
  [createCall "m1" 1, createCall "m2" 2, leaseCall 3, claimCall "1" 4,
    (5, .releaseBeforeDispatch "requeued-1" (helloClaim "m1" "attempt-1" 1 1) "shutdown")]

/-- After the release a provider message is first seen, without a state. -/
def releasedAndSeen : List Call := released ++ [receiptCall "tmp-m3" none 6]

theorem releasedAndSeen_audit_derived :
    AuditDerived (execute (Gateway.step phoneRuntime) releasedAndSeen phoneDatabase).2 :=
  (states_audit_derived phoneDatabase_fresh (Run.of_inputs _ (by decide +kernel))).1

/-- Neither the released message nor the one that no status was recorded for is in the
state that its history folds to. -/
theorem releasedAndSeen_not_derived : ∃ trace db,
    Run (Gateway.step phoneRuntime) Allowed phoneDatabase trace db ∧
      ∀ history ∈ [[.queued, .dispatching, .queued], []], ∃ row ∈ db.content.messages,
        messageHistory db row.messageId = history ∧
          deriveMessageState history ≠ some row.currentState :=
  ⟨_, _, Run.of_inputs releasedAndSeen (by decide +kernel), by decide +kernel⟩

/-! ### Lanes in order -/

def Ordered (db : Database) (call : Call) : Prop :=
  Allowed db call ∧ CreatesInOrder call.2 db ∧ ClaimsInOrder call.2 db

instance (db : Database) (call : Call) : Decidable (Ordered db call) := by
  unfold Ordered
  infer_instance

theorem fresh_fifo (h : Fresh db) : Fifo (abs db) := by
  have hmessage : ∀ m, (abs db).message m = none := fun m => by simp [abs, h.messages]
  have hattempt : ∀ a, (abs db).attempt a = none := fun a => by simp [abs, h.attempts]
  constructor <;> simp [hmessage, hattempt]

theorem step_fifo (hcall : Ordered db call) (h : Consistent (abs db) ∧ Fifo (abs db)) :
    Consistent (abs (Gateway.step rt call db).2) ∧ Fifo (abs (Gateway.step rt call db).2) := by
  refine step_preserves (P := fun s => Consistent s ∧ Fifo s) (Q := fun s label => label.InOrder s)
    And.left (fun hstep hs hlabel => ⟨hstep.consistent hs.1, hstep.fifo hs.1 hs.2 hlabel⟩)
    (fun _ => trivial) hcall.1 (fun label hexplained => ?_) h
  cases label with
  | create l t => exact hexplained hcall.2.1
  | claim l m => exact hexplained hcall.2.2
  | _ => trivial

theorem step_before (hallowed : Allowed db call) (hs : Consistent (abs db)) {m m' : String}
    (hm : ((abs db).message m).isSome) (hm' : ((abs db).message m').isSome)
    (h : (abs db).Before m m') : (abs (Gateway.step rt call db).2).Before m m' := by
  have hkeep : _ ∧ _ ∧ _ ∧ (abs (Gateway.step rt call db).2).Before m m' := step_preserves
    (P := fun s => Consistent s ∧ (s.message m).isSome ∧ (s.message m').isSome ∧ s.Before m m')
    (Q := fun _ _ => True) And.left (fun {s label s'} hstep h _ => ?_) (fun _ => trivial) hallowed
    (fun _ _ => trivial) ⟨hs, hm, hm', h⟩
  · exact hkeep.2.2.2
  · obtain ⟨hs, hm, hm', h⟩ := h
    exact ⟨hstep.consistent hs, hstep.stored hm, hstep.stored hm', hstep.before hm hm' h⟩

structure SentInOrder (trace : List (Call × Reply)) (db : Database) : Prop where
  consistent : Consistent (abs db)
  fifo : Fifo (abs db)
  sent : ∀ m ∈ begun trace, (abs db).Sent m
  ordered : (begun trace).Pairwise (abs db).Before

theorem SentInOrder.step (hcall : Ordered db call) (h : SentInOrder trace db) :
    SentInOrder (trace ++ [(call, (Gateway.step rt call db).1)]) (Gateway.step rt call db).2 := by
  obtain ⟨hkeep, hsend⟩ := step_sends rt hcall.1 h.consistent
  have hnext : Consistent (abs (Gateway.step rt call db).2) ∧
      Fifo (abs (Gateway.step rt call db).2) := step_fifo hcall ⟨h.consistent, h.fifo⟩
  have hstored : ∀ m ∈ begun trace, ((abs db).message m).isSome := fun m hmem =>
    (h.sent m hmem).isSome h.consistent
  have hold : (begun trace).Pairwise (abs (Gateway.step rt call db).2).Before :=
    h.ordered.imp_of_mem fun hm hm' hbefore =>
      step_before hcall.1 h.consistent (hstored _ hm) (hstored _ hm') hbefore
  refine ⟨hnext.1, hnext.2, ?_, ?_⟩
  · rw [begun_snoc]
    intro m hmem
    rcases List.mem_append.1 hmem with hmem | hmem
    · exact hkeep m (h.sent m hmem)
    · simp only [Option.mem_toList] at hmem
      exact ((hsend m hmem).begin_sends h.consistent).2
  · rw [begun_snoc]
    cases hbegun : begunBy call.2 (Gateway.step rt call db).1 with
    | none => simpa using hold
    | some m =>
      have hbegin := hsend m hbegun
      rw [Option.toList_some, List.pairwise_append]
      refine ⟨hold, List.pairwise_singleton _ _, fun m' hm' m'' hm'' => ?_⟩
      rw [List.mem_singleton] at hm''
      subst hm''
      refine step_before hcall.1 h.consistent (hstored m' hm') ?_
        (hbegin.begin_after h.consistent h.fifo (h.sent m' hm'))
      obtain ⟨l, a, att, hheld, -, rfl, -⟩ := hbegin.begin_inv
      have hlane := h.consistent.attempt_message a att hheld.attempt
      cases hm : (abs db).message att.message with
      | none => simp [Machine.laneOf, hm] at hlane
      | some μ => rfl

/-- Messages of a lane that are created in order are sent in order, as long as no claim
skips a message that is locked for a younger one. -/
theorem lanes_send_in_order (hfresh : Fresh db₀)
    (hrun : Run (Gateway.step rt) Ordered db₀ trace db) :
    (begun trace).Pairwise fun m m' => ∀ row ∈ db.content.messages, ∀ row' ∈ db.content.messages,
      row.messageId = m → row'.messageId = m' → row.connectionId = row'.connectionId →
      row.orderingKey = row'.orderingKey →
      toLex (row.createdAt, row.messageId) < toLex (row'.createdAt, row'.messageId) := by
  have hinv : SentInOrder trace db :=
    hrun.invariant_trace (fun _ _ _ hcall h => h.step hcall)
      ⟨fresh_consistent hfresh, fresh_fifo hfresh, by simp [begun], by simp [begun]⟩
  refine hinv.ordered.imp fun {m m'} hbefore => ?_
  rintro row hrow row' hrow' rfl rfl hconnection hkey
  have hlt := hbefore _ _ (abs_message_of_find? (Table.find?_of_mem hrow))
    (abs_message_of_find? (Table.find?_of_mem hrow')) (Prod.ext hconnection hkey)
  exact Prod.Lex.toLex_lt_toLex.2 (.inl hlt)

def completeCall (id attemptId : String) (createdAt laneToken : Nat) (now : Time) : Call :=
  (now, .completeDispatch (fun _ => ⟨"accepted-" ++ id, "accepted-" ++ id, "accepted-" ++ id, now⟩)
    (helloClaim id attemptId createdAt laneToken) [.providerAccepted] "")

/-- The released message is claimed again and sent; the younger one follows when the lane
is free. -/
def sendBoth : List Call :=
  released ++ [claimCall "2" 6, beginCall "m1" "attempt-2" 1 2 7,
    completeCall "m1" "attempt-2" 1 2 8,
    claimCall "3" 9, beginCall "m2" "attempt-3" 2 3 10]

theorem sendBoth_in_order :
    begun (execute (Gateway.step phoneRuntime) sendBoth phoneDatabase).1 = ["m1", "m2"] ∧
      toLex ((1 : Time), "m1") < toLex (2, "m2") := by
  have hbegun : begun (execute (Gateway.step phoneRuntime) sendBoth phoneDatabase).1 =
      ["m1", "m2"] := by decide +kernel
  have hordered := lanes_send_in_order phoneDatabase_fresh
    (Run.of_inputs sendBoth (by decide +kernel) : Run (Gateway.step phoneRuntime) Ordered _ _ _)
  rw [hbegun] at hordered
  refine ⟨hbegun, ?_⟩
  have hrows : ∃ row ∈ (execute (Gateway.step phoneRuntime) sendBoth
      phoneDatabase).2.content.messages, ∃ row' ∈ (execute (Gateway.step phoneRuntime) sendBoth
      phoneDatabase).2.content.messages, row.messageId = "m1" ∧ row'.messageId = "m2" ∧
      row.connectionId = row'.connectionId ∧ row.orderingKey = row'.orderingKey ∧
      row.createdAt = 1 ∧ row'.createdAt = 2 := by decide +kernel
  obtain ⟨row, hrow, row', hrow', hid, hid', hconnection, hkey, hcreated, hcreated'⟩ := hrows
  have hlt := List.rel_of_pairwise_cons hordered (List.mem_singleton_self "m2") row hrow row' hrow'
    hid hid' hconnection hkey
  rwa [hid, hid', hcreated, hcreated'] at hlt

/-- `m1` is submitted again by a command. The transaction that finds the duplicate inserts
into `kafka_commands` and so holds a key share lock on the row of `m1`; the claim made
meanwhile skips `m1`, and the younger `m2` is sent first. -/
def lockedOut : List Call :=
  [createCall "m1" 1, createCall "m2" 2, leaseCall 3,
    (4, .claimNext (claimIds "1") ["m1"] "phone" "new:+14155550100" "worker"),
    (5, .createOutbound ⟨"again", "again", "again", "again"⟩ { helloCommand "m3" 5 with
      idempotencyKey := "m1"
      commandAudit := some ⟨"commands", 0, 7, "producer", "correlation", List.replicate 32 0⟩ }),
    beginCall "m2" "attempt-1" 2 1 6, completeCall "m2" "attempt-1" 2 1 7, claimCall "2" 8,
    beginCall "m1" "attempt-2" 1 2 9]

theorem lockedOut_overtaken : ∃ trace db,
    Run (Gateway.step phoneRuntime) (fun db call => Allowed db call ∧ CreatesInOrder call.2 db)
      phoneDatabase trace db ∧
    begun trace = ["m2", "m1"] ∧ ∃ row ∈ db.content.messages, ∃ row' ∈ db.content.messages,
      row.messageId = "m2" ∧ row'.messageId = "m1" ∧ row.connectionId = row'.connectionId ∧
      row.orderingKey = row'.orderingKey ∧ row'.createdAt < row.createdAt :=
  ⟨_, _, Run.of_inputs lockedOut (by decide +kernel), by decide +kernel, by decide +kernel⟩

/-! ### Runs as paths of the machine -/

/-- A path of the machine, with the messages it sends. -/
inductive Path (s : Tables) : List String → Tables → Prop
  | nil : Path s [] s
  | step {sent : List String} {label : Label String LaneKey} {s' s'' : Tables} :
      Path s sent s' → Step s' label s'' → Path s (sent ++ label.sends.toList) s''

theorem Path.observe {s s' s'' : Tables} {sent : List String} (h : Path s sent s')
    (hpath : Observations s' s'') : Path s sent s'' := by
  induction hpath with
  | refl => exact h
  | tail _ hstep ih => simpa [Label.sends] using ih.step hstep

theorem Path.gatewayStep {s : Tables} {sent : List String} (h : Path s sent (abs db)) (rt : Runtime)
    (hallowed : Allowed db call) (hs : Consistent (abs db)) :
    Path s (sent ++ (begunBy call.2 (Gateway.step rt call db).1).toList)
      (abs (Gateway.step rt call db).2) := by
  refine step_rule rt call db (fun e _ => ?_) fun reply db' hperform => ?_
  · cases hop : call.2 <;> simpa [begunBy] using h
  · cases perform_effect hperform hs hallowed with
    | step hstep _ hsends =>
      rw [hsends]
      exact h.step hstep
    | observed hpath hsends => simpa [hsends] using h.observe hpath

/-- Every run of the gateway is a path of the dispatch machine that sends the same
messages in the same order. -/
theorem runs_follow_machine (hfresh : Fresh db₀)
    (hrun : Run (Gateway.step rt) Allowed db₀ trace db) :
    Path (abs db₀) (begun trace) (abs db) := by
  refine (hrun.invariant_trace (P := fun trace db => Consistent (abs db) ∧
    Path (abs db₀) (begun trace) (abs db)) ?_ ⟨fresh_consistent hfresh, .nil⟩).2
  rintro trace db call hallowed ⟨hs, hpath⟩
  rw [begun_snoc]
  exact ⟨step_consistent hallowed hs, hpath.gatewayStep rt hallowed hs⟩

theorem sendBoth_follows_machine : Path (abs phoneDatabase) ["m1", "m2"]
    (abs (execute (Gateway.step phoneRuntime) sendBoth phoneDatabase).2) := by
  have hbegun : begun (execute (Gateway.step phoneRuntime) sendBoth phoneDatabase).1 =
      ["m1", "m2"] := by decide +kernel
  exact hbegun ▸ runs_follow_machine phoneDatabase_fresh (Run.of_inputs _ (by decide +kernel))

/-! ### What later states keep -/

theorem run_consistent (hfresh : Fresh db₀)
    (hrun : Run (Gateway.step rt) Allowed db₀ trace db) : Consistent (abs db) :=
  hrun.invariant (P := fun db => Consistent (abs db)) (fun _ _ => step_consistent)
    (fresh_consistent hfresh)

theorem run_preserves {P : Tables → Prop} {db' : Database} {later : List (Call × Reply)}
    (rule : ∀ {s label s'}, Step s label s' → P s → P s') (hs : Consistent (abs db))
    (hlater : Run (Gateway.step rt) Allowed db later db') (h : P (abs db)) : P (abs db') := by
  refine (hlater.invariant (P := fun db => Consistent (abs db) ∧ P (abs db)) ?_ ⟨hs, h⟩).2
  exact fun _ _ hallowed h => step_preserves (P := fun s => Consistent s ∧ P s)
    (Q := fun _ _ => True) And.left (fun hstep h _ => ⟨hstep.consistent h.1, rule hstep h.2⟩)
    (fun _ => trivial) hallowed (fun _ _ => trivial) h

/-- No stored message is lost: in every later state it has its lane and its age, and
its audit history has only grown at the end. -/
theorem messages_kept {db' : Database} {later : List (Call × Reply)} (hfresh : Fresh db₀)
    (hrun : Run (Gateway.step rt) Allowed db₀ trace db)
    (hlater : Run (Gateway.step rt) Allowed db later db') :
    ∀ row ∈ db.content.messages, ∃ row' ∈ db'.content.messages, row'.messageId = row.messageId ∧
      row'.connectionId = row.connectionId ∧ row'.orderingKey = row.orderingKey ∧
      row'.createdAt = row.createdAt ∧
      messageHistory db row.messageId <+: messageHistory db' row.messageId := by
  intro row hrow
  obtain ⟨μ, hμ, hlane, hcreated, hhistory⟩ := run_preserves (P := fun s => ∃ μ,
      s.message row.messageId = some μ ∧ μ.lane = (row.connectionId, row.orderingKey) ∧
      μ.createdAt = row.createdAt ∧ messageHistory db row.messageId <+: μ.history)
    (fun hstep ⟨μ, hμ, hlane, hcreated, hhistory⟩ => by
      obtain ⟨μ', hμ', hlane', hcreated', hhistory'⟩ := hstep.immutable hμ
      exact ⟨μ', hμ', hlane'.trans hlane, hcreated'.trans hcreated, hhistory.trans hhistory'⟩)
    (run_consistent hfresh hrun) hlater
    ⟨_, abs_message_of_find? (Table.find?_of_mem hrow), rfl, rfl, List.prefix_refl _⟩
  obtain ⟨row', hrow', rfl⟩ := Option.map_eq_some_iff.1 hμ
  obtain ⟨hconnection, hkey⟩ := Prod.mk.inj hlane
  exact ⟨row', Table.mem_of_find? hrow', Table.key_of_find? hrow', hconnection, hkey, hcreated,
    hhistory⟩

theorem takeover_keeps_message : ∃ row ∈ (execute (Gateway.step phoneRuntime) (takeover.drop 4)
    (execute (Gateway.step phoneRuntime) (takeover.take 4) phoneDatabase).2).2.content.messages,
    row.messageId = "m1" := by
  obtain ⟨row, hrow, hid⟩ : ∃ row ∈ (execute (Gateway.step phoneRuntime) (takeover.take 4)
    phoneDatabase).2.content.messages, row.messageId = "m1" := by decide +kernel
  obtain ⟨row', hrow', hkept, -⟩ := messages_kept phoneDatabase_fresh
    (.of_inputs _ (by decide +kernel)) (.of_inputs (takeover.drop 4) (by decide +kernel)) row hrow
  exact ⟨row', hrow', hkept.trans hid⟩

theorem Step.token_le {s s' : Tables} {label : Label String LaneKey} (h : Step s label s')
    (l : LaneKey) : (s.lane l).token ≤ (s'.lane l).token := by
  cases h with
  | claim | recover | abandon | finish | requeue =>
    simp only [Machine.setMessage_lane, Machine.setAttempt_lane, Machine.setLane_lane,
      Machine.freeLane_lane]
    split <;> simp [*]
  | _ => simp

/-- How the claims, the attempts and the tokens of the lanes fit together, also after a
takeover that leaves an attempt open. -/
structure LanesFenced (db : Database) : Prop where
  /-- a claim is for a message of its lane, under an open attempt with its token -/
  claimed : ∀ lane ∈ db.dispatch.lanes, ∀ m, lane.claimedMessageId = some m →
    (∃ row ∈ db.content.messages, row.messageId = m ∧
      (row.connectionId, row.orderingKey) = lane.key) ∧
    ∃ attempt ∈ db.dispatch.attempts, attempt.laneKey = lane.key ∧ attempt.messageId = m ∧
      attempt.laneToken = lane.laneToken ∧ attempt.isOpen = true
  issued : ∀ attempt ∈ db.dispatch.attempts, ∀ lane ∈ db.dispatch.lanes,
    lane.key = attempt.laneKey → attempt.laneToken ≤ lane.laneToken
  distinct : ∀ a ∈ db.dispatch.attempts, ∀ b ∈ db.dispatch.attempts, a.laneKey = b.laneKey →
    a.laneToken = b.laneToken → a = b

theorem Consistent.lanesFenced (hs : Consistent (abs db)) : LanesFenced db where
  claimed lane hlane m hm := by
    have hview := abs_lane_of_find? (Table.find?_of_mem hlane)
    have hclaim : ((abs db).lane lane.key).claim = some m := by rw [hview, hm]
    obtain ⟨μ, hμ, hkey⟩ := Option.map_eq_some_iff.1 (hs.claim_message _ _ hclaim)
    obtain ⟨row, hrow, rfl⟩ := Option.map_eq_some_iff.1 hμ
    obtain ⟨a, att, hold, hlane', hphase⟩ := hs.claim_attempt _ _ hclaim
    obtain ⟨attempt, hattempt, rfl⟩ := Option.map_eq_some_iff.1 hold.attempt
    refine ⟨⟨row, Table.mem_of_find? hrow, Table.key_of_find? hrow, hkey⟩, attempt,
      Table.mem_of_find? hattempt, hlane', ?_, ?_, isOpen_of_viewPhase hphase⟩
    · exact Option.some.inj (hold.claim.symm.trans hclaim)
    · exact (congrArg Lane.token hview ▸ hold.token).symm
  issued attempt hattempt lane hlane hkey := by
    have htoken := hs.attempt_token _ _ (abs_attempt_of_find? (Table.find?_of_mem hattempt))
    rw [show (viewAttempt attempt).lane = lane.key from hkey.symm,
      abs_lane_of_find? (Table.find?_of_mem hlane)] at htoken
    exact htoken
  distinct a ha b hb hlane htoken :=
    Table.eq_of_key_eq ha hb (hs.token_unique _ _ _ _
      (abs_attempt_of_find? (Table.find?_of_mem ha))
      (abs_attempt_of_find? (Table.find?_of_mem hb)) hlane htoken)

/-- In every reachable state the lanes are fenced, and no later state has a smaller
token for one of them. -/
theorem lane_tokens_fence (hfresh : Fresh db₀) (hrun : Run (Gateway.step rt) Allowed db₀ trace db) :
    LanesFenced db ∧ ∀ later db', Run (Gateway.step rt) Allowed db later db' →
      ∀ lane ∈ db.dispatch.lanes, lane.laneToken ≤ ((abs db').lane lane.key).token := by
  have hs := run_consistent hfresh hrun
  refine ⟨hs.lanesFenced, fun later db' hlater lane hlane => ?_⟩
  refine run_preserves (P := fun s => lane.laneToken ≤ (s.lane lane.key).token)
    (fun hstep h => h.trans (hstep.token_le _)) hs hlater ?_
  rw [abs_lane_of_find? (Table.find?_of_mem hlane)]

theorem echoedTakeover_fenced :
    LanesFenced (execute (Gateway.step phoneRuntime) echoedTakeover phoneDatabase).2 :=
  (lane_tokens_fence phoneDatabase_fresh (Run.of_inputs _ (by decide +kernel))).1

end MessagingGateway.Dispatch
