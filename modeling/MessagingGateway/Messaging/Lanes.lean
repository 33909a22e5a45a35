import MessagingGateway.Dispatch.Settling
import MessagingGateway.Messaging.Writes

/-!
# One lane per conversation

An unsettled message is on the lane recorded for its conversation. Submission
and the creation of a conversation keep this; a receipt may break it, because it
gives a message the provider's conversation without looking at its lane. Runs
whose receipts name unsettled messages only together with a conversation of
their lane keep it throughout.
-/

namespace MessagingGateway.Messaging

open Relational Domain Store Ingress Gateway Dispatch

/-- All unsettled messages of a conversation are on one lane, the recorded one. -/
structure OneLane (db : Database) : Prop where
  same : ∀ row ∈ db.content.messages, ∀ row' ∈ db.content.messages,
    unsettled row.currentState = true → unsettled row'.currentState = true →
    row.connectionId = row'.connectionId → row.conversationId = row'.conversationId →
    row.conversationId ≠ "" → row.orderingKey = row'.orderingKey
  recorded : ∀ row ∈ db.content.messages, unsettled row.currentState = true →
    row.conversationId ≠ "" → recordedLane db.content.conversations row.connectionId
      row.conversationId = some row.orderingKey

/-- Receipts name an unsettled message only together with a conversation that is
recorded, at the latest by the receipt, on the lane of the message. -/
def EchoesOnLane (db : Database) (call : Call) : Prop :=
  match call.2 with
  | .commitEnvelope _ record => ∀ p ∈ record.projection.messages, ∀ row ∈ db.content.messages,
      row.named record.connectionId p.providerMessageId p.providerTmpId = true →
      unsettled row.currentState = true → p.conversationId ≠ "" →
      recordedLane (withConversations record.connectionId record.projection.conversations
        db.content.conversations) record.connectionId p.conversationId = some row.orderingKey
  | _ => True

instance (db : Database) (call : Call) : Decidable (EchoesOnLane db call) := by
  obtain ⟨_, operation⟩ := call
  induction operation using Operation.casesOn with
  | commitEnvelope _ record =>
    unfold EchoesOnLane
    infer_instance
  | _ => exact .isTrue trivial

/-! ### Lanes of messages -/

structure OnLane (conversations : Table ConversationRow.key) (row : MessageRow) : Prop where
  lane : row.orderingKey ≠ ""
  conversation : row.conversationId ≠ "" →
    recordedLane conversations row.connectionId row.conversationId = some row.orderingKey

def Laned (b : Book) : Prop :=
  ∀ row ∈ b.messages, unsettled row.currentState = true → OnLane b.conversations row

theorem Laned.oneLane {db : Database} (h : Laned (bookOf db)) : OneLane db where
  same row hrow row' hrow' hstate hstate' hconnection hconversation hne := by
    have hlane := (h row hrow hstate).conversation hne
    have hlane' := (h row' hrow' hstate').conversation (hconversation ▸ hne)
    rw [hconnection, hconversation, hlane', Option.some.injEq] at hlane
    exact hlane.symm
  recorded row hrow hstate hne := (h row hrow hstate).conversation hne

variable {row : MessageRow} {b : Book} {connectionId : String}
  {conversations : Table ConversationRow.key}

theorem recordedLane_ne {conversationId lane : String}
    (h : recordedLane conversations connectionId conversationId = some lane)
    (hne : conversationId ≠ "") : lane ≠ "" := by
  obtain ⟨r, hr, rfl⟩ := Option.map_eq_some_iff.1 h
  have hkey := Table.key_of_find? hr
  simp only [ConversationRow.key, Prod.mk.injEq] at hkey
  split
  · rw [hkey.2]
    exact hne
  · assumption

theorem OnLane.mono {t t' : Table ConversationRow.key} (h : OnLane t row)
    (hkept : LanesKept t t') : OnLane t' row :=
  ⟨h.lane, fun hne => hkept _ _ _ (h.conversation hne)⟩

theorem Laned.queued {b' : Book} {command : CreateOutbound} (h : Laned b)
    (hqueued : Queued command b b') : Laned b' := by
  obtain ⟨orderingKey, hplaced, hinsert⟩ := hqueued.insert
  intro row hrow hstate
  rw [hqueued.conversations]
  rcases (Table.mem_insert hinsert).1 hrow with hrow | rfl
  · exact h row hrow hstate
  · cases hplaced with
    | newChat hconversation hlane =>
      refine ⟨?_, fun hne => absurd hconversation hne⟩
      simp only [outboundRow, hlane]
      exact fun hempty => by simpa using congrArg String.toList hempty
    | existing hconversation hlane =>
      exact ⟨recordedLane_ne hlane hconversation, fun _ => hlane⟩

theorem laned_update {messageId : String} {f : MessageRow → MessageRow}
    {hf : ∀ r, (f r).messageId = r.messageId}
    (hchanged : ∀ r ∈ b.messages, r.messageId = messageId → unsettled (f r).currentState = true →
      OnLane conversations (f r))
    (hothers : ∀ r ∈ b.messages, r.messageId ≠ messageId → unsettled r.currentState = true →
      OnLane conversations r) : Laned ((b.update messageId f hf).route conversations) := by
  intro row hrow hstate
  have hrow : row ∈ (b.update messageId f hf).messages := hrow
  obtain ⟨r, hr, rfl⟩ := mem_bookUpdate.1 hrow
  by_cases hid : r.messageId = messageId
  · rw [if_pos hid] at hstate ⊢
    exact hchanged r hr hid hstate
  · rw [if_neg hid] at hstate ⊢
    exact hothers r hr hid hstate

theorem Laned.moved {state : MessageState} (h : Laned b)
    (hstored : row ∈ b.messages) (hwaiting : unsettled row.currentState = true) :
    Laned (b.update row.messageId fun r => { r with currentState := state }) := by
  show Laned ((b.update row.messageId fun r => { r with currentState := state }).route
    b.conversations)
  refine laned_update (fun r hr hid _ => ?_) fun r hr _ hstate => h r hr hstate
  obtain rfl := Table.eq_of_key_eq hr hstored hid
  have hlane := h r hr hwaiting
  exact ⟨hlane.lane, hlane.conversation⟩

theorem recordedLane_upsertRoute {route : ConversationRow}
    (hne : route.orderingKey ≠ "") (connectionId conversationId : String) :
    recordedLane (upsertRoute conversations route) connectionId conversationId =
      if route.key = (connectionId, conversationId) then some route.orderingKey
      else recordedLane conversations connectionId conversationId := by
  unfold recordedLane upsertRoute
  rw [Table.find?_update_key, Table.find?_insertIgnore]
  by_cases hkey : route.key = (connectionId, conversationId)
  · simp [hkey, hne]
  · simp [hkey, Ne.symm hkey]

theorem Laned.assigned {route : ConversationRow} (h : Laned b)
    (hstored : row ∈ b.messages) (hwaiting : unsettled row.currentState = true)
    (hconnection : route.connectionId = row.connectionId)
    (hlane : route.orderingKey = row.orderingKey)
    (hfree : ∀ lane, recordedLane b.conversations route.connectionId route.conversationId =
      some lane → lane = row.orderingKey ∨ ∀ other ∈ b.messages,
        other.messageId ≠ row.messageId → other.connectionId = row.connectionId →
          other.orderingKey = lane → unsettled other.currentState = false) :
    Laned ((b.update row.messageId fun r => { r with conversationId := route.conversationId }).route
      (upsertRoute b.conversations route)) := by
  have hne : route.orderingKey ≠ "" := hlane ▸ (h row hstored hwaiting).lane
  refine laned_update (fun r hr hid _ => ?_) fun r hr hid hstate => ?_
  · obtain rfl := Table.eq_of_key_eq hr hstored hid
    refine ⟨(h r hr hwaiting).lane, fun _ => ?_⟩
    simp only [recordedLane_upsertRoute hne, ConversationRow.key, hconnection, hlane, if_true]
  · refine ⟨(h r hr hstate).lane, fun hconversation => ?_⟩
    have hrecorded := (h r hr hstate).conversation hconversation
    rw [recordedLane_upsertRoute hne]
    split
    case isFalse => exact hrecorded
    case isTrue hkey =>
      -- the conversation moves: its lane was the message's, or nobody waited on it
      simp only [ConversationRow.key, Prod.mk.injEq] at hkey
      rw [← hkey.1, ← hkey.2] at hrecorded
      rcases hfree _ hrecorded with hsame | hsettled
      · rw [hlane, hsame]
      · have hsettled := hsettled r hr hid (hkey.1.symm.trans hconnection) rfl
        rw [hstate] at hsettled
        cases hsettled

theorem Laned.write {b' : Book} (h : Laned b) (hwrite : Write b b') : Laned b' := by
  cases hwrite with
  | moved row state hstored hwaiting => exact h.moved hstored hwaiting
  | assigned row route hstored hwaiting hconnection hlane hfree =>
    exact h.assigned hstored hwaiting hconnection hlane hfree

/-! ### Receipts -/

theorem validateMessages_distinct {seen : List String} {total : Nat}
    {messages : List ProjectedMessage} (h : validateMessages seen total messages = .ok ()) :
    (messages.map (·.providerMessageId)).Nodup ∧
      ∀ p ∈ messages, p.providerMessageId ∉ seen := by
  induction messages generalizing seen total with
  | nil => simp
  | cons p messages ih =>
    simp only [validateMessages, bind_ok, require_ok, Bool.not_eq_true', List.contains_eq_mem,
      decide_eq_false_iff_not] at h
    obtain ⟨-, -, -, hunseen, -, -, hrest⟩ := h
    obtain ⟨hdistinct, hlater⟩ := ih hrest
    refine ⟨List.nodup_cons.2 ⟨fun hmem => ?_, hdistinct⟩, List.forall_mem_cons.2
      ⟨hunseen, fun q hq => fun hseen => hlater q hq (List.mem_cons_of_mem _ hseen)⟩⟩
    obtain ⟨q, hq, hsame⟩ := List.mem_map.1 hmem
    exact hlater q hq (by simp [hsame])

theorem validateProjection_distinct {rt : Runtime} {projection : Projection}
    {media : List MediaLocator} (h : validateProjection rt projection media = .ok ()) :
    (projection.messages.map (·.providerMessageId)).Nodup := by
  simp only [validateProjection, bind_ok] at h
  obtain ⟨-, -, -, -, -, -, -, -, -, -, ⟨⟩, hmessages, -⟩ := h
  exact (validateMessages_distinct hmessages).1

/-- Within a commit every unsettled message was one before it, on the same lane and
with the same tmp ID; a provider ID may come from a message projected so far. -/
def Older (base : Table MessageRow.messageId) (seen : List String)
    (messages : Table MessageRow.messageId) : Prop :=
  ∀ row ∈ messages, unsettled row.currentState = true → ∃ old ∈ base,
    unsettled old.currentState = true ∧ old.connectionId = row.connectionId ∧
      old.orderingKey = row.orderingKey ∧ old.providerTmpId = row.providerTmpId ∧
      (old.providerMessageId = row.providerMessageId ∨
        ∃ id ∈ seen, row.providerMessageId = some id)

theorem Older.named {base messages : Table MessageRow.messageId} {seen : List String}
    (h : Older base seen messages) (hrow : row ∈ messages)
    (hstate : unsettled row.currentState = true)
    {providerMessageId providerTmpId : String} (hunseen : providerMessageId ∉ seen)
    (hnamed : row.named connectionId providerMessageId providerTmpId = true) :
    ∃ old ∈ base, unsettled old.currentState = true ∧ old.orderingKey = row.orderingKey ∧
      old.named connectionId providerMessageId providerTmpId = true := by
  obtain ⟨old, hold, hwaiting, hconnection, hlane, htmp, hid⟩ := h row hrow hstate
  refine ⟨old, hold, hwaiting, hlane, ?_⟩
  simp only [MessageRow.named, Bool.and_eq_true, Bool.or_eq_true, beq_iff_eq] at hnamed ⊢
  rw [hconnection, htmp]
  refine ⟨hnamed.1, hnamed.2.imp id fun hrowId => ?_⟩
  rcases hid with hid | ⟨id, hseen, hid⟩
  · exact hid.trans hrowId
  · rw [hrowId, Option.some.injEq] at hid
    exact absurd (hid ▸ hseen) hunseen

structure Receiving (conversations : Table ConversationRow.key)
    (base : Table MessageRow.messageId) (seen : List String) (db : Database) : Prop where
  laned : Laned (bookOf db)
  settling : Settling (abs db)
  conversations : db.content.conversations = conversations
  older : Older base seen db.content.messages

/-- A projected message names an unsettled one only with a conversation of its
lane. -/
def NamesOnLane (connectionId : String) (conversations : Table ConversationRow.key)
    (base : Table MessageRow.messageId) (p : ProjectedMessage) : Prop :=
  ∀ row ∈ base, row.named connectionId p.providerMessageId p.providerTmpId = true →
    unsettled row.currentState = true → p.conversationId ≠ "" →
      recordedLane conversations connectionId p.conversationId = some row.orderingKey

section

variable {rt : Runtime} {now : Time} {db db' : Database} {record : EnvelopeRecord}
  {conversations : Table ConversationRow.key} {base : Table MessageRow.messageId}
  {seen : List String} {p : ProjectedMessage}

theorem Receiving.inserted (h : Receiving conversations base seen db)
    (hinsert : db.content.messages.insert row = some db'.content.messages)
    (hroutes : db'.content.conversations = db.content.conversations)
    (hsettling : Settling (abs db')) (hstate : unsettled row.currentState = false) :
    Receiving conversations base (p.providerMessageId :: seen) db' := by
  have hold : ∀ r ∈ db'.content.messages, unsettled r.currentState = true →
      r ∈ db.content.messages := by
    intro r hr hwaiting
    rcases (Table.mem_insert hinsert).1 hr with hr | rfl
    · exact hr
    · rw [hstate] at hwaiting
      cases hwaiting
  refine ⟨fun r hr hwaiting => ?_, hsettling, hroutes.trans h.conversations,
    fun r hr hwaiting => ?_⟩
  · have hlane := h.laned r (hold r hr hwaiting) hwaiting
    simp only [bookOf] at hlane ⊢
    rwa [hroutes]
  · obtain ⟨old, hmem, hwaiting', hconnection, hlane, htmp, hid⟩ :=
      h.older r (hold r hr hwaiting) hwaiting
    exact ⟨old, hmem, hwaiting', hconnection, hlane, htmp,
      hid.imp_right List.exists_mem_cons_of_exists⟩

theorem Receiving.reconciled {direction : Direction} {state : MessageState}
    (h : Receiving conversations base seen db) (hrow : row ∈ db.content.messages)
    (hbook : bookOf db' =
      (bookOf db).update row.messageId fun r => r.reconcile p direction state)
    (hsettling : Settling (abs db'))
    (hsettled : unsettled row.currentState = false → unsettled state = false)
    (hlane : unsettled row.currentState = true → p.conversationId ≠ "" →
      recordedLane conversations row.connectionId p.conversationId = some row.orderingKey) :
    Receiving conversations base (p.providerMessageId :: seen) db' := by
  have hwaiting : unsettled state = true → unsettled row.currentState = true := by
    intro hstate
    refine Bool.eq_true_of_not_eq_false fun hfalse => ?_
    rw [hsettled hfalse] at hstate
    cases hstate
  have hmessages : db'.content.messages = _ := congrArg Book.messages hbook
  have hroutes : db'.content.conversations = db.content.conversations :=
    congrArg Book.conversations hbook
  refine ⟨?_, hsettling, hroutes.trans h.conversations, fun r hr hstate => ?_⟩
  · rw [hbook]
    show Laned (((bookOf db).update row.messageId fun r => r.reconcile p direction state).route
      (bookOf db).conversations)
    refine laned_update (fun r hr hid hstate => ?_) fun r hr _ hstate => h.laned r hr hstate
    obtain rfl := Table.eq_of_key_eq hr hrow hid
    have hold := h.laned r hr (hwaiting hstate)
    refine ⟨hold.lane, fun hne => ?_⟩
    by_cases hempty : p.conversationId = ""
    · simp only [MessageRow.reconcile, hempty, if_true] at hne ⊢
      exact hold.conversation hne
    · simp only [MessageRow.reconcile, hempty, if_false, bookOf, h.conversations]
      exact hlane (hwaiting hstate) hempty
  · rw [hmessages] at hr
    obtain ⟨r, hstored, rfl⟩ := mem_bookUpdate.1 hr
    by_cases hid : r.messageId = row.messageId
    · rw [if_pos hid] at hstate ⊢
      obtain rfl := Table.eq_of_key_eq hstored hrow hid
      obtain ⟨old, hmem, hold, hconnection, hkey, htmp, hids⟩ := h.older r hstored (hwaiting hstate)
      refine ⟨old, hmem, hold, hconnection, hkey, htmp, ?_⟩
      -- the provider ID is the projected one, or it is kept
      by_cases hempty : p.providerMessageId = ""
      · simp only [MessageRow.reconcile, nullIf, hempty, if_true]
        exact hids.imp_right List.exists_mem_cons_of_exists
      · refine .inr ⟨p.providerMessageId, List.mem_cons_self, ?_⟩
        simp [MessageRow.reconcile, nullIf, hempty]
    · rw [if_neg hid] at hstate ⊢
      obtain ⟨old, hmem, hold, hconnection, hkey, htmp, hids⟩ := h.older r hstored hstate
      exact ⟨old, hmem, hold, hconnection, hkey, htmp,
        hids.imp_right List.exists_mem_cons_of_exists⟩

theorem Receiving.project {ids : MessageIds} (h : Receiving conversations base seen db)
    (hpath : MessagePath rt now ids record p db db') (hpast : PastOn now record.connectionId db)
    (hstate : p.state ∈ adapterStates) (hunseen : p.providerMessageId ∉ seen)
    (hlane : NamesOnLane record.connectionId conversations base p) :
    Receiving conversations base (p.providerMessageId :: seen) db' := by
  have hqueued : p.state ≠ some .queued := fun hqueued => by simp [hqueued, adapterStates] at hstate
  have hstep := projectMessage_refines hpath hpast hqueued
  have hsettling : Settling (abs db') :=
    ⟨hstep.consistent h.settling.consistent, hstep.settled h.settling.settled⟩
  cases hpath with
  | inserted _ hinsert hstatus =>
    obtain ⟨log, hlog, rfl⟩ := insertProjected_ok hinsert
    have hbook := insertInboundStatus_book hstatus
    have hmessages : db'.content.messages = log.messages := congrArg Book.messages hbook
    refine h.inserted (hmessages ▸ (MessageLog.insertMessage_eq_some hlog).1)
      (congrArg Book.conversations hbook) hsettling ?_
    simp only [adapterStates, List.mem_cons, List.not_mem_nil, or_false] at hstate
    rcases hstate with hstate | hstate | hstate | hstate | hstate <;>
      simp [projectedRow, hstate, unsettled]
  | @reconciled row direction updated audited hfound _ hupdate hstatus hannounce =>
    have hrow := mem_of_lockProjectedMessage hfound
    have hnamed := named_of_lockProjectedMessage hfound
    have hbook : bookOf db' = (bookOf db).update row.messageId fun r =>
        r.reconcile p direction (reconciledState row p.state db) := by
      rw [bookOf_eventsOnly (announceTransition_ok hannounce), insertInboundStatus_book hstatus,
        updateProjected_ok hupdate]
      rfl
    refine h.reconciled hrow hbook hsettling
      (fun hsettled => reconciledState_settled h.settling.settled hrow hsettled hstate) ?_
    intro hwaiting hne
    obtain ⟨old, hmem, hold, hkey, hnamed'⟩ := h.older.named hrow hwaiting hunseen hnamed
    rw [connection_of_lockProjectedMessage hfound, ← hkey]
    exact hlane old hmem hnamed' hold hne

theorem Receiving.projectMessages {ids : Nat → MessageIds} {index : Nat}
    {messages : List ProjectedMessage} {done result : List Projected}
    (h : Receiving conversations base seen db)
    (hproject : Store.projectMessages rt now ids record index messages done db = .ok (result, db'))
    (hpast : PastOn (now + index) record.connectionId db)
    (hstates : ∀ p ∈ messages, p.state ∈ adapterStates)
    (hdistinct : (messages.map (·.providerMessageId)).Nodup)
    (hunseen : ∀ p ∈ messages, p.providerMessageId ∉ seen)
    (hlane : ∀ p ∈ messages, NamesOnLane record.connectionId conversations base p) :
    Laned (bookOf db') := by
  induction messages generalizing index done seen db with
  | nil =>
    simp only [Store.projectMessages, pure_pair] at hproject
    exact hproject.2 ▸ h.laned
  | cons p messages ih =>
    simp only [Store.projectMessages, bind_ok] at hproject
    obtain ⟨⟨first, db₁⟩, hfirst, hrest⟩ := hproject
    have hpath := projectMessage_ok hfirst
    obtain ⟨hstate, hstates⟩ := List.forall_mem_cons.1 hstates
    obtain ⟨hfresh, hunseen⟩ := List.forall_mem_cons.1 hunseen
    obtain ⟨hnames, hlane⟩ := List.forall_mem_cons.1 hlane
    obtain ⟨hnew, hdistinct⟩ := List.nodup_cons.1 hdistinct
    refine ih (h.project hpath hpast hstate hfresh hnames) hrest (hpast.projectMessage hpath)
      hstates hdistinct (fun q hq hseen => ?_) hlane
    rcases List.mem_cons.1 hseen with hsame | hseen
    · exact hnew (List.mem_map.2 ⟨q, hq, hsame⟩)
    · exact hunseen q hq hseen

theorem Laned.commit {ids : CommitIds} (h : Laned (bookOf db))
    (hcommit : Commitment rt now ids record db db') (hsettling : Settling (abs db))
    (hallowed : Allowed db (now, .commitEnvelope ids record))
    (hecho : EchoesOnLane db (now, .commitEnvelope ids record)) : Laned (bookOf db') := by
  cases hcommit with
  | unread _ hbook => rw [hbook]; exact h
  | @projected projection done before after conversations _ _ _ _ hvalid hsame hunseen hopened
      hproject hkept hclosed =>
      have hmessages : before.content.messages = db.content.messages :=
        congrArg Book.messages hopened
      have hroutes : before.content.conversations = _ := congrArg Book.conversations hopened
      have hbefore : Receiving before.content.conversations db.content.messages [] before := by
        refine ⟨fun row hrow hstate => ?_, hunseen.abs_eq ▸ hsettling, rfl,
          fun row hrow hstate => ?_⟩
        · rw [hopened] at hrow ⊢
          exact (h row hrow hstate).mono (withConversations_lanesKept _ _ _)
        · exact ⟨row, hmessages ▸ hrow, hstate, rfl, rfl, rfl, .inl rfl⟩
      have hpast : PastOn (now + 0) record.connectionId before :=
        hunseen.pastOn (hallowed.clock _ rfl)
      have hafter : Laned (bookOf after) := by
        refine hbefore.projectMessages hproject hpast hallowed.adapted
          (hsame ▸ validateProjection_distinct hvalid) (by simp) fun p hp row hrow => ?_
        rw [hroutes]
        exact hecho p hp row hrow
      rw [hclosed]
      exact fun row hrow hstate => (hafter row hrow hstate).mono hkept

theorem Laned.step {call : Call} (h : Laned (bookOf db)) (hsettling : Settling (abs db))
    (hallowed : Allowed db call) (hecho : EchoesOnLane db call) :
    Laned (bookOf (Gateway.step rt call db).2) := by
  obtain ⟨now, op⟩ := call
  refine step_rule rt (now, op) db (fun _ _ => h) fun reply db' hperform => ?_
  cases perform_entry hperform with
  | nothing hsame => exact hsame ▸ h
  | queued _ hqueued => exact h.queued hqueued
  | write hwrite => exact h.write hwrite
  | receipts hcommit =>
    simp only at hcommit
    subst hcommit
    obtain ⟨result, hop, -⟩ := replying_ok hperform
    exact h.commit (commitEnvelope_committed hop) hsettling hallowed hecho

end

/-! ### Runs -/

structure OnLanes (db : Database) (call : Call) : Prop where
  allowed : Allowed db call
  echoes : EchoesOnLane db call

instance (db : Database) (call : Call) : Decidable (OnLanes db call) :=
  decidable_of_iff (Allowed db call ∧ EchoesOnLane db call)
    ⟨fun h => ⟨h.1, h.2⟩, fun h => ⟨h.allowed, h.echoes⟩⟩

/-- As long as receipts name unsettled messages only with conversations of their
lanes, the unsettled messages of a conversation are on one lane. -/
theorem conversations_keep_lanes {rt : Runtime} {db₀ db : Database}
    {trace : List (Call × Reply)} (hfresh : Fresh db₀)
    (hrun : Run (Gateway.step rt) OnLanes db₀ trace db) : OneLane db := by
  have hkept : Settling (abs db) ∧ Laned (bookOf db) := by
    refine hrun.invariant (P := fun db => Settling (abs db) ∧ Laned (bookOf db))
      (fun db call hcall h => ⟨step_settling hcall.allowed h.1,
        h.2.step h.1 hcall.allowed hcall.echoes⟩) ⟨fresh_settling hfresh, fun row hrow => ?_⟩
    simp [bookOf, hfresh.messages] at hrow
  exact hkept.2.oneLane

/-- A new chat on the wire: its conversation is recorded before the message is sent. -/
def chatOpened : List Call :=
  [createCall "m1" 1, leaseCall 2, claimCall "1" 3, beginCall "m1" "attempt-1" 1 1 4,
    (5, .recordCreatedConversationFenced "phone" "m1" "conversation" "sim" false "worker" 1)]

theorem chatOpened_one_lane : OneLane (execute (Gateway.step phoneRuntime)
    (chatOpened ++ [receiptCall "tmp-m1" none 6]) phoneDatabase).2 :=
  conversations_keep_lanes phoneDatabase_fresh (Run.of_inputs _ (by decide +kernel))

/-- A page of conversations, as the provider lists them. -/
def otherChat : Envelope where
  connectionId := "phone"
  ownerId := "worker"
  fencingToken := 1
  providerResponseId := "response-page"
  raw := [1]
  projection := { conversations := [{ conversationId := "other", defaultOutgoingId := "sim" }] }

def otherChatCall (now : Time) : Call :=
  (now, .commitEnvelope
    { commitIds with inboxId := "inbox-page", eventOutboxId := fun _ => "ingress-page" }
    (otherChat.record phoneRuntime "tenant" now))

/-- The echo of the message in flight, without a state, in the other conversation. -/
def movedEcho : Envelope :=
  { receipt "tmp-m1" none with
    projection := { messages := (receipt "tmp-m1" none).projection.messages.map fun p =>
      { p with conversationId := "other" } } }

def replyCall (now : Time) : Call :=
  (now, .createOutbound ⟨"queued-m2", "event-m2", "outbox-m2", "command-m2"⟩
    { helloCommand "m2" now with
      message := { (helloCommand "m2" now).message with
        conversationId := "other", recipient := "", text := "hello again" } })

/-- The provider reports the message in flight in another conversation: it and the
next message of that conversation are on two lanes. -/
theorem moved_echo_splits_lane : ∃ trace db,
    Run (Gateway.step phoneRuntime) Allowed phoneDatabase trace db ∧
      ∃ row ∈ db.content.messages, ∃ row' ∈ db.content.messages,
        row.messageId = "m1" ∧ row'.messageId = "m2" ∧ row.currentState = .dispatching ∧
        row'.currentState = .queued ∧ row.connectionId = row'.connectionId ∧
        row.conversationId = "other" ∧ row'.conversationId = "other" ∧
        row.orderingKey = "new:+14155550100" ∧ row'.orderingKey = "other" :=
  ⟨_, _, Run.of_inputs (chatOpened ++ [otherChatCall 6,
    (7, .commitEnvelope commitIds (movedEcho.record phoneRuntime "tenant" 7)), replyCall 8])
    (by decide +kernel), by decide +kernel⟩

end MessagingGateway.Messaging
