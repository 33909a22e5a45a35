import MessagingGateway.Messaging.Service
import MessagingGateway.Relational.Talks

/-!
# Sending one message

`SendOnce` of the actor sender. The line is looked up first; everything else happens
inside the operation that the connection actor runs: the ownership of the operation
is compared with the claim, the conversation is fetched or created and recorded, the
media are uploaded in order, and the message is sent. The provider, the media store
and the route store are collaborators that may answer anything at any time. The
caller may stop waiting while the operation goes on, and then sees what the operation
has written so far.
-/

namespace MessagingGateway.Provider

open Relational Domain Store Messaging

def errProviderUnavailable : Err := ⟨"provider generation is not ready", []⟩

def errProviderPermanentProtocol : Err := ⟨"permanent provider protocol failure", []⟩

def errMessagingUnsupported : Err := ⟨"active provider does not support messaging", []⟩

def errMediaNotFound : Err := ⟨"media not found", []⟩

structure ActorKey where
  tenantId : String
  connectionId : String
  deriving DecidableEq

structure ProviderOwnership where
  key : ActorKey
  ownerId : String
  fencingToken : Nat
  deriving DecidableEq

structure ProviderSendCommand where
  tenantId : String
  message : OutboundMessage
  fencingToken : Nat
  deriving DecidableEq

structure ProviderSendResult where
  accepted : Bool := false
  failureReason : String := ""
  conversationId : String := ""
  deriving DecidableEq

structure SendLine where
  tenantId : String
  connectionId : String
  providerOutgoingId : String
  deriving DecidableEq

structure ProviderConversation where
  conversationId : String := ""
  defaultOutgoingId : String := ""
  isGroupChat : Bool := false
  deriving DecidableEq

structure MediaRecord where
  tenantId : String
  id : String
  state : String
  size : Int
  displayFilename : String := ""
  mimeType : String := ""
  deriving DecidableEq

/-- A part of the payload; an uploaded medium is what the provider made of it. -/
inductive RequestInfo
  | text (content : String)
  | media (content : Bytes)
  deriving DecidableEq

structure SendMessageRequest where
  conversationId : String
  tmpId : String
  participantId : String
  infos : List RequestInfo
  deriving DecidableEq

inductive SendStatus
  | success
  | failure2
  | failure3
  | failure4
  | other
  deriving DecidableEq

/-- The calls of the sender with their answers, and its writes to the result the
caller reads. -/
inductive SendEvent
  | line (lineId : String) (answer : Except Err SendLine)
  | fetched (conversationId : String) (answer : Except Err ProviderConversation)
  | created (recipient : String) (answer : Except Err (Bool × Option ProviderConversation))
  | recorded (messageId conversationId outgoingId ownerId : String) (fencingToken : Nat)
      (answer : Except Err Unit)
  | opened (mediaId : String) (answer : Except Err MediaRecord)
  | closed (mediaId : String) (answer : Except Err Unit)
  | uploaded (mediaId : String) (size : Int) (filename mimeType : String)
      (answer : Except Err Bytes)
  | sent (request : SendMessageRequest) (answer : Except Err SendStatus)
  | wrote (update : ProviderSendResult)

abbrev History := List SendEvent

/-- The collaborators. An answer may depend on everything that has happened. A
conversation that is not there reads as one without fields. -/
structure Collaborators where
  getLine : String → History → Except Err SendLine
  getConversation : String → History → Except Err ProviderConversation
  getOrCreateConversation : String → History → Except Err (Bool × Option ProviderConversation)
  recordCreatedConversation : History → Except Err Unit
  openMedia : String → History → Except Err MediaRecord
  closeMedia : String → History → Except Err Unit
  uploadMedia : String → History → Except Err Bytes
  sendMessage : SendMessageRequest → History → Except Err SendStatus

abbrev Sender := Talk Err SendEvent

section

variable (world : Collaborators)

def resolveConversation (ownership : ProviderOwnership) (message : OutboundMessage) :
    Sender ProviderConversation :=
  if message.conversationId ≠ "" then do
    let answer ← Talk.call (world.getConversation message.conversationId)
      (.fetched message.conversationId)
    Talk.ofExcept answer
  else do
    let answer ← Talk.call (world.getOrCreateConversation message.recipient)
      (.created message.recipient)
    let (success, found) ← Talk.ofExcept answer
    let conversation := found.getD {}
    Talk.check
      (success && found.isSome && validProviderConversationID conversation.conversationId &&
      !conversation.isGroupChat && validProviderIdentifier (trim conversation.defaultOutgoingId))
      errProviderPermanentProtocol
    let answer ← Talk.call world.recordCreatedConversation
      (.recorded message.id conversation.conversationId (trim conversation.defaultOutgoingId)
        ownership.ownerId ownership.fencingToken)
    Talk.ofExcept answer
    pure conversation

/-- The media loop: what the provider made of the media, in order. -/
def uploadAll (tenantId : String) (maxMediaBytes : Int) : List String → Sender (List RequestInfo)
  | [] => pure []
  | mediaId :: rest => do
      let answer ← Talk.call (world.openMedia mediaId) (.opened mediaId)
      let record ← Talk.ofExcept answer
      if record.tenantId ≠ tenantId || record.id ≠ mediaId || record.state ≠ "ready" ||
          record.size < 0 || maxMediaBytes < record.size then do
        let _ ← Talk.call (world.closeMedia mediaId) (.closed mediaId)
        Talk.fail errMediaNotFound
      else do
        let uploaded ← Talk.call (world.uploadMedia mediaId)
          (.uploaded mediaId record.size record.displayFilename record.mimeType)
        let closed ← Talk.call (world.closeMedia mediaId) (.closed mediaId)
        let content ← Talk.ofExcept uploaded
        Talk.ofExcept closed
        let infos ← uploadAll tenantId maxMediaBytes rest
        pure (.media content :: infos)

def write (update : ProviderSendResult) : Sender Unit := Talk.call (fun _ => ()) fun _ =>
    .wrote update

def settle (conversationId : String) : SendStatus → Sender Unit
  | .success => write { accepted := true, conversationId := conversationId }
  | .failure2 | .failure3 | .failure4 =>
    write { failureReason := "provider_rejected", conversationId := conversationId }
  | .other => pure ()

def sendRequest (message : OutboundMessage) (conversation : ProviderConversation)
    (media : List RequestInfo) : SendMessageRequest where
  conversationId := conversation.conversationId
  tmpId := message.providerTmpId
  participantId := trim conversation.defaultOutgoingId
  infos := (if message.text = "" then [] else [.text message.text]) ++ media

/-- The operation `SendOnce` gives to the actor, under the ownership its context
carries. -/
def sendOperation (command : ProviderSendCommand) (maxMediaBytes : Int) (line : Option SendLine)
    (context : Option ProviderOwnership) (supported : Bool) : Sender Unit := do
  let message := command.message
  let key : ActorKey := ⟨command.tenantId, message.connectionId⟩
  let ownership := context.getD ⟨⟨"", ""⟩, "", 0⟩
  Talk.check
    (context.isSome && ownership.key == key && ownership.fencingToken == command.fencingToken)
    errProviderUnavailable
  Talk.check supported errMessagingUnsupported
  let conversation ← resolveConversation world ownership message
  let outgoingId := trim conversation.defaultOutgoingId
  write { conversationId := conversation.conversationId }
  Talk.check (validProviderConversationID conversation.conversationId &&
    validProviderIdentifier outgoingId) errProviderPermanentProtocol
  if line.any fun line => line.tenantId != command.tenantId ||
      line.connectionId != message.connectionId || trim line.providerOutgoingId != outgoingId then
    write { failureReason := "route_mismatch", conversationId := conversation.conversationId }
  else do
    let media ← uploadAll world command.tenantId maxMediaBytes message.mediaIds
    let request := sendRequest message conversation media
    let answer ← Talk.call (world.sendMessage request) (.sent request)
    let status ← Talk.ofExcept answer
    settle conversation.conversationId status

/-- What the actor does with an operation: it is refused, or taken off the queue and
run once under the ownership of its generation (`none` when that is not valid). The
caller waits for its end, or gives up with an error after some of its events. -/
inductive Execution
  | refused (e : Err)
  | ran (context : Option ProviderOwnership) (supported : Bool) (left : Option (Nat × Err))

def resultOf (history : History) : ProviderSendResult :=
  (history.filterMap fun
    | .wrote update => some update
    | _ => none).getLast?.getD {}

structure SendOutcome where
  result : ProviderSendResult := {}
  error : Option Err := none
  history : History := []

def ProviderSendCommand.validate (command : ProviderSendCommand) : Except Err Unit :=
  let message := command.message
  if message.id = "" || command.tenantId = "" || message.connectionId = "" ||
      message.providerTmpId = "" || command.fencingToken = 0 ||
      (message.conversationId = "" && (message.routeMode ≠ routeModePhoneDefault ||
        message.lineId ≠ "" || message.recipient = "")) then
    .error Sentinel.invalidCommand.err
  else if message.conversationId ≠ "" && !validProviderConversationID message.conversationId then
    .error errProviderPermanentProtocol
  else .ok ()

def requestedLine (message : OutboundMessage) : Sender (Option SendLine) :=
  if message.lineId = "" then pure none
  else do
    let answer ← Talk.call (world.getLine message.lineId) (.line message.lineId)
    let line ← Talk.ofExcept answer
    pure (some line)

def sendOnce (command : ProviderSendCommand) (maxMediaBytes : Int) (execution : Execution) :
    SendOutcome :=
  match command.validate with
  | .error e => { error := some e }
  | .ok () =>
    match requestedLine world command.message [] with
    | (.error e, history) => { error := some e, history := history }
    | (.ok line, history) =>
      match execution with
      | .refused e => { error := some e, history := history }
      | .ran context supported left =>
        let (answer, history') :=
          sendOperation world command maxMediaBytes line context supported history
        match left with
        | none =>
          { result := resultOf history'
            error := match answer with | .ok _ => none | .error e => some e
            history := history' }
        | some (n, e) =>
          { result := resultOf (history'.take (history.length + n))
            error := some e
            history := history' }

end

/-! ### What a history may hold -/

def SendEvent.isSent : SendEvent → Bool
  | .sent .. => true
  | _ => false

def uploadsOf (history : History) : List (String × Except Err Bytes) :=
  history.filterMap fun
    | .uploaded mediaId _ _ _ answer => some (mediaId, answer)
    | _ => none

/-- A write that accepts follows a successful answer of the relay. -/
def Honest (history : History) : Prop :=
  ∀ before update after, history = before ++ .wrote update :: after → update.accepted = true →
    ∃ request, SendEvent.sent request (.ok .success) ∈ before

/-- The conversation of a message was fetched, or created and recorded for it under
the token of the command. -/
structure Resolved (command : ProviderSendCommand) (conversation : ProviderConversation)
    (history : History) : Prop where
  fetched : command.message.conversationId ≠ "" →
    .fetched command.message.conversationId (.ok conversation) ∈ history
  created : command.message.conversationId = "" →
    .created command.message.recipient (.ok (true, some conversation)) ∈ history ∧
      ∃ ownerId, .recorded command.message.id conversation.conversationId
        (trim conversation.defaultOutgoingId) ownerId command.fencingToken (.ok ()) ∈ history

structure Prepared (command : ProviderSendCommand) (request : SendMessageRequest)
    (history : History) : Prop where
  conversation : ∃ conversation, Resolved command conversation history ∧
    request.conversationId = conversation.conversationId ∧
    request.participantId = trim conversation.defaultOutgoingId
  line : command.message.lineId ≠ "" → ∃ line, .line command.message.lineId (.ok line) ∈ history ∧
    trim line.providerOutgoingId = request.participantId
  uploads : (uploadsOf history).map Prod.fst = command.message.mediaIds
  succeeded : ∀ upload ∈ uploadsOf history, ∃ content, upload.2 = .ok content

/-- Whatever was sent was sent once and prepared, and accepted only on success. -/
structure Proper (command : ProviderSendCommand) (history : History) : Prop where
  sends : ∀ before request answer after, history = before ++ .sent request answer :: after →
    Prepared command request before ∧ ∀ e ∈ before ++ after, e.isSent = false
  honest : Honest history

structure Unsent (history : History) : Prop where
  sent : ∀ e ∈ history, e.isSent = false
  accepted : ∀ update, SendEvent.wrote update ∈ history → update.accepted = false

/-- The history while a message is being prepared: the line is known, the conversation
once it is resolved, and the media uploaded so far. -/
structure Preparing (command : ProviderSendCommand) (line : Option SendLine)
    (conversation : Option ProviderConversation) (done : List String) (history : History) :
      Prop where
  unsent : Unsent history
  line : command.message.lineId ≠ "" → ∃ found, line = some found ∧
    .line command.message.lineId (.ok found) ∈ history
  resolved : ∀ c, conversation = some c → Resolved command c history
  uploads : (uploadsOf history).map Prod.fst = done
  succeeded : ∀ upload ∈ uploadsOf history, ∃ content, upload.2 = .ok content

section

variable {world : Collaborators} {command : ProviderSendCommand} {line : Option SendLine}
  {conversation : Option ProviderConversation} {done : List String} {history : History}

theorem uploadsOf_append (history history' : History) :
    uploadsOf (history ++ history') = uploadsOf history ++ uploadsOf history' :=
  List.filterMap_append

variable {c : ProviderConversation}

theorem Resolved.append (h : Resolved command c history)
    (later : History) : Resolved command c (history ++ later) where
  fetched hne := List.mem_append_left later (h.fetched hne)
  created hnew := by
    obtain ⟨hcreated, ownerId, hrecorded⟩ := h.created hnew
    exact ⟨List.mem_append_left later hcreated, ownerId, List.mem_append_left later hrecorded⟩

theorem Unsent.honest (h : Unsent history) : Honest history := by
  intro before update after heq haccepted
  rw [h.accepted update (by simp [heq])] at haccepted
  cases haccepted

theorem Unsent.proper (h : Unsent history) : Proper command history where
  sends before request answer after heq := by
    have hsent := h.sent (.sent request answer) (by simp [heq])
    cases hsent
  honest := h.honest

def SendEvent.plain : SendEvent → Bool
  | .sent .. => false
  | .wrote update => !update.accepted
  | _ => true

variable {e : SendEvent}

theorem Unsent.append (h : Unsent history) (he : e.plain = true) :
    Unsent (history ++ [e]) where
  sent x hx := by
    rcases List.mem_append.1 hx with hold | hnew
    · exact h.sent x hold
    · rw [List.mem_singleton.1 hnew]
      cases e <;> first | rfl | cases he
  accepted update hupdate := by
    rcases List.mem_append.1 hupdate with hold | hnew
    · exact h.accepted update hold
    · obtain rfl := List.mem_singleton.1 hnew
      simpa [SendEvent.plain] using he

theorem Preparing.proper (h : Preparing command line conversation done history) :
    Proper command history :=
  h.unsent.proper

theorem Preparing.append (h : Preparing command line conversation done history)
    {new : List String} (he : e.plain = true) (hnew : (uploadsOf [e]).map Prod.fst = new)
    (hok : ∀ upload ∈ uploadsOf [e], ∃ content, upload.2 = .ok content) :
    Preparing command line conversation (done ++ new) (history ++ [e]) where
  unsent := h.unsent.append he
  line hne := by
    obtain ⟨found, hfound, hmem⟩ := h.line hne
    exact ⟨found, hfound, List.mem_append_left [e] hmem⟩
  resolved c hc := (h.resolved c hc).append [e]
  uploads := by rw [uploadsOf_append, List.map_append, h.uploads, hnew]
  succeeded upload hupload := by
    rw [uploadsOf_append, List.mem_append] at hupload
    exact hupload.elim (h.succeeded upload) (hok upload)

theorem Preparing.other (h : Preparing command line conversation done history)
    (he : e.plain = true) (hnone : uploadsOf [e] = []) :
    Preparing command line conversation done (history ++ [e]) := by
  have hnext : Preparing command line conversation (done ++ []) (history ++ [e]) :=
    h.append he (by rw [hnone]; rfl) (by rw [hnone]; nofun)
  rwa [List.append_nil] at hnext

theorem Preparing.resolve (h : Preparing command line conversation done history)
    (hc : Resolved command c history) : Preparing command line (some c) done history :=
  { h with
    resolved := fun c' hc' => by
      cases hc'
      exact hc }

/-! ### The parts of the operation -/

theorem requestedLine_ensures :
    Talk.Ensures (fun history => history = []) (requestedLine world command.message)
      (fun line => Preparing command line none []) Unsent := by
  have hempty : command.message.lineId = "" → Preparing command none none [] [] := fun hnone =>
    ⟨⟨nofun, nofun⟩, fun hne => absurd hnone hne, nofun, rfl, nofun⟩
  unfold requestedLine
  split
  · next hnone =>
    refine .pure fun history hhistory => ?_
    rw [hhistory]
    exact hempty hnone
  · refine .bind (Q := fun answer history => history = [.line command.message.lineId answer]) ?_
      fun answer => ?_
    · exact .call fun history hhistory answer => by rw [hhistory]; rfl
    · refine .bind (.ofExcept
        (Q := fun found history => history = [.line command.message.lineId (.ok found)]) ?_ ?_)
        fun found => ?_
      · rintro found rfl history hhistory
        exact hhistory
      · rintro history rfl
        exact ⟨by simp [SendEvent.isSent], by simp⟩
      · refine .pure fun history hhistory => ?_
        subst hhistory
        exact ⟨⟨by simp [SendEvent.isSent], by simp⟩, fun _ => ⟨found, rfl, by simp⟩, nofun, rfl, by
          simp [uploadsOf]⟩

theorem Preparing.call {β : Type} {answer : History → β} {log : β → SendEvent}
    (hplain : ∀ b, (log b).plain = true) (hnone : ∀ b, uploadsOf [log b] = []) :
    Talk.Ensures (Preparing command line conversation done) (Talk.call answer log : Sender β)
      (fun b history => Preparing command line conversation done history ∧ log b ∈ history)
      (Proper command) :=
  .call fun _ hhistory b =>
    ⟨hhistory.other (hplain b) (hnone b), List.mem_append_right _ List.mem_cons_self⟩

theorem resolveConversation_ensures {ownership : ProviderOwnership}
    (htoken : ownership.fencingToken = command.fencingToken) :
    Talk.Ensures (Preparing command line none done)
      (resolveConversation world ownership command.message)
      (fun c => Preparing command line (some c) done) (Proper command) := by
  unfold resolveConversation
  split
  · next hne =>
    refine .bind (Preparing.call (fun _ => rfl) fun _ => rfl) fun answer =>
      .ofExcept ?_ fun _ h => h.1.proper
    rintro c rfl history ⟨hpreparing, hmem⟩
    exact hpreparing.resolve ⟨fun _ => hmem, fun hnew => absurd hnew hne⟩
  · next hnew =>
    refine .bind (Preparing.call (fun _ => rfl) fun _ => rfl) fun answer => ?_
    refine .bind (.ofExcept (Q := fun reply history => Preparing command line none done history ∧
      .created command.message.recipient (.ok reply) ∈ history) ?_ fun _ h => h.1.proper)
        fun reply => ?_
    · rintro reply rfl history h
      exact h
    · obtain ⟨success, found⟩ := reply
      refine .check (fun hvalid => ?_) fun _ h => h.1.proper
      simp only [Bool.and_eq_true] at hvalid
      obtain ⟨⟨⟨⟨rfl, hsome⟩, -⟩, -⟩, -⟩ := hvalid
      obtain ⟨c, rfl⟩ := Option.isSome_iff_exists.1 hsome
      refine .bind (.call (Q := fun answer history => Preparing command line none done history ∧
        .created command.message.recipient (.ok (true, some c)) ∈ history ∧
        .recorded command.message.id c.conversationId (trim c.defaultOutgoingId) ownership.ownerId
          ownership.fencingToken answer ∈ history) ?_) fun answer => ?_
      · rintro history ⟨hpreparing, hmem⟩ answer
        exact ⟨hpreparing.other rfl rfl, List.mem_append_left _ hmem,
          List.mem_append_right _ List.mem_cons_self⟩
      · refine .bind (.ofExcept (Q := fun _ => Preparing command line (some c) done) ?_
          fun _ h => h.1.proper) fun _ => .pure fun _ h => h
        rintro _ rfl history ⟨hpreparing, hcreated, hrecorded⟩
        rw [htoken] at hrecorded
        exact hpreparing.resolve ⟨fun hne => absurd hne hnew,
          fun _ => ⟨hcreated, ownership.ownerId, hrecorded⟩⟩

variable {maxMediaBytes : Int}

theorem uploadAll_ensures (media : List String) :
    Talk.Ensures (Preparing command line conversation done)
      (uploadAll world command.tenantId maxMediaBytes media)
      (fun _ => Preparing command line conversation (done ++ media)) (Proper command) := by
  induction media generalizing done with
  | nil =>
    refine .pure fun history hhistory => ?_
    rwa [List.append_nil]
  | cons mediaId rest ih =>
    unfold uploadAll
    refine .bind (Preparing.call (fun _ => rfl) fun _ => rfl) fun answer => ?_
    refine .bind (.ofExcept (Q := fun _ => Preparing command line conversation done)
      (fun _ _ _ h => h.1) fun _ h => h.1.proper) fun record => ?_
    split
    · exact .bind (Preparing.call (fun _ => rfl) fun _ => rfl) fun _ => .fail fun _ h => h.1.proper
    · -- the answer of the upload is only looked at once the reader is closed
      refine .bind
        (.call (Q := fun answer history => Unsent history ∧ ∀ content, answer = .ok content →
        Preparing command line conversation (done ++ [mediaId]) history) ?_) fun uploaded => ?_
      · intro history hpreparing answer
        refine ⟨hpreparing.unsent.append rfl, ?_⟩
        rintro content rfl
        exact hpreparing.append rfl rfl fun upload hupload =>
          ⟨content, by rw [List.mem_singleton.1 hupload]⟩
      · refine .bind
          (.call (Q := fun _ history => Unsent history ∧ ∀ content, uploaded = .ok content →
          Preparing command line conversation (done ++ [mediaId]) history) ?_) fun closed => ?_
        · rintro history ⟨hunsent, hready⟩ answer
          exact ⟨hunsent.append rfl, fun content hcontent =>
            (hready content hcontent).other rfl rfl⟩
        · refine .bind (.ofExcept
            (Q := fun _ => Preparing command line conversation (done ++ [mediaId]))
            (fun content hcontent _ h => h.2 content hcontent) fun _ h => h.1.proper) fun content =>
              ?_
          refine .bind (.ofExcept
            (Q := fun _ => Preparing command line conversation (done ++ [mediaId]))
            (fun _ _ _ h => h) fun _ h => h.proper) fun _ => ?_
          refine .bind ih fun infos => .pure fun history h => ?_
          rwa [List.append_assoc] at h

/-! ### The operation -/

theorem Honest.snoc (h : Honest history)
    (he : ∀ update, e = .wrote update → update.accepted = true →
      ∃ request, SendEvent.sent request (.ok .success) ∈ history) : Honest (history ++ [e]) := by
  intro before update after heq haccepted
  rcases cut_snoc heq with ⟨rfl, rfl, -⟩ | ⟨rest, -, hrest⟩
  · exact he update rfl haccepted
  · exact h before update rest hrest haccepted

/-- A prepared message is sent, and what follows neither sends nor accepts without
success. -/
theorem Preparing.sent {request : SendMessageRequest}
    {answer : Except Err SendStatus} {later : History}
    (h : Preparing command line (some c) command.message.mediaIds history)
    (hconversation : request.conversationId = c.conversationId)
    (hparticipant : request.participantId = trim c.defaultOutgoingId)
    (hline : ∀ found, line = some found → trim found.providerOutgoingId = request.participantId)
    (hunsent : ∀ e ∈ later, e.isSent = false)
    (hhonest : Honest (history ++ .sent request answer :: later)) :
    Proper command (history ++ .sent request answer :: later) where
  sends before request' answer' after heq := by
    obtain ⟨rfl, hsent, rfl⟩ := cut_unique heq h.unsent.sent hunsent rfl
    cases hsent
    refine ⟨⟨⟨c, h.resolved c rfl, hconversation, hparticipant⟩, fun hne => ?_, h.uploads,
      h.succeeded⟩, fun e he => ?_⟩
    · obtain ⟨found, hfound, hmem⟩ := h.line hne
      exact ⟨found, hmem, hline found hfound⟩
    · exact (List.mem_append.1 he).elim (h.unsent.sent e) (hunsent e)
  honest := hhonest

theorem settle_ensures {request : SendMessageRequest} {status : SendStatus}
    (hconversation : request.conversationId = c.conversationId)
    (hparticipant : request.participantId = trim c.defaultOutgoingId)
    (hline : ∀ found, line = some found → trim found.providerOutgoingId = request.participantId) :
    Talk.Ensures
      (fun log => ∃ history, Preparing command line (some c) command.message.mediaIds history ∧
        log = history ++ [.sent request (.ok status)])
      (settle c.conversationId status) (fun _ => Proper command) (Proper command) := by
  have hwrite : ∀ update : ProviderSendResult, (update.accepted = true → status = .success) →
      Talk.Ensures (fun log => ∃ history,
        Preparing command line (some c) command.message.mediaIds history ∧
          log = history ++ [.sent request (.ok status)])
        (write update) (fun _ => Proper command) (Proper command) := by
    intro update hupdate
    refine .call ?_
    rintro log ⟨history, hpreparing, rfl⟩ _
    rw [List.append_assoc]
    refine hpreparing.sent hconversation hparticipant hline (by simp [SendEvent.isSent]) ?_
    have hsent : Honest (history ++ [.sent request (.ok status)]) :=
      hpreparing.unsent.honest.snoc nofun
    have hboth := hsent.snoc (e := .wrote update) fun update' heq haccepted => by
      cases heq
      obtain rfl := hupdate haccepted
      exact ⟨request, by simp⟩
    rwa [List.append_assoc] at hboth
  cases status with
  | success => exact hwrite _ fun _ => rfl
  | failure2 | failure3 | failure4 => exact hwrite _ nofun
  | other =>
    refine .pure ?_
    rintro log ⟨history, hpreparing, rfl⟩
    exact hpreparing.sent hconversation hparticipant hline nofun
      (hpreparing.unsent.honest.snoc nofun)

theorem sendOperation_ensures {context : Option ProviderOwnership} {supported : Bool} :
    Talk.Ensures (Preparing command line none [])
      (sendOperation world command maxMediaBytes line context supported)
      (fun _ => Proper command) (Proper command) := by
  unfold sendOperation
  refine .check (fun howned => ?_) fun _ h => h.proper
  simp only [Bool.and_eq_true, beq_iff_eq] at howned
  refine .check (fun _ => ?_) fun _ h => h.proper
  refine .bind (resolveConversation_ensures howned.2) fun c => ?_
  refine .bind (Preparing.call (fun _ => rfl) fun _ => rfl) fun _ => ?_
  refine .check (fun _ => ?_) fun _ h => h.1.proper
  split
  · exact .call fun _ h _ => (h.1.other rfl rfl).proper
  · next hroute =>
    have hline : ∀ found, line = some found →
        trim found.providerOutgoingId = trim c.defaultOutgoingId := by
      rintro found rfl
      simp only [Option.any_some, Bool.or_eq_true, bne_iff_ne, not_or, not_not] at hroute
      exact hroute.2
    refine .bind ((uploadAll_ensures command.message.mediaIds).mono (fun _ h => h.1) fun _ _ h => h)
      fun media => ?_
    refine .bind (.call (Q := fun answer log => ∃ history,
      Preparing command line (some c) command.message.mediaIds history ∧
        log = history ++ [.sent (sendRequest command.message c media) answer]) ?_) fun answer => ?_
    · intro history hpreparing answer
      exact ⟨history, hpreparing, rfl⟩
    · refine .bind (.ofExcept (Q := fun status log => ∃ history,
        Preparing command line (some c) command.message.mediaIds history ∧
          log = history ++ [.sent (sendRequest command.message c media) (.ok status)]) ?_ ?_)
        fun status => settle_ensures rfl rfl hline
      · rintro status rfl log h
        exact h
      · rintro log ⟨history, hpreparing, rfl⟩
        exact hpreparing.sent rfl rfl hline nofun (hpreparing.unsent.honest.snoc nofun)

theorem sendOperation_unowned {context : Option ProviderOwnership}
    {supported : Bool} (h : ¬ ∃ ownership, context = some ownership ∧
      ownership.key = ⟨command.tenantId, command.message.connectionId⟩ ∧
      ownership.fencingToken = command.fencingToken) :
    (sendOperation world command maxMediaBytes line context supported history).2 = history := by
  have hcheck : (context.isSome && (context.getD ⟨⟨"", ""⟩, "", 0⟩).key ==
      ⟨command.tenantId, command.message.connectionId⟩ &&
      (context.getD ⟨⟨"", ""⟩, "", 0⟩).fencingToken == command.fencingToken) = false := by
    cases context with
    | none => rfl
    | some ownership =>
      refine Bool.eq_false_iff.2 fun howned => h ⟨ownership, rfl, ?_⟩
      simpa only [Option.isSome_some, Option.getD_some, Bool.true_and, Bool.and_eq_true,
        beq_iff_eq] using howned
  unfold sendOperation
  simp only [hcheck]
  rfl

/-! ### SendOnce -/

theorem Proper.once (h : Proper command history) : (history.filter (·.isSent)).length ≤ 1 := by
  by_cases hsent : ∃ e ∈ history, e.isSent = true
  · obtain ⟨e, he, hsent⟩ := hsent
    cases e with
    | sent request answer =>
      obtain ⟨before, after, rfl⟩ := List.append_of_mem he
      have hothers := (h.sends before request answer after rfl).2
      have hbefore : before.filter (·.isSent) = [] := List.filter_eq_nil_iff.2 fun x hx =>
        Bool.eq_false_iff.1 (hothers x (List.mem_append_left after hx))
      have hafter : after.filter (·.isSent) = [] := List.filter_eq_nil_iff.2 fun x hx =>
        Bool.eq_false_iff.1 (hothers x (List.mem_append_right before hx))
      rw [List.filter_append, hbefore, List.filter_cons_of_pos rfl, hafter]
      exact Nat.le_refl 1
    | _ => cases hsent
  · rw [List.filter_eq_nil_iff.2 fun e he hsent' => hsent ⟨e, he, hsent'⟩]
    exact Nat.zero_le 1

theorem Honest.accepted (h : Honest history) {seen rest : History} (hseen : history = seen ++ rest)
    (haccepted : (resultOf seen).accepted = true) :
    ∃ request, SendEvent.sent request (.ok .success) ∈ history := by
  unfold resultOf at haccepted
  cases hlast : (seen.filterMap fun
      | .wrote update => some update
      | _ => none).getLast? with
  | none =>
    rw [hlast] at haccepted
    cases haccepted
  | some update =>
    rw [hlast, Option.getD_some] at haccepted
    obtain ⟨e, he, hwrote⟩ := List.mem_filterMap.1 (List.mem_of_getLast? hlast)
    cases e with
    | wrote update' =>
      cases hwrote
      obtain ⟨before, after, rfl⟩ := List.append_of_mem he
      have heq : history = before ++ .wrote update :: (after ++ rest) := by
        rw [hseen, List.append_assoc, List.cons_append]
      obtain ⟨request, hrequest⟩ := h before update _ heq haccepted
      exact ⟨request, by rw [heq]; exact List.mem_append_left _ hrequest⟩
    | _ => cases hwrote

inductive SendOnceCases (world : Collaborators) (command : ProviderSendCommand)
    (execution : Execution)
    (o : SendOutcome) : Prop
  | unsent (h : Unsent o.history) (hresult : o.result = {})
  | ran {context : Option ProviderOwnership} {supported : Bool} {left : Option (Nat × Err)}
      {line : Option SendLine} {maxMediaBytes : Int} {seen rest history : History}
      (hexecution : execution = .ran context supported left)
      (hhistory : Preparing command line none [] history)
      (hran : o.history =
        (sendOperation world command maxMediaBytes line context supported history).2)
      (hseen : o.history = seen ++ rest) (hresult : o.result = resultOf seen)

theorem sendOnce_cases (world : Collaborators) (command : ProviderSendCommand) (maxMediaBytes : Int)
    (execution : Execution) :
    SendOnceCases world command execution (sendOnce world command maxMediaBytes execution) := by
  unfold sendOnce
  split
  · exact .unsent ⟨nofun, nofun⟩ rfl
  · have hline := @requestedLine_ensures world command [] rfl
    split
    · next hrun =>
      rw [hrun] at hline
      exact .unsent hline rfl
    · next line history hrun =>
      rw [hrun] at hline
      split
      · exact .unsent hline.unsent rfl
      · next context supported left =>
        cases left with
        | none => exact .ran rfl hline rfl (List.append_nil _).symm rfl
        | some given => exact .ran rfl hline rfl (List.take_append_drop _ _).symm rfl

theorem SendOnceCases.proper {execution : Execution} {o : SendOutcome}
    (h : SendOnceCases world command execution o) : Proper command o.history := by
  cases h with
  | unsent h => exact h.proper
  | @ran context supported left line maxMediaBytes seen rest history _ hhistory hran =>
    have hoperation : Talk.Ensures (Preparing command line none [])
        (sendOperation world command maxMediaBytes line context supported)
        (fun _ => Proper command) (Proper command) := sendOperation_ensures
    have hproper := hoperation history hhistory
    rw [hran]
    cases hrun : sendOperation world command maxMediaBytes line context supported history with
    | mk answer history' =>
      rw [hrun] at hproper
      cases answer <;> exact hproper

/-- `SendOnce` sends at most once. What is sent runs under the claim of the command,
after all its media were uploaded in order, a new conversation was recorded for the
message, and the participant is the conversation's outgoing identity, white space
aside, and that of the line that was asked for. A result is accepted only if the
relay answered with success. -/
theorem sendOnce_sends_prepared (world : Collaborators) (command : ProviderSendCommand)
    (maxMediaBytes : Int) (execution : Execution) :
    let o := sendOnce world command maxMediaBytes execution
    (o.history.filter (·.isSent)).length ≤ 1 ∧
      (∀ before request answer after, o.history = before ++ .sent request answer :: after →
        Prepared command request before ∧
          ∃ ownership supported left, execution = .ran (some ownership) supported left ∧
            ownership.key = ⟨command.tenantId, command.message.connectionId⟩ ∧
            ownership.fencingToken = command.fencingToken) ∧
      (o.result.accepted = true → ∃ request, .sent request (.ok .success) ∈ o.history) := by
  intro o
  have hcases : SendOnceCases world command execution o :=
    sendOnce_cases world command maxMediaBytes execution
  have hproper := hcases.proper
  refine ⟨hproper.once, fun before request answer after heq =>
    ⟨(hproper.sends before request answer after heq).1, ?_⟩, fun haccepted => ?_⟩
  · have hmem : SendEvent.sent request answer ∈ o.history := by
      rw [heq]
      exact List.mem_append_right _ List.mem_cons_self
    cases hcases with
    | unsent h => cases h.sent _ hmem
    | @ran context supported left line bytes seen rest history hexecution hhistory hran =>
      by_contra hunowned
      rw [hran, sendOperation_unowned fun howned => ?_] at hmem
      · cases hhistory.unsent.sent _ hmem
      · obtain ⟨ownership, rfl, hkey, htoken⟩ := howned
        exact hunowned ⟨ownership, supported, left, hexecution, hkey, htoken⟩
  · cases hcases with
    | unsent h hresult =>
      rw [hresult] at haccepted
      cases haccepted
    | ran _ _ _ hseen hresult =>
      rw [hresult] at haccepted
      exact hproper.honest.accepted hseen haccepted

end

/-! ### An outgoing identity with white space around it -/

/-- Everything succeeds, and the conversation's outgoing identity is padded. -/
def paddedWorld : Collaborators where
  getLine _ _ := .ok ⟨"tenant", "phone", "7"⟩
  getConversation id _ := .ok { conversationId := id, defaultOutgoingId := " 7 " }
  getOrCreateConversation _ _ := .error ⟨"unexpected", []⟩
  recordCreatedConversation _ := .ok ()
  openMedia id _ := .ok { tenantId := "tenant", id := id, state := "ready", size := 1 }
  closeMedia _ _ := .ok ()
  uploadMedia _ _ := .ok [0]
  sendMessage _ _ := .ok .success

def paddedCommand : ProviderSendCommand where
  tenantId := "tenant"
  message :=
    { id := "m1"
      connectionId := "phone"
      conversationId := "chat"
      text := "hello"
      mediaIds := ["photo"]
      providerTmpId := "tmp"
      state := .queued
      createdAt := 1 }
  fencingToken := 1

theorem padded_participant_differs :
    (sendOnce paddedWorld paddedCommand 100 (.ran (some ⟨⟨"tenant", "phone"⟩, "worker", 1⟩) true
      none)).history.filterMap (fun
        | .fetched _ (.ok c) => some c.defaultOutgoingId
        | .sent request _ => some request.participantId
        | _ => none) = [" 7 ", "7"] := by
  decide +kernel

end MessagingGateway.Provider
