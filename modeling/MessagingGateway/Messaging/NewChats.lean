import MessagingGateway.Messaging.Idempotency

/-!
# New chats to one number

A new chat is validated by the number its recipient parses to, while its lane
and its digest are made from the recipient as it was spelled. Two new chats to
one number share a lane, and are one request under one key, exactly when they
spell the number alike.
-/

namespace MessagingGateway.Messaging

open Relational Domain Store Ingress Gateway Dispatch

def NewChat (s : Submission) : Prop := trim s.input.conversationId = ""

def SamePhone (s s' : Submission) : Prop :=
  parseE164 s.input.recipient = parseE164 s'.input.recipient

def SharedLane (db : Database) (message message' : OutboundMessage) : Prop :=
  ∃ row ∈ db.content.messages, ∃ row' ∈ db.content.messages, row.messageId = message.id ∧
    row'.messageId = message'.id ∧ row.orderingKey = row'.orderingKey

/-- The first submission once more over HTTP, to the recipient of the second. -/
structure Retries (s s' retry : Submission) : Prop where
  key : retry.idempotencyKey = s.idempotencyKey
  audit : retry.audit = none
  chat : NewChat retry
  connection : retry.input.connectionId = s.input.connectionId
  recipient : retry.input.recipient = s'.input.recipient
  text : retry.input.text = s.input.text
  media : retry.input.mediaIds = s.input.mediaIds

/-- Sending the content of the first submission to the recipient of the second is
answered with the first message. -/
def SameRequest (rt : Runtime) (db : Database) (s : Submission) (message : OutboundMessage)
    (s' : Submission) : Prop :=
  ∀ now ids retry, Retries s s' retry → retry.validate db.tenantId = .ok () →
    ∃ answer db', submit rt now ids retry db = .ok (answer, db') ∧ answer.id = message.id

variable {rt : Runtime} {db : Database} {trace : List Observation}

theorem newChat_route {s : Submission} (hchat : NewChat s) (h : validateRoute s.input = true) :
    s.input.lineId = "" ∧ s.input.routeMode = routeModePhoneDefault := by
  unfold validateRoute at h
  rw [NewChat] at hchat
  simp only [hchat, ne_eq, not_true, if_false, Bool.and_eq_true, beq_iff_eq] at h
  exact ⟨h.1.1.1.2, h.1.1.1.1⟩

theorem canonicalRequest_newChat {s : Submission} (hchat : NewChat s)
    (h : validateRoute s.input = true) : canonicalRequest s.input =
      [s.input.connectionId, "", trim s.input.recipient, "", routeModePhoneDefault, s.input.text] ++
        s.input.mediaIds := by
  obtain ⟨hline, hmode⟩ := newChat_route hchat h
  rw [NewChat] at hchat
  rw [canonicalRequest, hchat, hline, hmode]

theorem Ledger.newChat_lane (h : Ledger rt trace db) (hfree : CollisionFree rt (submissions trace))
    {e : Submission × OutboundMessage} (he : e ∈ acceptances trace) (hchat : NewChat e.1) :
    ∃ row ∈ db.content.messages, row.messageId = e.2.id ∧ row.providerTmpId.isSome ∧
      row.orderingKey = "new:" ++ trim e.1.input.recipient := by
  obtain ⟨r, hr, -, hdigest, hid⟩ := (h.accepted e he).key
  obtain ⟨first, hfirst⟩ := h.recorded r hr
  obtain ⟨row, hrow, hmessage, hqueued⟩ := hfirst.row
  have hrequest := hfree.request_eq hfirst.submitted (mem_submissions_of_acceptance he)
    (hfirst.digest.symm.trans hdigest)
  simp only [canonicalRequest, List.cons_append, List.cons.injEq] at hrequest
  obtain ⟨-, hconversation, hrecipient, -⟩ := hrequest
  refine ⟨row, hrow, hmessage.trans hid, hqueued.tmpId, ?_⟩
  rw [← hrecipient]
  exact hqueued.lane (hconversation.trans hchat)

theorem sharedLane_iff (h : Ledger rt trace db) (hfree : CollisionFree rt (submissions trace))
    {e e' : Submission × OutboundMessage} (he : e ∈ acceptances trace)
    (he' : e' ∈ acceptances trace) (hchat : NewChat e.1) (hchat' : NewChat e'.1) :
    SharedLane db e.2 e'.2 ↔ trim e.1.input.recipient = trim e'.1.input.recipient := by
  obtain ⟨row, hrow, hid, -, hlane⟩ := h.newChat_lane hfree he hchat
  obtain ⟨row', hrow', hid', -, hlane'⟩ := h.newChat_lane hfree he' hchat'
  constructor
  · rintro ⟨row₁, hrow₁, row₂, hrow₂, hid₁, hid₂, hsame⟩
    rw [Table.eq_of_key_eq hrow₁ hrow (hid₁.trans hid.symm),
      Table.eq_of_key_eq hrow₂ hrow' (hid₂.trans hid'.symm), hlane, hlane'] at hsame
    exact (String.append_right_inj _).1 hsame
  · intro hsame
    exact ⟨row, hrow, row', hrow', hid, hid', by rw [hlane, hlane', hsame]⟩

theorem sameRequest_of_recipient (h : Ledger rt trace db)
    (hfree : CollisionFree rt (submissions trace)) {e : Submission × OutboundMessage}
    {s' : Submission} (he : e ∈ acceptances trace) (hchat : NewChat e.1)
    (hsame : trim e.1.input.recipient = trim s'.input.recipient) :
    SameRequest rt db e.1 e.2 s' := by
  intro now ids retry hretry hvalid
  obtain ⟨row, hrow, hid, htmp, -⟩ := h.newChat_lane hfree he hchat
  obtain ⟨r, hfound, hdigest, hmessage, -⟩ := h.again he
  have hrequest : canonicalRequest e.1.input = canonicalRequest retry.input := by
    rw [canonicalRequest_newChat hchat (h.accepted e he).route,
      canonicalRequest_newChat hretry.chat (validateRoute_of_valid hvalid), hretry.connection,
      hretry.recipient, hretry.text, hretry.media, hsame]
  have hdigest' : r.requestDigest = canonicalRequestDigest rt retry.input := by
    rw [hdigest, canonicalRequestDigest, canonicalRequestDigest, canonicalEncoding,
      canonicalEncoding, hrequest]
  have hload : loadOutboundMessage r.messageId db = .ok (readMessage db row) :=
    loadOutboundMessage_ok.2
      ⟨row, by rw [hmessage, ← hid]; exact Table.find?_of_mem hrow, htmp, rfl⟩
  rw [← hretry.key] at hfound
  exact ⟨_, db, submit_again hvalid hretry.audit hfound hdigest' hload, hid⟩

/-- Two accepted new chats of one connection share a lane and a request whenever
they go to one number, exactly if they spell that number alike. -/
theorem new_chats_share_iff {db₀ : Database} (hnew : NewTenant db₀)
    (hrun : Run (deskStep rt) Admissible db₀ trace db)
    (hfree : CollisionFree rt (submissions trace)) {e e' : Submission × OutboundMessage}
    (he : e ∈ acceptances trace) (he' : e' ∈ acceptances trace) (hchat : NewChat e.1)
    (hchat' : NewChat e'.1) :
    (e.1.input.connectionId = e'.1.input.connectionId → SamePhone e.1 e'.1 →
        SharedLane db e.2 e'.2 ∧ SameRequest rt db e.1 e.2 e'.1) ↔
      (e.1.input.connectionId = e'.1.input.connectionId → SamePhone e.1 e'.1 →
        trim e.1.input.recipient = trim e'.1.input.recipient) := by
  have h := run_ledger hnew hrun
  have hshared := sharedLane_iff h hfree he he' hchat hchat'
  constructor
  · intro hclaim hconnection hphone
    exact hshared.1 (hclaim hconnection hphone).1
  · intro hspelled hconnection hphone
    have hsame := hspelled hconnection hphone
    exact ⟨hshared.2 hsame, sameRequest_of_recipient h hfree he hchat hsame⟩

def textBoth (recipient recipient' : String) (h : recipient.utf8ByteSize < 2 ^ 63 := by decide)
    (h' : recipient'.utf8ByteSize < 2 ^ 63 := by decide) : List (Time × Request) :=
  [(1, .submit (createIds "1") (texting "key-1" recipient "m1" h)),
    (2, .submit (createIds "2") (texting "key-2" recipient' "m2" h'))]

def answered (s : Submission) : Submission × OutboundMessage :=
  (s, s.message phoneRuntime "tenant")

theorem textBoth_shares :
    SamePhone (texting "key-1" "+14155550100" "m1") (texting "key-2" "+14155550100 " "m2") ∧
      SharedLane (execute (deskStep phoneRuntime) (textBoth "+14155550100" "+14155550100 ")
        phoneDatabase).2 (answered (texting "key-1" "+14155550100" "m1")).2
        (answered (texting "key-2" "+14155550100 " "m2")).2 := by
  have haccepted : ∀ e ∈ [answered (texting "key-1" "+14155550100" "m1"),
      answered (texting "key-2" "+14155550100 " "m2")], e ∈ acceptances (execute
      (deskStep phoneRuntime) (textBoth "+14155550100" "+14155550100 ") phoneDatabase).1 := by
    decide +kernel
  have hfree : CollisionFree phoneRuntime (submissions (execute (deskStep phoneRuntime)
      (textBoth "+14155550100" "+14155550100 ") phoneDatabase).1) := by
    -- the two requests have one encoding
    have hsame : ∀ s ∈ submissions (execute (deskStep phoneRuntime)
        (textBoth "+14155550100" "+14155550100 ") phoneDatabase).1, canonicalEncoding s.input =
        canonicalEncoding (texting "key-1" "+14155550100" "m1").input := by decide +kernel
    rintro bytes ⟨s, hs, rfl⟩ bytes' ⟨s', hs', rfl⟩ -
    rw [hsame s hs, hsame s' hs']
  have hphone : SamePhone (texting "key-1" "+14155550100" "m1")
      (texting "key-2" "+14155550100 " "m2") := by
    unfold SamePhone
    decide +kernel
  refine ⟨hphone, ((new_chats_share_iff phoneDatabase_new
    (Run.of_inputs (textBoth "+14155550100" "+14155550100 ") ⟨trivial, trivial, trivial⟩) hfree
    (haccepted _ List.mem_cons_self) (haccepted _ (List.mem_cons_of_mem _ List.mem_cons_self))
    ?_ ?_).2 ?_ rfl hphone).1⟩
  · unfold NewChat
    decide +kernel
  · unfold NewChat
    decide +kernel
  · exact fun _ _ => by decide +kernel

/-- The same number with its usual punctuation is another lane and another
request. -/
theorem spelled_number_splits : ∃ trace db, ∃ e ∈ acceptances trace, ∃ e' ∈ acceptances trace,
    Run (deskStep phoneRuntime) Admissible phoneDatabase trace db ∧ NewChat e.1 ∧ NewChat e'.1 ∧
      e.1.input.connectionId = e'.1.input.connectionId ∧ SamePhone e.1 e'.1 ∧
      ¬SharedLane db e.2 e'.2 ∧
      submit phoneRuntime 3 (createIds "3") (texting "key-1" "+1 (415) 555-0100" "m3") db =
        .error Sentinel.idempotencyConflict.err := by
  have haccepted : acceptances (execute (deskStep phoneRuntime)
      (textBoth "+14155550100" "+1 (415) 555-0100") phoneDatabase).1 =
      [answered (texting "key-1" "+14155550100" "m1"),
        answered (texting "key-2" "+1 (415) 555-0100" "m2")] := by decide +kernel
  refine ⟨_, _, answered (texting "key-1" "+14155550100" "m1"), ?_,
    answered (texting "key-2" "+1 (415) 555-0100" "m2"), ?_,
    Run.of_inputs (textBoth "+14155550100" "+1 (415) 555-0100") ⟨trivial, trivial, trivial⟩,
    ?_, ?_, rfl, ?_, ?_, by decide +kernel⟩
  · simp [haccepted]
  · simp [haccepted]
  · unfold NewChat
    decide +kernel
  · unfold NewChat
    decide +kernel
  · unfold SamePhone
    decide +kernel
  · unfold SharedLane
    decide +kernel

end MessagingGateway.Messaging
