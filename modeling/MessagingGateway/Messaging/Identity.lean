import MessagingGateway.Messaging.Lanes

/-!
# The identity of provider messages

A stored message is bound to the provider message it was seen as. The lookup of a
projection asks for the tmp ID before the provider ID, and the update after it
writes the projected provider ID over the stored one. So a binding lasts as long
as the two identifiers of every projection agree: the tmp ID names the message
that is bound to the provider ID, or one that is not bound while no other is.
-/

namespace MessagingGateway.Messaging

open Relational Domain Store Ingress Gateway Dispatch

def ProviderKey (messages : Table MessageRow.messageId) : Prop :=
  ∀ row ∈ messages, ∀ other ∈ messages, row.connectionId = other.connectionId →
    row.providerMessageId.isSome → row.providerMessageId = other.providerMessageId → row = other

/-- The tmp ID of a projection names no message but that of its provider ID. -/
def Agrees (messages : Table MessageRow.messageId) (connectionId : String)
    (projected : ProjectedMessage) : Prop :=
  projected.providerTmpId ≠ "" → ∀ row ∈ messages, row.connectionId = connectionId →
    row.providerTmpId = some projected.providerTmpId →
      row.providerMessageId = some projected.providerMessageId ∨
        (row.providerMessageId = none ∧ ∀ other ∈ messages, other.connectionId = connectionId →
          other.providerMessageId ≠ some projected.providerMessageId)

structure AllAgree (messages : Table MessageRow.messageId) (connectionId : String)
    (projected : List ProjectedMessage) : Prop where
  agrees : ∀ p ∈ projected, Agrees messages connectionId p
  apart : projected.Pairwise fun p q => q.providerTmpId ≠ "" → p.providerTmpId ≠ q.providerTmpId

def Agreeing (db : Database) (call : Call) : Prop :=
  match call.2 with
  | .commitEnvelope _ record =>
    AllAgree db.content.messages record.connectionId record.projection.messages
  | _ => True

instance (db : Database) (call : Call) : Decidable (Agreeing db call) := by
  have agree : ∀ connectionId projected,
      Decidable (AllAgree db.content.messages connectionId projected) :=
        fun connectionId projected =>
    have : ∀ p, Decidable (Agrees db.content.messages connectionId p) := fun p => by
      unfold Agrees
      infer_instance
    decidable_of_iff (_ ∧ _) ⟨fun h => ⟨h.1, h.2⟩, fun h => ⟨h.agrees, h.apart⟩⟩
  obtain ⟨_, operation⟩ := call
  induction operation using Operation.casesOn with
  | commitEnvelope _ record => exact agree _ _
  | _ => exact .isTrue trivial

def BindingsKept (messages messages' : Table MessageRow.messageId) : Prop :=
  ∀ row ∈ messages, row.providerMessageId.isSome → ∃ row' ∈ messages',
    row'.messageId = row.messageId ∧ row'.connectionId = row.connectionId ∧
      row'.providerMessageId = row.providerMessageId

theorem BindingsKept.refl (messages : Table MessageRow.messageId) :
    BindingsKept messages messages := fun row hrow _ => ⟨row, hrow, rfl, rfl, rfl⟩

theorem BindingsKept.trans {t₁ t₂ t₃ : Table MessageRow.messageId} (h : BindingsKept t₁ t₂)
    (h' : BindingsKept t₂ t₃) : BindingsKept t₁ t₃ := by
  intro row hrow hbound
  obtain ⟨row', hrow', hid, hconnection, hprovider⟩ := h row hrow hbound
  obtain ⟨row'', hrow'', hid', hconnection', hprovider'⟩ := h' row' hrow' (hprovider ▸ hbound)
  exact ⟨row'', hrow'', hid'.trans hid, hconnection'.trans hconnection, hprovider'.trans hprovider⟩

/-! ### The lookup -/

section

variable {db : Database} {connectionId providerMessageId providerTmpId : String}

theorem lockProjectedMessage_cases {row : MessageRow}
    (h : lockProjectedMessage connectionId providerMessageId providerTmpId db = some row) :
    row ∈ db.content.messages ∧ row.connectionId = connectionId ∧
      ((providerTmpId ≠ "" ∧ row.providerTmpId = some providerTmpId) ∨
        row.providerMessageId = some providerMessageId) := by
  refine ⟨mem_of_lockProjectedMessage h, ?_⟩
  rcases (Option.orElse_eq_some _ _ _).1 h with h | ⟨-, h⟩
  · have hrow := List.find?_some h
    simp only [Bool.and_eq_true, beq_iff_eq, bne_iff_ne] at hrow
    exact ⟨hrow.1.1, .inl ⟨hrow.1.2, hrow.2⟩⟩
  · have hrow := List.find?_some h
    simp only [Bool.and_eq_true, beq_iff_eq] at hrow
    exact ⟨hrow.1, .inr hrow.2⟩

theorem lockProjectedMessage_ne_none {row : MessageRow} (hrow : row ∈ db.content.messages)
    (hconnection : row.connectionId = connectionId)
    (hbound : row.providerMessageId = some providerMessageId) :
    lockProjectedMessage connectionId providerMessageId providerTmpId db ≠ none := by
  intro hnone
  have hlast := ((Option.orElse_eq_none _ _).1 hnone).2
  have hmiss := List.find?_eq_none.1 hlast row hrow
  simp [hconnection, hbound] at hmiss

theorem lockProjectedMessage_bound {projected : ProjectedMessage} {row found : MessageRow}
    (hkey : ProviderKey db.content.messages)
    (hagrees : Agrees db.content.messages connectionId projected)
    (hrow : row ∈ db.content.messages) (hconnection : row.connectionId = connectionId)
    (hbound : row.providerMessageId = some projected.providerMessageId)
    (hfound : lockProjectedMessage connectionId projected.providerMessageId
      projected.providerTmpId db = some found) : found = row := by
  obtain ⟨hmem, hsame, hnamed⟩ := lockProjectedMessage_cases hfound
  have same : found.providerMessageId = some projected.providerMessageId → found = row := fun h =>
    hkey found hmem row hrow (hsame.trans hconnection.symm) (by simp [h]) (h.trans hbound.symm)
  rcases hnamed with ⟨htmp, hrowTmp⟩ | hprovider
  · rcases hagrees htmp found hmem hsame hrowTmp with hprovider | ⟨-, hother⟩
    · exact same hprovider
    · exact absurd hbound (hother row hrow hconnection)
  · exact same hprovider

end

/-! ### One projection -/

/-- Every row after a projection is bound as a row before, or to the projected
message under the projected tmp ID. -/
def Binds (messages messages' : Table MessageRow.messageId) (connectionId : String)
    (projected : ProjectedMessage) : Prop :=
  ∀ row' ∈ messages',
    (∃ row ∈ messages, row'.connectionId = row.connectionId ∧
      row'.providerTmpId = row.providerTmpId ∧ row'.providerMessageId = row.providerMessageId) ∨
    (row'.connectionId = connectionId ∧
      row'.providerMessageId = some projected.providerMessageId ∧
      ∀ tmpId, row'.providerTmpId = some tmpId → tmpId = projected.providerTmpId)

theorem Agrees.of_binds {messages messages' : Table MessageRow.messageId} {connectionId : String}
    {projected other : ProjectedMessage} (h : Agrees messages connectionId other)
    (hbinds : Binds messages messages' connectionId projected)
    (hprovider : projected.providerMessageId ≠ other.providerMessageId)
    (htmp : other.providerTmpId ≠ "" → projected.providerTmpId ≠ other.providerTmpId) :
    Agrees messages' connectionId other := by
  intro hnamed row' hrow' hconnection hrowTmp
  rcases hbinds row' hrow' with ⟨row, hrow, hsame, hsameTmp, hsameProvider⟩ | ⟨-, -, hnew⟩
  · rcases h hnamed row hrow (hsame ▸ hconnection) (hsameTmp ▸ hrowTmp) with hbound | ⟨hnone, hfree⟩
    · exact .inl (hsameProvider.trans hbound)
    · refine .inr ⟨hsameProvider.trans hnone, fun after hafter hafterConnection hafterBound => ?_⟩
      rcases hbinds after hafter with ⟨before, hbefore, hc, -, hp⟩ | ⟨-, hp, -⟩
      · exact hfree before hbefore (hc ▸ hafterConnection) (hp ▸ hafterBound)
      · exact hprovider (Option.some.inj (hp.symm.trans hafterBound))
  · exact absurd (hnew _ hrowTmp).symm (htmp hnamed)

section

variable {rt : Runtime} {now : Time} {ids : MessageIds} {record : EnvelopeRecord}
  {projected : ProjectedMessage} {db db' : Database}

inductive Stored (connectionId messageId : String) (projected : ProjectedMessage) (now : Time)
    (db : Database) (messages : Table MessageRow.messageId) : Prop
  | inserted
      (unclashed : ∀ row ∈ db.content.messages,
        (projectedRow connectionId messageId projected now).clashes row = false)
      (insert : db.content.messages.insert (projectedRow connectionId messageId projected now) =
        some messages)
  | reconciled {row : MessageRow} (direction : Direction) (state : MessageState)
      (found : lockProjectedMessage connectionId projected.providerMessageId
        projected.providerTmpId db = some row)
      (alone : ∀ other ∈ db.content.messages, other.messageId ≠ row.messageId →
        other.connectionId = row.connectionId → projected.providerMessageId ≠ "" →
          other.providerMessageId ≠ some projected.providerMessageId)
      (update : messages = db.content.messages.update (fun r => r.messageId == row.messageId)
        (fun r => r.reconcile projected direction state))

theorem projectMessage_stored (h : MessagePath rt now ids record projected db db') :
    Stored record.connectionId ids.messageId projected now db db'.content.messages := by
  cases h with
  | inserted _ hinsert hstatus =>
    have hmessages := congrArg Book.messages (insertInboundStatus_book hstatus)
    have hunclashed : ∀ row ∈ db.content.messages,
        (projectedRow record.connectionId ids.messageId projected now).clashes row = false := by
      simp only [insertProjected, bind_ok, require_ok, Bool.not_eq_true', List.any_eq_false,
        Bool.not_eq_true] at hinsert
      exact hinsert.choose_spec.1
    obtain ⟨log, hlog, rfl⟩ := insertProjected_ok hinsert
    refine .inserted hunclashed ?_
    rw [show db'.content.messages = _ from hmessages]
    exact (MessageLog.insertMessage_eq_some hlog).1
  | @reconciled row direction updated audited hfound _ hupdate hstatus hannounce =>
    have hmessages : db'.content.messages = updated.content.messages :=
      (congrArg Book.messages (bookOf_eventsOnly (announceTransition_ok hannounce))).trans
        (congrArg Book.messages (insertInboundStatus_book hstatus))
    have halone : ∀ other ∈ db.content.messages, other.messageId ≠ row.messageId →
        other.connectionId = row.connectionId → projected.providerMessageId ≠ "" →
          other.providerMessageId ≠ some projected.providerMessageId := by
      simp only [updateProjected, bind_ok, require_ok, Bool.not_eq_true', List.any_eq_false]
        at hupdate
      intro other hother hid hconnection hprovider hbound
      refine hupdate.choose_spec.1 other hother ?_
      simp [hid, hconnection, hprovider, hbound]
    refine .reconciled direction (reconciledState row projected.state db) hfound halone ?_
    rw [hmessages, updateProjected_ok hupdate]
    rfl

theorem reconcile_providerMessageId (row : MessageRow) (projected : ProjectedMessage)
    (direction : Direction) (state : MessageState) :
    (row.reconcile projected direction state).providerMessageId =
      if projected.providerMessageId = "" then row.providerMessageId
      else some projected.providerMessageId := by
  by_cases hempty : projected.providerMessageId = ""
  · simp [MessageRow.reconcile, nullIf, hempty]
  · simp [MessageRow.reconcile, nullIf, hempty]

variable {connectionId messageId : String} {messages : Table MessageRow.messageId}

theorem found_provider {row : MessageRow}
    (hagrees : Agrees db.content.messages connectionId projected)
    (hfound : lockProjectedMessage connectionId projected.providerMessageId projected.providerTmpId
      db = some row) :
    row.providerMessageId = some projected.providerMessageId ∨
      (row.providerMessageId = none ∧ row.providerTmpId = some projected.providerTmpId) := by
  obtain ⟨hmem, hconnection, ⟨htmp, hrowTmp⟩ | hprovider⟩ := lockProjectedMessage_cases hfound
  · rcases hagrees htmp row hmem hconnection hrowTmp with hprovider | ⟨hnone, -⟩
    · exact .inl hprovider
    · exact .inr ⟨hnone, hrowTmp⟩
  · exact .inl hprovider

theorem Stored.binds (h : Stored connectionId messageId projected now db messages)
    (hagrees : Agrees db.content.messages connectionId projected) :
    Binds db.content.messages messages connectionId projected := by
  intro row' hrow'
  cases h with
  | inserted _ hinsert =>
    rcases (Table.mem_insert hinsert).1 hrow' with hold | rfl
    · exact .inl ⟨row', hold, rfl, rfl, rfl⟩
    · refine .inr ⟨rfl, rfl, fun tmpId htmp => ?_⟩
      simp only [projectedRow, nullIf] at htmp
      split at htmp
      · cases htmp
      · exact (Option.some.inj htmp).symm
  | @reconciled row direction state hfound _ hupdate =>
    obtain ⟨hmem, hconnection, -⟩ := lockProjectedMessage_cases hfound
    rw [hupdate] at hrow'
    obtain ⟨before, hbefore, rfl⟩ := Table.mem_update.1 hrow'
    by_cases hid : before.messageId = row.messageId
    · obtain rfl := Table.eq_of_key_eq hbefore hmem hid
      simp only [beq_self_eq_true, if_true]
      have hprovider := reconcile_providerMessageId before projected direction state
      rcases found_provider hagrees hfound with hbound | ⟨hnone, htmp⟩
      · refine .inl ⟨before, hmem, rfl, rfl, ?_⟩
        rw [hprovider, hbound]
        exact ite_self _
      · by_cases hempty : projected.providerMessageId = ""
        · refine .inl ⟨before, hmem, rfl, rfl, ?_⟩
          rw [hprovider, if_pos hempty]
        · refine .inr ⟨hconnection, ?_, fun tmpId h => ?_⟩
          · rw [hprovider, if_neg hempty]
          · exact Option.some.inj (h.symm.trans htmp)
    · refine .inl ⟨before, hbefore, ?_⟩
      simp [hid]

theorem Stored.kept (h : Stored connectionId messageId projected now db messages)
    (hagrees : Agrees db.content.messages connectionId projected) :
    BindingsKept db.content.messages messages := by
  intro row hrow hbound
  cases h with
  | inserted _ hinsert => exact ⟨row, (Table.mem_insert hinsert).2 (.inl hrow), rfl, rfl, rfl⟩
  | @reconciled found direction state hfound _ hupdate =>
    refine ⟨_, hupdate ▸ Table.mem_update.2 ⟨row, hrow, rfl⟩, ?_⟩
    by_cases hid : row.messageId = found.messageId
    · obtain rfl := Table.eq_of_key_eq hrow (mem_of_lockProjectedMessage hfound) hid
      simp only [beq_self_eq_true, if_true]
      refine ⟨rfl, rfl, ?_⟩
      rw [reconcile_providerMessageId]
      rcases found_provider hagrees hfound with hprovider | ⟨hnone, -⟩
      · rw [hprovider]
        exact ite_self _
      · simp [hnone] at hbound
    · simp [hid]

theorem Stored.key (h : Stored connectionId messageId projected now db messages)
    (hkey : ProviderKey db.content.messages) : ProviderKey messages := by
  intro row hrow other hother hconnection hsome hsame
  cases h with
  | inserted hunclashed hinsert =>
    have unclashed : ∀ old ∈ db.content.messages,
        ¬ (old.connectionId = connectionId ∧
          old.providerMessageId = some projected.providerMessageId) := fun old hold hclash => by
      have hfree := hunclashed old hold
      simp [MessageRow.clashes, projectedRow, hclash.1, hclash.2] at hfree
    rcases (Table.mem_insert hinsert).1 hrow with hold | rfl <;>
      rcases (Table.mem_insert hinsert).1 hother with hold' | rfl
    · exact hkey row hold other hold' hconnection hsome hsame
    · exact absurd ⟨hconnection, hsame⟩ (unclashed row hold)
    · exact absurd ⟨hconnection.symm, hsame.symm⟩ (unclashed other hold')
    · rfl
  | @reconciled found direction state hfound halone hupdate =>
    have hmem := mem_of_lockProjectedMessage hfound
    -- no other row has the provider ID of the row that was found
    have alone : ∀ old ∈ db.content.messages, old.messageId ≠ found.messageId →
        old.connectionId = found.connectionId → old.providerMessageId.isSome →
        (found.reconcile projected direction state).providerMessageId ≠ old.providerMessageId := by
      intro old hold hid hsameConnection hbound heq
      rw [reconcile_providerMessageId] at heq
      split at heq
      · exact hid (congrArg _ (hkey old hold found hmem hsameConnection hbound heq.symm))
      · next hprovider => exact halone old hold hid hsameConnection hprovider heq.symm
    rw [hupdate] at hrow hother
    obtain ⟨before, hbefore, rfl⟩ := Table.mem_update.1 hrow
    obtain ⟨before', hbefore', rfl⟩ := Table.mem_update.1 hother
    by_cases hid : before.messageId = found.messageId <;>
      by_cases hid' : before'.messageId = found.messageId
    · rw [Table.eq_of_key_eq hbefore hmem hid, Table.eq_of_key_eq hbefore' hmem hid']
    · obtain rfl := Table.eq_of_key_eq hbefore hmem hid
      simp only [beq_self_eq_true, if_true, beq_iff_eq, hid', if_false] at hconnection hsome hsame
      exact absurd hsame (alone before' hbefore' hid' hconnection.symm (hsame ▸ hsome))
    · obtain rfl := Table.eq_of_key_eq hbefore' hmem hid'
      simp only [beq_self_eq_true, if_true, beq_iff_eq, hid, if_false] at hconnection hsome hsame
      exact absurd hsame.symm (alone before hbefore hid hconnection hsome)
    · simp only [beq_iff_eq, hid, hid', if_false] at hconnection hsome hsame ⊢
      exact hkey before hbefore before' hbefore' hconnection hsome hsame

theorem projectMessage_resolved {result : Projected}
    (h : projectMessage rt now ids record projected db = .ok (result, db'))
    (hkey : ProviderKey db.content.messages)
    (hagrees : Agrees db.content.messages record.connectionId projected) :
    result.providerMessageId = projected.providerMessageId ∧
      ∀ row ∈ db.content.messages, row.connectionId = record.connectionId →
        row.providerMessageId = some projected.providerMessageId →
          result.messageId = row.messageId := by
  unfold projectMessage at h
  split at h
  · next hnone =>
      simp only [bind_ok, pure_pair] at h
      obtain ⟨_, -, _, -, rfl, -⟩ := h
      refine ⟨rfl, fun row hrow hconnection hbound => ?_⟩
      exact absurd hnone (lockProjectedMessage_ne_none hrow hconnection hbound)
  · next found hfound =>
      simp only [bind_ok, pure_pair] at h
      obtain ⟨_, -, _, -, _, -, _, -, rfl, -⟩ := h
      refine ⟨rfl, fun row hrow hconnection hbound => ?_⟩
      have hsame := lockProjectedMessage_bound hkey hagrees hrow hconnection hbound hfound
      exact congrArg MessageRow.messageId hsame

end

/-! ### The loop over an envelope -/

section

variable {rt : Runtime} {now : Time} {record : EnvelopeRecord} {db db' : Database}

theorem AllAgree.tail {messages messages' : Table MessageRow.messageId} {connectionId : String}
    {projected : ProjectedMessage} {rest : List ProjectedMessage}
    (h : AllAgree messages connectionId (projected :: rest))
    (hnodup : ((projected :: rest).map (·.providerMessageId)).Nodup)
    (hbinds : Binds messages messages' connectionId projected) :
    AllAgree messages' connectionId rest := by
  obtain ⟨hapart, hrest⟩ := List.pairwise_cons.1 h.apart
  rw [List.map_cons, List.nodup_cons] at hnodup
  refine ⟨fun other hother => ?_, hrest⟩
  refine (h.agrees other (List.mem_cons_of_mem _ hother)).of_binds hbinds ?_ (hapart other hother)
  intro hsame
  exact hnodup.1 (List.mem_map.2 ⟨other, hother, hsame.symm⟩)

theorem projectMessages_identity {ids : Nat → MessageIds} {index : Nat}
    {messages : List ProjectedMessage} {done results : List Projected}
    (h : projectMessages rt now ids record index messages done db = .ok (results, db'))
    (hkey : ProviderKey db.content.messages)
    (hagree : AllAgree db.content.messages record.connectionId messages)
    (hnodup : (messages.map (·.providerMessageId)).Nodup) :
    ProviderKey db'.content.messages ∧
      BindingsKept db.content.messages db'.content.messages ∧
      ∀ result ∈ results, result ∈ done ∨
        ∀ row ∈ db.content.messages, row.connectionId = record.connectionId →
          row.providerMessageId = some result.providerMessageId →
            result.messageId = row.messageId := by
  induction messages generalizing index done db with
  | nil =>
    simp only [projectMessages, pure_pair] at h
    obtain ⟨rfl, rfl⟩ := h
    exact ⟨hkey, .refl _, fun result hresult => .inl hresult⟩
  | cons projected messages ih =>
    simp only [projectMessages, bind_ok] at h
    obtain ⟨⟨first, db₁⟩, hfirst, h⟩ := h
    have hagrees := hagree.agrees projected List.mem_cons_self
    have hstored := projectMessage_stored (projectMessage_ok hfirst)
    have hkept := hstored.kept hagrees
    obtain ⟨hkey', hkept', hresults⟩ := ih h (hstored.key hkey)
      (hagree.tail hnodup (hstored.binds hagrees)) (List.nodup_cons.1 hnodup).2
    refine ⟨hkey', hkept.trans hkept', fun result hresult => ?_⟩
    rcases hresults result hresult with hmem | hlater
    · rcases List.mem_cons.1 hmem with rfl | hdone
      · obtain ⟨hprovider, hresolved⟩ := projectMessage_resolved hfirst hkey hagrees
        rw [hprovider]
        exact .inr hresolved
      · exact .inl hdone
    · right
      intro row hrow hconnection hbound
      obtain ⟨row', hrow', hid, hsame, hprovider⟩ := hkept row hrow (by simp [hbound])
      rw [← hid]
      exact hlater row' hrow' (hsame.trans hconnection) (hprovider.trans hbound)

theorem commitEnvelope_identity {ids : CommitIds} {result : CommitResult}
    (h : commitEnvelope rt now ids record db = .ok (result, db'))
    (hkey : ProviderKey db.content.messages)
    (hagree : AllAgree db.content.messages record.connectionId record.projection.messages) :
    ProviderKey db'.content.messages ∧ BindingsKept db.content.messages db'.content.messages := by
  cases commitEnvelope_committed h with
  | unread _ hbook _ =>
    rw [show db'.content.messages = _ from congrArg Book.messages hbook]
    exact ⟨hkey, .refl _⟩
  | projected _ _ hvalid hsame _ hopened hproject _ hclosed _ _ =>
    have hbefore := congrArg Book.messages hopened
    have hafter := congrArg Book.messages hclosed
    simp only [Book.route, Book.link, bookOf] at hbefore hafter
    have hnodup := hsame ▸ validateProjection_distinct hvalid
    rw [← hbefore] at hkey hagree ⊢
    rw [hafter]
    obtain ⟨hkey', hkept, -⟩ := projectMessages_identity hproject hkey hagree hnodup
    exact ⟨hkey', hkept⟩

end

/-! ### Runs -/

/-- The provider IDs are unique and the bound messages of a book stay so. -/
structure IdentityKept (b b' : Book) : Prop where
  key : ProviderKey b.messages → ProviderKey b'.messages
  kept : BindingsKept b.messages b'.messages

theorem IdentityKept.update {b : Book} {messageId : String} {f : MessageRow → MessageRow}
    {hf : ∀ r, (f r).messageId = r.messageId}
    (hconnection : ∀ r, (f r).connectionId = r.connectionId)
    (hprovider : ∀ r, (f r).providerMessageId = r.providerMessageId) :
    IdentityKept b (b.update messageId f hf) := by
  have same : ∀ row : MessageRow, ∀ g : MessageRow,
      (if row.messageId = messageId then f row else row) = g →
      g.messageId = row.messageId ∧ g.connectionId = row.connectionId ∧
        g.providerMessageId = row.providerMessageId := by
    rintro row g rfl
    split
    · exact ⟨hf row, hconnection row, hprovider row⟩
    · exact ⟨rfl, rfl, rfl⟩
  refine ⟨fun hkey row hrow other hother hc hsome hp => ?_, fun row hrow _ => ?_⟩
  · obtain ⟨before, hbefore, hg⟩ := mem_bookUpdate.1 hrow
    obtain ⟨before', hbefore', hg'⟩ := mem_bookUpdate.1 hother
    obtain ⟨-, hc₁, hp₁⟩ := same before row hg
    obtain ⟨-, hc₂, hp₂⟩ := same before' other hg'
    have heq := hkey before hbefore before' hbefore' (hc₁ ▸ hc₂ ▸ hc) (hp₁ ▸ hsome)
      (hp₁ ▸ hp₂ ▸ hp)
    rw [← hg, ← hg', heq]
  · obtain ⟨hid, hc, hp⟩ := same row _ rfl
    exact ⟨_, mem_bookUpdate.2 ⟨row, hrow, rfl⟩, hid, hc, hp⟩

theorem Write.identity {b b' : Book} (h : Write b b') : IdentityKept b b' := by
  cases h with
  | moved => exact .update (fun _ => rfl) fun _ => rfl
  | assigned row route _ _ _ _ _ _ =>
    have hrow : IdentityKept b (b.update row.messageId fun r =>
        { r with conversationId := route.conversationId }) := .update (fun _ => rfl) fun _ => rfl
    exact ⟨hrow.key, hrow.kept⟩

theorem Queued.identity {command : CreateOutbound} {b b' : Book} (h : Queued command b b') :
    IdentityKept b b' := by
  obtain ⟨orderingKey, -, hinsert⟩ := h.insert
  refine ⟨fun hkey row hrow other hother hc hsome hp => ?_, fun row hrow _ =>
    ⟨row, (Table.mem_insert hinsert).2 (.inl hrow), rfl, rfl, rfl⟩⟩
  -- the new message is bound to nothing
  rcases (Table.mem_insert hinsert).1 hrow with hold | rfl
  · rcases (Table.mem_insert hinsert).1 hother with hold' | rfl
    · exact hkey row hold other hold' hc hsome hp
    · rw [hp] at hsome
      cases hsome
  · cases hsome

theorem step_identity (rt : Runtime) {call : Call} {db : Database} (hcall : Agreeing db call)
    (hkey : ProviderKey db.content.messages) :
    ProviderKey (step rt call db).2.content.messages ∧
      BindingsKept db.content.messages (step rt call db).2.content.messages := by
  refine step_rule rt call db (fun _ _ => ⟨hkey, .refl _⟩) fun reply db' hperform => ?_
  cases perform_entry hperform with
  | nothing hsame =>
    rw [show db'.content.messages = _ from congrArg Book.messages hsame]
    exact ⟨hkey, .refl _⟩
  | queued _ hqueued => exact ⟨hqueued.identity.key hkey, hqueued.identity.kept⟩
  | write hwrite => exact ⟨hwrite.identity.key hkey, hwrite.identity.kept⟩
  | @receipts ids record hcommit _ =>
    rw [hcommit] at hperform
    obtain ⟨result, hok, -⟩ := replying_ok hperform
    simp only [Agreeing, hcommit] at hcall
    exact commitEnvelope_identity hok hkey hcall

theorem run_identity {rt : Runtime} {db db' : Database} {trace : List (Call × Reply)}
    (hrun : Run (step rt) Agreeing db trace db') (hkey : ProviderKey db.content.messages) :
    ProviderKey db'.content.messages ∧
      BindingsKept db.content.messages db'.content.messages := by
  refine hrun.invariant (P := fun db' => ProviderKey db'.content.messages ∧
    BindingsKept db.content.messages db'.content.messages) ?_ ⟨hkey, .refl _⟩
  intro db₁ call hcall ⟨hkey₁, hkept₁⟩
  obtain ⟨hkey₂, hkept₂⟩ := step_identity rt hcall hkey₁
  exact ⟨hkey₂, hkept₁.trans hkept₂⟩

/-- In a run whose projections agree a message keeps the provider ID it is bound
to, and every later projection of that provider ID resolves to it. -/
theorem provider_identity_stable {rt : Runtime} {db₀ db db' : Database}
    {trace trace' : List (Call × Reply)} (hkey : ProviderKey db₀.content.messages)
    (hrun : Run (step rt) Agreeing db₀ trace db) (hlater : Run (step rt) Agreeing db trace' db')
    {row : MessageRow} {providerMessageId : String} (hrow : row ∈ db.content.messages)
    (hbound : row.providerMessageId = some providerMessageId) :
    (∃ row' ∈ db'.content.messages, row'.messageId = row.messageId ∧
        row'.connectionId = row.connectionId ∧
        row'.providerMessageId = some providerMessageId) ∧
      ∀ now ids record before results after, Agreeing db' (now, .commitEnvelope ids record) →
        validateProjection rt record.projection record.media = .ok () →
        record.connectionId = row.connectionId →
        before.content.messages = db'.content.messages →
        projectMessages rt now ids.message record 0 record.projection.messages [] before =
          .ok (results, after) →
        ∀ result ∈ results, result.providerMessageId = providerMessageId →
          result.messageId = row.messageId := by
  obtain ⟨hkey₁, -⟩ := run_identity hrun hkey
  obtain ⟨hkey₂, hkept⟩ := run_identity hlater hkey₁
  obtain ⟨row', hrow', hid, hconnection, hprovider⟩ := hkept row hrow (by simp [hbound])
  refine ⟨⟨row', hrow', hid, hconnection, hprovider.trans hbound⟩, ?_⟩
  intro now ids record before results after hagree hvalid hsame hbefore hproject result hresult heq
  rw [← hbefore] at hkey₂ hrow'
  have hagree' : AllAgree before.content.messages record.connectionId
      record.projection.messages := by
    rw [hbefore]
    exact hagree
  obtain ⟨-, -, hresolved⟩ := projectMessages_identity hproject hkey₂ hagree'
    (validateProjection_distinct hvalid)
  rcases hresolved result hresult with hnone | hfound
  · cases hnone
  · rw [← hid]
    refine hfound row' hrow' (hconnection.trans hsame.symm) ?_
    rw [heq]
    exact hprovider.trans hbound

def echo (response providerMessageId providerTmpId : String) : Envelope where
  connectionId := "phone"
  ownerId := "worker"
  fencingToken := 1
  providerResponseId := response
  raw := [1]
  projection := { messages := [
    { providerMessageId := providerMessageId
      providerTmpId := providerTmpId
      conversationId := "conversation"
      direction := some .outbound
      provenance := some .live
      recipients := ["+14155550100"]
      text := "hello"
      state := some .sent }] }

def echoIds (response : String) : CommitIds where
  inboxId := response
  conflictId := response
  poisonOutboxId := response
  message _ := ⟨"message-" ++ response, "receipt-" ++ response, "transition-" ++ response⟩
  media _ := ⟨"media-" ++ response, "job-" ++ response⟩
  eventOutboxId _ := "ingress-" ++ response

def echoCall (response providerMessageId providerTmpId : String) (now : Time) : Call :=
  (now, .commitEnvelope (echoIds response)
    ((echo response providerMessageId providerTmpId).record phoneRuntime "tenant" now))

def rebindable : List Call := [createCall "m1" 1, leaseCall 2, echoCall "1" "p1" "tmp-m1" 3]

def rebindableDatabase : Database := (execute (step phoneRuntime) rebindable phoneDatabase).2

/-- A second echo of the same message, without its tmp ID. -/
theorem secondEcho_keeps_identity :
    ∃ row ∈ rebindableDatabase.content.messages, row.providerMessageId = some "p1" ∧
      ∃ row' ∈ (execute (step phoneRuntime) [echoCall "2" "p1" "" 4]
        rebindableDatabase).2.content.messages,
        row'.messageId = row.messageId ∧ row'.providerMessageId = some "p1" := by
  have hbound : ∃ row ∈ rebindableDatabase.content.messages, row.providerMessageId = some "p1" := by
    decide +kernel
  obtain ⟨row, hrow, hprovider⟩ := hbound
  have hkey : ProviderKey phoneDatabase.content.messages := fun row hrow =>
    absurd hrow (Table.not_mem_empty row)
  have hrun : Run (step phoneRuntime) Agreeing phoneDatabase _ rebindableDatabase :=
    Run.of_inputs rebindable (by decide +kernel)
  have hlater : Run (step phoneRuntime) Agreeing rebindableDatabase _ _ :=
    Run.of_inputs [echoCall "2" "p1" "" 4] (by decide +kernel)
  obtain ⟨⟨row', hrow', hid, -, hprovider'⟩, -⟩ :=
    provider_identity_stable hkey hrun hlater hrow hprovider
  exact ⟨row, hrow, hprovider, row', hrow', hid, hprovider'⟩

/-- An echo with the tmp ID and another provider ID takes the binding away, and
the first provider ID resolves to no message any more. -/
theorem other_echo_rebinds :
    ∃ trace db trace' db', Run (step phoneRuntime) Allowed phoneDatabase trace db ∧
      Run (step phoneRuntime) Allowed db trace' db' ∧
      ∃ row ∈ db.content.messages, row.connectionId = "phone" ∧
        row.providerMessageId = some "p1" ∧
        (db'.content.messages.find? row.messageId).map MessageRow.providerMessageId =
          some (some "p2") ∧
        lockProjectedMessage "phone" "p1" "" db' = none :=
  ⟨_, _, _, _, Run.of_inputs rebindable (by decide +kernel),
    Run.of_inputs [echoCall "2" "p2" "tmp-m1" 4] (by decide +kernel), by decide +kernel⟩

end MessagingGateway.Messaging
