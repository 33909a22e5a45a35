import MessagingGateway.Actor.World

/-!
# The sessions of a run

A changed session goes through the mailbox of its generation and the pending
place of the loop into the store. Either place holds one session, and a newer one
replaces it, so what is written is a subsequence of what was accepted, and the
newest accepted session is in the mailbox, pending or written for as long as the
run may go on.
-/

namespace MessagingGateway.Actor

open Relational Store

namespace Control

variable {c c' : Control} {output : Output} {last : Option Bytes}

/-! ### Order -/

/-- The sessions that have not been written yet, the older one first. -/
def unwritten (c : Control) : List Bytes :=
  (if c.pending = [] then [] else [c.pending]) ++ c.mailbox.toList

def writtenOf : Output → List Bytes
  | .written plaintext => [plaintext]
  | _ => []

def acceptedOf : Output → List Bytes
  | .accepted plaintext => [plaintext]
  | _ => []

theorem takeLatest_unwritten (c : Control) : c.takeLatest.unwritten.Sublist c.unwritten := by
  rcases hmailbox : c.mailbox with _ | (_ | ⟨byte, bytes⟩)
  · simp [unwritten, takeLatest, hmailbox]
  · simp [unwritten, takeLatest, hmailbox]
  · simp [unwritten, takeLatest, hmailbox]

theorem unwritten_of_pending (hmailbox : c.mailbox = none) (hsome : c.pending ≠ []) :
    c.unwritten = [c.pending] := by
  simp [unwritten, hmailbox, hsome]

theorem Move.unwritten (h : Move c output c') :
    (writtenOf output ++ c'.unwritten).Sublist (c.unwritten ++ acceptedOf output) := by
  have keep : writtenOf output = [] → c'.unwritten.Sublist c.unwritten →
      (writtenOf output ++ c'.unwritten).Sublist (c.unwritten ++ acceptedOf output) :=
    fun hwritten hsub => by
      rw [hwritten, List.nil_append]
      exact hsub.trans (List.sublist_append_left _ _)
  cases h with
  | prepared h => exact keep rfl (List.Sublist.append_left (List.nil_sublist _) _)
  | started h | flushFailed swap h hswap =>
    refine keep rfl ?_
    show (([] : List Bytes) ++ c.mailbox.toList).Sublist _
    exact List.sublist_append_right _ _
  | took session h hsession =>
    refine keep rfl ?_
    by_cases hempty : session = []
    · simp [Control.unwritten, keepSession, hempty]
    · simp [Control.unwritten, keepSession, hsession, hempty]
  | collected h hnone | interrupted h | stopped h => exact keep rfl c.takeLatest_unwritten
  | wrote h hsome =>
    have hsub : [c.collect.pending].Sublist c.unwritten := by
      rw [← unwritten_of_pending rfl hsome]
      exact c.takeLatest_unwritten
    have hstored : c.collect.stored.unwritten = [] := by simp [Control.unwritten, stored,
      collect, takeLatest]
    rw [hstored]
    exact hsub.trans (List.sublist_append_left _ _)
  | conflicted err h => exact keep rfl (by simp [Control.unwritten, leave, collect, takeLatest])
  | disconnected result h hresult =>
    refine keep rfl ?_
    exact disconnected_rule c result fun _ => .refl _
  | flushed h hsome =>
    simp [Control.unwritten, stored, hsome, writtenOf, acceptedOf]
  | settled swap mark h =>
    refine keep rfl ?_
    exact settle_rule c swap mark (fun _ _ _ => .refl _) fun _ _ => .refl _
  | accepted plaintext h =>
    simp only [writtenOf, acceptedOf, Control.unwritten, Option.toList_some, List.nil_append,
      List.append_assoc]
    exact List.Sublist.append_left (List.sublist_append_right _ _) _
  | _ => exact keep rfl (.refl _)

/-! ### The newest session -/

def newest (c : Control) : Bytes :=
  match c.mailbox with
  | some session => session
  | none => if c.pending = [] then c.snapshot.plaintext else c.pending

def Newest (c : Control) (last : Option Bytes) : Prop :=
  ∀ plaintext, last = some plaintext → c.newest = plaintext

def Stopped (c : Control) : Prop := c.accepting = false ∧ c.mailbox = none

/-- Where the last accepted session is in each phase: it may be lost only when the
run does not go on. -/
def Fresh (c : Control) (last : Option Bytes) : Prop :=
  match c.phase with
  | .acquiring | .beginning | .checking | .loading | .announcing =>
    last = none ∧ c.accepting = false ∧ c.pending = []
  | .restoring => c.pending = [] ∧ c.Newest last
  | .looping => c.Newest last
  | .joiningOperation | .disconnecting | .joiningConnect | .stoppingCallbacks =>
    c.exit.transient = true → c.Newest last
  | .flushing => c.Stopped ∧ (c.exit.transient = true → c.Newest last)
  | .settling swap =>
    c.Stopped ∧ c.pending = [] ∧ (c.exit.transient = true → swap = .ok true → c.Newest last)
  | .reporting | .waiting | .resuming => c.Stopped ∧ c.pending = [] ∧ c.Newest last
  | .returned _ => True

theorem fresh_of_opening (h : c.phase.isOpening) :
    c.Fresh last ↔ last = none ∧ c.accepting = false ∧ c.pending = [] := by
  unfold Fresh
  split <;> simp_all [Phase.isOpening]

theorem fresh_of_pausing (h : c.phase.isPausing) :
    c.Fresh last ↔ c.Stopped ∧ c.pending = [] ∧ c.Newest last := by
  unfold Fresh
  split <;> simp_all [Phase.isPausing]

theorem leave_fresh {exit : Exit} (h : exit.transient = true → c.Newest last) :
    (c.leave exit).Fresh last := by
  unfold Fresh
  rcases c.leave_phase exit with hphase | hphase <;> rw [hphase] <;> exact h

theorem takeLatest_newest (hne : ∀ session, c.mailbox = some session → session ≠ []) :
    c.takeLatest.newest = c.newest := by
  rcases hmailbox : c.mailbox with _ | (_ | ⟨byte, bytes⟩)
  · simp [newest, takeLatest, hmailbox]
  · exact absurd rfl (hne [] hmailbox)
  · simp [newest, takeLatest, hmailbox]

theorem stored_newest (hmailbox : c.mailbox = none) (hsome : c.pending ≠ []) :
    c.stored.newest = c.newest := by
  simp [newest, stored, hmailbox, hsome]

theorem Newest.of_eq (h : c.Newest last) (heq : c'.newest = c.newest) : c'.Newest last :=
  fun plaintext hlast => heq.trans (h plaintext hlast)

def lastAfter (last : Option Bytes) : Output → Option Bytes
  | .accepted plaintext => some plaintext
  | _ => last

theorem accepted_fresh (plaintext : Bytes) (h : c.accepting = true) (hfresh : c.Fresh last) :
    { c with mailbox := some plaintext }.Fresh (some plaintext) := by
  have hnewest : { c with mailbox := some plaintext }.Newest (some plaintext) := fun p hp => by
    cases hp
    rfl
  unfold Fresh at hfresh ⊢
  cases hphase : c.phase <;> simp only [hphase, Stopped, h] at hfresh ⊢
  case restoring => exact ⟨hfresh.1, hnewest⟩
  case looping => exact hnewest
  case joiningOperation => exact fun _ => hnewest
  case disconnecting => exact fun _ => hnewest
  case joiningConnect => exact fun _ => hnewest
  case stoppingCallbacks => exact fun _ => hnewest
  all_goals simp at hfresh

theorem terminalProviderError_join (failure failure' : Failure) :
    terminalProviderError (join failure failure') =
      (terminalProviderError failure || terminalProviderError failure') := by
  simp only [terminalProviderError, is_join]
  ac_rfl

theorem joinConnect_transient {result : Failure}
    (h : (c.joinConnect result).exit.transient = true) : c.exit.transient = true := by
  cases hterminal : terminalProviderError result with
  | false =>
    simp only [joinConnect, hterminal] at h
    exact h
  | true =>
    simp [joinConnect, hterminal, Exit.transient, terminalProviderError_join] at h

theorem Fresh.within_loop (hfresh : c.Fresh last) (h : c.phase = .looping)
    (h' : c'.phase = .looping) (heq : c'.newest = c.newest) : c'.Fresh last := by
  rw [Fresh, h] at hfresh
  rw [Fresh, h']
  exact hfresh.of_eq heq

theorem Move.fresh (h : Move c output c') (hne : ∀ session, c.mailbox = some session → session ≠ [])
    (hfresh : c.Fresh last) : c'.Fresh (lastAfter last output) := by
  cases h with
  | opened phase token runId h h' =>
    have hopen := (fresh_of_opening h).1 hfresh
    exact (fresh_of_opening h').2 hopen
  | loaded snapshot h | joinedOperation h | gaveUpOperation loose h hloose
  | gaveUpConnect loose h hloose =>
    rw [Fresh, h] at hfresh
    exact hfresh
  | paused phase health h h' =>
    have hpause := (fresh_of_pausing h).1 hfresh
    exact (fresh_of_pausing h').2 hpause
  | returned health err h => trivial
  | prepared h =>
    rcases h with h | h
    · obtain ⟨hlast, -, hpending⟩ := (fresh_of_opening (by rw [h]; rfl)).1 hfresh
      refine ⟨hpending, fun plaintext hsome => ?_⟩
      simp [lastAfter, hlast] at hsome
    · obtain ⟨hstopped, hpending, hnewest⟩ := (fresh_of_pausing (by rw [h]; rfl)).1 hfresh
      refine ⟨hpending, hnewest.of_eq ?_⟩
      simp [newest, prepare, hstopped.2, hpending]
  | started h =>
    rw [Fresh, h] at hfresh
    refine hfresh.2.of_eq ?_
    simp [newest, start, hfresh.1]
  | left health kind err h hkind =>
    rw [Fresh, h] at hfresh
    exact leave_fresh fun _ => hfresh
  | took session h hsession =>
    refine hfresh.within_loop h h ?_
    simp [newest, keepSession, hsession, hne session hsession]
  | collected h hnone => exact hfresh.within_loop h h (takeLatest_newest hne)
  | wrote h hsome =>
    refine hfresh.within_loop h h ?_
    exact (stored_newest rfl hsome).trans (takeLatest_newest hne)
  | interrupted h | conflicted err h => exact leave_fresh nofun
  | disconnected result h hresult =>
    rw [Fresh, h] at hfresh
    exact disconnected_rule c result fun _ => leave_fresh fun _ => hfresh
  | disconnect joined h =>
    rw [Fresh, h] at hfresh
    cases hprovider : c.exit.providerJoined <;> exact hfresh
  | joinedConnect result h hresult =>
    rw [Fresh, h] at hfresh
    exact fun htransient => hfresh (joinConnect_transient htransient)
  | stopped h =>
    rw [Fresh, h] at hfresh
    exact ⟨⟨rfl, rfl⟩, fun htransient => (hfresh htransient).of_eq (takeLatest_newest hne)⟩
  | flushedNothing h hnone =>
    rw [Fresh, h] at hfresh
    exact ⟨hfresh.1, hnone, fun htransient _ => hfresh.2 htransient⟩
  | flushed h hsome =>
    rw [Fresh, h] at hfresh
    exact ⟨hfresh.1, rfl, fun htransient _ =>
      (hfresh.2 htransient).of_eq (stored_newest hfresh.1.2 hsome)⟩
  | flushFailed swap h hswap =>
    rw [Fresh, h] at hfresh
    exact ⟨hfresh.1, rfl, fun _ hok => absurd hok hswap⟩
  | settled swap mark h =>
    rw [Fresh, h] at hfresh
    exact settle_rule c swap mark (fun _ hswap htransient =>
      ⟨hfresh.1, hfresh.2.1, hfresh.2.2 htransient hswap⟩) fun _ _ => trivial
  | accepted plaintext h => exact accepted_fresh plaintext h hfresh
  | _ => exact hfresh

theorem Move.mailbox_ne (h : Move c output c')
    (hnew : ∀ plaintext, output = .accepted plaintext → plaintext ≠ [])
    (hne : ∀ session, c.mailbox = some session → session ≠ []) :
    ∀ session, c'.mailbox = some session → session ≠ [] := by
  cases h with
  | accepted plaintext h =>
    rintro session hsession
    cases hsession
    exact hnew plaintext rfl
  | disconnected result h hresult => exact disconnected_rule c result fun _ => hne
  | settled swap mark h => exact settle_rule c swap mark (fun _ _ _ => hne) fun _ _ => hne
  | prepared h | took session h hsession | collected h hnone | wrote h hsome | interrupted h
  | conflicted err h | stopped h => exact nofun
  | _ => exact hne

/-! ### What a step shows -/

theorem flushSession_output (c : Control) (reply : StoreReply) :
    (c.flushSession reply).1 = .quiet ∨
      (c.pending ≠ [] ∧ reply = .ok true ∧ (c.flushSession reply).1 = .written c.pending ∧
        (c.flushSession reply).2.2.snapshot = ⟨c.pending, c.snapshot.revision + 1⟩) := by
  rcases flushSession_cases c reply with ⟨_, heq⟩ | ⟨hsome, hreply, heq⟩ | ⟨swap, _, heq⟩
  · exact .inl (by rw [heq])
  · exact .inr ⟨hsome, hreply, by rw [heq], by rw [heq]; rfl⟩
  · exact .inl (by rw [heq])

theorem debounce_output (c : Control) (reply : StoreReply) :
    (c.debounce reply).1 = .quiet ∨
      (c.cancelled = false ∧ c.collect.pending ≠ [] ∧ reply = .ok true ∧
        (c.debounce reply).1 = .written c.collect.pending ∧
        (c.debounce reply).2.snapshot = ⟨c.collect.pending, c.snapshot.revision + 1⟩) := by
  unfold debounce
  cases hcancelled : c.cancelled with
  | true => exact .inl rfl
  | false =>
    rcases flushSession_cases c.collect reply with
      ⟨_, heq⟩ | ⟨hsome, hreply, heq⟩ | ⟨swap, hswap, heq⟩
    · left
      rw [heq]
      rfl
    · right
      rw [heq]
      exact ⟨rfl, hsome, hreply, rfl, rfl⟩
    · left
      rw [heq]
      rcases swap with causes | (_ | _)
      · rfl
      · rfl
      · exact absurd rfl hswap

theorem step_accepted {input : Input} {plaintext : Bytes}
    (h : (step input c).1 = .accepted plaintext) :
    ∃ generation, input = .sessionChanged generation plaintext := by
  revert h
  fun_cases step input c <;> intro h <;> try cases h
  case case17 reply _ _ =>
      rcases c.debounce_output reply with hquiet | ⟨_, _, _, hwritten, _⟩
      · rw [hquiet] at h
        cases h
      · rw [hwritten] at h
        cases h
  case case26 reply _ after swap heq =>
      rcases c.flushSession_output reply with hquiet | ⟨_, _, hwritten, _⟩
      · rw [heq] at hquiet
        cases hquiet
      · rw [heq] at hwritten
        cases hwritten
  · exact ⟨_, rfl⟩

theorem step_written {input : Input} {plaintext : Bytes}
    (h : (step input c).1 = .written plaintext) :
    c.calls input = some (.writeSession plaintext) ∧
      (input = .debounce (.ok true) ∨ input = .flush (.ok true)) ∧
      (step input c).2.snapshot = ⟨plaintext, c.snapshot.revision + 1⟩ := by
  revert h
  fun_cases step input c <;> intro h <;> try cases h
  case case17 reply hphase hdebouncing =>
      rcases c.debounce_output reply with hquiet | ⟨hcancelled, hsome, hreply, hwritten, hsnapshot⟩
      · rw [hquiet] at h
        cases h
      · rw [hwritten] at h
        cases h
        subst hreply
        refine ⟨?_, .inl rfl, hsnapshot⟩
        simp [calls, hphase, hdebouncing, hcancelled, hsome]
  case case26 reply hphase after swap heq =>
      rcases c.flushSession_output reply with hquiet | ⟨hsome, hreply, hwritten, hsnapshot⟩
      · rw [heq] at hquiet
        cases hquiet
      · rw [heq] at hwritten hsnapshot
        cases hwritten
        subst hreply
        refine ⟨?_, .inr rfl, hsnapshot⟩
        simp [calls, hphase, hsome]

theorem Move.snapshot_cases (h : Move c output c') :
    c'.snapshot = c.snapshot ∨ (∃ plaintext, output = .written plaintext) ∨ c.phase = .loading := by
  cases h with
  | loaded snapshot h => exact .inr (.inr h)
  | wrote h hsome | flushed h hsome => exact .inr (.inl ⟨_, rfl⟩)
  | disconnected result h hresult => exact disconnected_rule c result fun _ => .inl rfl
  | settled swap mark h => exact settle_rule c swap mark (fun _ _ _ => .inl rfl) fun _ _ => .inl rfl
  | _ => exact .inl rfl

theorem step_loading {input : Input} {c : Control} (h : c.phase = .loading) :
    (step input c).2.snapshot = c.snapshot ∨
      ∃ snapshot, input = .load (.ok snapshot) ∧ (step input c).2.snapshot = snapshot := by
  cases input
  case load reply =>
      rcases reply with causes | snapshot
      · left
        simp [step, h, returns]
      · by_cases hempty : snapshot.plaintext = [] ∨ snapshot.revision = 0
        · left
          simp [step, h, hempty, returns]
        · right
          exact ⟨snapshot, rfl, by simp [step, h, hempty]⟩
  all_goals left
  all_goals simp only [step, h]
  all_goals first
    | rfl
    | split <;> rfl

end Control

end MessagingGateway.Actor
