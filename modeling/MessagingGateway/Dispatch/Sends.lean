import MessagingGateway.Dispatch.Order

/-!
# Sends

A message has been sent when provider I/O was permitted under one of its
attempts. Sends are never forgotten, a message that has been sent is not sent
again, and on a first-in first-out lane a message is sent after the older ones.
-/

namespace MessagingGateway.Dispatch

open Domain

variable {M L A : Type}

def Machine.Sent (s : Machine M L A) (m : M) : Prop :=
  ∃ a att, s.attempt a = some att ∧ att.begun = true ∧ att.message = m

variable {m : M} {label : Label M L}

theorem Machine.Sent.not_queued {s : Machine M L A} (hs : Consistent s) (h : s.Sent m) :
    s.stateOf m ≠ some .queued := by
  obtain ⟨a, att, ha, hbegun, rfl⟩ := h
  exact hs.active_busy a att ha (.inr hbegun)

theorem Machine.Sent.isSome {s : Machine M L A} (hs : Consistent s) (h : s.Sent m) :
    (s.message m).isSome := by
  obtain ⟨a, att, ha, -, rfl⟩ := h
  have hlane := hs.attempt_message a att ha
  cases hm : s.message att.message with
  | none => simp [Machine.laneOf, hm] at hlane
  | some μ => rfl

def Machine.Before (s : Machine M L A) (m m' : M) : Prop :=
  ∀ μ μ', s.message m = some μ → s.message m' = some μ' → μ.lane = μ'.lane →
    μ.createdAt < μ'.createdAt

variable [DecidableEq M] [DecidableEq L] [DecidableEq A] {s s' : Machine M L A}

theorem Step.attempt_kept (hstep : Step s label s') {a : A}
    {att : Attempt M L} (ha : s.attempt a = some att) :
    ∃ att', s'.attempt a = some att' ∧ att'.message = att.message ∧
      (att.begun = true → att'.begun = true) := by
  have same : ∃ att', s.attempt a = some att' ∧ att'.message = att.message ∧
      (att.begun = true → att'.begun = true) := ⟨att, ha, rfl, id⟩
  have keep : ∀ b (btt : Attempt M L), (∀ btt₀, s.attempt b = some btt₀ →
      btt.message = btt₀.message ∧ (btt₀.begun = true → btt.begun = true)) →
      ∃ att', (s.setAttempt b btt).attempt a = some att' ∧ att'.message = att.message ∧
        (att.begun = true → att'.begun = true) := by
    intro b btt hbtt
    by_cases h : a = b
    · subst h
      exact ⟨btt, by simp, hbtt att ha⟩
    · exact ⟨att, by simp [h, ha], rfl, id⟩
  cases hstep with
  | claim hm hl hstate hfree => exact keep _ _ (by simp [hfree])
  | recover hold | begin hold | finish hold | requeue hold =>
    exact keep _ _ (by simp [hold.attempt])
  | _ => exact same

theorem Step.sent (hstep : Step s label s') (h : s.Sent m) : s'.Sent m := by
  obtain ⟨a, att, ha, hbegun, rfl⟩ := h
  obtain ⟨att', ha', hmessage, hkeep⟩ := hstep.attempt_kept ha
  exact ⟨a, att', ha', hkeep hbegun, hmessage⟩

theorem Step.stored (hstep : Step s label s') (hm : (s.message m).isSome) :
    (s'.message m).isSome := by
  obtain ⟨μ, hμ⟩ := Option.isSome_iff_exists.1 hm
  obtain ⟨μ', hμ', -⟩ := hstep.immutable hμ
  exact Option.isSome_iff_exists.2 ⟨μ', hμ'⟩

theorem Step.before (hstep : Step s label s') {m' : M}
    (hm : (s.message m).isSome) (hm' : (s.message m').isSome) (h : s.Before m m') :
    s'.Before m m' := by
  obtain ⟨μ, hμ⟩ := Option.isSome_iff_exists.1 hm
  obtain ⟨μ', hμ'⟩ := Option.isSome_iff_exists.1 hm'
  obtain ⟨ν, hν, hlane, hcreated, -⟩ := hstep.immutable hμ
  obtain ⟨ν', hν', hlane', hcreated', -⟩ := hstep.immutable hμ'
  intro ρ ρ' hρ hρ' hsame
  cases Option.some.inj (hν.symm.trans hρ)
  cases Option.some.inj (hν'.symm.trans hρ')
  rw [hcreated, hcreated']
  exact h μ μ' hμ hμ' (by rw [← hlane, hsame, hlane'])

theorem Step.begin_inv (hstep : Step s (.begin m) s') :
    ∃ l a att, s.Holds l a att ∧ att.phase = .claimed ∧ att.message = m ∧
      s' = s.setAttempt a { att with phase := .started, begun := true } := by
  generalize hlabel : Label.begin m = label at hstep
  cases hstep with
  | @begin l a att μ hold hphase =>
    cases hlabel
    exact ⟨l, a, att, hold, hphase, rfl, rfl⟩
  | _ => cases hlabel

theorem Step.begin_sends (hstep : Step s (.begin m) s') (hs : Consistent s) :
    ¬ s.Sent m ∧ s'.Sent m := by
  obtain ⟨l, a, att, hold, hphase, rfl, rfl⟩ := hstep.begin_inv
  refine ⟨?_, a, { att with phase := .started, begun := true }, by simp, rfl, rfl⟩
  rintro ⟨b, btt, hb, hbegun, hmessage⟩
  have hab := hs.active_unique a b att btt hold.attempt hb (.inl hphase) (.inr hbegun) hmessage.symm
  subst hab
  cases Option.some.inj (hold.attempt.symm.trans hb)
  simp [hs.claimed_fresh a att hold.attempt hphase] at hbegun

/-- The send of a message on a first-in first-out lane: the messages sent before
it are older. -/
theorem Step.begin_after {m' : M} (hstep : Step s (.begin m) s') (hs : Consistent s)
    (hf : Fifo s) (hsent : s.Sent m') : s.Before m' m := by
  intro ν μ hν hμ hlane
  obtain ⟨b, btt, hb, hbegun, rfl⟩ := hsent
  have hfresh := (hstep.begin_sends hs).1
  obtain ⟨l, a, att, hold, hphase, rfl, -⟩ := hstep.begin_inv
  have hμl : μ.lane = att.lane := by
    simpa [Machine.laneOf, hμ] using hs.attempt_message a att hold.attempt
  have hνl : ν.lane = btt.lane := by
    simpa [Machine.laneOf, hν] using hs.attempt_message b btt hb
  exact hf.claimed_younger hs hold hb hμ hν (by rw [← hνl, hlane, hμl])
    fun hsame => hfresh ⟨b, btt, hb, hbegun, hsame⟩

end MessagingGateway.Dispatch
