import Mathlib

/-!
# Fencing tokens

A resource is held by at most one owner at a time under a token. A turn of the
resource keeps the holding, gives it up, fences it off, or grants it. A grant
to the present holder may keep the token; any other grant, and every fence,
raises it. Owners are an arbitrary type. Over a sequence of turns the token never
falls, and no value of it is granted to two owners.
-/

namespace Fencing

variable {O : Type}

@[ext] structure Holding (O : Type) where
  owner : Option O
  token : Nat
  deriving DecidableEq

/-- One turn of a resource: the holding before, the owner it was granted to, and
the holding after. -/
inductive Turn : Option (Holding O) → Option O → Option (Holding O) → Prop
  | stay (holding : Option (Holding O)) : Turn holding none holding
  | first (o : O) (t : Nat) : Turn none (some o) (some ⟨some o, t⟩)
  | keep (o : O) (t : Nat) : Turn (some ⟨some o, t⟩) (some o) (some ⟨some o, t⟩)
  | take (holding : Holding O) (o : O) :
      Turn (some holding) (some o) (some ⟨some o, holding.token + 1⟩)
  | vacate (holding : Holding O) : Turn (some holding) none (some ⟨none, holding.token⟩)
  | fence (holding : Holding O) : Turn (some holding) none (some ⟨none, holding.token + 1⟩)

variable {before after : Option (Holding O)} {granted : Option O}

/-- The token never falls. -/
theorem Turn.token_le (h : Turn before granted after) {holding : Holding O}
    (hb : before = some holding) : ∃ holding', after = some holding' ∧
      holding.token ≤ holding'.token := by
  cases h with
  | stay => exact ⟨holding, hb, Nat.le_refl _⟩
  | first => cases hb
  | keep o t | vacate =>
    cases hb
    exact ⟨_, rfl, Nat.le_refl _⟩
  | take holding o | fence =>
    cases hb
    exact ⟨_, rfl, Nat.le_succ _⟩

/-- What the grants made so far say of the present holding: no token granted is
above the present one, and the present one was granted to nobody but the
present owner. -/
def Covers (grants : List (O × Nat)) (holding : Option (Holding O)) : Prop :=
  ∀ o t, (o, t) ∈ grants → ∃ h, holding = some h ∧ t ≤ h.token ∧
    (t = h.token → ∀ o', h.owner = some o' → o' = o)

def Unshared (grants : List (O × Nat)) : Prop :=
  ∀ o o' t, (o, t) ∈ grants → (o', t) ∈ grants → o = o'

def grantOf (granted : Option O) (after : Option (Holding O)) : List (O × Nat) :=
  match granted, after with
  | some o, some h => [(o, h.token)]
  | _, _ => []

theorem Covers.turn_none {grants : List (O × Nat)} (h : Covers grants before)
    (hturn : Turn before none after) : Covers grants after := by
  intro o t hmem
  obtain ⟨holding, rfl, hle, howner⟩ := h o t hmem
  cases hturn with
  | stay => exact ⟨holding, rfl, hle, howner⟩
  | vacate => exact ⟨_, rfl, hle, by simp⟩
  | fence => exact ⟨_, rfl, Nat.le_succ_of_le hle, by simp⟩

theorem Covers.turn_some {grants : List (O × Nat)} (h : Covers grants before) {o : O}
    (hturn : Turn before (some o) after) : ∃ t, after = some ⟨some o, t⟩ ∧
      ∀ o' t', (o', t') ∈ grants → t' ≤ t ∧ (t' = t → o' = o) := by
  cases hturn with
  | first o t =>
    refine ⟨t, rfl, fun o' t' hmem => ?_⟩
    obtain ⟨holding, hnone, -⟩ := h o' t' hmem
    cases hnone
  | keep o t =>
    refine ⟨t, rfl, fun o' t' hmem => ?_⟩
    obtain ⟨holding, hsome, hle, howner⟩ := h o' t' hmem
    cases hsome
    exact ⟨hle, fun heq => (howner heq o rfl).symm⟩
  | take holding o =>
    refine ⟨_, rfl, fun o' t' hmem => ?_⟩
    obtain ⟨holding', hsome, hle, -⟩ := h o' t' hmem
    cases hsome
    exact ⟨Nat.le_succ_of_le hle, fun heq => absurd hle (by omega)⟩

theorem Covers.turn {grants : List (O × Nat)} (h : Covers grants before) (hu : Unshared grants)
    (hturn : Turn before granted after) :
    Covers (grants ++ grantOf granted after) after ∧
      Unshared (grants ++ grantOf granted after) := by
  cases granted with
  | none =>
    have hnone : grantOf (none : Option O) after = [] := by cases after <;> rfl
    rw [hnone, List.append_nil]
    exact ⟨h.turn_none hturn, hu⟩
  | some o =>
    obtain ⟨t, rfl, hold⟩ := h.turn_some hturn
    have hmem : ∀ o' t', (o', t') ∈ grants ++ grantOf (some o) (some ⟨some o, t⟩) →
        (o', t') ∈ grants ∨ (o' = o ∧ t' = t) := by
      intro o' t' hmem
      simpa [grantOf] using hmem
    refine ⟨fun o' t' hm => ?_, fun o₁ o₂ t' hm₁ hm₂ => ?_⟩
    · refine ⟨_, rfl, ?_⟩
      rcases hmem o' t' hm with hm | ⟨rfl, rfl⟩
      · obtain ⟨hle, heq⟩ := hold o' t' hm
        refine ⟨hle, fun ht o'' ho => ?_⟩
        rw [heq ht]
        exact (Option.some.inj ho).symm
      · exact ⟨Nat.le_refl _, fun _ o'' ho => (Option.some.inj ho).symm⟩
    · rcases hmem o₁ t' hm₁ with hm₁ | ⟨rfl, rfl⟩ <;>
        rcases hmem o₂ _ hm₂ with hm₂ | ⟨h₁, h₂⟩
      · exact hu o₁ o₂ t' hm₁ hm₂
      · rw [h₁]
        exact (hold o₁ t' hm₁).2 h₂
      · exact ((hold o₂ _ hm₂).2 rfl).symm
      · exact h₁.symm

end Fencing
