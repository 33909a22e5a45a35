import Mathlib

/-!
# Obligations to acknowledge

A ledger holds, under each key, an obligation to acknowledge what was received
under it. An obligation can be settled and reopened. It can also be fenced, which
is final, or withheld from the start; a fenced or withheld obligation is never
pending. Keys and digests are arbitrary types.
-/

namespace Ledger

variable {D : Type}

structure Obligation (D : Type) where
  digest : D
  fenced : Bool
  withheld : Bool
  pending : Bool
  fenced_silent : fenced = true → pending = false
  withheld_silent : withheld = true → pending = false

namespace Obligation

def fence (o : Obligation D) : Obligation D :=
  { o with
    fenced := true
    pending := false
    fenced_silent := fun _ => rfl
    withheld_silent := fun _ => rfl }

def settle (o : Obligation D) : Obligation D :=
  { o with
    pending := false
    fenced_silent := fun _ => rfl
    withheld_silent := fun _ => rfl }

def Open (o : Obligation D) : Prop := o.fenced = false ∧ o.withheld = false

def reopen (o : Obligation D) (h : o.Open) : Obligation D :=
  { o with
    pending := true
    fenced_silent := fun hf => absurd hf (by simp [h.1])
    withheld_silent := fun hw => absurd hw (by simp [h.2]) }

/-- What an obligation can become: its digest and whether it is withheld stay,
and it is not unfenced. -/
structure Becomes (o o' : Obligation D) : Prop where
  digest : o'.digest = o.digest
  withheld : o'.withheld = o.withheld
  fenced : o.fenced = true → o'.fenced = true

namespace Becomes

theorem refl (o : Obligation D) : Becomes o o := ⟨rfl, rfl, id⟩

theorem trans {o₁ o₂ o₃ : Obligation D} (h : Becomes o₁ o₂) (h' : Becomes o₂ o₃) : Becomes o₁ o₃ :=
  ⟨h'.digest.trans h.digest, h'.withheld.trans h.withheld, fun hf => h'.fenced (h.fenced hf)⟩

end Becomes

theorem fence_becomes (o : Obligation D) : Becomes o o.fence := ⟨rfl, rfl, fun _ => rfl⟩

theorem settle_becomes (o : Obligation D) : Becomes o o.settle := ⟨rfl, rfl, id⟩

theorem reopen_becomes (o : Obligation D) (h : o.Open) : Becomes o (o.reopen h) := ⟨rfl, rfl, id⟩

end Obligation

/-- An entry of a ledger and what it becomes: an entry is never dropped. -/
def Continues (before after : Option (Obligation D)) : Prop :=
  ∀ o, before = some o → ∃ o', after = some o' ∧ o.Becomes o'

namespace Continues

variable {e e' e'' : Option (Obligation D)}

theorem refl (e : Option (Obligation D)) : Continues e e := fun o h => ⟨o, h, .refl o⟩

theorem trans (h : Continues e e') (h' : Continues e' e'') : Continues e e'' := by
  intro o ho
  obtain ⟨o', ho', hb⟩ := h o ho
  obtain ⟨o'', ho'', hb'⟩ := h' o' ho'
  exact ⟨o'', ho'', hb.trans hb'⟩

theorem of_none : Continues none e := by
  intro o h
  cases h

theorem of_becomes {o o' : Obligation D} (h : o.Becomes o') : Continues (some o) (some o') := by
  rintro _ ⟨⟩
  exact ⟨o', rfl, h⟩

end Continues

/-- An entry that has to be acknowledged. -/
def Due (e : Option (Obligation D)) : Prop := ∃ o, e = some o ∧ o.pending = true

/-- An entry that never has to be acknowledged again. -/
def Barred (e : Option (Obligation D)) : Prop :=
  ∃ o, e = some o ∧ (o.fenced = true ∨ o.withheld = true)

theorem Barred.not_due {e : Option (Obligation D)} (h : Barred e) : ¬ Due e := by
  rintro ⟨o', rfl, hpending⟩
  obtain ⟨o, ho, hbarred⟩ := h
  cases ho
  rcases hbarred with hf | hw
  · simp [o'.fenced_silent hf] at hpending
  · simp [o'.withheld_silent hw] at hpending

theorem Barred.continues {e e' : Option (Obligation D)} (h : Barred e) (hc : Continues e e') :
    Barred e' := by
  obtain ⟨o, ho, hbarred⟩ := h
  obtain ⟨o', ho', hb⟩ := hc o ho
  refine ⟨o', ho', ?_⟩
  rcases hbarred with hf | hw
  · exact .inl (hb.fenced hf)
  · exact .inr (hb.withheld.trans hw)

end Ledger
