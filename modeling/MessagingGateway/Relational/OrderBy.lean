import Mathlib

/-!
# Ordering by two columns

`ORDER BY f, g` and `ORDER BY f DESC, g DESC` as insertion sorts. A `LIMIT 1`
is the head of such a list, a row that comes after all others is appended at its
end, and a `LIMIT` that drops nothing is one the rows fit in; later proofs use
these facts only.
-/

namespace Relational

section

variable {ρ β γ : Type} [LT β] [DecidableLT β] [DecidableEq β] [LE γ] [DecidableLE γ]

/-- `a` does not come after `b` in the order of the columns `f` and `g`. -/
def before (f : ρ → β) (g : ρ → γ) (a b : ρ) : Bool :=
  f a < f b || (f a == f b && decide (g a ≤ g b))

def orderBy (f : ρ → β) (g : ρ → γ) (rows : List ρ) : List ρ :=
  rows.insertionSort fun a b => before f g a b

def orderByDesc (f : ρ → β) (g : ρ → γ) (rows : List ρ) : List ρ :=
  rows.insertionSort fun a b => before f g b a

variable {f : ρ → β} {g : ρ → γ}

@[simp] theorem mem_orderBy {rows : List ρ} {a : ρ} : a ∈ orderBy f g rows ↔ a ∈ rows :=
  List.mem_insertionSort _

@[simp] theorem mem_orderByDesc {rows : List ρ} {a : ρ} : a ∈ orderByDesc f g rows ↔ a ∈ rows :=
  List.mem_insertionSort _

@[simp] theorem orderByDesc_head?_eq_none {rows : List ρ} :
    (orderByDesc f g rows).head? = none ↔ rows = [] := by
  rw [List.head?_eq_none_iff, ← List.length_eq_zero_iff, orderByDesc, List.length_insertionSort,
    List.length_eq_zero_iff]

variable {rows : List ρ}

theorem subset_take_orderByDesc_iff (hnodup : rows.Nodup) {n : Nat} :
    (∀ a ∈ rows, a ∈ (orderByDesc f g rows).take n) ↔ rows.length ≤ n := by
  constructor
  · intro h
    calc rows.length ≤ ((orderByDesc f g rows).take n).length :=
      (List.subperm_of_subset hnodup h).length_le
      _ ≤ n := List.length_take_le n _
  · intro h a ha
    rw [List.take_of_length_le (by rwa [orderByDesc, List.length_insertionSort])]
    exact mem_orderByDesc.2 ha

theorem mem_of_orderByDesc_head? {a : ρ} (h : (orderByDesc f g rows).head? = some a) : a ∈ rows :=
  mem_orderByDesc.1 (List.mem_of_mem_head? h)

end

section

variable {ρ β γ : Type} [LinearOrder β] [LE γ] [DecidableLE γ] {f : ρ → β} {g : ρ → γ}

theorem before_iff {a b : ρ} : before f g a b = true ↔ f a < f b ∨ (f a = f b ∧ g a ≤ g b) := by
  simp [before]

theorem orderedInsert_concat {a b : ρ} (h : before f g b a = true) (rows : List ρ) :
    (rows ++ [a]).orderedInsert (fun a b => before f g a b) b =
      rows.orderedInsert (fun a b => before f g a b) b ++ [a] := by
  induction rows with
  | nil => simp [h]
  | cons c rows ih =>
    simp only [List.cons_append, List.orderedInsert_cons]
    split
    · rfl
    · rw [ih, List.cons_append]

theorem orderBy_concat {a : ρ} (h : ∀ b ∈ rows, f b < f a) :
    orderBy f g (rows ++ [a]) = orderBy f g rows ++ [a] := by
  induction rows with
  | nil => rfl
  | cons b rows ih =>
    have hb : before f g b a = true := before_iff.2 (.inl (h b List.mem_cons_self))
    have ih := ih fun c hc => h c (List.mem_cons_of_mem b hc)
    simp only [orderBy, List.cons_append, List.insertionSort_cons] at ih ⊢
    rw [ih, orderedInsert_concat hb]

variable [Std.Total fun a b : γ => a ≤ b] [IsTrans γ fun a b => a ≤ b]

instance before_total : Std.Total fun a b => before f g a b = true := ⟨fun a b => by
  simp only [before_iff]
  rcases lt_trichotomy (f a) (f b) with h | h | h
  · exact .inl (.inl h)
  · rcases Std.Total.total (r := fun a b : γ => a ≤ b) (g a) (g b) with hg | hg
    · exact .inl (.inr ⟨h, hg⟩)
    · exact .inr (.inr ⟨h.symm, hg⟩)
  · exact .inr (.inl h)⟩

instance before_trans : IsTrans ρ fun a b => before f g a b = true := ⟨fun a b c => by
  simp only [before_iff]
  rintro (hab | ⟨hab, gab⟩) (hbc | ⟨hbc, gbc⟩)
  · exact .inl (hab.trans hbc)
  · exact .inl (hab.trans_eq hbc)
  · exact .inl (hab.trans_lt hbc)
  · exact .inr ⟨hab.trans hbc, IsTrans.trans (r := fun a b : γ => a ≤ b) _ _ _ gab gbc⟩⟩

theorem orderBy_head? {a : ρ} (h : (orderBy f g rows).head? = some a) :
    a ∈ rows ∧ ∀ b ∈ rows, f a ≤ f b := by
  have hsorted := List.pairwise_insertionSort (fun a b => before f g a b = true) rows
  change (orderBy f g rows).Pairwise _ at hsorted
  refine ⟨mem_orderBy.1 (List.mem_of_mem_head? h), fun b hb => ?_⟩
  obtain ⟨tail, htail⟩ := List.head?_eq_some_iff.1 h
  rw [← mem_orderBy (f := f) (g := g), htail, List.mem_cons] at hb
  rw [htail, List.pairwise_cons] at hsorted
  rcases hb with rfl | hb
  · exact le_rfl
  · rcases before_iff.1 (hsorted.1 b hb) with hlt | ⟨heq, -⟩
    · exact hlt.le
    · exact heq.le

theorem length_later_lt_of_mem_take (hnodup : rows.Nodup) {n : Nat} {a : ρ}
    (h : a ∈ (orderByDesc f g rows).take n) : (rows.filter fun b => f a < f b).length < n := by
  have hsorted := List.pairwise_insertionSort (fun a b => before f g b a = true) rows
  change (orderByDesc f g rows).Pairwise _ at hsorted
  obtain ⟨newer, older, hwindow⟩ := List.append_of_mem h
  have hsplit : orderByDesc f g rows =
      newer ++ a :: (older ++ (orderByDesc f g rows).drop n) := by
    rw [← List.cons_append, ← List.append_assoc, ← hwindow, List.take_append_drop]
  have hlater : (rows.filter fun b => f a < f b) ⊆ newer := by
    intro b hb
    obtain ⟨hb, hafter⟩ := List.mem_filter.1 hb
    rw [← mem_orderByDesc (f := f) (g := g), hsplit, List.mem_append] at hb
    rw [hsplit, List.pairwise_append, List.pairwise_cons] at hsorted
    rcases hb with hb | hb
    · exact hb
    · have hle : f b ≤ f a := by
        rcases List.mem_cons.1 hb with rfl | hb
        · exact le_rfl
        · rcases before_iff.1 (hsorted.2.1.1 b hb) with hlt | ⟨heq, -⟩
          · exact hlt.le
          · exact heq.le
      exact absurd (of_decide_eq_true hafter) hle.not_gt
  have hsize : newer.length < n := by
    have hlength := List.length_take_le n (orderByDesc f g rows)
    rw [hwindow, List.length_append, List.length_cons] at hlength
    omega
  exact (List.subperm_of_subset (hnodup.filter _) hlater).length_le.trans_lt hsize

end

theorem empty_lt {value : String} (h : value ≠ "") : "" < value := by
  rw [String.lt_iff_toList_lt]
  cases hvalue : value.toList with
  | nil => exact absurd (String.toList_eq_nil_iff.1 hvalue) h
  | cons c rest => simp

end Relational
