import MessagingGateway.Relational.Table

/-!
# Aggregates over a table

`SUM(w)` and `COUNT(*)` over the rows of a table. A bound on an aggregate is
kept by a statement that checks it first, so the lemmas say how much each
statement adds: an insertion adds the weight of its row, an update of one row
trades the old weight for the new one, and a deletion adds nothing.
-/

namespace Relational

variable {κ ρ : Type} {key : ρ → κ}

namespace Table

def total (t : Table key) (w : ρ → Nat) : Nat := (t.rows.map w).sum

/-- `COUNT(*) ... WHERE p`. -/
theorem length_select (t : Table key) (p : ρ → Bool) :
    (t.select p).length = t.total fun r => if p r then 1 else 0 := by
  rw [select, total]
  induction t.rows with
  | nil => rfl
  | cons r rows ih =>
    rw [List.filter_cons, List.map_cons, List.sum_cons, ← ih]
    split
    · rw [List.length_cons, Nat.add_comm]
    · rw [Nat.zero_add]

/-- `SUM(w) ... WHERE p`. -/
theorem sum_select (t : Table key) (p : ρ → Bool) (w : ρ → Nat) :
    ((t.select p).map w).sum = t.total fun r => if p r then w r else 0 := by
  rw [select, total]
  induction t.rows with
  | nil => rfl
  | cons r rows ih =>
    rw [List.filter_cons, List.map_cons, List.sum_cons, ← ih]
    split
    · rw [List.map_cons, List.sum_cons]
    · rw [Nat.zero_add]

variable {t t' : Table key} {w : ρ → Nat}

theorem total_update_of_eq {p : ρ → Bool} {f : ρ → ρ} {hf : ∀ r, key (f r) = key r}
    (h : ∀ r ∈ t, p r = true → w (f r) = w r) : (t.update p f hf).total w = t.total w := by
  rw [total, total, update, List.map_map]
  refine congrArg List.sum (List.map_congr_left fun r hr => ?_)
  rw [Function.comp]
  split
  case isTrue hp => exact h r hr hp
  case isFalse => rfl

theorem total_delete_le (t : Table key) (p : ρ → Bool) : (t.delete p).total w ≤ t.total w := by
  simp only [total, delete]
  induction t.rows with
  | nil => exact Nat.le_refl 0
  | cons r rows ih =>
    rw [List.filter_cons, List.map_cons, List.sum_cons]
    split
    · rw [List.map_cons, List.sum_cons]
      omega
    · omega

theorem length_select_le {κ' ρ' : Type} {key' : ρ' → κ'} {u : Table key'} {p : ρ → Bool}
    {q : ρ' → Bool} (g : ρ' → κ) (h : ∀ r ∈ t, p r = true → ∃ s ∈ u, q s = true ∧ g s = key r) :
    (t.select p).length ≤ (u.select q).length := by
  have hnodup : ((t.select p).map key).Nodup := (List.filter_sublist.map key).nodup t.nodup
  have hsubset : (t.select p).map key ⊆ (u.select q).map g := by
    intro k hk
    obtain ⟨r, hr, rfl⟩ := List.mem_map.1 hk
    obtain ⟨hr, hp⟩ := mem_select.1 hr
    obtain ⟨s, hs, hq, hkey⟩ := h r hr hp
    exact List.mem_map.2 ⟨s, mem_select.2 ⟨hs, hq⟩, hkey⟩
  calc (t.select p).length = ((t.select p).map key).length := (List.length_map key).symm
    _ ≤ ((u.select q).map g).length := (List.subperm_of_subset hnodup hsubset).length_le
    _ = (u.select q).length := List.length_map g

section Keys

variable [DecidableEq κ]

theorem total_insert {r : ρ} (h : t.insert r = some t') : t'.total w = t.total w + w r := by
  rw [total, (insert_eq_some.1 h).2, List.map_append, List.sum_append, List.map_singleton,
    List.sum_singleton, total]

theorem total_update_key [BEq κ] [LawfulBEq κ] {k : κ} {r : ρ} {f : ρ → ρ}
    (hf : ∀ r, key (f r) = key r) (hr : t.find? k = some r) :
    (t.update (fun r => key r == k) f hf).total w + w r = t.total w + w (f r) := by
  obtain ⟨hmem, hkey⟩ := find?_eq_some.1 hr
  have hother : ∀ s ∈ t.rows, key s = k → s = r := fun s hs hk =>
    eq_of_key_eq hs hmem (hk.trans hkey.symm)
  have hnodup : t.rows.Nodup := List.Nodup.of_map key t.nodup
  -- the row stands at one place of the list; what is before and after it stays
  obtain ⟨before, after, hsplit⟩ := List.append_of_mem hmem
  have hrest : ∀ s ∈ before ++ after, ¬ key s = k := by
    intro s hs hk
    have hmem : s ∈ t.rows := by
      rw [hsplit]
      simp only [List.mem_append, List.mem_cons] at hs ⊢
      tauto
    rw [hsplit, List.nodup_middle, List.nodup_cons] at hnodup
    exact hnodup.1 (hother s hmem hk ▸ hs)
  have hmap : ∀ rows : List ρ, (∀ s ∈ rows, s ∈ before ++ after) →
      rows.map (fun s => w (if (key s == k) = true then f s else s)) = rows.map w :=
        fun rows hrows =>
    List.map_congr_left fun s hs => by
      rw [if_neg (by simpa using hrest s (hrows s hs))]
  have hat : (key r == k) = true := by simpa using hkey
  simp only [total, update, List.map_map, Function.comp_def, hsplit, List.map_append, List.map_cons,
    List.sum_append, List.sum_cons, hat, if_true]
  rw [hmap before fun s hs => List.mem_append_left after hs,
    hmap after fun s hs => List.mem_append_right before hs]
  omega

end Keys

end Table

end Relational
