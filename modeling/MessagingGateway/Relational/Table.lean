import Mathlib

/-!
# Tables with a primary key

A table is a list of rows together with the proof that no two rows share a
key, so a table that violates its primary key cannot be built. The statements
of a relational database are functions on tables: `insert` fails on an occupied
key, `insertIgnore` is `ON CONFLICT DO NOTHING`, `update` and `delete` act on
the rows a predicate selects. Later proofs read a table through `find?` and
through membership only; the lemmas below say what each statement does to both.
-/

namespace Relational

variable {κ ρ : Type} {key : ρ → κ}

/-- Rows of type `ρ`, at most one for each value of `key`. -/
structure Table (key : ρ → κ) where
  rows : List ρ
  nodup : (rows.map key).Nodup

namespace Table

instance : Membership ρ (Table key) := ⟨fun t r => r ∈ t.rows⟩

instance {p : ρ → Prop} [DecidablePred p] (t : Table key) : Decidable (∀ r ∈ t, p r) :=
  inferInstanceAs (Decidable (∀ r ∈ t.rows, p r))

instance {p : ρ → Prop} [DecidablePred p] (t : Table key) : Decidable (∃ r ∈ t, p r) :=
  inferInstanceAs (Decidable (∃ r ∈ t.rows, p r))

variable {t t' : Table key} {r s : ρ} {k k₀ : κ} {p : ρ → Bool} {f : ρ → ρ}

theorem mem_def : r ∈ t ↔ r ∈ t.rows := Iff.rfl

instance [DecidableEq ρ] : DecidableEq (Table key) := fun s t =>
  decidable_of_iff (s.rows = t.rows)
    ⟨fun h => by cases s; cases t; cases h; rfl, fun h => by rw [h]⟩

def empty : Table key := ⟨[], List.nodup_nil⟩

instance : EmptyCollection (Table key) := ⟨empty⟩

def single (r : ρ) : Table key := ⟨[r], List.nodup_singleton _⟩

@[simp] theorem not_mem_empty (r : ρ) : r ∉ (∅ : Table key) := List.not_mem_nil

/-- The rows a `WHERE` clause selects, in table order. -/
def select (t : Table key) (p : ρ → Bool) : List ρ := t.rows.filter p

@[simp] theorem mem_select {t : Table key} {p : ρ → Bool} {r : ρ} :
    r ∈ t.select p ↔ r ∈ t ∧ p r = true := List.mem_filter

theorem eq_of_key_eq (hr : r ∈ t) (hs : s ∈ t) (h : key r = key s) : r = s :=
  List.inj_on_of_nodup_map t.nodup hr hs h

section Keys

variable [DecidableEq κ]

def find? (t : Table key) (k : κ) : Option ρ := t.rows.find? fun r => key r = k

theorem find?_eq_some : t.find? k = some r ↔ r ∈ t ∧ key r = k := by
  constructor
  · intro h
    exact ⟨List.mem_of_find?_eq_some h, by simpa using List.find?_some h⟩
  · rintro ⟨hr, rfl⟩
    cases h : t.rows.find? (fun x => key x = key r) with
    | none =>
      have hne := List.find?_eq_none.1 h r hr
      simp at hne
    | some s =>
      have hs : key s = key r := by simpa using List.find?_some h
      rw [find?, h, List.inj_on_of_nodup_map t.nodup (List.mem_of_find?_eq_some h) hr hs]

theorem find?_eq_none : t.find? k = none ↔ ∀ r ∈ t, key r ≠ k := by
  simp [find?, List.find?_eq_none, mem_def]

@[simp] theorem find?_empty (k : κ) : (∅ : Table key).find? k = none := rfl

theorem mem_of_find? (h : t.find? k = some r) : r ∈ t :=
  (find?_eq_some.1 h).1

theorem key_of_find? (h : t.find? k = some r) : key r = k :=
  (find?_eq_some.1 h).2

theorem find?_of_mem (h : r ∈ t) : t.find? (key r) = some r :=
  find?_eq_some.2 ⟨h, rfl⟩

/-! ### Insertion -/

/-- `INSERT`: fails when the key is taken. -/
def insert (t : Table key) (r : ρ) : Option (Table key) :=
  if h : t.find? (key r) = none then
    some ⟨t.rows ++ [r], by
      rw [List.map_append, List.nodup_append]
      refine ⟨t.nodup, by simp, ?_⟩
      rintro _ hk _ hr rfl
      obtain ⟨s, hs, hks⟩ := List.mem_map.1 hk
      simp only [List.map_cons, List.map_nil, List.mem_singleton] at hr
      exact find?_eq_none.1 h s hs (hks.trans hr)⟩
  else none

theorem insert_eq_some :
    t.insert r = some t' ↔ t.find? (key r) = none ∧ t'.rows = t.rows ++ [r] := by
  unfold insert
  split
  case isTrue h =>
    constructor
    · intro h'
      cases h'
      exact ⟨h, rfl⟩
    · rintro ⟨-, h'⟩
      cases t'
      cases h'
      rfl
  case isFalse h => simp [h]

theorem insert_isSome : (t.insert r).isSome ↔ t.find? (key r) = none := by
  unfold insert
  split <;> simp [*]

theorem exists_insert (h : t.find? (key r) = none) : ∃ t', t.insert r = some t' :=
  Option.isSome_iff_exists.1 (insert_isSome.2 h)

theorem mem_insert (h : t.insert r = some t') : s ∈ t' ↔ s ∈ t ∨ s = r := by
  rw [mem_def, (insert_eq_some.1 h).2, List.mem_append, List.mem_singleton, mem_def]

theorem find?_insert (h : t.insert r = some t') (k : κ) :
    t'.find? k = if key r = k then some r else t.find? k := by
  obtain ⟨hfree, hrows⟩ := insert_eq_some.1 h
  rw [find?, hrows, List.find?_append]
  split
  case isTrue hk =>
    subst hk
    have : t.rows.find? (fun x => key x = key r) = none := hfree
    simp [this]
  case isFalse hk => simp [hk, find?]

theorem find?_insert_self (h : t.insert r = some t') : t'.find? (key r) = some r := by
  rw [find?_insert h, if_pos rfl]

theorem find?_insert_of_ne (h : t.insert r = some t') (hk : key r ≠ k) :
    t'.find? k = t.find? k := by
  rw [find?_insert h, if_neg hk]

theorem find?_insert_kept (h : t.insert r = some t') (hs : t.find? k = some s) :
    t'.find? k = some s := by
  rw [find?_insert_of_ne h]
  · exact hs
  · rintro rfl
    rw [(insert_eq_some.1 h).1] at hs
    cases hs

theorem select_insert (h : t.insert r = some t') (p : ρ → Bool) :
    t'.select p = t.select p ++ if p r then [r] else [] := by
  rw [select, (insert_eq_some.1 h).2, List.filter_append, select]
  by_cases hp : p r <;> simp [hp]

/-- `INSERT ... ON CONFLICT DO NOTHING`. -/
def insertIgnore (t : Table key) (r : ρ) : Table key := (t.insert r).getD t

theorem insertIgnore_cases (t : Table key) (r : ρ) :
    (t.find? (key r) = none ∧ t.insert r = some (t.insertIgnore r)) ∨
      ((t.find? (key r)).isSome ∧ t.insertIgnore r = t) := by
  cases h : t.insert r with
  | some t' => exact .inl ⟨(insert_eq_some.1 h).1, by simp [insertIgnore, h]⟩
  | none =>
    refine .inr ⟨?_, by simp [insertIgnore, h]⟩
    cases hk : t.find? (key r) with
    | some s => rfl
    | none =>
      obtain ⟨t', ht'⟩ := exists_insert hk
      rw [h] at ht'
      cases ht'

theorem find?_insertIgnore (t : Table key) (r : ρ) (k : κ) :
    (t.insertIgnore r).find? k = if key r = k then some ((t.find? k).getD r) else t.find? k := by
  rcases insertIgnore_cases t r with ⟨hfree, h⟩ | ⟨hsome, h⟩
  · rw [find?_insert h]
    split
    case isTrue hk => subst hk; simp [hfree]
    case isFalse => rfl
  · rw [h]
    split
    case isTrue hk =>
      subst hk
      obtain ⟨s, hs⟩ := Option.isSome_iff_exists.1 hsome
      simp [hs]
    case isFalse => rfl

end Keys

/-! ### Updates and deletions -/

/-- `UPDATE ... SET ... WHERE p`, for a change that keeps the key. -/
def update (t : Table key) (p : ρ → Bool) (f : ρ → ρ)
    (hf : ∀ r, key (f r) = key r := by exact fun _ => id rfl) : Table key :=
  ⟨t.rows.map fun r => if p r then f r else r, by
    have : (t.rows.map fun r => if p r then f r else r).map key = t.rows.map key := by
      rw [List.map_map]
      refine List.map_congr_left fun r _ => ?_
      simp only [Function.comp]
      split
      · exact hf r
      · rfl
    rw [this]
    exact t.nodup⟩

theorem mem_update {hf : ∀ r, key (f r) = key r}
    : s ∈ t.update p f hf ↔ ∃ r ∈ t, (if p r then f r else r) = s :=
  List.mem_map

theorem find?_update [DecidableEq κ] {hf : ∀ r, key (f r) = key r} (k : κ) :
    (t.update p f hf).find? k = (t.find? k).map fun r => if p r then f r else r := by
  rw [find?, update, List.find?_map]
  have hkey : ((fun r => decide (key r = k)) ∘ fun r => if p r = true then f r else r) =
      fun r => decide (key r = k) := by
    funext r
    simp only [Function.comp]
    split
    · rw [hf r]
    · rfl
  rw [hkey]
  rfl

theorem find?_update_key [DecidableEq κ] [BEq κ] [LawfulBEq κ]
    {hf : ∀ r, key (f r) = key r} (k : κ) :
    (t.update (fun r => key r == k₀) f hf).find? k =
      if k = k₀ then (t.find? k).map f else t.find? k := by
  rw [find?_update]
  cases h : t.find? k with
  | none => simp
  | some r =>
    have hkey : key r = k := key_of_find? h
    split
    case isTrue hk => simp [hkey, hk]
    case isFalse hk => simp [hkey, hk]

theorem find?_update_of_ne [DecidableEq κ]
    {hf : ∀ r, key (f r) = key r} (hp : ∀ r, p r = true → key r = k₀) (hk : k ≠ k₀) :
    (t.update p f hf).find? k = t.find? k := by
  rw [find?_update]
  cases h : t.find? k with
  | none => rfl
  | some r =>
    have hnot : ¬ p r = true := fun hr => hk ((key_of_find? h).symm.trans (hp r hr))
    rw [Option.map_some, if_neg hnot]

theorem update_eq_self
    {hf : ∀ r, key (f r) = key r} (h : ∀ r ∈ t, p r = true → f r = r) : t.update p f hf = t := by
  have hrows : (t.update p f hf).rows = t.rows := by
    refine (List.map_congr_left fun r hr => ?_).trans (List.map_id t.rows)
    by_cases hp : p r = true
    · simp [hp, h r hr hp]
    · simp [hp]
  cases t
  simpa [update] using hrows

theorem nodup_select (t : Table key) (p : ρ → Bool) : (t.select p).Nodup :=
  (List.Nodup.of_map key t.nodup).filter p

theorem length_select_key [DecidableEq κ]
    (h : t.find? k = some r) (hp : ∀ s, p s = true ↔ key s = k) : (t.select p).length = 1 := by
  obtain ⟨hr, hkey⟩ := find?_eq_some.1 h
  have hone : (t.select p).Perm [r] := by
    rw [List.perm_ext_iff_of_nodup (nodup_select t p) (List.nodup_singleton r)]
    intro s
    rw [mem_select, hp, List.mem_singleton]
    constructor
    · rintro ⟨hs, hk⟩
      exact eq_of_key_eq hs hr (hk.trans hkey.symm)
    · rintro rfl
      exact ⟨hr, hkey⟩
  exact hone.length_eq

def delete (t : Table key) (p : ρ → Bool) : Table key :=
  ⟨t.rows.filter fun r => !p r, (List.filter_sublist.map key).nodup t.nodup⟩

@[simp] theorem mem_delete {t : Table key} {p : ρ → Bool} {s : ρ} :
    s ∈ t.delete p ↔ s ∈ t ∧ p s = false := by
  simp [mem_def, delete]

theorem delete_eq_self_iff : t.delete p = t ↔ ∀ r ∈ t, p r = false := by
  constructor
  · intro h r hr
    rw [← h] at hr
    exact (mem_delete.1 hr).2
  · intro h
    have hrows : (t.delete p).rows = t.rows := List.filter_eq_self.2 fun r hr => by simp [h r hr]
    cases t
    simpa [delete] using hrows

theorem find?_delete [DecidableEq κ] (k : κ) :
    (t.delete p).find? k = (t.find? k).filter fun r => !p r := by
  cases h : t.find? k with
  | none =>
    rw [Option.filter_none, find?_eq_none]
    intro r hr
    exact find?_eq_none.1 h r (mem_delete.1 hr).1
  | some r =>
    obtain ⟨hr, hkey⟩ := find?_eq_some.1 h
    by_cases hp : p r = true
    · rw [Option.filter_some, if_neg (by simp [hp]), find?_eq_none]
      rintro s hs hk
      obtain ⟨hs, hps⟩ := mem_delete.1 hs
      rw [eq_of_key_eq hs hr (hk.trans hkey.symm), hp] at hps
      cases hps
    · rw [Option.filter_some, if_pos (by simp [hp])]
      exact find?_eq_some.2 ⟨mem_delete.2 ⟨hr, by simpa using hp⟩, hkey⟩

theorem find?_delete_of_ne [DecidableEq κ]
    (hp : ∀ r, p r = true → key r = k₀) (hk : k ≠ k₀) : (t.delete p).find? k = t.find? k := by
  rw [find?_delete]
  cases h : t.find? k with
  | none => rfl
  | some r =>
    have hnot : p r = false :=
      Bool.eq_false_iff.2 fun hr => hk ((key_of_find? h).symm.trans (hp r hr))
    rw [Option.filter_some, hnot, Bool.not_false, if_pos rfl]

theorem find?_select [DecidableEq κ] (t : Table key) (p : ρ → Bool) (k : κ) :
    (t.select p).find? (fun r => key r = k) = (t.find? k).filter p := by
  have hdelete : (t.delete fun r => !p r).find? k = _ := find?_delete k
  simpa [delete, find?, select] using hdelete

end Table

end Relational
