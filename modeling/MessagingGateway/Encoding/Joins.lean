import Mathlib

/-!
# Joined names

A name built from two parts with a separator between them determines the parts
when the separator does not occur in the first one, which then ends where it
first occurs, or not in the second one, which then begins where it last occurs.
-/

namespace Encoding

section

variable {α : Type} {a : α} {x x' y y' : List α}

theorem append_cons_inj_left (hx : a ∉ x) (hx' : a ∉ x') (h : x ++ a :: y = x' ++ a :: y') :
    x = x' ∧ y = y' := by
  induction x generalizing x' with
  | nil =>
    cases x' with
    | nil => exact ⟨rfl, by simpa using h⟩
    | cons b x' =>
      rw [List.nil_append, List.cons_append, List.cons.injEq] at h
      exact absurd (h.1 ▸ List.mem_cons_self) hx'
  | cons b x ih =>
    cases x' with
    | nil =>
      rw [List.nil_append, List.cons_append, List.cons.injEq] at h
      exact absurd (h.1.symm ▸ List.mem_cons_self) hx
    | cons b' x' =>
      rw [List.cons_append, List.cons_append, List.cons.injEq] at h
      obtain ⟨rfl, h⟩ := h
      obtain ⟨rfl, rfl⟩ := ih (fun hmem => hx (List.mem_cons_of_mem _ hmem))
        (fun hmem => hx' (List.mem_cons_of_mem _ hmem)) h
      exact ⟨rfl, rfl⟩

theorem append_cons_inj_right (hy : a ∉ y) (hy' : a ∉ y') (h : x ++ a :: y = x' ++ a :: y') :
    x = x' ∧ y = y' := by
  have hreverse := congrArg List.reverse h
  simp only [List.reverse_append, List.reverse_cons, List.append_assoc, List.singleton_append]
    at hreverse
  obtain ⟨hy, hx⟩ := append_cons_inj_left (by simpa using hy) (by simpa using hy') hreverse
  exact ⟨List.reverse_injective hx, List.reverse_injective hy⟩

end

section

variable {s s' t t' : String}

theorem colon_toList (s t : String) : (s ++ ":" ++ t).toList = s.toList ++ ':' :: t.toList := by
  rw [String.toList_append, String.toList_append, List.append_assoc]
  rfl

theorem colon_inj_left (hs : ':' ∉ s.toList) (hs' : ':' ∉ s'.toList)
    (h : s ++ ":" ++ t = s' ++ ":" ++ t') : s = s' ∧ t = t' := by
  have hlist := congrArg String.toList h
  rw [colon_toList, colon_toList] at hlist
  obtain ⟨hs, ht⟩ := append_cons_inj_left hs hs' hlist
  exact ⟨String.toList_injective hs, String.toList_injective ht⟩

theorem colon_inj_right (ht : ':' ∉ t.toList) (ht' : ':' ∉ t'.toList)
    (h : s ++ ":" ++ t = s' ++ ":" ++ t') : s = s' ∧ t = t' := by
  have hlist := congrArg String.toList h
  rw [colon_toList, colon_toList] at hlist
  obtain ⟨hs, ht⟩ := append_cons_inj_right ht ht' hlist
  exact ⟨String.toList_injective hs, String.toList_injective ht⟩

theorem colon_notMem_toString (n : Nat) : ':' ∉ (toString n).toList := by
  rw [Nat.toString_eq_repr, Nat.toList_repr]
  intro hmem
  have hdigit := Nat.isDigit_of_mem_toDigits (by omega) (by omega) hmem
  revert hdigit
  decide

theorem colon_toString_inj {m n : Nat} (h : s ++ ":" ++ toString m = s' ++ ":" ++ toString n) :
    s = s' ∧ m = n := by
  obtain ⟨hs, hnumber⟩ := colon_inj_right (colon_notMem_toString m) (colon_notMem_toString n) h
  have hdigits : Nat.toDigits 10 m = Nat.toDigits 10 n := by
    simpa only [Nat.toString_eq_repr, Nat.toList_repr] using congrArg String.toList hnumber
  refine ⟨hs, ?_⟩
  rw [← Nat.ofDigitChars_toDigits (n := m) (by omega) (Nat.le_refl 10), hdigits,
    Nat.ofDigitChars_toDigits (by omega) (Nat.le_refl 10)]

end

end Encoding
