import Mathlib

/-!
# Length-prefixed lists

A list of strings over an alphabet is written as one string by putting before
each its length, in a header of fixed width. Headers that tell the lengths below
a bound apart make the encoding injective on strings shorter than the bound: the
header says where the first string ends, and the rest is a shorter encoding.
-/

namespace Encoding

variable {β : Type} {header : Nat → List β} {width bound : Nat}

/-- A header of fixed positive width that tells lengths below a bound apart. -/
structure IsHeader (header : Nat → List β) (width bound : Nat) : Prop where
  length : ∀ n, (header n).length = width
  positive : 0 < width
  injective : ∀ m < bound, ∀ n < bound, header m = header n → m = n

def frame (header : Nat → List β) (x : List β) : List β := header x.length ++ x

def frames (header : Nat → List β) (xs : List (List β)) : List β := xs.flatMap (frame header)

theorem frame_append_inj (h : IsHeader header width bound) {x y rest rest' : List β}
    (hx : x.length < bound) (hy : y.length < bound)
    (heq : frame header x ++ rest = frame header y ++ rest') : x = y ∧ rest = rest' := by
  simp only [frame, List.append_assoc] at heq
  obtain ⟨hheader, hbody⟩ := List.append_inj heq ((h.length _).trans (h.length _).symm)
  exact List.append_inj hbody (h.injective _ hx _ hy hheader)

theorem frame_ne_nil (h : IsHeader header width bound) (x : List β) : frame header x ≠ [] := by
  intro hnil
  have hlength := congrArg List.length hnil
  have hpositive := h.positive
  simp only [frame, List.length_append, h.length, List.length_nil] at hlength
  omega

theorem frames_inj (h : IsHeader header width bound) {xs ys : List (List β)}
    (hxs : ∀ x ∈ xs, x.length < bound) (hys : ∀ y ∈ ys, y.length < bound)
    (heq : frames header xs = frames header ys) : xs = ys := by
  induction xs generalizing ys with
  | nil =>
    cases ys with
    | nil => rfl
    | cons y ys =>
      simp only [frames, List.flatMap_nil, List.flatMap_cons] at heq
      exact absurd (List.append_eq_nil_iff.1 heq.symm).1 (frame_ne_nil h y)
  | cons x xs ih =>
    cases ys with
    | nil =>
      simp only [frames, List.flatMap_nil, List.flatMap_cons] at heq
      exact absurd (List.append_eq_nil_iff.1 heq).1 (frame_ne_nil h x)
    | cons y ys =>
      simp only [frames, List.flatMap_cons] at heq
      obtain ⟨rfl, hrest⟩ := frame_append_inj h (hxs x List.mem_cons_self)
        (hys y List.mem_cons_self) heq
      rw [ih (fun z hz => hxs z (List.mem_cons_of_mem _ hz))
        (fun z hz => hys z (List.mem_cons_of_mem _ hz)) hrest]

/-! ### Numbers in a fixed number of digits -/

/-- The digits of a number in a base, the most significant first. -/
def digits (base width n : Nat) : List Nat :=
  (List.range width).map fun i => n / base ^ (width - 1 - i) % base

theorem digits_succ (base width n : Nat) :
    digits base (width + 1) n = digits base width (n / base) ++ [n % base] := by
  have hlow : n / base ^ (width + 1 - 1 - width) % base = n % base := by simp
  rw [digits, List.range_succ, List.map_append, List.map_singleton, hlow, digits]
  congr 1
  refine List.map_congr_left fun i hi => ?_
  rw [List.mem_range] at hi
  have hexponent : (width - 1 - i).succ = width + 1 - 1 - i := by omega
  rw [Nat.div_div_eq_div_mul, ← Nat.pow_succ', hexponent]

theorem lt_of_mem_digits {base width n d : Nat} (hbase : 0 < base) (h : d ∈ digits base width n) :
    d < base := by
  obtain ⟨i, -, rfl⟩ := List.mem_map.1 h
  exact Nat.mod_lt _ hbase

theorem digits_inj {base width m n : Nat} (hm : m < base ^ width) (hn : n < base ^ width)
    (h : digits base width m = digits base width n) : m = n := by
  induction width generalizing m n with
  | zero =>
    rw [Nat.pow_zero] at hm hn
    omega
  | succ width ih =>
    rw [digits_succ, digits_succ] at h
    obtain ⟨hhigh, hlow⟩ := List.append_inj' h rfl
    have hquotient : m / base = n / base := by
      refine ih ?_ ?_ hhigh
      · exact Nat.div_lt_of_lt_mul (by rwa [← Nat.pow_succ'])
      · exact Nat.div_lt_of_lt_mul (by rwa [← Nat.pow_succ'])
    have hremainder : m % base = n % base := by simpa using hlow
    rw [← Nat.div_add_mod m base, ← Nat.div_add_mod n base, hquotient, hremainder]

/-- A number as bytes, the most significant first. -/
def bytesOf (width n : Nat) : List UInt8 := (digits 256 width n).map UInt8.ofNat

theorem bytesOf_isHeader {width : Nat} (hwidth : 0 < width) :
    IsHeader (bytesOf width) width (256 ^ width) where
  length n := by simp [bytesOf, digits]
  positive := hwidth
  injective m hm n hn h := by
    have hbytes : ∀ k, (bytesOf width k).map UInt8.toNat = digits 256 width k := by
      intro k
      rw [bytesOf, List.map_map]
      refine (List.map_congr_left fun d hd => ?_).trans (List.map_id _)
      exact UInt8.toNat_ofNat_of_lt' (lt_of_mem_digits (by decide) hd)
    refine digits_inj hm hn ?_
    rw [← hbytes, ← hbytes, h]

end Encoding
