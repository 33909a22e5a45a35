import Mathlib

/-!
# Backoff

Two loops wait after failures: the run of a connection between its generations, and the long
poll of the client. Both draw a delay below a limit that doubles with each failure up to a cap.
Durations are 64-bit integers and the counters are unsigned, as in the code.
-/

namespace MessagingGateway.Actor

/-! ### Draws -/

structure Int63n where
  draw : Int64 → Int64
  draw_mem {limit : Int64} (h : 0 < limit) : 0 ≤ draw limit ∧ draw limit < limit

/-- What a draw is made of: random bytes or, where they cannot be read, the clock. -/
inductive Entropy
  | bytes (value : UInt64)
  | clock (nanos : Int64) (h : 0 ≤ nanos)

def Entropy.number : Entropy → Int64
  | .bytes value => (value &&& 0x7fffffffffffffff).toInt64
  | .clock nanos _ => nanos

theorem Entropy.number_nonneg (entropy : Entropy) : 0 ≤ entropy.number := by
  cases entropy with
  | clock nanos h => exact h
  | bytes value =>
    rw [Int64.le_iff_toInt_le]
    show 0 ≤ (value.toBitVec &&& 0x7fffffffffffffff#64).toInt
    rw [BitVec.toInt_eq_toNat_of_msb (by rw [BitVec.msb_and]; exact Bool.and_false _)]
    exact Int.natCast_nonneg _

def cryptoInt63n (entropy : Entropy) : Int63n where
  draw limit := if limit ≤ 1 then 0 else entropy.number % limit
  draw_mem {limit} h := by
    have hnumber := entropy.number_nonneg
    split
    · exact ⟨by decide, h⟩
    · rw [Int64.le_iff_toInt_le, Int64.lt_iff_toInt_lt] at *
      rw [Int64.toInt_mod]
      exact ⟨Int.tmod_nonneg _ hnumber, Int.tmod_lt_of_pos _ h⟩

def secureInt63n : Entropy → Int63n := cryptoInt63n

/-! ### The loops -/

/-- A base and a cap that `NewBackoff` or `normalizeLongPollRetryPolicy` let pass. -/
structure RetryPolicy where
  base : Int64
  cap : Int64
  int63n : Int63n
  base_pos : 0 < base
  base_le : base ≤ cap

def normalizePolicy (defaultBase defaultCap base cap : Int64) (int63n : Int63n) :
    Option RetryPolicy :=
  let base := if base = 0 then defaultBase else base
  let cap := if cap = 0 then defaultCap else cap
  if h : base ≤ 0 ∨ cap < base then none
  else some ⟨base, cap, int63n, by simpa using (not_or.1 h).1, by simpa using (not_or.1 h).2⟩

structure Backoff extends RetryPolicy where
  failures : UInt64 := 0

def newBackoff (base cap : Int64) (int63n : Int63n) : Option Backoff :=
  (normalizePolicy 2000000000 300000000000 base cap int63n).map fun policy => { policy with }

def normalizeLongPollRetryPolicy : Int64 → Int64 → Int63n → Option RetryPolicy :=
  normalizePolicy 2000000000 120000000000

theorem toNat_succ {exponent failures : UInt64} (h : exponent < failures) :
    (exponent + 1).toNat = exponent.toNat + 1 := by
  have hlt := UInt64.lt_iff_toNat_lt.1 h
  have hfailures := failures.toNat_lt
  rw [UInt64.toNat_add, UInt64.toNat_one]
  omega

/-- The loop of both: the limit it ends with, and the limits its iterations met. -/
def doubling (failures : UInt64) (cap : Int64) (exponent : UInt64) (limit : Int64) :
    Int64 × List Int64 :=
  if _h : exponent < failures ∧ limit < cap then
    if limit > cap / 2 then (cap, [limit])
    else
      let rest := doubling failures cap (exponent + 1) (limit * 2)
      (rest.1, limit :: rest.2)
  else (limit, [])
termination_by failures.toNat - exponent.toNat
decreasing_by
  have hlt := UInt64.lt_iff_toNat_lt.1 _h.1
  rw [toNat_succ _h.1]
  omega

def RetryPolicy.limit (policy : RetryPolicy) (failures : UInt64) : Int64 :=
  let limit := (doubling failures policy.cap 1 policy.base).1
  if limit > policy.cap then policy.cap else limit

def Backoff.fail (backoff : Backoff) : Int64 × Backoff :=
  let failures := backoff.failures + 1
  (backoff.int63n.draw (backoff.limit failures), { backoff with failures })

/-- The delay of the timer, and whether it fires before the context is done. -/
def waitLongPollRetry (fires : Int64 → Bool) (policy : RetryPolicy) (failures : UInt64) :
    Int64 × Bool :=
  let delay := policy.int63n.draw (policy.limit failures)
  (delay, fires delay)

structure Below (cap limit : Int64) : Prop where
  pos : 0 < limit.toInt
  le : limit.toInt ≤ cap.toInt

theorem RetryPolicy.below (policy : RetryPolicy) : Below policy.cap policy.base :=
  ⟨Int64.lt_iff_toInt_lt.1 policy.base_pos, Int64.le_iff_toInt_le.1 policy.base_le⟩

section

variable {cap limit : Int64}

theorem Below.half_lt_iff (h : Below cap limit) : limit > cap / 2 ↔
    cap.toInt < limit.toInt * 2 := by
  have hpos := h.pos
  have hle := h.le
  rw [gt_iff_lt, Int64.lt_iff_toInt_lt, Int64.toInt_div_of_ne_right _ _ (by decide),
    Int.tdiv_eq_ediv_of_nonneg (by omega), show Int64.toInt 2 = 2 from rfl]
  omega

theorem Below.toInt_double (h : Below cap limit) (hsmall : ¬limit > cap / 2) :
    (limit * 2).toInt = limit.toInt * 2 := by
  have hpos := h.pos
  have hcap := cap.toInt_lt
  rw [h.half_lt_iff, not_lt] at hsmall
  rw [Int64.toInt_mul, show Int64.toInt 2 = 2 from rfl]
  exact Int.bmod_eq_of_le (by omega) (by omega)

theorem Below.double (h : Below cap limit) (hsmall : ¬limit > cap / 2) : Below cap (limit * 2) := by
  have hpos := h.pos
  have hdouble := h.toInt_double hsmall
  rw [h.half_lt_iff, not_lt] at hsmall
  exact ⟨by omega, by omega⟩

theorem doubling_limit (failures exponent : UInt64) (h : Below cap limit) :
    (doubling failures cap exponent limit).1.toInt =
      min cap.toInt (limit.toInt * 2 ^ (failures.toNat - exponent.toNat)) := by
  -- what is left to double by shrinks as the limit grows
  fun_induction doubling failures cap exponent limit with
  | case1 exponent limit hrun hlarge =>
    have hlt := UInt64.lt_iff_toNat_lt.1 hrun.1
    obtain ⟨k, hk⟩ := Nat.exists_eq_add_of_lt hlt
    have hpos := h.pos
    refine (min_eq_left ?_).symm
    calc cap.toInt ≤ limit.toInt * 2 := (h.half_lt_iff.1 hlarge).le
      _ ≤ limit.toInt * 2 * 2 ^ k := le_mul_of_one_le_right (by omega) (one_le_pow₀ (by decide))
      _ = limit.toInt * 2 ^ (failures.toNat - exponent.toNat) := by
        rw [show failures.toNat - exponent.toNat = k + 1 by omega]
        ring
  | case2 exponent limit hrun hsmall rest ih =>
    have hlt := UInt64.lt_iff_toNat_lt.1 hrun.1
    have hsucc := toNat_succ hrun.1
    obtain ⟨k, hk⟩ := Nat.exists_eq_add_of_lt hlt
    rw [ih (h.double hsmall), h.toInt_double hsmall,
      show failures.toNat - exponent.toNat = k + 1 by omega,
      show failures.toNat - (exponent + 1).toNat = k by omega]
    ring_nf
  | case3 exponent limit hend =>
    rcases not_and_or.1 hend with hlast | hcap
    · rw [UInt64.lt_iff_toNat_lt, not_lt] at hlast
      rw [Nat.sub_eq_zero_of_le hlast, pow_zero, mul_one, min_eq_right h.le]
    · rw [Int64.lt_iff_toInt_lt, not_lt] at hcap
      rw [← le_antisymm h.le hcap, min_eq_left]
      exact le_mul_of_one_le_right h.pos.le (one_le_pow₀ (by decide))

theorem doubling_exact (failures exponent : UInt64) (h : Below cap limit) :
    ∀ met ∈ (doubling failures cap exponent limit).2,
      met > cap / 2 ∨ (met * 2).toInt = met.toInt * 2 := by
  fun_induction doubling failures cap exponent limit with
  | case1 exponent limit hrun hlarge =>
    intro met hmet
    rw [List.mem_singleton.1 hmet]
    exact .inl hlarge
  | case2 exponent limit hrun hsmall rest ih =>
    intro met hmet
    rcases List.mem_cons.1 hmet with rfl | hmet
    · exact .inr (h.toInt_double hsmall)
    · exact ih (h.double hsmall) met hmet
  | case3 => exact fun met hmet => absurd hmet List.not_mem_nil

theorem doubling_length (failures exponent : UInt64) (h : Below cap limit) :
    limit.toInt * 2 ^ (doubling failures cap exponent limit).2.length < 2 * cap.toInt := by
  fun_induction doubling failures cap exponent limit with
  | case1 exponent limit hrun hlarge =>
    have hlt := Int64.lt_iff_toInt_lt.1 hrun.2
    rw [List.length_singleton, pow_one]
    omega
  | case2 exponent limit hrun hsmall rest ih =>
    rw [List.length_cons, pow_succ', ← mul_assoc, ← h.toInt_double hsmall]
    exact ih (h.double hsmall)
  | case3 =>
    have hpos := h.pos
    have hle := h.le
    rw [List.length_nil, pow_zero]
    omega

end

def DrawnFor (policy : RetryPolicy) (failures : Nat) (delay : Int64) : Prop :=
  ∃ limit : Int64, limit.toInt = min policy.cap.toInt (policy.base.toInt * 2 ^ (failures - 1)) ∧
    delay = policy.int63n.draw limit ∧ 0 ≤ delay ∧ delay < limit

theorem drawnFor_draw {policy : RetryPolicy} {failures : UInt64} :
    DrawnFor policy failures.toNat (policy.int63n.draw (policy.limit failures)) := by
  have hbelow := policy.below
  have hlimit : (policy.limit failures).toInt =
      min policy.cap.toInt (policy.base.toInt * 2 ^ (failures.toNat - 1)) := by
    have hloop := doubling_limit failures 1 hbelow
    rw [RetryPolicy.limit, if_neg]
    · exact hloop
    · rw [gt_iff_lt, Int64.lt_iff_toInt_lt, hloop]
      omega
  refine ⟨_, hlimit, rfl, policy.int63n.draw_mem ?_⟩
  rw [Int64.lt_iff_toInt_lt, hlimit, lt_min_iff]
  exact ⟨hbelow.pos.trans_le hbelow.le, Int.mul_pos hbelow.pos (pow_pos (by decide) _)⟩

end MessagingGateway.Actor
