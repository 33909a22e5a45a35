import Mathlib

/-!
# Programs that talk to collaborators

A program calls collaborators it does not control. Every call is logged together
with its answer, and the answer may depend on the whole log before it, so a
collaborator can behave in any way. A program ends with a value or an error, and
the log stays either way. `Ensures` is the judgment for such programs: from logs
that satisfy the precondition, a value comes with the postcondition and an error
with the exit condition. The rules follow the constructs.
-/

namespace Relational

/-- A program with log entries `entry`, errors `ε` and values `α`. -/
def Talk (ε entry α : Type) : Type := List entry → Except ε α × List entry

namespace Talk

variable {ε entry α β : Type}

protected def pure (a : α) : Talk ε entry α := fun log => (.ok a, log)

protected def bind (t : Talk ε entry α) (f : α → Talk ε entry β) : Talk ε entry β := fun log =>
  match t log with
  | (.ok a, log') => f a log'
  | (.error e, log') => (.error e, log')

instance : Monad (Talk ε entry) where
  pure := Talk.pure
  bind := Talk.bind

def fail (e : ε) : Talk ε entry α := fun log => (.error e, log)

def call (answer : List entry → β) (log : β → entry) : Talk ε entry β := fun history =>
  (.ok (answer history), history ++ [log (answer history)])

def ofExcept : Except ε α → Talk ε entry α
  | .ok a => Talk.pure a
  | .error e => fail e

def check (b : Bool) (e : ε) : Talk ε entry Unit := if b then Talk.pure () else fail e

/-- From logs with `P`, a value `a` comes with `Q a` and an error with `R`. -/
def Ensures (P : List entry → Prop) (t : Talk ε entry α) (Q : α → List entry → Prop)
    (R : List entry → Prop) : Prop :=
  ∀ log, P log →
    match t log with
    | (.ok a, log') => Q a log'
    | (.error _, log') => R log'

variable {P P' R : List entry → Prop} {Q Q' : α → List entry → Prop} {t : Talk ε entry α}

theorem Ensures.pure {a : α} (h : ∀ log, P log → Q a log) :
    Ensures (ε := ε) P (Pure.pure a : Talk ε entry α) Q R :=
  h

theorem Ensures.fail {e : ε} (h : ∀ log, P log → R log) :
    Ensures P (Talk.fail e : Talk ε entry α) Q R :=
  h

theorem Ensures.bind {f : α → Talk ε entry β} {Q' : β → List entry → Prop}
    (ht : Ensures P t Q R) (hf : ∀ a, Ensures (Q a) (f a) Q' R) : Ensures P (t >>= f) Q' R := by
  intro log hlog
  have hfirst := ht log hlog
  show match Talk.bind t f log with
    | (.ok b, log') => Q' b log'
    | (.error _, log') => R log'
  unfold Talk.bind
  cases hresult : t log with
  | mk answer log' =>
    rw [hresult] at hfirst
    cases answer with
    | ok a => exact hf a log' hfirst
    | error e => exact hfirst

theorem Ensures.call {answer : List entry → β} {log : β → entry} {Q : β → List entry → Prop}
    (h : ∀ history, P history → ∀ b, Q b (history ++ [log b])) :
    Ensures P (Talk.call (ε := ε) answer log) Q R :=
  fun history hhistory => h history hhistory (answer history)

theorem Ensures.ofExcept {a : Except ε α} (hok : ∀ v, a = .ok v → ∀ log, P log → Q v log)
    (herror : ∀ log, P log → R log) : Ensures P (Talk.ofExcept a) Q R := by
  cases a with
  | ok v => exact hok v rfl
  | error e => exact herror

theorem Ensures.check {b : Bool} {e : ε} {f : Unit → Talk ε entry α}
    (hok : b = true → Ensures P (f ()) Q R)
    (herror : ∀ log, P log → R log) : Ensures P (Talk.check b e >>= f) Q R := by
  cases b with
  | true => exact hok rfl
  | false => exact herror

theorem Ensures.mono (ht : Ensures P' t Q' R) (hP : ∀ log, P log → P' log)
    (hQ : ∀ a log, Q' a log → Q a log) : Ensures P t Q R := by
  intro log hlog
  have hresult := ht log (hP log hlog)
  cases hrun : t log with
  | mk answer log' =>
    rw [hrun] at hresult
    cases answer with
    | ok a => exact hQ a log' hresult
    | error e => exact hresult

end Talk

/-! ### Logs -/

variable {α : Type}

theorem cut_unique {p : α → Bool} {before after before' after' : List α} {a b : α}
    (h : before ++ a :: after = before' ++ b :: after') (hbefore : ∀ x ∈ before, p x = false)
    (hafter : ∀ x ∈ after, p x = false) (hb : p b = true) :
    before = before' ∧ a = b ∧ after = after' := by
  induction before generalizing before' with
  | nil =>
    cases before' with
    | nil =>
      obtain ⟨rfl, rfl⟩ := List.cons.inj h
      exact ⟨rfl, rfl, rfl⟩
    | cons c before' =>
      obtain ⟨-, rfl⟩ := List.cons.inj h
      rw [hafter b (by simp)] at hb
      cases hb
  | cons c before ih =>
    cases before' with
    | nil =>
      obtain ⟨rfl, -⟩ := List.cons.inj h
      rw [hbefore c List.mem_cons_self] at hb
      cases hb
    | cons c' before' =>
      obtain ⟨rfl, hrest⟩ := List.cons.inj h
      obtain ⟨rfl, rfl, rfl⟩ := ih hrest fun x hx => hbefore x (List.mem_cons_of_mem _ hx)
      exact ⟨rfl, rfl, rfl⟩

theorem cut_snoc {log before after : List α} {a b : α} (h : log ++ [a] = before ++ b :: after) :
    (log = before ∧ a = b ∧ after = []) ∨ ∃ rest, after = rest ++ [a] ∧ log = before ++
      b :: rest := by
  rcases List.eq_nil_or_concat after with rfl | ⟨rest, c, rfl⟩
  · obtain ⟨rfl, hlast⟩ := List.append_inj' h rfl
    exact .inl ⟨rfl, List.singleton_inj.1 hlast, rfl⟩
  · rw [List.concat_eq_append, ← List.cons_append, ← List.append_assoc] at h
    obtain ⟨rfl, hlast⟩ := List.append_inj' h rfl
    exact .inr ⟨rest, by rw [List.concat_eq_append, List.singleton_inj.1 hlast], rfl⟩

end Relational
