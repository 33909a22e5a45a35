import MessagingGateway.Relational.OrderBy
import MessagingGateway.Store.Schema

/-!
# Transactions

A repository operation runs in one transaction: a function from the database to
an error or to a result with the new database. An error rolls the transaction
back, so the database it leaves is the one it found (`commit`). The lemmas here
take a transaction apart statement by statement.
-/

namespace MessagingGateway.Store

open Relational

/-- The sentinel errors the callers of the store test with `errors.Is`. -/
inductive Sentinel
  | invalidIdentifier
  | invalidLease
  | invalidEncryptedSession
  | invalidCommand
  | invalidRoute
  | invalidConnectionState
  | invalidTenantAdminInput
  | invalidProviderResponseID
  | idempotencyConflict
  | connectionLeaseLost
  | connectionNotFound
  | tenantPairingActive
  | dispatchFenceLost
  | canonicalLaneBusy
  | conflictingEnvelope
  | providerResponseCapacity
  | backfillCheckpointConflict
  deriving DecidableEq

structure Err where
  text : String
  is : List Sentinel := []
  deriving DecidableEq

def Err.isSentinel (e : Err) (s : Sentinel) : Bool := e.is.contains s

def Sentinel.text : Sentinel → String
  | .invalidIdentifier => "invalid identifier"
  | .invalidLease => "invalid connection lease"
  | .invalidEncryptedSession => "invalid encrypted session envelope"
  | .invalidCommand => "invalid message command"
  | .invalidRoute => "invalid message route"
  | .invalidConnectionState => "connection state does not allow pairing"
  | .invalidTenantAdminInput => "invalid tenant administration input"
  | .invalidProviderResponseID => "invalid provider response ID"
  | .idempotencyConflict => "idempotency key reused with different request"
  | .connectionLeaseLost => "connection lease fence lost"
  | .connectionNotFound => "connection not found"
  | .tenantPairingActive => "tenant has an active pairing attempt"
  | .dispatchFenceLost => "dispatch fence lost before provider I/O"
  | .canonicalLaneBusy =>
    "provider conversation already has queued or in-flight work on another lane"
  | .conflictingEnvelope => "provider response ID reused with different bytes"
  | .providerResponseCapacity => "provider response quarantine capacity exhausted"
  | .backfillCheckpointConflict => "provider backfill checkpoint changed"

def Sentinel.err (s : Sentinel) : Err := ⟨s.text, [s]⟩

/-- A statement rejected by a unique key, reported under the name of the
operation that issued it. -/
def uniqueViolation (operation : String) : Err :=
  ⟨operation ++ ": duplicate key value violates unique constraint", []⟩

def checkViolation (operation : String) : Err :=
  ⟨operation ++ ": new row violates check constraint", []⟩

abbrev Tx := Except Err

def require (p : Bool) (e : Err) : Tx Unit := if p then .ok () else .error e

def orFail {α : Type} (x : Option α) (e : Err) : Tx α :=
  match x with
  | some a => .ok a
  | none => .error e

section

variable {α ρ δ : Type}

/-- A transaction with the reply that tells its result. -/
def replying (reply : α → ρ) (tx : Tx (α × δ)) : Tx (ρ × δ) :=
  tx.map fun result => (reply result.1, result.2)

def finishing (done : ρ) (tx : Tx δ) : Tx (ρ × δ) := tx.map fun db => (done, db)

/-- What a caller sees of a transaction, and what it leaves: nothing if it fails. -/
def outcome (failed : Err → ρ) (db : δ) : Tx (ρ × δ) → ρ × δ
  | .ok result => result
  | .error e => (failed e, db)

end

theorem bind_ok {ε α β : Type} {x : Except ε α} {f : α → Except ε β} {b : β} :
    (x >>= f) = .ok b ↔ ∃ a, x = .ok a ∧ f a = .ok b := by
  cases x with
  | error e =>
    simp only [bind, Except.bind, reduceCtorEq, false_and, exists_false]
  | ok a =>
    simp only [bind, Except.bind, Except.ok.injEq, exists_eq_left']

theorem bind_error {ε α β : Type} {x : Except ε α} {f : α → Except ε β} {e : ε} :
    (x >>= f) = .error e ↔ x = .error e ∨ ∃ a, x = .ok a ∧ f a = .error e := by
  cases x with
  | error e' =>
    simp only [bind, Except.bind, Except.error.injEq, reduceCtorEq, false_and, exists_false,
      or_false]
  | ok a =>
    simp only [bind, Except.bind, reduceCtorEq, Except.ok.injEq, exists_eq_left', false_or]

@[simp] theorem require_ok {p : Bool} {e : Err} {u : Unit} : require p e = .ok u ↔ p = true := by
  cases p <;> simp [require]

@[simp] theorem orFail_ok {α : Type} {x : Option α} {e : Err} {a : α} :
    orFail x e = .ok a ↔ x = some a := by
  cases x <;> simp [orFail]

theorem map_ok {ε α β : Type} {x : Except ε α} {f : α → β} {b : β} :
    x.map f = .ok b ↔ ∃ a, x = .ok a ∧ f a = b := by
  cases x <;> simp [Except.map]

section

variable {α ρ δ : Type} {r : ρ} {db' : δ}

theorem replying_ok {reply : α → ρ} {tx : Tx (α × δ)} (h : replying reply tx = .ok (r, db')) :
    ∃ a, tx = .ok (a, db') ∧ r = reply a := by
  obtain ⟨⟨a, _⟩, hok, ⟨⟩⟩ := map_ok.1 h
  exact ⟨a, hok, rfl⟩

theorem finishing_ok {done : ρ} {tx : Tx δ} (h : finishing done tx = .ok (r, db')) :
    tx = .ok db' ∧ r = done := by
  obtain ⟨_, hok, ⟨⟩⟩ := map_ok.1 h
  exact ⟨hok, rfl⟩

theorem outcome_rule {failed : Err → ρ} {db : δ} (tx : Tx (ρ × δ)) {motive : ρ × δ → Prop}
    (rejected : ∀ e, tx = .error e → motive (failed e, db))
    (committed : ∀ reply db', tx = .ok (reply, db') → motive (reply, db')) :
    motive (outcome failed db tx) := by
  cases tx with
  | error e => exact rejected e rfl
  | ok result => exact committed result.1 result.2 rfl

end

theorem pure_ok {α : Type} {a b : α} : (pure a : Tx α) = .ok b ↔ a = b := by
  simp [pure, Except.pure]

/-- A relation that holds between the state before and after every round of a loop
holds between the first state and the last. -/
theorem foldlM_rel {ε α σ : Type} {f : σ → α → Except ε σ} {R : σ → σ → Prop} {as : List α}
    {s s' : σ} (hrefl : ∀ s, R s s) (htrans : ∀ {s₁ s₂ s₃}, R s₁ s₂ → R s₂ s₃ → R s₁ s₃)
    (hround : ∀ a ∈ as, ∀ s s', f s a = .ok s' → R s s') (h : as.foldlM f s = .ok s') : R s s' := by
  induction as generalizing s with
  | nil =>
    cases h
    exact hrefl _
  | cons a as ih =>
    rw [List.foldlM_cons, bind_ok] at h
    obtain ⟨middle, hfirst, hrest⟩ := h
    exact htrans (hround a List.mem_cons_self s middle hfirst)
      (ih (fun b hb => hround b (List.mem_cons_of_mem a hb)) hrest)

theorem pure_pair {α β : Type} {a a' : α} {b b' : β} :
    (pure (a, b) : Tx (α × β)) = .ok (a', b') ↔ a = a' ∧ b = b' := by
  rw [pure_ok, Prod.mk.injEq]

end MessagingGateway.Store
