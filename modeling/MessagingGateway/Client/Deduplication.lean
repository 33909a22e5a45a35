import MessagingGateway.Relational.Runs

/-!
# Deduplication of updates

The provider repeats updates. The client remembers the last eight updates it has passed on, in a
ring that is written forwards and searched backwards from the newest entry.
-/

namespace MessagingGateway.Client

open Relational

structure UpdateDedupItem where
  id : String
  hash : Vector UInt8 32
  deriving Inhabited, DecidableEq

structure RecentUpdates where
  items : Fin 8 → UpdateDedupItem := fun _ => default
  ptr : Fin 8 := 0

namespace RecentUpdates

def item (c : RecentUpdates) (n : Nat) : UpdateDedupItem :=
  c.items (Fin.ofNat 8 (c.ptr + n))

def scan (c : RecentUpdates) (update : UpdateDedupItem) : Nat → Bool
  | 0 => false
  | n + 1 => if (c.item n).id = update.id then (c.item n).hash = update.hash else c.scan update n

def record (c : RecentUpdates) (update : UpdateDedupItem) : RecentUpdates :=
  ⟨Function.update c.items c.ptr update, c.ptr + 1⟩

end RecentUpdates

def deduplicateHash (update : UpdateDedupItem) (c : RecentUpdates) : Bool × RecentUpdates :=
  if c.scan update 8 then (true, c)
  else (false, c.record update)

/-! ### The ring as a list -/

/-- The updates of the calls that returned `false`, the last one first. -/
def recorded (trace : List (UpdateDedupItem × Bool)) : List UpdateDedupItem :=
  ((trace.filter fun call => !call.2).map Prod.fst).reverse

/-- The latest entry among some with the ID of an update has its hash. -/
def Repeats (entries : List UpdateDedupItem) (update : UpdateDedupItem) : Prop :=
  ∃ entry, entries.find? (·.id = update.id) = some entry ∧ entry.hash = update.hash

def RecentUpdates.window (c : RecentUpdates) : Nat → List UpdateDedupItem
  | 0 => []
  | n + 1 => c.item n :: c.window n

section

variable {c : RecentUpdates} {update : UpdateDedupItem}

theorem scan_iff (n : Nat) : c.scan update n = true ↔ Repeats (c.window n) update := by
  induction n with
  | zero => simp [RecentUpdates.scan, Repeats, RecentUpdates.window]
  | succ n ih =>
    rw [RecentUpdates.scan, Repeats, RecentUpdates.window, List.find?_cons]
    by_cases hid : (c.item n).id = update.id
    · simp [hid]
    · simp only [hid, if_false, decide_false]
      exact ih

theorem slot_next (ptr : Fin 8) (n : Nat) :
    Fin.ofNat 8 ((ptr + 1 : Fin 8) + n) = Fin.ofNat 8 (ptr + (n + 1)) := by
  apply Fin.ext
  simp only [Fin.ofNat, Fin.val_add]
  omega

theorem item_record_last : (c.record update).item 7 = update := by
  have hslot : Fin.ofNat 8 (c.ptr + 8) = c.ptr := by
    apply Fin.ext
    simp only [Fin.ofNat]
    omega
  rw [RecentUpdates.item, RecentUpdates.record, slot_next, hslot]
  exact Function.update_self ..

theorem item_record {n : Nat} (h : n < 7) : (c.record update).item n = c.item (n + 1) := by
  have hslot : Fin.ofNat 8 (c.ptr + (n + 1)) ≠ c.ptr := by
    intro hsame
    have hval := congrArg Fin.val hsame
    simp only [Fin.ofNat] at hval
    omega
  rw [RecentUpdates.item, RecentUpdates.record, slot_next]
  exact Function.update_of_ne hslot ..

theorem window_record {n : Nat} (h : n ≤ 7) :
    (c.record update).window n = (c.window (n + 1)).take n := by
  induction n with
  | zero => rfl
  | succ n ih =>
    rw [RecentUpdates.window, item_record h, ih (by omega)]
    rfl

/-- The ring as it should be: the last recorded updates, and empty entries before them. -/
def padded (entries : List UpdateDedupItem) : List UpdateDedupItem :=
  (entries ++ List.replicate 8 default).take 8

def Remembers (trace : List (UpdateDedupItem × Bool)) (c : RecentUpdates) : Prop :=
  c.window 8 = padded (recorded trace)

theorem Remembers.step {trace : List (UpdateDedupItem × Bool)} (h : Remembers trace c) :
    Remembers (trace ++ [(update, (deduplicateHash update c).1)]) (deduplicateHash update c).2 := by
  unfold deduplicateHash
  split
  · have hsame : recorded (trace ++ [(update, true)]) = recorded trace := by simp [recorded]
    rw [Remembers, hsame]
    exact h
  · have hnew : recorded (trace ++ [(update, false)]) = update :: recorded trace := by
      simp [recorded]
    have hwindow : (c.record update).window 8 = update :: (c.window 8).take 7 := by
      rw [← window_record le_rfl]
      exact congrArg (· :: _) item_record_last
    rw [Remembers, hwindow, hnew, h, padded, List.take_take]
    rfl

theorem repeats_padded {entries : List UpdateDedupItem} (hid : update.id ≠ "") :
    Repeats (padded entries) update ↔ Repeats (entries.take 8) update := by
  have hempty (n : Nat) : (List.replicate n default).find?
      (fun entry : UpdateDedupItem => entry.id = update.id) = none := by
    rw [List.find?_eq_none]
    intro entry hentry
    rw [List.eq_of_mem_replicate hentry]
    simp only [decide_eq_true_eq]
    exact hid.symm
  rw [Repeats, padded, List.take_append, List.take_replicate, List.find?_append, hempty,
    Option.or_none]
  exact Iff.rfl

end

/-- A call drops an update exactly if the latest one with its ID, among the last eight that were
recorded, has its hash. A dropped update is not recorded. -/
theorem deduplicateHash_window {trace : List (UpdateDedupItem × Bool)} {c : RecentUpdates}
    (hrun : Run deduplicateHash (fun _ update => update.id ≠ "") {} trace c)
    {update : UpdateDedupItem} (hid : update.id ≠ "") :
    ((deduplicateHash update c).1 = true ↔ Repeats ((recorded trace).take 8) update) ∧
    ((deduplicateHash update c).1 = true → (deduplicateHash update c).2 = c) := by
  have hring : Remembers trace c :=
    hrun.invariant_trace (fun _ _ _ _ h => h.step) (by rw [Remembers]; rfl)
  rw [← repeats_padded hid, ← hring, ← scan_iff, deduplicateHash]
  split
  · next hscan => exact ⟨⟨fun _ => hscan, fun _ => rfl⟩, fun _ => rfl⟩
  · next hscan => exact ⟨⟨nofun, fun h => absurd h hscan⟩, nofun⟩

/-- Nine updates, the last of which overwrites the first. -/
def nineUpdates : List UpdateDedupItem :=
  ["a", "b", "c", "d", "e", "f", "g", "h", "i"].map (⟨·, .replicate 32 1⟩)

theorem repeated_update_dropped :
    (deduplicateHash ⟨"b", .replicate 32 1⟩ (execute deduplicateHash nineUpdates {}).2).1 = true :=
  (deduplicateHash_window (Run.of_inputs nineUpdates (by decide)) (by decide)).1.2
    ⟨⟨"b", .replicate 32 1⟩, by decide +kernel, rfl⟩

end MessagingGateway.Client
