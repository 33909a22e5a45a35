import MessagingGateway.Actor.Pool

/-!
# One run and one operation for each connection

The entry of a connection names the only run of it that may not have returned, or
whose goroutines may still call the provider. An entry is deleted only when its
run has returned in time, so the entry of a run that a join has timed out in
stays for ever, and with it no other run is started.
-/

namespace MessagingGateway.Actor

open Relational

variable {c : Control} {runs runs' : List ActorRun} {i : Nat} {key : Key} {pool pool' : Pool}

structure Control.Follows (c c' : Control) : Prop where
  key : c'.key = c.key
  orderly : c.Orderly → c'.Orderly
  overdue : c.overdue = true → c'.overdue = true
  returned : ∀ {err}, c.phase = .returned err → c'.phase = .returned err

theorem Control.Follows.refl (c : Control) : c.Follows c := ⟨rfl, id, id, id⟩

variable {entry : Entry} {c' : Control} {r : ActorRun} {run : Nat}

theorem Control.Follows.trans {c'' : Control} (h : c.Follows c') (h' : c'.Follows c'') :
    c.Follows c'' :=
  ⟨h'.key.trans h.key, h'.orderly ∘ h.orderly, h'.overdue ∘ h.overdue,
    fun hphase => h'.returned (h.returned hphase)⟩

theorem Control.step_follows (input : Input) (c : Control) : c.Follows (step input c).2 :=
  have hmove := step_move input c
  ⟨hmove.key_eq, hmove.orderly, hmove.overdue, hmove.returned_eq⟩

theorem Control.returned_overdue {err : Failure} (h : c.phase = .returned err)
    (h' : c'.phase = .returned err) : c'.overdue = c.overdue := by
  rw [overdue, overdue, h, h']

def Progress (runs runs' : List ActorRun) : Prop :=
  ∀ i : Nat, Option.Rel (fun r r' : ActorRun => r.control.Follows r'.control) runs[i]? runs'[i]?

theorem Progress.refl (runs : List ActorRun) : Progress runs runs := by
  intro i
  cases runs[i]? with
  | none => exact .none
  | some r => exact .some (.refl r.control)

theorem Progress.trans {runs'' : List ActorRun} (h : Progress runs runs')
    (h' : Progress runs' runs'') : Progress runs runs'' := by
  intro i
  have hi := h i
  have hi' := h' i
  generalize runs[i]? = a, runs'[i]? = b, runs''[i]? = c at hi hi'
  cases hi with
  | none =>
    cases hi'
    exact .none
  | some hfollows =>
    cases hi' with
    | some hfollows' => exact .some (hfollows.trans hfollows')

theorem Progress.forward (h : Progress runs runs') (hr : runs[i]? = some r) :
    ∃ r', runs'[i]? = some r' ∧ r.control.Follows r'.control := by
  have hi := h i
  rw [hr] at hi
  generalize runs'[i]? = b at hi
  cases hi with
  | some hfollows => exact ⟨_, rfl, hfollows⟩

theorem Progress.backward (h : Progress runs runs') {r' : ActorRun} (hr : runs'[i]? = some r') :
    ∃ r, runs[i]? = some r ∧ r.control.Follows r'.control := by
  have hi := h i
  rw [hr] at hi
  generalize runs[i]? = a at hi
  cases hi with
  | some hfollows => exact ⟨_, rfl, hfollows⟩

theorem Pool.advance_progress (pool : Pool) (run : Nat) (input : Input) :
    Progress pool.runs (pool.advance run input).runs ∧
      (pool.advance run input).entries = pool.entries := by
  unfold advance
  cases hr : pool.runs[run]? with
  | none => exact ⟨.refl _, rfl⟩
  | some r =>
    refine ⟨fun i => ?_, rfl⟩
    show Option.Rel _ pool.runs[i]? (pool.runs.set run _)[i]?
    rw [List.getElem?_set]
    by_cases hi : run = i
    · subst hi
      rw [if_pos rfl, if_pos (List.getElem?_eq_some_iff.1 hr).1, hr]
      exact .some (Control.step_follows input r.control)
    · rw [if_neg hi]
      exact Progress.refl _ i

inductive PoolMove (pool pool' : Pool) : Prop
  | progress (hruns : Progress pool.runs pool'.runs) (hentries : pool'.entries = pool.entries)
  | started (key : Key) (actor : Nat) (hfree : pool.entries key = none)
      (hruns : pool'.runs = pool.runs ++ [{ actor := actor, control := { key := key } }])
      (hentries :
        pool'.entries = (pool.setEntry key (some { run := some pool.runs.length })).entries)
  | buried (key : Key) (entry : Entry) (hfree : pool.entries key = none) (hrun : entry.run = none)
      (hruns : Progress pool.runs pool'.runs)
      (hentries : pool'.entries = (pool.setEntry key (some entry)).entries)
  | marked (key : Key) (entry entry' : Entry) (hentry : pool.entries key = some entry)
      (hrun : entry'.run = entry.run) (hdone : entry'.done = entry.done)
      (herr : is entry.terminalErr .providerJoinTimeout →
        is entry'.terminalErr .providerJoinTimeout)
      (hruns : Progress pool.runs pool'.runs)
      (hentries : pool'.entries = (pool.setEntry key (some entry')).entries)
  | resumed (key : Key) (entry : Entry) (hentry : pool.entries key = some entry)
      (hdone : entry.done = true) (herr : is entry.terminalErr .providerJoinTimeout = false)
      (hruns : Progress pool.runs pool'.runs)
      (hentries : pool'.entries = (pool.setEntry key none).entries)
  | settled (run : Nat) (r : ActorRun) (entry : Entry) (err : Failure)
      (hr : pool.runs[run]? = some r) (hphase : r.control.phase = .returned err)
      (hentry : pool.entries r.control.key = some entry) (hrun : entry.run = some run)
      (hruns : Progress pool.runs pool'.runs)
      (hentries : pool'.entries = (pool.setEntry r.control.key (entry.settle err)).entries)

theorem PoolMove.same (pool : Pool) : PoolMove pool pool := .progress (.refl _) rfl

theorem PoolMove.of_advance (pool : Pool) (run : Nat) (input : Input) :
    PoolMove pool (pool.advance run input) :=
  .progress (pool.advance_progress run input).1 (pool.advance_progress run input).2

theorem Entry.quarantine_err (h : is entry.terminalErr .providerJoinTimeout) :
    is entry.quarantine.terminalErr .providerJoinTimeout := by
  have hsome : entry.terminalErr ≠ none := fun hnone => by
    rw [hnone] at h
    cases h
  rw [Entry.quarantine, if_neg hsome]
  exact h

theorem PoolMove.of_quarantine (pool : Pool) (key : Key) : PoolMove pool (pool.quarantine key) := by
  unfold Pool.quarantine
  split
  · next hfree => exact .buried key _ hfree rfl (.refl _) rfl
  · next entry hentry =>
      dsimp only
      split
      · exact .marked key entry entry.quarantine hentry rfl rfl Entry.quarantine_err (.refl _) rfl
      · next run _ =>
          have hadvance := (pool.setEntry key (some entry.quarantine)).advance_progress run .cancel
          exact .marked key entry entry.quarantine hentry rfl rfl Entry.quarantine_err hadvance.1
            hadvance.2

theorem Pool.cancel_progress (pool : Pool) (run : Nat) :
    Progress pool.runs (pool.cancel run).runs ∧ (pool.cancel run).entries = pool.entries := by
  unfold cancel
  split
  · exact ⟨.refl _, rfl⟩
  · split
    · exact pool.advance_progress run .cancel
    · exact ⟨.refl _, rfl⟩

theorem Pool.cancels_progress (runs : List Nat) (pool : Pool) :
    Progress pool.runs (runs.foldl cancel pool).runs ∧
      (runs.foldl cancel pool).entries = pool.entries := by
  induction runs generalizing pool with
  | nil => exact ⟨.refl _, rfl⟩
  | cons run runs ih =>
    obtain ⟨hruns, hentries⟩ := pool.cancel_progress run
    obtain ⟨hruns', hentries'⟩ := ih (pool.cancel run)
    exact ⟨hruns.trans hruns', hentries'.trans hentries⟩

theorem PoolMove.of_start (pool : Pool) (key : Key) (actor : Nat) :
    PoolMove pool (pool.start key actor).2 := by
  unfold Pool.start
  split
  · exact .same pool
  · split
    · exact .same pool
    · next hfree => exact .started key actor hfree rfl rfl

theorem PoolMove.of_resume (pool : Pool) (key : Key) : PoolMove pool (pool.resume key).2 := by
  unfold Pool.resume
  split
  · exact .same pool
  · next entry hentry =>
      split
      · exact .same pool
      · split
        · exact .same pool
        · next herr =>
            split
            · next hdone =>
                exact .resumed key entry hentry hdone (by simpa using herr) (.refl _) rfl
            · exact .same pool

theorem PoolMove.of_begin (pool : Pool) (run : Nat) : PoolMove pool (pool.begin run) := by
  unfold Pool.begin
  split
  · exact .same pool
  · split
    · split
      · exact .of_advance pool run _
      · next r _ _ _ desk _ =>
          have hadvance := (pool.setDesk r.actor desk).advance_progress run
            (.begin (some desk.runId))
          exact .progress hadvance.1 hadvance.2
    · exact .same pool

theorem PoolMove.of_receive (pool : Pool) (run : Nat) : PoolMove pool (pool.receive run) := by
  unfold Pool.receive
  split
  · exact .same pool
  · next r _ =>
      dsimp only
      split
      · exact .same pool
      · next request queue _ =>
          split
          · have hadvance := (pool.setDesk r.actor { pool.desks r.actor with
              queue := queue }).advance_progress run (.request request)
            exact .progress hadvance.1 hadvance.2
          · exact .same pool

theorem PoolMove.of_finish (pool : Pool) (run : Nat) : PoolMove pool (pool.finish run) := by
  unfold Pool.finish
  split
  · exact .same pool
  · next r hr =>
      split
      · next err entry hphase hentry =>
          split
          · next hrun => exact .settled run r entry err hr hphase hentry hrun.1 (.refl _) rfl
          · exact .same pool
      · exact .same pool

theorem PoolMove.of_step (input : PoolInput) (pool : Pool) :
    PoolMove pool (Pool.step input pool).2 := by
  have callers : ∀ pool' : Pool, pool'.runs = pool.runs → pool'.entries = pool.entries →
      PoolMove pool pool' := fun pool' hruns hentries =>
    .progress (hruns ▸ .refl _) hentries
  cases input with
  | start key actor => exact .of_start pool key actor
  | quarantine key => exact .of_quarantine pool key
  | resume key => exact .of_resume pool key
  | shutdown =>
    have hcancels := Pool.cancels_progress (List.range pool.runs.length)
      { pool with closed := true }
    exact .progress hcancels.1 hcancels.2
  | execute key =>
    show PoolMove pool (pool.execute key)
    unfold Pool.execute
    split
    · exact .same pool
    · split
      · exact .same pool
      · split
        · exact .same pool
        · exact callers _ rfl rfl
  | request caller live =>
    show PoolMove pool (pool.request caller live)
    unfold Pool.request
    split
    · dsimp only
      split
      · exact callers _ rfl rfl
      · exact callers _ rfl rfl
    · exact .same pool
  | send caller =>
    show PoolMove pool (pool.send caller)
    unfold Pool.send
    split
    · exact callers _ rfl rfl
    · exact .same pool
  | withdraw caller => exact callers _ rfl rfl
  | begin run => exact .of_begin pool run
  | receive run => exact .of_receive pool run
  | run run input =>
    cases input
    case begin runId => exact .same pool
    case request request => exact .same pool
    all_goals exact .of_advance pool run _
  | finish run => exact .of_finish pool run

/-! ### The entry of a connection -/

def Control.Gone (c : Control) : Prop := (∃ err, c.phase = .returned err) ∧ c.overdue = false

theorem Control.Gone.follows (h : c.Gone) (hfollows : c.Follows c') : c'.Gone := by
  obtain ⟨⟨err, hphase⟩, hintime⟩ := h
  have hphase' := hfollows.returned hphase
  exact ⟨⟨err, hphase'⟩, (returned_overdue hphase hphase').trans hintime⟩

/-- The entry holds this run: it is a run of the connection and the last one, and
its end is recorded where it has one. -/
structure Holds (runs : List ActorRun) (key : Key) (entry : Entry) (run : Nat) : Prop where
  found : ∃ r, runs[run]? = some r ∧ r.control.key = key ∧
    (entry.done = true → ∃ err, r.control.phase = .returned err ∧
      (r.control.overdue = true → is entry.terminalErr .providerJoinTimeout))
  last : ∀ (j : Nat) r, runs[j]? = some r → r.control.key = key → j ≤ run

structure Housed (runs : List ActorRun) (key : Key) (entry : Option Entry) : Prop where
  holds : ∀ e run, entry = some e → e.run = some run → Holds runs key e run
  gone : ∀ (j : Nat) r, runs[j]? = some r → r.control.key = key →
    entry.bind (·.run) ≠ some j → r.control.Gone

theorem Holds.progress (h : Holds runs key entry run)
    (hruns : Progress runs runs') : Holds runs' key entry run := by
  obtain ⟨⟨r, hr, hkey, hdone⟩, hlast⟩ := h
  obtain ⟨r', hr', hfollows⟩ := hruns.forward hr
  refine ⟨⟨r', hr', hfollows.key.trans hkey, fun hd => ?_⟩, fun j s' hs' hskey => ?_⟩
  · obtain ⟨err, hphase, hrecord⟩ := hdone hd
    have hphase' := hfollows.returned hphase
    refine ⟨err, hphase', fun hoverdue => hrecord ?_⟩
    rw [← Control.returned_overdue hphase hphase']
    exact hoverdue
  · obtain ⟨s, hs, hfollows'⟩ := hruns.backward hs'
    exact hlast j s hs (hfollows'.key.symm.trans hskey)

theorem Housed.progress {entry : Option Entry} (h : Housed runs key entry)
    (hruns : Progress runs runs') : Housed runs' key entry := by
  refine ⟨fun e run he hrun => (h.holds e run he hrun).progress hruns,
    fun j r' hr' hkey hother => ?_⟩
  obtain ⟨r, hr, hfollows⟩ := hruns.backward hr'
  exact (h.gone j r hr (hfollows.key.symm.trans hkey) hother).follows hfollows

theorem getElem?_concat_cases {α : Type} {l : List α} {a b : α} {j : Nat}
    (h : (l ++ [a])[j]? = some b) : l[j]? = some b ∨ (j = l.length ∧ b = a) := by
  rw [List.getElem?_append] at h
  split at h
  · exact .inl h
  · next hj =>
      obtain ⟨hlt, rfl⟩ := List.getElem?_eq_some_iff.1 h
      simp only [List.length_singleton] at hlt
      exact .inr ⟨by omega, by simp⟩

theorem Housed.concat {entry : Option Entry} {added : ActorRun} (h : Housed runs key entry)
    (hkey : added.control.key ≠ key) : Housed (runs ++ [added]) key entry := by
  have old : ∀ (j : Nat) r, (runs ++ [added])[j]? = some r → r.control.key = key →
      runs[j]? = some r := fun j r hr hrkey => by
    rcases getElem?_concat_cases hr with hr | ⟨_, rfl⟩
    · exact hr
    · exact absurd hrkey hkey
  refine ⟨fun e run he hrun => ?_, fun j r hr hrkey => h.gone j r (old j r hr hrkey) hrkey⟩
  obtain ⟨⟨r, hr, hfound⟩, hlast⟩ := h.holds e run he hrun
  refine ⟨⟨r, ?_, hfound⟩, fun j s hs hskey => hlast j s (old j s hs hskey) hskey⟩
  rw [List.getElem?_append_left (List.getElem?_eq_some_iff.1 hr).1]
  exact hr

theorem Housed.started (actor : Nat) (h : Housed runs key none) :
    Housed (runs ++ [{ actor := actor, control := { key := key } }]) key
      (some { run := some runs.length }) := by
  refine ⟨fun e run he hrun => ?_, fun j r hr hrkey hother => ?_⟩
  · cases he
    cases hrun
    refine ⟨⟨_, List.getElem?_concat_length, rfl, nofun⟩, fun j s hs _ => ?_⟩
    have hlt := (List.getElem?_eq_some_iff.1 hs).1
    simp only [List.length_append, List.length_singleton] at hlt
    omega
  · rcases getElem?_concat_cases hr with hr | ⟨rfl, rfl⟩
    · exact h.gone j r hr hrkey nofun
    · exact absurd rfl hother

theorem Housed.marked {runs : List ActorRun} {key : Key} {entry' : Entry}
    (h : Housed runs key (some entry)) (hrun : entry'.run = entry.run)
    (hdone : entry'.done = true → ∀ run, entry.run = some run → ∃ r, runs[run]? = some r ∧
      ∃ err, r.control.phase = .returned err ∧
        (r.control.overdue = true → is entry'.terminalErr .providerJoinTimeout)) :
    Housed runs key (some entry') := by
  refine ⟨fun e run he hrun' => ?_, fun j r hr hrkey hother => ?_⟩
  · cases he
    rw [hrun] at hrun'
    obtain ⟨⟨r, hr, hkey, _⟩, hlast⟩ := h.holds entry run rfl hrun'
    refine ⟨⟨r, hr, hkey, fun hd => ?_⟩, hlast⟩
    obtain ⟨r', hr', hrecord⟩ := hdone hd run hrun'
    rw [hr] at hr'
    cases hr'
    exact hrecord
  · refine h.gone j r hr hrkey ?_
    rw [Option.bind_some, hrun] at hother
    exact hother

theorem Housed.deleted (h : Housed runs key (some entry))
    (hgone : ∀ run r, entry.run = some run → runs[run]? = some r → r.control.Gone) :
    Housed runs key none := by
  refine ⟨nofun, fun j r hr hrkey _ => ?_⟩
  by_cases hj : entry.run = some j
  · exact hgone j r hj hr
  · exact h.gone j r hr hrkey hj

structure Pool.Sound (pool : Pool) : Prop where
  orderly : ∀ (i : Nat) r, pool.runs[i]? = some r → r.control.Orderly
  housed : ∀ key, Housed pool.runs key (pool.entries key)

theorem Control.orderly_init (key : Key) : ({ key := key } : Control).Orderly :=
  ⟨⟨rfl, rfl⟩, fun h => absurd rfl h, by simp, by simp⟩

theorem Progress.orderly (h : Progress runs runs')
    (hruns : ∀ (i : Nat) r, runs[i]? = some r → r.control.Orderly) :
    ∀ (i : Nat) r, runs'[i]? = some r → r.control.Orderly := fun i r' hr' => by
  obtain ⟨r, hr, hfollows⟩ := h.backward hr'
  exact hfollows.orderly (hruns i r hr)

theorem Housed.setEntry {entry : Option Entry}
    (hentries : pool'.entries = (pool.setEntry key entry).entries)
    (hothers : ∀ k, k ≠ key → Housed pool'.runs k (pool.entries k))
    (hkey : Housed pool'.runs key entry) (k : Key) : Housed pool'.runs k (pool'.entries k) := by
  have hk : pool'.entries k = if k = key then entry else pool.entries k := by
    rw [hentries]
    rfl
  rw [hk]
  split
  · next heq =>
      rw [heq]
      exact hkey
  · next hne => exact hothers k hne

theorem Entry.settle_cases (entry : Entry) (err : Failure) :
    (∃ entry', entry.settle err = some entry' ∧ entry'.run = entry.run ∧
        (is err .providerJoinTimeout → is entry'.terminalErr .providerJoinTimeout)) ∨
      (entry.settle err = none ∧ is err .providerJoinTimeout = false) := by
  unfold Entry.settle
  split
  · exact .inl ⟨_, rfl, rfl, fun _ => is_singleton _⟩
  · next herr =>
      have hintime : is err .providerJoinTimeout = false := by simpa using herr
      split
      · exact .inl ⟨_, rfl, rfl, fun h => absurd h herr⟩
      · split
        · exact .inl ⟨_, rfl, rfl, fun h => absurd h herr⟩
        · exact .inr ⟨rfl, hintime⟩

theorem PoolMove.sound (h : PoolMove pool pool') (hpool : pool.Sound) : pool'.Sound := by
  obtain ⟨horderly, hhoused⟩ := hpool
  cases h with
  | progress hruns hentries =>
    refine ⟨hruns.orderly horderly, fun key => ?_⟩
    rw [hentries]
    exact (hhoused key).progress hruns
  | started key actor hfree hruns hentries =>
    refine ⟨fun i r hr => ?_, Housed.setEntry hentries (fun k hk => ?_) ?_⟩
    · rw [hruns] at hr
      rcases getElem?_concat_cases hr with hr | ⟨_, rfl⟩
      · exact horderly i r hr
      · exact Control.orderly_init key
    · rw [hruns]
      exact (hhoused k).concat fun heq => hk heq.symm
    · have hkey := hhoused key
      rw [hfree] at hkey
      rw [hruns]
      exact hkey.started actor
  | buried key entry hfree hrun hruns hentries =>
    refine ⟨hruns.orderly horderly, Housed.setEntry hentries
      (fun k _ => (hhoused k).progress hruns) (.progress ?_ hruns)⟩
    have hkey := hhoused key
    rw [hfree] at hkey
    refine ⟨fun e run he hrun' => ?_, fun j r hr hrkey _ => hkey.gone j r hr hrkey nofun⟩
    cases he
    rw [hrun] at hrun'
    cases hrun'
  | marked key entry entry' hentry hrun hdone herr hruns hentries =>
    have hkey := hhoused key
    rw [hentry] at hkey
    refine ⟨hruns.orderly horderly, Housed.setEntry hentries
      (fun k _ => (hhoused k).progress hruns)
      (.progress (hkey.marked hrun fun hd run hrun' => ?_) hruns)⟩
    obtain ⟨⟨r, hr, _, hrecord⟩, _⟩ := hkey.holds entry run rfl hrun'
    rw [hdone] at hd
    obtain ⟨err, hphase, hoverdue⟩ := hrecord hd
    exact ⟨r, hr, err, hphase, fun h => herr (hoverdue h)⟩
  | resumed key entry hentry hdone herr hruns hentries =>
    have hkey := hhoused key
    rw [hentry] at hkey
    refine ⟨hruns.orderly horderly, Housed.setEntry hentries
      (fun k _ => (hhoused k).progress hruns)
      (.progress (hkey.deleted fun run r hrun hr => ?_) hruns)⟩
    obtain ⟨⟨r', hr', _, hrecord⟩, _⟩ := hkey.holds entry run rfl hrun
    rw [hr] at hr'
    cases hr'
    obtain ⟨err, hphase, hoverdue⟩ := hrecord hdone
    refine ⟨⟨err, hphase⟩, ?_⟩
    by_contra hlate
    rw [hoverdue (by simpa using hlate)] at herr
    cases herr
  | settled run r entry err hr hphase hentry hrun hruns hentries =>
    have hkey := hhoused r.control.key
    rw [hentry] at hkey
    have hoverdue : r.control.overdue = is err .providerJoinTimeout := by
      rw [Control.overdue, hphase]
    refine ⟨hruns.orderly horderly, Housed.setEntry hentries
      (fun k _ => (hhoused k).progress hruns) (.progress ?_ hruns)⟩
    rcases entry.settle_cases err with ⟨entry', heq, hrun', herr⟩ | ⟨heq, herr⟩
    · rw [heq]
      refine hkey.marked hrun' fun _ run' hrun'' => ?_
      rw [hrun] at hrun''
      cases hrun''
      refine ⟨r, hr, err, hphase, fun h => herr ?_⟩
      rw [← hoverdue]
      exact h
    · rw [heq]
      refine hkey.deleted fun run' r' hrun'' hr' => ?_
      rw [hrun] at hrun''
      cases hrun''
      rw [hr] at hr'
      cases hr'
      exact ⟨⟨err, hphase⟩, hoverdue.trans herr⟩

abbrev Schedules : Pool → List (PoolInput × Failure) → Pool → Prop :=
  Run Pool.step fun _ _ => True

theorem Schedules.sound {trace : List (PoolInput × Failure)} (h : Schedules pool trace pool')
    (hpool : pool.Sound) : pool'.Sound :=
  h.invariant (P := Pool.Sound)
    (fun pool input _ hsound => (PoolMove.of_step input pool).sound hsound)
    hpool

theorem Pool.sound_init : ({} : Pool).Sound := by
  refine ⟨fun i r hr => ?_, fun key => ⟨fun e run he => ?_, fun j r hr => ?_⟩⟩
  · simp at hr
  · cases he
  · simp at hr

/-! ### Exclusion -/

def Pool.running (pool : Pool) (key : Key) : List (Goroutine × Nat) :=
  pool.runs.flatMap fun r => if r.control.key = key then r.control.running else []

structure Pool.Exclusive (pool : Pool) : Prop where
  oneOperation : ∀ key, (pool.running key).countP (·.1 == .operation) ≤ 1
  /-- whatever calls the provider is of the latest generation of the latest run -/
  latest : ∀ (i : Nat) r goroutine, pool.runs[i]? = some r → goroutine ∈ r.control.running →
    goroutine.2 = r.control.generation ∧
      ∀ (j : Nat) r', pool.runs[j]? = some r' → r'.control.key = r.control.key → j ≤ i
  oneRun : ∀ (i j : Nat) r r', pool.runs[i]? = some r → pool.runs[j]? = some r' →
    r.control.key = r'.control.key → r.control.phase.isReturned = false →
    r'.control.phase.isReturned = false → i = j

theorem Pool.Sound.last_of_not_gone (h : pool.Sound) (hr : pool.runs[i]? = some r)
    (hgone : ¬r.control.Gone) (j : Nat) (r' : ActorRun) (hr' : pool.runs[j]? = some r')
    (hkey : r'.control.key = r.control.key) : j ≤ i := by
  have hhoused := h.housed r.control.key
  have hentry : (pool.entries r.control.key).bind (·.run) = some i := by
    by_contra hother
    exact hgone (hhoused.gone i r hr rfl hother)
  obtain ⟨entry, hentry, hrun⟩ := Option.bind_eq_some_iff.1 hentry
  exact (hhoused.holds entry i hentry hrun).last j r' hr' hkey

theorem Control.not_gone_of_running (h : c.Orderly) {goroutine : Goroutine × Nat}
    (hrunning : goroutine ∈ c.running) : ¬c.Gone := by
  rintro ⟨⟨err, hphase⟩, hintime⟩
  rw [h.returned_running hphase hintime] at hrunning
  cases hrunning

theorem Control.not_gone_of_not_returned (h : c.phase.isReturned = false) : ¬c.Gone := by
  rintro ⟨⟨err, hphase⟩, _⟩
  rw [hphase] at h
  cases h

theorem countP_flatMap_le_one {α β : Type} {f : α → List β} {p : β → Bool} {l : List α}
    (hone : ∀ a ∈ l, (f a).countP p ≤ 1)
    (hpair : l.Pairwise fun a b => (f a).countP p = 0 ∨ (f b).countP p = 0) :
    (l.flatMap f).countP p ≤ 1 := by
  induction l with
  | nil => simp
  | cons a l ih =>
    rw [List.pairwise_cons] at hpair
    rw [List.flatMap_cons, List.countP_append]
    by_cases ha : (f a).countP p = 0
    · rw [ha, Nat.zero_add]
      exact ih (fun b hb => hone b (List.mem_cons_of_mem _ hb)) hpair.2
    · have hrest : (l.flatMap f).countP p = 0 := by
        rw [List.countP_eq_zero]
        intro b hb
        obtain ⟨a', ha', hb⟩ := List.mem_flatMap.1 hb
        exact List.countP_eq_zero.1 ((hpair.1 a' ha').resolve_left ha) b hb
      rw [hrest]
      exact hone a List.mem_cons_self

theorem Pool.Sound.exclusive (h : pool.Sound) : pool.Exclusive := by
  have latest : ∀ (i : Nat) r goroutine, pool.runs[i]? = some r → goroutine ∈ r.control.running →
      ∀ (j : Nat) r', pool.runs[j]? = some r' → r'.control.key = r.control.key → j ≤ i :=
    fun i r goroutine hr hrunning =>
      h.last_of_not_gone hr (Control.not_gone_of_running (h.orderly i r hr) hrunning)
  refine ⟨fun key => ?_, fun i r goroutine hr hrunning => ?_, ?_⟩
  · refine countP_flatMap_le_one (fun r hr => ?_)
      (List.pairwise_iff_getElem.2 fun i j hi hj hlt => ?_)
    · obtain ⟨i, hi⟩ := List.mem_iff_getElem?.1 hr
      split
      · exact (h.orderly i r hi).one_operation
      · exact Nat.zero_le 1
    · -- of two runs of the connection nothing of the earlier one runs
      by_cases hkey : pool.runs[j].control.key = key
      · left
        rw [List.countP_eq_zero]
        intro goroutine hrunning
        rw [List.mem_ite_nil_right] at hrunning
        have hle := latest i pool.runs[i] goroutine (List.getElem?_eq_getElem hi) hrunning.2 j
          pool.runs[j] (List.getElem?_eq_getElem hj) (hkey.trans hrunning.1.symm)
        omega
      · right
        rw [if_neg hkey]
        rfl
  · exact ⟨(h.orderly i r hr).running_current hrunning, latest i r goroutine hr hrunning⟩
  · intro i j r r' hr hr' hkey hactive hactive'
    have hij := h.last_of_not_gone hr (Control.not_gone_of_not_returned hactive) j r' hr' hkey.symm
    have hji := h.last_of_not_gone hr' (Control.not_gone_of_not_returned hactive') i r hr hkey
    omega

/-- The run ends with the join timeout: it has returned it, or its teardown, which
no reply can stop, returns it. -/
def Control.EndsUnjoined (c : Control) : Prop :=
  (∀ err, c.phase = .returned err → is err .providerJoinTimeout) ∧
    ∀ joined reply mark, ∃ err, (execute step (teardown joined reply mark) c).2.phase =
      .returned err ∧
      is err .providerJoinTimeout

theorem Control.endsUnjoined_of_overdue (h : c.overdue = true) : c.EndsUnjoined := by
  refine ⟨fun err hphase => ?_, fun joined reply mark => overdue_returns joined reply mark h⟩
  rw [overdue, hphase] at h
  exact h

def Pool.Barred (pool : Pool) (key : Key) (run : Nat) : Prop :=
  ∃ r, pool.runs[run]? = some r ∧ r.control.key = key ∧ r.control.overdue = true

theorem PoolMove.barred (h : PoolMove pool pool') (hbarred : pool.Barred key run) :
    pool'.Barred key run := by
  obtain ⟨r, hr, hkey, hoverdue⟩ := hbarred
  have progressed : Progress pool.runs pool'.runs → pool'.Barred key run := fun hruns => by
    obtain ⟨r', hr', hfollows⟩ := hruns.forward hr
    exact ⟨r', hr', hfollows.key.trans hkey, hfollows.overdue hoverdue⟩
  cases h with
  | started _ _ _ hruns _ =>
    refine ⟨r, ?_, hkey, hoverdue⟩
    rw [hruns, List.getElem?_append_left (List.getElem?_eq_some_iff.1 hr).1]
    exact hr
  | progress hruns _ | buried _ _ _ _ hruns _ | marked _ _ _ _ _ _ _ hruns _
  | resumed _ _ _ _ _ hruns _ | settled _ _ _ _ _ _ _ _ hruns _ => exact progressed hruns

theorem Schedules.barred {trace : List (PoolInput × Failure)}
    (h : Schedules pool trace pool') (hbarred : pool.Barred key run) : pool'.Barred key run :=
  h.invariant (P := fun pool => pool.Barred key run)
    (fun pool input _ => (PoolMove.of_step input pool).barred) hbarred

theorem Pool.barred_of_timesOut (h : pool.Sound) {input : Input}
    (hr : pool.runs[i]? = some r) (hinput : Control.timesOut input r.control = true) :
    (step (.run i input) pool).2.Barred r.control.key i := by
  have hstep : (step (.run i input) pool).2 = pool.advance i input := by
    cases input <;> first | rfl | cases hinput
  refine ⟨{ r with control := (Control.step input r.control).2 }, ?_, ?_, ?_⟩
  · rw [hstep, advance, hr]
    show (pool.runs.set i _)[i]? = _
    rw [List.getElem?_set_self (List.getElem?_eq_some_iff.1 hr).1]
  · exact (Control.step_follows input r.control).key
  · exact Control.timesOut_overdue hinput (h.orderly i r hr)

/-- In every schedule of one process a connection has at most one active run and
at most one operation that calls the provider, and whatever calls the provider is
of the latest generation of the latest run. A run in which a join times out ends
with `ErrProviderJoinTimeout`, and in whatever is called afterwards it remains the
last run of its connection. -/
theorem provider_operations_exclusive {pool : Pool} {trace : List (PoolInput × Failure)}
    (h : Schedules {} trace pool) :
    pool.Exclusive ∧
      ∀ (i : Nat) r input, pool.runs[i]? = some r → Control.timesOut input r.control = true →
        ∀ trace' pool', Schedules (Pool.step (.run i input) pool).2 trace' pool' →
          ∃ r', pool'.runs[i]? = some r' ∧ r'.control.key = r.control.key ∧
            r'.control.EndsUnjoined ∧
            ∀ (j : Nat) s, pool'.runs[j]? = some s → s.control.key = r.control.key → j ≤ i := by
  have hsound := h.sound Pool.sound_init
  refine ⟨hsound.exclusive, fun i r input hr hinput trace' pool' hlater => ?_⟩
  have hsound' := hlater.sound ((PoolMove.of_step (.run i input) pool).sound hsound)
  obtain ⟨r', hr', hkey, hoverdue⟩ := hlater.barred (Pool.barred_of_timesOut hsound hr hinput)
  have hnotGone : ¬r'.control.Gone := fun hgone => by
    rw [hgone.2] at hoverdue
    cases hoverdue
  exact ⟨r', hr', hkey, Control.endsUnjoined_of_overdue hoverdue, fun j s hs hskey =>
    hsound'.last_of_not_gone hr' hnotGone j s hs (hskey.trans hkey.symm)⟩

def poolKey : Key := { tenantId := "tenant-1", connectionId := "connection-1" }

/-- A run is started, becomes ready and serves an operation; its lease is lost
while the operation runs. -/
def poolBusy : List PoolInput :=
  [.start poolKey 0, .run 0 (.acquire (.ok (some 1))), .begin 0, .run 0 (.check (.ok .connected)),
    .run 0 (.load (.ok ⟨[1], 1⟩)), .run 0 (.announce (.ok true)), .run 0 (.restore true),
    .run 0 (.event .ready 10 (.ok true)), .execute poolKey, .request 0 true, .send 0, .receive 0,
    .run 0 (.renew (.ok false))]

/-- The operation is not joined; nothing that is called afterwards starts a run. -/
def poolAfterwards : List PoolInput :=
  [.run 0 (.disconnect true), .run 0 (.connectReturns none), .run 0 .joinConnect,
    .run 0 .stopCallbacks, .run 0 (.flush (.ok true)), .run 0 (.settle (.ok true)), .finish 0,
    .start poolKey 1, .quarantine poolKey, .resume poolKey, .start poolKey 2]

def poolServing : Pool := (execute Pool.step poolBusy {}).2

def poolStranded : Pool :=
  (execute Pool.step poolAfterwards (Pool.step (.run 0 .giveUpOperation) poolServing).2).2

theorem poolServing_exclusive :
    poolServing.running poolKey = [(.connect, 1), (.operation, 1)] ∧ poolServing.Exclusive ∧
      poolStranded.runs.length = 1 ∧
      ∃ r, poolStranded.runs[0]? = some r ∧ r.control.phase.isReturned = true ∧
        r.control.running = [(.operation, 1)] ∧ r.control.EndsUnjoined := by
  have hbusy : Schedules {} (execute Pool.step poolBusy {}).1 poolServing :=
    Run.of_inputs poolBusy (by decide +kernel)
  have hstranded : Schedules (Pool.step (.run 0 .giveUpOperation) poolServing).2 _ poolStranded :=
    Run.of_inputs poolAfterwards (by decide +kernel)
  obtain ⟨hexclusive, hlater⟩ := provider_operations_exclusive hbusy
  have hany : poolServing.runs[0]?.any (fun r => Control.timesOut .giveUpOperation r.control) =
      true := by decide +kernel
  obtain ⟨r, hr, hinput⟩ := (Option.any_eq_true _ _).1 hany
  obtain ⟨r', hr', _, hends, _⟩ := hlater 0 r .giveUpOperation hr hinput _ _ hstranded
  have hreturned : ∀ r ∈ poolStranded.runs, r.control.phase.isReturned = true ∧
      r.control.running = [(.operation, 1)] := by decide +kernel
  obtain ⟨hphase, hrunning⟩ := hreturned r' (List.mem_of_getElem? hr')
  exact ⟨by decide +kernel, hexclusive, by decide +kernel, r', hr', hphase, hrunning, hends⟩

end MessagingGateway.Actor
