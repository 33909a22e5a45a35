import MessagingGateway.Relational.Runs

/-!
# Announcing session changes

A generation of the client changes its auth data from several goroutines: the refresh
of `ConnectContext` and then the long poll with its pingers, the ACK loop and the
post-connect and browser-presence work. A change is reported through a channel of one
slot, which the activity loop empties to call the session hook. Once the context is
cancelled the loop empties the slot for the last time and accepts no more reports,
while the other goroutines may still be finishing their requests.
-/

namespace MessagingGateway.Client

open Relational

inductive LifecycleState
  | starting
  | running
  | stopping
  deriving DecidableEq

inductive Work
  | running
  /-- it has changed the auth data and not reported it yet -/
  | changed
  | returned
  deriving DecidableEq

/-- The goroutine that calls the hooks: the activity loop or, when the start fails,
`ConnectContext`. -/
inductive Announcer
  | absent
  /-- at its `select`, or in the hook of another activity -/
  | selecting
  /-- the slot was full and is empty now, for the last time or not -/
  | taken (last : Bool)
  /-- in the session hook, called after that many changes -/
  | calling (since : Nat) (last : Bool)
  | ended
  deriving DecidableEq

/-- `clientLifecycle`, with the changes of the auth data counted. -/
structure Generation where
  state : LifecycleState := .starting
  cancelled : Bool := false
  acceptSessions : Bool := true
  sessionChanged : Bool := false
  announcer : Announcer := .absent
  /-- the goroutine of `ConnectContext` and those started after it -/
  works : List Work := [.running]
  changes : Nat := 0
  /-- the changes made before the start of a session hook that has returned -/
  announced : Nat := 0
  done : Bool := false
  deriving DecidableEq

inductive GenerationInput
  /-- `SetTachyonAuth` or `UpdateCookiesFromResponse` -/
  | change (work : Nat)
  /-- `emitLifecycleActivity`, also after a response that changes nothing -/
  | emit (work : Nat)
  /-- the same by a caller that is not part of the generation -/
  | emitOutside
  | spawn (work : Nat)
  | finish (work : Nat)
  /-- the refresh has succeeded -/
  | launch (postConnect : Bool)
  | failStart
  | startBrowserPresence
  | stop
  | cancel
  | receive
  | invoke
  | hookReturns
  | finishSessions
  | close
  deriving DecidableEq

namespace Generation

variable (g : Generation)

def emitSessionChange : Generation :=
  if g.acceptSessions then { g with sessionChanged := true } else g

def finishLifecycleSessions : Generation :=
  { g with
    acceptSessions := false
    sessionChanged := false
    announcer := if g.sessionChanged then .taken true else .ended }

def failLifecycleStart : Generation :=
  { g with state := .stopping, cancelled := true, works := [.returned] }.finishLifecycleSessions

/-- Only the goroutine of `ConnectContext` works, and it is between two requests. -/
def Refreshing : Prop := g.announcer = .absent ∧ g.works = [.running]

instance : Decidable g.Refreshing := inferInstanceAs (Decidable (_ ∧ _))

/-- The rest of `ConnectContext` after its refresh. -/
def launched (postConnect : Bool) : Generation :=
  if g.state = .stopping ∨ g.cancelled = true then g.failLifecycleStart
  else
    { g with
      state := .running
      announcer := .selecting
      works := .returned :: List.replicate (if postConnect then 3 else 2) .running }

def next : GenerationInput → Generation
  | .change i =>
    if g.works[i]? = some .running then
      { g with works := g.works.set i .changed, changes := g.changes + 1 }
    else g
  | .emit i =>
    if g.works[i]? = some .running ∨ g.works[i]? = some .changed then
      { g with works := g.works.set i .running }.emitSessionChange
    else g
  | .emitOutside => g.emitSessionChange
  | .spawn i =>
    if g.announcer ≠ .absent ∧ g.works[i]? = some .running then
      { g with works := g.works ++ [.running] }
    else g
  | .finish i =>
    if g.announcer ≠ .absent ∧ g.works[i]? = some .running then
      { g with works := g.works.set i .returned }
    else g
  | .launch postConnect => if g.Refreshing then g.launched postConnect else g
  | .failStart => if g.Refreshing then g.failLifecycleStart else g
  | .startBrowserPresence =>
    if g.state = .running ∧ g.cancelled = false then { g with works := g.works ++ [.running] }
    else g
  | .stop => { g with state := .stopping }
  | .cancel => { g with cancelled := true }
  | .receive =>
    if g.announcer = .selecting ∧ g.sessionChanged = true then
      { g with sessionChanged := false, announcer := .taken false }
    else g
  | .invoke =>
    match g.announcer with
    | .taken last => { g with announcer := .calling g.changes last }
    | _ => g
  | .hookReturns =>
    match g.announcer with
    | .calling since last =>
      { g with announced := since, announcer := if last then .ended else .selecting }
    | _ => g
  | .finishSessions =>
    if g.announcer = .selecting ∧ g.cancelled = true then g.finishLifecycleSessions else g
  | .close =>
    if g.announcer = .ended ∧ ∀ w ∈ g.works, w = .returned then { g with done := true } else g

end Generation

def generationStep (input : GenerationInput) (g : Generation) : Unit × Generation :=
  ((), g.next input)

/-- Each change was followed by a call of the session hook that started after it and
returned before `done` was closed. -/
def AllAnnounced (g : Generation) : Prop := g.done = true → g.announced = g.changes

/-- A goroutine that has changed the auth data reports it while reports are accepted. -/
def InTime (g : Generation) : GenerationInput → Prop
  | .emit i => g.works[i]? = some .changed → g.acceptSessions = true
  | _ => True

instance (g : Generation) (input : GenerationInput) : Decidable (InTime g input) := by
  cases input <;> unfold InTime <;> infer_instance

/-! ### What a generation still owes -/

def Announcer.isLast : Announcer → Bool
  | .taken last | .calling _ last => last
  | .ended => true
  | _ => false

def Generation.covered (g : Generation) : Nat :=
  match g.announcer with
  | .calling since _ => since
  | _ => g.announced

/-- A call of the session hook is still to come. -/
def Generation.Owes (g : Generation) : Prop :=
  g.sessionChanged = true ∨ .changed ∈ g.works ∨ ∃ last, g.announcer = .taken last

structure Generation.Accounted (g : Generation) : Prop where
  accepts : g.acceptSessions = !g.announcer.isLast
  emptied : g.announcer.isLast = true → g.sessionChanged = false ∧ g.cancelled = true
  covered_le : g.covered ≤ g.changes
  owes : g.covered < g.changes → g.Owes
  closed : g.done = true → g.announcer = .ended ∧ ∀ w ∈ g.works, w = .returned

namespace Generation.Accounted

variable {g : Generation}

theorem allAnnounced (h : g.Accounted) : AllAnnounced g := by
  intro hdone
  obtain ⟨hended, hworks⟩ := h.closed hdone
  have hcovered : g.covered = g.announced := by simp [Generation.covered, hended]
  have hpaid : ¬ g.Owes := by
    rintro (hslot | hchanged | ⟨last, htaken⟩)
    · rw [(h.emptied (by simp [hended, Announcer.isLast])).1] at hslot
      exact absurd hslot nofun
    · exact absurd (hworks _ hchanged) nofun
    · rw [hended] at htaken
      exact absurd htaken nofun
  have hle := h.covered_le
  have hlt := mt h.owes hpaid
  omega

theorem setWorks (h : g.Accounted) (works : List Work) (hdone : g.done = false)
    (hchanged : .changed ∈ g.works → .changed ∈ works) : { g with works }.Accounted where
  accepts := h.accepts
  emptied := h.emptied
  covered_le := h.covered_le
  owes hlt := (h.owes hlt).imp_right (.imp_left hchanged)
  closed hclosed := absurd hclosed (by simp [hdone])

theorem emitSessionChange (h : g.Accounted) : g.emitSessionChange.Accounted := by
  unfold Generation.emitSessionChange
  split
  · next haccepts =>
    have hlast : g.announcer.isLast = false := by simpa [haccepts] using h.accepts
    exact ⟨h.accepts, fun htrue => absurd htrue (by simp [hlast]), h.covered_le,
      fun _ => .inl rfl, h.closed⟩
  · exact h

theorem finishLifecycleSessions (h : g.Accounted) (hcancelled : g.cancelled = true)
    (hidle : g.announcer = .absent ∨ g.announcer = .selecting) :
    g.finishLifecycleSessions.Accounted := by
  have hcovered : g.covered = g.announced := by
    rcases hidle with hidle | hidle <;> simp [Generation.covered, hidle]
  have hafter : g.finishLifecycleSessions.covered = g.announced := by
    cases hslot : g.sessionChanged <;>
      simp [Generation.finishLifecycleSessions, Generation.covered, hslot]
  refine ⟨?_, fun _ => ⟨rfl, hcancelled⟩, ?_, fun hlt => ?_, fun hdone => ?_⟩
  · cases hslot : g.sessionChanged <;>
      simp [Generation.finishLifecycleSessions, Announcer.isLast, hslot]
  · rw [hafter, ← hcovered]
    exact h.covered_le
  · rw [hafter, ← hcovered] at hlt
    rcases h.owes hlt with hslot | hchanged | ⟨last, htaken⟩
    · exact .inr (.inr ⟨true, by simp [Generation.finishLifecycleSessions, hslot]⟩)
    · exact .inr (.inl hchanged)
    · rcases hidle with hidle | hidle <;> exact absurd (hidle.symm.trans htaken) nofun
  · rcases hidle with hidle | hidle <;> exact absurd (hidle.symm.trans (h.closed hdone).1) nofun

theorem done_of_running (h : g.Accounted) {i : Nat} {w : Work} (hw : g.works[i]? = some w)
    (hrunning : w ≠ .returned) : g.done = false := by
  cases hdone : g.done with
  | false => rfl
  | true => exact absurd ((h.closed hdone).2 _ (List.mem_of_getElem? hw)) hrunning

theorem failLifecycleStart (h : g.Accounted) (hrefreshing : g.Refreshing) :
    g.failLifecycleStart.Accounted := by
  have hnone : .changed ∉ g.works := by simp [hrefreshing.2]
  have hfirst : g.works[0]? = some .running := by rw [hrefreshing.2]; rfl
  have hdone := h.done_of_running hfirst nofun
  have hworks := h.setWorks [.returned] hdone fun hin => absurd hin hnone
  refine finishLifecycleSessions ?_ rfl (.inl hrefreshing.1)
  exact ⟨hworks.accepts, fun hlast => ⟨(hworks.emptied hlast).1, rfl⟩, hworks.covered_le,
    hworks.owes, hworks.closed⟩

theorem launched (h : g.Accounted) (hrefreshing : g.Refreshing) (postConnect : Bool) :
    (g.launched postConnect).Accounted := by
  unfold Generation.launched
  split
  · exact h.failLifecycleStart hrefreshing
  · obtain ⟨habsent, hworks⟩ := hrefreshing
    have hcovered : g.covered = g.announced := by simp [Generation.covered, habsent]
    have haccepts := h.accepts
    have hle := h.covered_le
    rw [habsent] at haccepts
    rw [hcovered] at hle
    refine ⟨haccepts, nofun, hle, fun hlt => ?_, fun hdone => ?_⟩
    · rcases h.owes (hcovered ▸ hlt) with hslot | hchanged | ⟨last, htaken⟩
      · exact .inl hslot
      · simp [hworks] at hchanged
      · exact absurd (habsent.symm.trans htaken) nofun
    · exact absurd (habsent.symm.trans (h.closed hdone).1) nofun

theorem ite (h : g.Accounted) {p : Prop} [Decidable p] {g' : Generation}
    (hthen : p → g'.Accounted) : (if p then g' else g).Accounted := by
  split
  · next hp => exact hthen hp
  · exact h

theorem reported (h : g.Accounted) {i : Nat} (hintime : InTime g (.emit i)) :
    (g.next (.emit i)).Accounted := by
  refine h.ite fun hworks => ?_
  rcases hworks with hrunning | hchanged
  · obtain ⟨hi, hget⟩ := List.getElem?_eq_some_iff.1 hrunning
    rw [← hget, List.set_getElem_self]
    exact h.emitSessionChange
  · have hdone := h.done_of_running hchanged nofun
    have haccepts := hintime hchanged
    have hlast : g.announcer.isLast = false := by simpa [haccepts] using h.accepts
    rw [Generation.emitSessionChange, if_pos haccepts]
    exact ⟨h.accepts, fun htrue => absurd htrue (by simp [hlast]), h.covered_le,
      fun _ => .inl rfl, fun hclosed => absurd hclosed (by simp [hdone])⟩

theorem receive (h : g.Accounted) (hselecting : g.announcer = .selecting) :
    { g with sessionChanged := false, announcer := .taken false }.Accounted := by
  have haccepts := h.accepts
  have hle := h.covered_le
  rw [hselecting] at haccepts
  simp only [Generation.covered, hselecting] at hle
  refine ⟨haccepts, nofun, hle, fun _ => .inr (.inr ⟨false, rfl⟩), fun hdone => ?_⟩
  exact absurd (hselecting.symm.trans (h.closed hdone).1) nofun

theorem invoke (h : g.Accounted) {last : Bool} (htaken : g.announcer = .taken last) :
    { g with announcer := .calling g.changes last }.Accounted := by
  have haccepts := h.accepts
  have hemptied := h.emptied
  rw [htaken] at haccepts hemptied
  refine ⟨haccepts, hemptied, Nat.le_refl _, fun hlt => absurd hlt (Nat.lt_irrefl _),
    fun hdone => ?_⟩
  exact absurd (htaken.symm.trans (h.closed hdone).1) nofun

theorem hookReturns (h : g.Accounted) {since : Nat} {last : Bool}
    (hcalling : g.announcer = .calling since last) :
    { g with announced := since, announcer := if last then .ended else .selecting }.Accounted := by
  have haccepts := h.accepts
  have hemptied := h.emptied
  have hle := h.covered_le
  have howes : since < g.changes → g.sessionChanged = true ∨ .changed ∈ g.works := by
    intro hlt
    rcases h.owes (by simpa only [Generation.covered, hcalling]) with hslot | hchanged | ⟨_, htaken⟩
    · exact .inl hslot
    · exact .inr hchanged
    · exact absurd (hcalling.symm.trans htaken) nofun
  rw [hcalling] at haccepts hemptied
  simp only [Generation.covered, hcalling] at hle
  have hopen : g.done ≠ true := fun hdone =>
    absurd (hcalling.symm.trans (h.closed hdone).1) nofun
  cases last with
  | false =>
    exact ⟨haccepts, nofun, hle, fun hlt => (howes hlt).imp_right .inl, fun hdone =>
      absurd hdone hopen⟩
  | true =>
    exact ⟨haccepts, fun _ => hemptied rfl, hle, fun hlt => (howes hlt).imp_right .inl,
      fun hdone => absurd hdone hopen⟩

theorem next (h : g.Accounted) {input : GenerationInput} (hintime : InTime g input) :
    (g.next input).Accounted := by
  cases input with
  | emit i => exact h.reported hintime
  | emitOutside => exact h.emitSessionChange
  | change i =>
    refine h.ite fun hw => ?_
    have hdone := h.done_of_running hw nofun
    obtain ⟨hi, -⟩ := List.getElem?_eq_some_iff.1 hw
    exact ⟨h.accepts, h.emptied, Nat.le_succ_of_le h.covered_le,
      fun _ => .inr (.inl (List.mem_set hi _)), fun hclosed => absurd hclosed (by simp [hdone])⟩
  | spawn i =>
    exact h.ite fun hw => h.setWorks _ (h.done_of_running hw.2 nofun) (List.mem_append_left _)
  | finish i =>
    refine h.ite fun hw => h.setWorks _ (h.done_of_running hw.2 nofun) fun hin => ?_
    obtain ⟨j, hj⟩ := List.mem_iff_getElem?.1 hin
    have hne : i ≠ j := by
      rintro rfl
      exact absurd (hw.2.symm.trans hj) nofun
    exact List.mem_of_getElem? ((List.getElem?_set_ne hne).trans hj)
  | launch postConnect => exact h.ite fun hrefreshing => h.launched hrefreshing postConnect
  | failStart => exact h.ite h.failLifecycleStart
  | startBrowserPresence =>
    refine h.ite fun hstarts => h.setWorks _ ?_ (List.mem_append_left _)
    -- a generation that is done was cancelled before
    by_contra hdone
    have hended := (h.closed (by simpa using hdone)).1
    have hcancelled := (h.emptied (by simp [hended, Announcer.isLast])).2
    exact absurd (hstarts.2.symm.trans hcancelled) nofun
  | stop => exact ⟨h.accepts, h.emptied, h.covered_le, h.owes, h.closed⟩
  | cancel =>
    exact ⟨h.accepts, fun hlast => ⟨(h.emptied hlast).1, rfl⟩, h.covered_le, h.owes, h.closed⟩
  | receive => exact h.ite fun hreceives => h.receive hreceives.1
  | invoke =>
    simp only [Generation.next]
    split
    · next htaken => exact h.invoke htaken
    · exact h
  | hookReturns =>
    simp only [Generation.next]
    split
    · next hcalling => exact h.hookReturns hcalling
    · exact h
  | finishSessions =>
    exact h.ite fun hends => h.finishLifecycleSessions hends.2 (.inr hends.1)
  | close => exact h.ite fun hends => ⟨h.accepts, h.emptied, h.covered_le, h.owes, fun _ => hends⟩

end Generation.Accounted

/-- **Session changes reported in time are announced.** In every schedule of a generation
in which each change is reported before the last round of the hook, `done` is closed
only after the hook was called after every change and has returned. -/
theorem session_changes_announced {trace : List (GenerationInput × Unit)} {g : Generation}
    (hrun : Run generationStep InTime {} trace g) : AllAnnounced g := by
  have haccounted : g.Accounted := by
    refine hrun.invariant (P := Generation.Accounted) (fun _ _ hi h => h.next hi) ?_
    exact ⟨rfl, nofun, Nat.le_refl _, nofun, nofun⟩
  exact haccounted.allAnnounced

/-- The refresh and the long poll change the auth data; the second change is reported
after the cancellation, before the loop has noticed it. -/
def polledGeneration : List GenerationInput :=
  [.change 0, .emit 0, .launch false, .receive, .invoke, .hookReturns, .change 1, .stop, .cancel,
    .emit 1, .finishSessions, .finish 1, .finish 2, .invoke, .hookReturns, .close]

theorem polledGeneration_announced :
    AllAnnounced (execute generationStep polledGeneration {}).2 ∧
      (execute generationStep polledGeneration {}).2.done = true ∧
      (execute generationStep polledGeneration {}).2.changes = 2 := by
  have hrun : Run generationStep InTime {} _ _ := Run.of_inputs polledGeneration (by decide +kernel)
  exact ⟨session_changes_announced hrun, by decide +kernel, by decide +kernel⟩

/-- The response to the long poll's last request rotates a cookie after the loop has
ended: the report is refused and `done` is closed without a call of the hook. -/
theorem late_change_unannounced :
    ¬ AllAnnounced (execute generationStep [.launch false, .stop, .cancel, .finishSessions,
      .change 1, .emit 1, .finish 1, .finish 2, .close] {}).2 := by
  unfold AllAnnounced
  decide +kernel

end MessagingGateway.Client
