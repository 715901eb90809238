import Bluge.Collector.Pipeline

namespace Bluge.Collector

open Bluge.Search

/-!
# Collector — one signal per stage per match

`collectSingle` relies on a hand-off discipline: it sends its match to one stage at a time, and
every stage that receives the match signals the match's `PipelineFinished` channel exactly once,
so that the task wakes up exactly once per stage.  A stage that received the match and did not
signal (the `d.Err != nil` `continue` branches of the sort, consume and compare stages) would
leave the task waiting forever.

* `View`, `TaskInv` — what the channels and the stage goroutines hold for one task: its match is
  queued at stage `s` exactly while the task waits on `s` before `s` took it, and `s` owes the
  task one signal exactly while the task waits on `s` after `s` took it.
* `Inv` — every task satisfies `TaskInv`; nothing is held for tasks that do not exist; and the
  main goroutine, `closePipelines` and the stage goroutines agree.
* `step_inv`, `Reachable.inv` — every step keeps `Inv`, so every reachable state satisfies it.
* `Reachable.consumed_nodup` — `bucket.Consume` never runs twice on a match, on any path.
* `step_measure_lt` — every step decreases a measure, so every run of `Collect` is finite;
  `exists_step_of_running` — while a task has not returned, some step is enabled.
* `collect_returns` — whatever the schedule, `Collect` ends: every run is finite, and where no
  goroutine can move the main goroutine has returned (or panicked in `Final`) and every task has
  returned.
* `collectSingle_discipline` — the hand-off discipline over every interleaving.
-/

/-! ### What the channels and stages hold for a task -/

/-- The signals stage goroutine `p` still owes task `i`. -/
def StagePc.pending : StagePc → Nat → Nat
  | .busy j es, i => if j = i then es.count .signal else 0
  | _, _ => 0

/-- Stage goroutine `p` is handling task `i`'s match. -/
def StagePc.holds : StagePc → Nat → Bool
  | .busy j _, i => decide (j = i)
  | _, _ => false

/-- What the channels and the stage goroutines hold for one task: the copies of its match queued
    at each stage, the signals each stage owes it, the stages handling its match, and the calls
    of `bucket.Consume` on its match. -/
structure View where
  queued : Stage → Nat
  pending : Stage → Nat
  holds : Stage → Bool
  consumed : Nat

/-- Nothing held for a task. -/
def View.empty : View := ⟨fun _ => 0, fun _ => 0, fun _ => false, 0⟩

/-- Task `i`'s view of the state. -/
def Pipeline.view (st : Pipeline) (i : Nat) : View :=
  ⟨fun s => (st.chans s).count i, fun s => (st.stages s).pending i,
    fun s => (st.stages s).holds i, st.consumed.count i⟩

/-- Where a task is in its walk through the stages: the stages that received its match and the
    stages that signalled it, and its match's error. -/
def Phase (t : Task) : Prop :=
  match t.pc with
  | .start | .poll | .number => t.received = [] ∧ t.signalled = []
  | .send s => t.received = s.before ∧ t.signalled = s.before ∧ (s ≠ .load → t.doc.err = none)
  | .wait s => (t.received = s.before ∨ t.received = s.before ++ [s]) ∧ t.signalled = s.before ∧
      (s ≠ .load → t.doc.err = none)
  | .done none => t.received = allStages ∧ t.signalled = allStages ∧ t.doc.err = none
  | .done (some _) => t.signalled = t.received ∧
      (t.received = [] ∨ t.received = [.load] ∧ t.doc.err.isSome)

/-- The invariant of one task `t` with view `v`. -/
structure TaskInv (v : View) (t : Task) : Prop where
  phase : Phase t
  queued : ∀ s, v.queued s = if t.pc = .wait s ∧ t.received.length = s.idx then 1 else 0
  pending : ∀ s, v.pending s = if t.pc = .wait s ∧ t.received.length = s.idx + 1 then 1 else 0
  holds : ∀ s, v.holds s = true → t.received.getLast? = some s ∧ (v.pending s = 1 ∨ t.pc = .done none)
  consumed : v.consumed = if .consume ∈ t.received then 1 else 0

/-- The protocol invariant of `Collect`. -/
structure Inv (st : Pipeline) : Prop where
  task : ∀ i t, st.tasks[i]? = some t → TaskInv (st.view i) t
  stray : ∀ i, st.tasks.length ≤ i → st.view i = View.empty
  busy : ∀ s j es, st.stages s = .busy j es → es ≠ [] ∧ (s = .compare ∨ es = [.signal])
  fresh : st.main = .start → st.tasks = [] ∧ ∀ s, st.stages s = .off
  started : st.main = .loop ∨ st.main = .wait ∨ st.tasks ≠ [] → ∀ s, st.stages s ≠ .off
  closed : st.closed = true → (∃ r, st.main = .returned r) ∧ ∀ t ∈ st.tasks, t.pc.isDone = true
  exited : ∀ s, st.stages s = .exited → st.closed = true
  panicked : st.main = .returned .panicked → st.closed = true

/-! ### Small facts -/

@[simp] theorem Stage.length_before (s : Stage) : s.before.length = s.idx := by cases s <;> rfl

@[simp] theorem TaskPc.afterSignal_ne_wait (err : Option Error) (s s' : Stage) :
    s.afterSignal err ≠ .wait s' := by
  cases s <;> (try cases err) <;> simp [Stage.afterSignal]

@[simp] theorem StagePc.pending_busy (j i : Nat) (es : List Effect) :
    (StagePc.busy j es).pending i = if j = i then es.count .signal else 0 := rfl

@[simp] theorem StagePc.holds_busy (j i : Nat) (es : List Effect) :
    (StagePc.busy j es).holds i = decide (j = i) := rfl

@[simp] theorem Pipeline.view_queued (st : Pipeline) (i : Nat) (s : Stage) :
    (st.view i).queued s = (st.chans s).count i := rfl

@[simp] theorem Pipeline.view_pending (st : Pipeline) (i : Nat) (s : Stage) :
    (st.view i).pending s = (st.stages s).pending i := rfl

@[simp] theorem Pipeline.view_holds (st : Pipeline) (i : Nat) (s : Stage) :
    (st.view i).holds s = (st.stages s).holds i := rfl

@[simp] theorem Pipeline.view_consumed (st : Pipeline) (i : Nat) :
    (st.view i).consumed = st.consumed.count i := rfl

@[simp] theorem Pipeline.tasks_moveTask (st : Pipeline) (i : Nat) (t : Task) (pc : TaskPc) :
    (st.moveTask i t pc).tasks = st.tasks.set i { t with pc := pc } := rfl

@[simp] theorem Pipeline.stages_moveTask (st : Pipeline) (i : Nat) (t : Task) (pc : TaskPc) :
    (st.moveTask i t pc).stages = st.stages := rfl

@[simp] theorem Pipeline.chans_moveTask (st : Pipeline) (i : Nat) (t : Task) (pc : TaskPc) :
    (st.moveTask i t pc).chans = st.chans := rfl

@[simp] theorem Pipeline.consumed_moveTask (st : Pipeline) (i : Nat) (t : Task) (pc : TaskPc) :
    (st.moveTask i t pc).consumed = st.consumed := rfl

@[simp] theorem Pipeline.tasks_deliver (st : Pipeline) (s : Stage) (j : Nat) (t : Task)
    (d : DocumentMatch) (effs : List Effect) :
    (st.deliver s j t d effs).tasks = st.tasks.set j { t with doc := d, received := t.received ++ [s] } :=
  rfl

@[simp] theorem Pipeline.stages_deliver (st : Pipeline) (s : Stage) (j : Nat) (t : Task)
    (d : DocumentMatch) (effs : List Effect) :
    (st.deliver s j t d effs).stages =
      Function.update st.stages s (if effs = [] then .idle else .busy j effs) := rfl

@[simp] theorem Pipeline.chans_deliver (st : Pipeline) (s : Stage) (j : Nat) (t : Task)
    (d : DocumentMatch) (effs : List Effect) :
    (st.deliver s j t d effs).chans = Function.update st.chans s (st.chans s).tail := rfl

@[simp] theorem Pipeline.consumed_deliver (st : Pipeline) (s : Stage) (j : Nat) (t : Task)
    (d : DocumentMatch) (effs : List Effect) : (st.deliver s j t d effs).consumed = st.consumed := rfl

@[simp] theorem Pipeline.stages_withEffects (st : Pipeline) (s : Stage) (j : Nat) (es : List Effect) :
    (st.withEffects s j es).stages = Function.update st.stages s (if es = [] then .idle else .busy j es) :=
  rfl

@[simp] theorem Pipeline.chans_withEffects (st : Pipeline) (s : Stage) (j : Nat) (es : List Effect) :
    (st.withEffects s j es).chans = st.chans := rfl

@[simp] theorem Pipeline.consumed_withEffects (st : Pipeline) (s : Stage) (j : Nat)
    (es : List Effect) : (st.withEffects s j es).consumed = st.consumed := rfl

@[simp] theorem Pipeline.tasks_withEffects (st : Pipeline) (s : Stage) (j : Nat) (es : List Effect) :
    (st.withEffects s j es).tasks = st.tasks := rfl

@[simp] theorem StagePc.pending_remaining (j : Nat) (es : List Effect) :
    (if es = [] then StagePc.idle else .busy j es).pending j = es.count .signal := by
  split <;> simp_all [StagePc.pending]

@[simp] theorem StagePc.holds_remaining (j : Nat) (es : List Effect) :
    (if es = [] then StagePc.idle else .busy j es).holds j = !es.isEmpty := by
  split <;> simp_all [StagePc.holds]

/-- A view is determined by the counts it is made of. -/
theorem Pipeline.view_eq {st st' : Pipeline} {k : Nat}
    (hq : ∀ s, (st'.chans s).count k = (st.chans s).count k)
    (hp : ∀ s, (st'.stages s).pending k = (st.stages s).pending k)
    (hh : ∀ s, (st'.stages s).holds k = (st.stages s).holds k)
    (hc : st'.consumed.count k = st.consumed.count k) : st'.view k = st.view k := by
  simp only [Pipeline.view, hc, View.mk.injEq, and_true]
  exact ⟨funext hq, funext hp, funext hh⟩

/-- Moving stage `s` to a state that owes and holds for task `k` what it did before leaves `k`'s
    view alone. -/
theorem Pipeline.view_update_stage {st st' : Pipeline} {k : Nat} {s : Stage} {p : StagePc}
    (hq : ∀ s, (st'.chans s).count k = (st.chans s).count k)
    (hs : st'.stages = Function.update st.stages s p) (hp : p.pending k = (st.stages s).pending k)
    (hh : p.holds k = (st.stages s).holds k) (hc : st'.consumed.count k = st.consumed.count k) :
    st'.view k = st.view k := by
  refine Pipeline.view_eq hq (fun s' => ?_) (fun s' => ?_) hc <;> rw [hs] <;> by_cases h : s' = s
  · subst h; rw [Function.update_same, hp]
  · rw [Function.update_noteq h]
  · subst h; rw [Function.update_same, hh]
  · rw [Function.update_noteq h]

variable {st st' : Pipeline} {i : Nat} {t : Task}

/-- A task that is not waiting has nothing queued and is owed nothing, and only a compare stage
    finishing its `Put` may still hold its match. -/
theorem TaskInv.of_not_wait {v : View} (hi : TaskInv v t) (hw : ∀ s, t.pc ≠ .wait s) (s : Stage) :
    v.queued s = 0 ∧ v.pending s = 0 ∧ (v.holds s = true → t.pc = .done none) := by
  have hq := hi.queued s
  have hp := hi.pending s
  simp only [hw s, false_and, if_false] at hq hp
  refine ⟨hq, hp, fun hh => ?_⟩
  rcases (hi.holds s hh).2 with h | h
  · omega
  · exact h

/-- A task in the closure's first steps has not reached any stage. -/
theorem Phase.of_early (hpc : t.pc = .start ∨ t.pc = .poll ∨ t.pc = .number) (h : Phase t) :
    t.received = [] ∧ t.signalled = [] := by
  rcases hpc with hpc | hpc | hpc <;> simpa [Phase, hpc] using h

/-- A task that is running keeps `closePipelines` open. -/
theorem Inv.closed_false (hi : Inv st) (ht : st.tasks[i]? = some t) (hd : t.pc.isDone = false) :
    st.closed = false := by
  cases hc : st.closed
  · rfl
  · simp [(hi.closed hc).2 t (List.mem_iff_getElem?.mpr ⟨i, ht⟩)] at hd

/-- The invariant after a step that changed task `i` and the views of `i` alone, and no field
    the invariant reads about the main goroutine or the stages' life cycle. -/
theorem Inv.of_setTask (hi : Inv st) (ht : st.tasks[i]? = some t) {t' : Task}
    (hmain : st'.main = st.main) (htasks : st'.tasks = st.tasks.set i t')
    (hstages : ∀ s, st.stages s = .off ↔ st'.stages s = .off)
    (hbusy : ∀ s j es, st'.stages s = .busy j es → es ≠ [] ∧ (s = .compare ∨ es = [.signal]))
    (hexited : ∀ s, st'.stages s = .exited → st.stages s = .exited)
    (hclosed : st'.closed = st.closed) (hrun : st.closed = true → t'.pc.isDone = true)
    (hview : ∀ k, k ≠ i → st'.view k = st.view k) (hnew : TaskInv (st'.view i) t') : Inv st' := by
  have hlen : i < st.tasks.length := (List.getElem?_eq_some_iff.mp ht).1
  have hne : st.tasks ≠ [] := List.ne_nil_of_length_pos (by omega)
  refine ⟨fun k u hk => ?_, fun k hk => ?_, hbusy, fun hm => ?_, fun _ s => ?_, ?_,
    fun s hs => ?_, fun hp => hclosed ▸ hi.panicked (hmain ▸ hp)⟩
  · rw [htasks, List.getElem?_set] at hk
    by_cases hki : i = k
    · subst hki
      simp only [if_true, hlen, Option.some.injEq] at hk
      exact hk ▸ hnew
    · rw [if_neg hki] at hk
      exact hview k (Ne.symm hki) ▸ hi.task k u hk
  · rw [htasks, List.length_set] at hk
    exact (hview k (by omega)).trans (hi.stray k hk)
  · exact absurd (hi.fresh (hmain ▸ hm)).1 hne
  · exact mt (hstages s).mpr (hi.started (.inr (.inr hne)) s)
  · intro hc
    rw [hclosed] at hc
    refine ⟨hmain ▸ (hi.closed hc).1, fun u hu => ?_⟩
    rw [htasks] at hu
    rcases List.mem_or_eq_of_mem_set hu with hu | rfl
    · exact (hi.closed hc).2 u hu
    · exact hrun hc
  · exact hclosed ▸ hi.exited s (hexited s hs)

/-- Stage `s`, which was running, going idle or busy with the effects `es` it has left keeps the
    stages' life cycle, when only the compare stage has more than its signal left. -/
theorem Inv.update_stage (hi : Inv st) {s : Stage} (j : Nat) {es : List Effect}
    (hoff : st.stages s ≠ .off) (hes : es ≠ [] → s = .compare ∨ es = [.signal]) :
    (∀ s', st.stages s' = .off ↔
        Function.update st.stages s (if es = [] then .idle else .busy j es) s' = .off) ∧
      (∀ s' k es', Function.update st.stages s (if es = [] then .idle else .busy j es) s' =
        .busy k es' → es' ≠ [] ∧ (s' = .compare ∨ es' = [.signal])) ∧
      ∀ s', Function.update st.stages s (if es = [] then .idle else .busy j es) s' = .exited →
        st.stages s' = .exited := by
  refine ⟨fun s' => ?_, fun s' k es' hb => ?_, fun s' hs' => ?_⟩ <;> by_cases hs : s' = s
  · subst hs; simp only [Function.update_same]; split <;> simp [hoff]
  · simp [Function.update_noteq hs]
  · subst hs
    simp only [Function.update_same] at hb
    split at hb
    · cases hb
    · obtain ⟨-, rfl⟩ := StagePc.busy.inj hb
      exact ⟨‹_›, hes ‹_›⟩
  · exact hi.busy s' k es' (by simpa [Function.update_noteq hs] using hb)
  · subst hs; simp only [Function.update_same] at hs'; split at hs' <;> cases hs'
  · simpa [Function.update_noteq hs] using hs'

/-! ### Tasks -/

/-- **Task steps keep the invariant.** -/
theorem inv_task (hi : Inv st) (h : collectSingle st i = some st') : Inv st' := by
  obtain ⟨t, ht, hcase⟩ := collectSingle_eq_some h
  have hti := hi.task i t ht
  have hwait : ∀ s, t.pc ≠ .wait s := by
    intro s
    rcases hcase with ⟨hpc, -⟩ | ⟨hpc, -⟩ | ⟨hpc, -⟩ | ⟨s, hpc, -⟩ <;> simp [hpc]
  have hrun : st.closed = false := hi.closed_false ht (by
    rcases hcase with ⟨hpc, -⟩ | ⟨hpc, -⟩ | ⟨hpc, -⟩ | ⟨s, hpc, -⟩ <;> simp [hpc, TaskPc.isDone])
  have hz := hti.of_not_wait hwait
  simp only [Pipeline.view_queued, Pipeline.view_pending, Pipeline.view_holds] at hz
  -- the first steps of the closure: the task moves among its early positions
  have early : ∀ pc' : TaskPc, ∀ d : DocumentMatch,
      (t.pc = .start ∨ t.pc = .poll ∨ t.pc = .number) →
      (pc' = .poll ∨ pc' = .number ∨ pc' = .send .load ∨ pc' = .done (some .canceled)) →
      TaskInv (st.view i) { t with pc := pc', doc := d } := by
    intro pc' d hpc hpc'
    obtain ⟨hr, hs⟩ := hti.phase.of_early hpc
    refine ⟨?_, fun s => ?_, fun s => ?_, fun s hh => ?_, ?_⟩
    · rcases hpc' with rfl | rfl | rfl | rfl <;> simp [Phase, Stage.before, hr, hs]
    · rcases hpc' with rfl | rfl | rfl | rfl <;> simp [(hz s).1]
    · rcases hpc' with rfl | rfl | rfl | rfl <;> simp [(hz s).2.1]
    · rcases hpc with hpc | hpc | hpc <;> simp [(hz s).2.2 hh] at hpc
    · simpa [hr] using hti.consumed
  rcases hcase with ⟨hpc, rfl⟩ | ⟨hpc, rfl⟩ | ⟨hpc, rfl⟩ | ⟨s, hpc, -, rfl⟩
  · exact hi.of_setTask ht rfl rfl (fun _ => Iff.rfl) hi.busy (fun _ => id) rfl (by simp [hrun])
      (fun _ _ => rfl) (early _ t.doc (.inl hpc) (by split <;> simp))
  · exact hi.of_setTask ht rfl rfl (fun _ => Iff.rfl) hi.busy (fun _ => id) rfl (by simp [hrun])
      (fun _ _ => rfl) (early _ t.doc (.inr (.inl hpc)) (by split <;> simp))
  · exact hi.of_setTask ht rfl rfl (fun _ => Iff.rfl) hi.busy (fun _ => id) rfl (by simp [hrun])
      (fun _ _ => rfl) (early _ _ (.inr (.inr hpc)) (by simp))
  · -- the send: one copy of the match joins the channel of `s`
    have hphase : t.received = s.before ∧ t.signalled = s.before ∧ (s ≠ .load → t.doc.err = none) := by
      simpa [Phase, hpc] using hti.phase
    refine hi.of_setTask ht rfl rfl (fun _ => Iff.rfl) hi.busy (fun _ => id) rfl (by simp [hrun])
      (fun k hk => Pipeline.view_eq (fun s' => ?_) (fun _ => rfl) (fun _ => rfl) rfl)
      ⟨?_, fun s' => ?_, fun s' => ?_, fun s' hh => ?_, ?_⟩
    · by_cases hs : s' = s
      · subst hs
        simp [List.count_singleton', Ne.symm hk]
      · simp [Function.update_noteq hs]
    · simpa [Phase, hphase.1, hphase.2.1] using hphase.2.2
    · by_cases hs : s' = s
      · subst hs
        simp [List.count_singleton', hphase.1, (hz s').1]
      · simp [Function.update_noteq hs, (hz s').1, Ne.symm hs]
    · by_cases hs : s = s' <;> simp [(hz s').2.1, hphase.1, hs]
    · have := (hz s').2.2 hh
      simp [hpc] at this
    · simpa using hti.consumed

/-! ### Leaving and cancelling -/

/-- **Leaving on `closePipelines` keeps the invariant.** -/
theorem inv_exit {s : Stage} (hi : Inv st) (h : exitStep st s = some st') : Inv st' := by
  obtain ⟨hidle, hclosed, rfl⟩ := exitStep_eq_some h
  have hview : Pipeline.view { st with stages := Function.update st.stages s .exited } = st.view := by
    funext k
    refine Pipeline.view_eq (fun _ => rfl) (fun s' => ?_) (fun s' => ?_) rfl <;>
    · by_cases hs : s' = s
      · subst hs
        simp only [Function.update_same, hidle]
        rfl
      · simp only [Function.update_noteq hs]
  refine ⟨hview ▸ hi.task, hview ▸ hi.stray, fun s' j es hb => ?_, fun hm => ?_, fun hm s' => ?_,
    hi.closed, fun s' _ => hclosed, fun _ => hclosed⟩
  · by_cases hs : s' = s
    · subst hs; simp at hb
    · exact hi.busy s' j es (by simpa [Function.update_noteq hs] using hb)
  · have := (hi.fresh hm).2 s
    simp [hidle] at this
  · by_cases hs : s' = s
    · subst hs; simp
    · simpa [Function.update_noteq hs] using hi.started hm s'

/-- **Cancelling the context keeps the invariant.** -/
theorem inv_cancel (hi : Inv st) (h : cancelStep st = some st') : Inv st' := by
  obtain ⟨-, rfl⟩ := cancelStep_eq_some h
  exact ⟨hi.task, hi.stray, hi.busy, hi.fresh, hi.started, hi.closed, hi.exited, hi.panicked⟩

/-! ### The main goroutine -/

/-- A task just spawned holds nothing and is held nowhere. -/
theorem taskInv_spawn (d : DocumentMatch) : TaskInv View.empty ⟨d, .start, [], []⟩ :=
  ⟨⟨rfl, rfl⟩, fun _ => by simp [View.empty], fun _ => by simp [View.empty],
    fun _ h => by simp [View.empty] at h, by simp [View.empty]⟩

/-- The main goroutine moving on, while `closePipelines` is open, keeps the invariant. -/
theorem Inv.setMain (hi : Inv st) {m : MainPc} (hm : m ≠ .start) (hp : m ≠ .returned .panicked)
    (hstarted : m = .loop ∨ m = .wait ∨ st.tasks ≠ [] → ∀ s, st.stages s ≠ .off)
    (hrun : st.closed = false) : Inv { st with main := m } :=
  ⟨hi.task, hi.stray, hi.busy, fun h => absurd h hm, hstarted, by simp [hrun], hi.exited,
    fun h => absurd h hp⟩

/-- Before the first `Next`, `closePipelines` is open. -/
theorem Inv.closed_false_of_main (hi : Inv st) (hm : ∀ r, st.main ≠ .returned r) :
    st.closed = false := by
  cases hc : st.closed
  · rfl
  · obtain ⟨r, hr⟩ := (hi.closed hc).1
    exact absurd hr (hm r)

/-- **The main goroutine keeps the invariant.** -/
theorem inv_main (hi : Inv st) (h : Collect env st = some st') : Inv st' := by
  have hrun : (∀ r, st.main ≠ .returned r) → st.closed = false := hi.closed_false_of_main
  rcases Collect_eq_some h with ⟨hm, -, rfl⟩ | ⟨hm, -, rfl⟩ | ⟨d, hm, -, rfl⟩ | ⟨hm, -, rfl⟩ |
    ⟨e, hm, -, rfl⟩ | ⟨hm, hall, -, rfl⟩ | ⟨hm, -, -, rfl⟩
  · -- cancelled before the first `Next`: nothing was started
    refine hi.setMain (by simp) (by simp) (fun h => ?_) (hrun (by simp [hm]))
    simp [(hi.fresh hm).1] at h
  · -- the stages start
    obtain ⟨htasks, hoff⟩ := hi.fresh hm
    have hview : Pipeline.view { st with main := .loop, stages := fun _ => .idle } = st.view := by
      funext k
      exact Pipeline.view_eq (fun _ => rfl) (fun s => by simp [hoff s, StagePc.pending])
        (fun s => by simp [hoff s, StagePc.holds]) rfl
    refine ⟨fun k u hk => by simp [htasks] at hk, hview ▸ hi.stray, fun s j es hb => by simp at hb,
      fun h => by simp at h, fun _ _ => by simp, by simp [hrun (by simp [hm])], fun s hs => by simp at hs,
      fun h => by simp at h⟩
  · -- a task is spawned for the current match
    have hlen := List.length_append st.tasks [⟨d, .start, [], []⟩]
    refine ⟨fun k u hk => ?_, fun k hk => hi.stray k (by simp at hk; omega), hi.busy,
      fun h => by simp [hm] at h, fun _ => hi.started (.inl hm), by simp [hrun (by simp [hm])],
      hi.exited, fun h => by simp [hm] at h⟩
    rcases Nat.lt_or_ge k st.tasks.length with hk' | hk'
    · rw [List.getElem?_append_left hk'] at hk
      exact hi.task k u hk
    · rw [List.getElem?_append_right hk'] at hk
      obtain ⟨h1, hu⟩ := List.getElem?_eq_some_iff.mp hk
      obtain rfl : k = st.tasks.length := by simp at h1; omega
      simp only [Nat.sub_self, List.getElem_cons_zero] at hu
      exact hu ▸ (hi.stray _ le_rfl).symm ▸ taskInv_spawn d
  · exact hi.setMain (by simp) (by simp) (fun _ => hi.started (.inl hm)) (hrun (by simp [hm]))
  · exact hi.setMain (by simp) (by simp) (fun _ => hi.started (.inl hm)) (hrun (by simp [hm]))
  · -- every task has returned: `closePipelines` is closed
    exact ⟨hi.task, hi.stray, hi.busy, fun h => by simp at h, fun _ => hi.started (.inr (.inl hm)),
      fun _ => ⟨⟨_, rfl⟩, hall⟩, fun s _ => rfl, fun _ => rfl⟩
  · exact hi.setMain (by simp) (by simp) (fun _ => hi.started (.inr (.inl hm))) (hrun (by simp [hm]))

/-! ### Stage receives -/

/-- On a match without error the compare stage signals exactly once, among at most two
    effects. -/
theorem startComparePipeline_signal (hc : TopNCollector) (cs : CompareState) {d : DocumentMatch}
    (h : d.err = none) :
    (startComparePipeline hc cs d).2.count .signal = 1 ∧ (startComparePipeline hc cs d).2.length ≤ 2 := by
  rcases startComparePipeline_cases hc cs d with ⟨herr, -⟩ | ⟨-, h1 | ⟨h1, -⟩ | ⟨l, -, h1⟩⟩
  · simp [h] at herr
  all_goals simp [h1]

/-- **A receive keeps the invariant**, for every stage body that keeps a match without error
    free of error, signals it exactly once, performs a single signal unless it is the compare
    stage, and calls `bucket.Consume` exactly when it is the consume stage. -/
theorem Inv.deliver (hi : Inv st) {s : Stage} {j : Nat} {rest : List Nat}
    (hch : st.chans s = j :: rest) (ht : st.tasks[j]? = some t) (hidle : st.stages s = .idle)
    {d : DocumentMatch} {effs : List Effect} (consumed : List Nat) (cs : CompareState)
    (herr : s ≠ .load → d.err = none) (hsig : effs.count .signal = 1)
    (hshape : s = .compare ∨ effs = [.signal])
    (hcons : consumed = if s = .consume then st.consumed ++ [j] else st.consumed) :
    Inv ({ st with consumed := consumed, cs := cs }.deliver s j t d effs) := by
  have hti := hi.task j t ht
  -- the task waits for `s`, which has not taken its match before
  have hq := hti.queued s
  simp only [Pipeline.view_queued, hch, List.count_cons_self] at hq
  have hwait : t.pc = .wait s ∧ t.received.length = s.idx := by
    by_contra hn
    simp [hn] at hq
  have hphase : (t.received = s.before ∨ t.received = s.before ++ [s]) ∧ t.signalled = s.before ∧
      (s ≠ .load → t.doc.err = none) := by
    simpa [Phase, hwait.1] using hti.phase
  have hrec : t.received = s.before := by
    rcases hphase.1 with h | h
    · exact h
    · have := hwait.2
      simp [h] at this
  have hrest : rest.count j = 0 := by simp [hwait] at hq; exact hq
  have heffs : effs ≠ [] := by rintro rfl; simp at hsig
  -- nothing else was owed to or held for the task
  have hother : ∀ s', s' ≠ s → (st.stages s').pending j = 0 ∧ (st.stages s').holds j = false := by
    intro s' hs
    have hp := hti.pending s'
    simp only [Pipeline.view_pending, hwait.1, TaskPc.wait.injEq, Ne.symm hs, false_and,
      if_false] at hp
    refine ⟨hp, ?_⟩
    cases hh : (st.stages s').holds j
    · rfl
    · have := (hti.holds s' (by simpa using hh)).2
      simp [hp, hwait.1] at this
  obtain ⟨hoff, hbusy, hexit⟩ := hi.update_stage j (by simp [hidle]) fun _ => hshape
  refine hi.of_setTask ht rfl rfl hoff hbusy hexit rfl
    (by simp [hi.closed_false ht (by simp [hwait.1, TaskPc.isDone])]) (fun k hk => ?_) ⟨?_, fun s' => ?_,
    fun s' => ?_, fun s' hh => ?_, ?_⟩
  · -- the other tasks see the same channels and stages
    refine Pipeline.view_update_stage (fun s' => ?_) (Pipeline.stages_deliver ..)
      (by simp [hidle, heffs, Ne.symm hk, StagePc.pending])
      (by simp [hidle, heffs, Ne.symm hk, StagePc.holds]) ?_
    · by_cases hs : s' = s
      · subst hs; simp [hch, List.count_cons, Ne.symm hk]
      · simp [Function.update_noteq hs]
    · rw [hcons]
      split <;> simp [List.count_singleton', Ne.symm hk]
  · simpa [Phase, hwait.1, hrec, hphase.2.1] using herr
  · by_cases hs : s' = s
    · subst hs; simp [hch, hrest, hrec]
    · have := hti.queued s'
      simp only [Pipeline.view_queued, hwait.1, TaskPc.wait.injEq, Ne.symm hs, false_and,
        if_false] at this
      simp [Function.update_noteq hs, this, hwait.1, Ne.symm hs]
  · by_cases hs : s' = s
    · subst hs; simp [heffs, hsig, hwait.1, hrec]
    · simp [Function.update_noteq hs, (hother s' hs).1, hwait.1, Ne.symm hs]
  · by_cases hs : s' = s
    · subst hs; simp [heffs, hsig]
    · simp [Function.update_noteq hs, (hother s' hs).2] at hh
  · have hc := hti.consumed
    simp only [Pipeline.view_consumed] at hc ⊢
    rw [hcons]
    by_cases hs : s = .consume
    · subst hs
      simp only [hrec, Stage.before, List.mem_cons, List.mem_singleton, reduceCtorEq, or_self,
        List.not_mem_nil, if_false] at hc
      simp [hc, hrec, Stage.before]
    · simp [hs, hc, Ne.symm hs]

/-- **Stage receives keep the invariant.** -/
theorem inv_recv {s : Stage} (hi : Inv st) (hidle : st.stages s = .idle)
    (h : stageRecv env st s = some st') : Inv st' := by
  obtain ⟨j, rest, t, hch, ht, hcase⟩ := stageRecv_eq_some h
  have hti := hi.task j t ht
  -- a match queued at a stage past the load stage has no error
  have herr : s ≠ .load → t.doc.err = none := by
    have hq := hti.queued s
    simp only [Pipeline.view_queued, hch, List.count_cons_self] at hq
    have hwait : t.pc = .wait s := by by_contra hn; simp [hn] at hq
    have := hti.phase
    simp only [Phase, hwait] at this
    exact this.2.2
  rcases hcase with ⟨rfl, rfl⟩ | ⟨rfl, rfl⟩ | ⟨rfl, rfl⟩ | ⟨rfl, rfl⟩
  · exact hi.deliver hch ht hidle st.consumed st.cs (by simp) (by simp [startLoadDocValuesPipeline]) (.inr rfl)
      (by simp)
  · have he := herr (by simp)
    exact hi.deliver hch ht hidle st.consumed st.cs (by simp [startSortPipeline, he])
      (by simp [startSortPipeline, he]) (.inr (by simp [startSortPipeline, he])) (by simp)
  · have he := herr (by simp)
    exact hi.deliver hch ht hidle _ st.cs (fun _ => he) (by simp [startConsumePipeline, he])
      (.inr (by simp [startConsumePipeline, he])) (by simp [startConsumePipeline, he])
  · have he := herr (by simp)
    exact hi.deliver hch ht hidle st.consumed _ (fun _ => he) (startComparePipeline_signal _ _ he).1
      (.inl rfl) (by simp)

/-! ### Stage effects -/

/-- Replacing an element by itself. -/
private theorem set_self_of_getElem? {l : List Task} {j : Nat} {t : Task} (h : l[j]? = some t) :
    l.set j t = l := by
  apply List.ext_getElem?
  intro k
  rw [List.getElem?_set]
  split
  · subst_vars
    simp [(List.getElem?_eq_some_iff.mp h).1, h]
  · rfl

/-- After stage `s`'s signal, every stage that received the match has signalled it, and the
    task has gone on as `collectSingle` does. -/
theorem Phase.afterSignal {s : Stage} (hw : t.pc = .wait s) (hr : t.received = s.before ++ [s])
    (h : Phase t) : Phase { t with signalled := t.signalled ++ [s], pc := s.afterSignal t.doc.err } := by
  have h' : t.signalled = s.before ∧ (s ≠ .load → t.doc.err = none) := by
    simpa [Phase, hw, hr] using h
  cases s
  · cases he : t.doc.err <;> simp [Phase, Stage.afterSignal, he, hr, h'.1, Stage.before]
  all_goals simp [Phase, Stage.afterSignal, hr, h'.1, Stage.before, allStages, h'.2]

/-- **Stage effects keep the invariant.** -/
theorem inv_effect {s : Stage} {j : Nat} {e : Effect} {es : List Effect} (hi : Inv st)
    (hb : st.stages s = .busy j (e :: es)) (h : stageEffect st s j e es = some st') : Inv st' := by
  have hshape := hi.busy s j (e :: es) hb
  -- the stage holds the match of an existing task
  obtain ⟨t, ht⟩ : ∃ t, st.tasks[j]? = some t := by
    rcases Nat.lt_or_ge j st.tasks.length with hj | hj
    · exact ⟨_, List.getElem?_eq_getElem hj⟩
    · have := congrArg (fun v => v.holds s) (hi.stray j hj)
      simp [hb, View.empty] at this
  have hti := hi.task j t ht
  have hold := hti.holds s (by simp [hb])
  -- the stage owes and holds nothing for the other tasks, before and after
  have hview : ∀ st'' : Pipeline, st''.chans = st.chans → st''.consumed = st.consumed →
      st''.stages = Function.update st.stages s (if es = [] then .idle else .busy j es) →
      ∀ k, k ≠ j → st''.view k = st.view k := fun st'' hc hcons hs k hk =>
    Pipeline.view_update_stage (fun _ => by rw [hc]) hs
      (by split <;> simp [hb, StagePc.pending, Ne.symm hk])
      (by split <;> simp [hb, StagePc.holds, Ne.symm hk]) (by rw [hcons])
  rcases stageEffect_eq_some h with ⟨x, rfl, rfl⟩ | ⟨t', rfl, ht', hw, rfl⟩
  · -- a `Put`: the stage owes the task what it owed, and holds it while effects remain
    have hcmp : s = .compare := hshape.2.resolve_right (by simp)
    have hp := hti.pending s
    simp only [Pipeline.view_pending, hb, StagePc.pending_busy, if_true, List.count_cons,
      reduceCtorEq, beq_iff_eq, if_false, Nat.add_zero] at hp
    obtain ⟨hoff, hbusy, hexit⟩ := hi.update_stage j (by simp [hb]) fun _ => .inl hcmp
    refine hi.of_setTask ht rfl (set_self_of_getElem? ht).symm hoff hbusy hexit rfl
      (fun hc => (hi.closed hc).2 t (List.mem_iff_getElem?.mpr ⟨j, ht⟩))
      (hview _ rfl rfl rfl) ⟨hti.phase, fun s' => by simpa using hti.queued s', fun s' => ?_,
      fun s' hh => ?_, by simpa using hti.consumed⟩
    · by_cases hs : s' = s
      · subst hs; simpa using hp
      · simpa [Function.update_noteq hs] using hti.pending s'
    · by_cases hs : s' = s
      · subst hs
        simp only [Pipeline.view_holds, Pipeline.stages_withEffects, Function.update_same,
          StagePc.holds_remaining] at hh
        simpa [hp, hb] using hold
      · simpa [Function.update_noteq hs] using
          hti.holds s' (by simpa [Function.update_noteq hs] using hh)
  · -- the signal wakes the task waiting for this stage
    obtain rfl : t' = t := Option.some.inj (ht'.symm.trans ht)
    have hp := hti.pending s
    simp only [Pipeline.view_pending, hb, StagePc.pending_busy, if_true, List.count_cons_self] at hp
    have hlen : t'.received.length = s.idx + 1 := by by_contra hn; simp [hn] at hp
    have hes : es.count .signal = 0 := by simp [hw, hlen] at hp; exact hp
    have hrec : t'.received = s.before ++ [s] := by
      have := hti.phase
      simp only [Phase, hw] at this
      rcases this.1 with h | h
      · simp [h] at hlen
      · exact h
    have hcmp : es ≠ [] → s = .compare := fun hne => hshape.2.resolve_right (by simpa using hne)
    obtain ⟨hoff, hbusy, hexit⟩ := hi.update_stage j (by simp [hb]) fun hne => .inl (hcmp hne)
    refine hi.of_setTask ht rfl rfl hoff hbusy hexit rfl
      (by simp [hi.closed_false ht (by simp [hw, TaskPc.isDone])]) (hview _ rfl rfl rfl)
      ⟨hti.phase.afterSignal hw hrec, fun s' => ?_, fun s' => ?_, fun s' hh => ?_,
        by simpa using hti.consumed⟩
    · have := hti.queued s'
      simp only [Pipeline.view_queued, hw, TaskPc.wait.injEq, hlen] at this
      by_cases hs : s = s' <;> simp [hs] at this <;> simp [this]
    · by_cases hs : s' = s
      · subst hs; simp [hes]
      · have := hti.pending s'
        simp only [Pipeline.view_pending, hw, TaskPc.wait.injEq, Ne.symm hs, false_and,
          if_false] at this
        simp [Function.update_noteq hs, this]
    · by_cases hs : s' = s
      · subst hs
        simp only [Pipeline.view_holds, Pipeline.stages_moveTask, Pipeline.stages_withEffects,
          Function.update_same, StagePc.holds_remaining, Bool.not_eq_true',
          List.isEmpty_eq_false] at hh
        refine ⟨by simp [hrec], .inr ?_⟩
        simp [hcmp hh, Stage.afterSignal]
      · have := (hti.holds s' (by simpa [Function.update_noteq hs] using hh)).1
        simp [hrec] at this
        exact absurd this.symm hs

/-! ### Every reachable state -/

theorem inv_init (hc : TopNCollector) : Inv (Pipeline.init hc) where
  task _ _ h := by simp [Pipeline.init] at h
  stray _ _ := rfl
  busy _ _ _ h := by cases h
  fresh _ := ⟨rfl, fun _ => rfl⟩
  started h := by simp [Pipeline.init] at h
  closed h := by cases h
  exited _ h := by cases h
  panicked h := by cases h

/-- **Every step keeps the invariant.** -/
theorem step_inv {a : Action} (hi : Inv st) (h : step env st a = some st') : Inv st' := by
  replace h := (step_eq_some h).2
  cases a with
  | main => exact inv_main hi h
  | task i => exact inv_task hi h
  | stage s =>
    rcases stageStep_eq_some h with ⟨hidle, h⟩ | ⟨j, e, es, hb, h⟩
    · exact inv_recv hi hidle h
    · exact inv_effect hi hb h
  | exit s => exact inv_exit hi h
  | cancel => exact inv_cancel hi h

/-- **Every reachable state satisfies the invariant.** -/
theorem Reachable.inv (h : Reachable env st) : Inv st := by
  induction h with
  | init => exact inv_init env.hc
  | step _ _ hs ih => exact step_inv ih hs

/-- How often the consume stage has consumed task `i`'s match: once if the match reached it, and
    never for a task that does not exist. -/
theorem Inv.count_consumed (hi : Inv st) (i : Nat) :
    st.consumed.count i = if h : i < st.tasks.length then
      (if .consume ∈ st.tasks[i].received then 1 else 0) else 0 := by
  split
  · rename_i hlt
    simpa using (hi.task i _ (List.getElem?_eq_getElem hlt)).consumed
  · simpa [View.empty] using congrArg View.consumed (hi.stray i (not_lt.mp ‹_›))

/-! ### Every run is finite -/

/-- The steps a task has left at most, with each send counting for the channel slot it fills. -/
def TaskPc.weight : TaskPc → Nat
  | .start => 19
  | .poll => 18
  | .number => 17
  | .send s => 4 * (4 - s.idx)
  | .wait s => 4 * (3 - s.idx)
  | .done _ => 0

/-- The steps a stage goroutine has left before it is back in its `select`, or can leave. -/
def StagePc.weight : StagePc → Nat
  | .idle => 1
  | .busy _ es => 1 + es.length
  | _ => 0

/-- The steps the main goroutine has left, each spawn counting for the task it creates. -/
def mainWeight (env : CollectEnv) (main : MainPc) (cursor : Nat) : Nat :=
  match main with
  | .start => 20 * env.searcher.docs.length + 7
  | .loop => 20 * (env.searcher.docs.length - cursor) + 2
  | .wait => 1
  | .returned _ => 0

/-- What the stages and their channels have left to do. -/
def stagesWeight (stages : Stage → StagePc) (chans : Stage → List Nat) : Nat :=
  (allStages.map fun s => (stages s).weight + 3 * (chans s).length).sum

/-- A bound on the number of steps left in a run of `Collect`. -/
def measure (env : CollectEnv) (st : Pipeline) : Nat :=
  mainWeight env st.main st.cursor + (st.tasks.map (·.pc.weight)).sum +
    stagesWeight st.stages st.chans + if st.cancelled then 0 else 1

/-- Changing one stage and its channel changes `stagesWeight` by the difference. -/
private theorem stagesWeight_update (stages stages' : Stage → StagePc) (chans chans' : Stage → List Nat)
    (s : Stage) (h : ∀ s', s' ≠ s → stages' s' = stages s' ∧ chans' s' = chans s') :
    stagesWeight stages' chans' + ((stages s).weight + 3 * (chans s).length) =
      stagesWeight stages chans + ((stages' s).weight + 3 * (chans' s).length) := by
  have e : ∀ s', s' ≠ s → (stages' s').weight + 3 * (chans' s').length =
      (stages s').weight + 3 * (chans s').length := fun s' hs => by rw [(h s' hs).1, (h s' hs).2]
  unfold stagesWeight
  simp only [allStages, List.map_cons, List.map_nil, List.sum_cons, List.sum_nil]
  cases s
  · rw [e .sort (by decide), e .consume (by decide), e .compare (by decide)]; omega
  · rw [e .load (by decide), e .consume (by decide), e .compare (by decide)]; omega
  · rw [e .load (by decide), e .sort (by decide), e .compare (by decide)]; omega
  · rw [e .load (by decide), e .sort (by decide), e .consume (by decide)]; omega

/-- The compare stage performs at most two effects. -/
theorem startComparePipeline_length (hc : TopNCollector) (cs : CompareState) (d : DocumentMatch) :
    (startComparePipeline hc cs d).2.length ≤ 2 := by
  rcases startComparePipeline_cases hc cs d with ⟨-, h1⟩ | ⟨-, h1 | ⟨h1, -⟩ | ⟨l, -, h1⟩⟩ <;> simp [h1]

/-- The weight of a stage left with `es` to perform. -/
theorem StagePc.weight_remaining (j : Nat) (es : List Effect) :
    (if es = [] then StagePc.idle else .busy j es).weight = 1 + es.length := by
  split <;> simp_all [StagePc.weight]

/-- A signalled task has no more steps left than it had while waiting. -/
theorem TaskPc.weight_afterSignal (err : Option Error) (s : Stage) :
    (s.afterSignal err).weight ≤ (TaskPc.wait s).weight := by
  cases s <;> (try cases err) <;> simp [Stage.afterSignal, TaskPc.weight, Stage.idx]


/-- `Next` yields a match only within the searcher's matches. -/
theorem Searcher.lt_of_next_eq {sr : Searcher} {k : Nat} {d : DocumentMatch}
    (h : sr.next k = .ok (some d)) : k < sr.docs.length := by
  unfold Searcher.next at h
  split at h
  · exact (List.getElem?_eq_some_iff.mp ‹_›).1
  · split at h <;> cases h

/-- **The main goroutine decreases the measure.** -/
theorem measure_main (hi : Inv st) (h : Collect env st = some st') :
    measure env st' < measure env st := by
  unfold measure
  rcases Collect_eq_some h with ⟨hm, -, rfl⟩ | ⟨hm, -, rfl⟩ | ⟨d, hm, hn, rfl⟩ | ⟨hm, -, rfl⟩ |
    ⟨e, hm, -, rfl⟩ | ⟨hm, -, -, rfl⟩ | ⟨hm, -, -, rfl⟩
  · simp only [mainWeight, hm]
    omega
  · -- the stages start
    have hs : stagesWeight (fun _ => .idle) st.chans = stagesWeight st.stages st.chans + 4 := by
      simp [stagesWeight, allStages, (hi.fresh hm).2, StagePc.weight]
      omega
    simp only [mainWeight, hm, hs]
    have : env.searcher.docs.length - st.cursor ≤ env.searcher.docs.length := Nat.sub_le _ _
    omega
  · -- a spawn: one match fewer to pull, one task more
    have hlt := Searcher.lt_of_next_eq hn
    simp only [mainWeight, hm, List.map_append, List.sum_append, List.map_cons, List.map_nil,
      List.sum_cons, List.sum_nil, TaskPc.weight]
    omega
  all_goals
    simp only [mainWeight, hm]
    omega

/-- **Task steps decrease the measure.** -/
theorem measure_task (h : collectSingle st i = some st') : measure env st' < measure env st := by
  obtain ⟨t, ht, hcase⟩ := collectSingle_eq_some h
  unfold measure
  rcases hcase with ⟨hpc, rfl⟩ | ⟨hpc, rfl⟩ | ⟨hpc, rfl⟩ | ⟨s, hpc, -, rfl⟩
  · have := sum_map_set (·.pc.weight) ht { t with pc := if st.hitNumber % CheckDoneEvery = 0 then .poll else .number }
    have hw : (if st.hitNumber % CheckDoneEvery = 0 then TaskPc.poll else .number).weight ≤ 18 := by
      split <;> decide
    have h19 : t.pc.weight = 19 := by rw [hpc]; rfl
    dsimp only at this
    simp only [Pipeline.moveTask, Pipeline.setTask]
    omega
  · have := sum_map_set (·.pc.weight) ht { t with pc := if st.cancelled then .done (some .canceled) else .number }
    have hw : (if st.cancelled then TaskPc.done (some .canceled) else .number).weight ≤ 17 := by
      split <;> decide
    have h18 : t.pc.weight = 18 := by rw [hpc]; rfl
    dsimp only at this
    simp only [Pipeline.moveTask, Pipeline.setTask]
    omega
  · have := sum_map_set (·.pc.weight) ht
      { t with doc := { t.doc with hitNumber := goInt (st.hitNumber + 1) }, pc := .send .load }
    have h17 : t.pc.weight = 17 := by rw [hpc]; rfl
    have h16 : (TaskPc.send .load).weight = 16 := rfl
    dsimp only at this
    simp only [Pipeline.moveTask, Pipeline.setTask]
    omega
  · -- the send fills a channel slot
    have := sum_map_set (·.pc.weight) ht { t with pc := .wait s }
    have hs := stagesWeight_update st.stages st.stages st.chans
      (Function.update st.chans s (st.chans s ++ [i])) s
      (fun s' hs' => ⟨rfl, by simp [Function.update_noteq hs']⟩)
    have hsend : t.pc.weight = 4 * (4 - s.idx) := by rw [hpc]; rfl
    have hwait : ({ t with pc := .wait s } : Task).pc.weight = 4 * (3 - s.idx) := rfl
    have : s.idx ≤ 3 := by cases s <;> decide
    simp only [Function.update_same, List.length_append, List.length_singleton] at hs
    simp only [Pipeline.moveTask, Pipeline.setTask]
    omega

/-- Once a stage has received a match, it has at most two effects to perform. -/
theorem measure_deliver {s : Stage} {j : Nat} {rest : List Nat} (hch : st.chans s = j :: rest)
    (ht : st.tasks[j]? = some t) (hidle : st.stages s = .idle) (d : DocumentMatch)
    {effs : List Effect} (hlen : effs.length ≤ 2) (consumed : List Nat) (cs : CompareState) :
    measure env ({ st with consumed := consumed, cs := cs }.deliver s j t d effs) < measure env st := by
  have := sum_map_set (·.pc.weight) ht { t with doc := d, received := t.received ++ [s] }
  have hs := stagesWeight_update st.stages
    (Function.update st.stages s (if effs = [] then .idle else .busy j effs)) st.chans
    (Function.update st.chans s (st.chans s).tail) s
    (fun s' hs' => by simp [Function.update_noteq hs'])
  have hw : ({ t with doc := d, received := t.received ++ [s] } : Task).pc.weight = t.pc.weight := rfl
  simp only [Function.update_same, hch, hidle, List.tail_cons, StagePc.weight_remaining,
    List.length_cons] at hs
  have h1 : StagePc.idle.weight = 1 := rfl
  unfold measure
  simp only [Pipeline.deliver, Pipeline.withEffects, Pipeline.setTask, hch, List.tail_cons]
  omega

/-- **Stage steps decrease the measure.** -/
theorem measure_stage {s : Stage} (h : stageStep env st s = some st') :
    measure env st' < measure env st := by
  rcases stageStep_eq_some h with ⟨hidle, h⟩ | ⟨j, e, es, hb, h⟩
  · obtain ⟨j, rest, t, hch, ht, hcase⟩ := stageRecv_eq_some h
    rcases hcase with ⟨rfl, rfl⟩ | ⟨rfl, rfl⟩ | ⟨rfl, rfl⟩ | ⟨rfl, rfl⟩
    · exact measure_deliver hch ht hidle _ (by simp [startLoadDocValuesPipeline]) st.consumed st.cs
    · exact measure_deliver hch ht hidle _ (by unfold startSortPipeline; split <;> simp) st.consumed st.cs
    · exact measure_deliver hch ht hidle _ (by unfold startConsumePipeline; split <;> simp) _ st.cs
    · exact measure_deliver hch ht hidle _ (startComparePipeline_length _ _ _) st.consumed _
  · have hs := stagesWeight_update st.stages
      (Function.update st.stages s (if es = [] then .idle else .busy j es)) st.chans st.chans s
      (fun s' hs' => by simp [Function.update_noteq hs'])
    have hbw : (st.stages s).weight = 1 + (es.length + 1) := by rw [hb]; rfl
    simp only [Function.update_same, StagePc.weight_remaining] at hs
    unfold measure
    rcases stageEffect_eq_some h with ⟨x, rfl, rfl⟩ | ⟨t, rfl, ht, hw, rfl⟩
    · simp only [Pipeline.withEffects]
      omega
    · have := sum_map_set (·.pc.weight) ht { t with signalled := t.signalled ++ [s], pc := s.afterSignal t.doc.err }
      have hw' := TaskPc.weight_afterSignal t.doc.err s
      have hwt : t.pc.weight = (TaskPc.wait s).weight := by rw [hw]
      have hpc : ({ t with signalled := t.signalled ++ [s], pc := s.afterSignal t.doc.err } : Task).pc =
        s.afterSignal t.doc.err := rfl
      rw [hpc] at this
      simp only [Pipeline.moveTask, Pipeline.setTask, Pipeline.withEffects]
      omega

/-- **Every step decreases the measure.** -/
theorem step_measure_lt {a : Action} (hi : Inv st) (h : step env st a = some st') :
    measure env st' < measure env st := by
  replace h := (step_eq_some h).2
  cases a with
  | main => exact measure_main hi h
  | task i => exact measure_task h
  | stage s => exact measure_stage h
  | exit s =>
    obtain ⟨hidle, -, rfl⟩ := exitStep_eq_some h
    have hs := stagesWeight_update st.stages (Function.update st.stages s .exited) st.chans st.chans s
      (fun s' hs' => ⟨by simp [Function.update_noteq hs'], rfl⟩)
    simp only [Function.update_same, hidle] at hs
    have h1 : StagePc.idle.weight = 1 := rfl
    have h0 : StagePc.exited.weight = 0 := rfl
    unfold measure
    dsimp only
    omega
  | cancel =>
    obtain ⟨hc, rfl⟩ := cancelStep_eq_some h
    simp [measure, hc]

/-- **Every run of `Collect` from a reachable state is finite**, of length at most `measure`. -/
theorem run_length_le (hr : Reachable env st) {as : List Action} (h : run env st as = some st') :
    as.length ≤ measure env st := by
  induction as generalizing st with
  | nil => simp
  | cons a as ih =>
    rw [run_cons, Option.bind_eq_some] at h
    obtain ⟨st₁, h₁, h⟩ := h
    have := step_measure_lt hr.inv h₁
    have := ih (hr.step a h₁) h
    simp only [List.length_cons]
    omega

/-! ### No task waits forever -/

/-- A match queued at a stage belongs to a task waiting for that stage, which has not taken it
    yet. -/
theorem Inv.queued_task (hi : Inv st) {s : Stage} {j : Nat} (hj : j ∈ st.chans s) :
    ∃ t, st.tasks[j]? = some t ∧ t.pc = .wait s ∧ t.received = s.before := by
  have hpos : 0 < (st.chans s).count j := List.count_pos_iff.mpr hj
  rcases Nat.lt_or_ge j st.tasks.length with hlt | hge
  · obtain ⟨t, ht⟩ : ∃ t, st.tasks[j]? = some t := ⟨_, List.getElem?_eq_getElem hlt⟩
    have hq := (hi.task j t ht).queued s
    simp only [Pipeline.view_queued] at hq
    have hw : t.pc = .wait s ∧ t.received.length = s.idx := by
      by_contra hn
      simp only [hn, if_false] at hq
      omega
    have hp := (hi.task j t ht).phase
    simp only [Phase, hw.1] at hp
    refine ⟨t, ht, hw.1, hp.1.resolve_right fun h => ?_⟩
    have := hw.2
    simp [h] at this
  · have := congrArg (fun v => v.queued s) (hi.stray j hge)
    simp only [Pipeline.view_queued, View.empty] at this
    omega

/-- A stage goroutine handles the match of an existing task. -/
theorem Inv.busy_task (hi : Inv st) {s : Stage} {j : Nat} {es : List Effect}
    (hb : st.stages s = .busy j es) : ∃ t, st.tasks[j]? = some t := by
  rcases Nat.lt_or_ge j st.tasks.length with hlt | hge
  · exact ⟨_, List.getElem?_eq_getElem hlt⟩
  · have := congrArg (fun v => v.holds s) (hi.stray j hge)
    simp [hb, View.empty] at this

/-- A stage with a queued match, or busy with one, can take a step. -/
theorem exists_stage_step (hi : Inv st) {s : Stage}
    (hs : st.chans s ≠ [] ∨ ∃ j es, st.stages s = .busy j es) :
    ∃ st', stageStep env st s = some st' := by
  -- the stage goroutine is running: it started, and a queued match keeps it from leaving
  have hrun : st.stages s = .idle ∧ st.chans s ≠ [] ∨ ∃ j es, st.stages s = .busy j es := by
    rcases hs with hne | hb
    · obtain ⟨j, hj⟩ := List.exists_mem_of_ne_nil _ hne
      obtain ⟨t, ht, hw, -⟩ := hi.queued_task hj
      have hmem : t ∈ st.tasks := List.mem_iff_getElem?.mpr ⟨j, ht⟩
      cases hst : st.stages s with
      | idle => exact .inl ⟨rfl, hne⟩
      | busy j es => exact .inr ⟨j, es, rfl⟩
      | off => exact absurd hst (hi.started (.inr (.inr (List.ne_nil_of_mem hmem))) s)
      | exited =>
        have := (hi.closed (hi.exited s hst)).2 t hmem
        simp [hw, TaskPc.isDone] at this
    · exact .inr hb
  rcases hrun with ⟨hidle, hne⟩ | ⟨j, es, hb⟩
  · -- it receives the head of its channel
    obtain ⟨j, rest, hch⟩ : ∃ j rest, st.chans s = j :: rest := by
      cases hc : st.chans s with
      | nil => exact absurd hc hne
      | cons j rest => exact ⟨j, rest, rfl⟩
    obtain ⟨t, ht, -⟩ := hi.queued_task (hch ▸ List.mem_cons_self j rest)
    simp only [stageStep, hidle, stageRecv, hch, ht]
    cases s <;> exact ⟨_, rfl⟩
  · -- it performs its next effect; a signal finds its task waiting
    cases es with
    | nil => exact absurd rfl (hi.busy s j [] hb).1
    | cons e es =>
      cases e with
      | put x => exact ⟨_, by simp only [stageStep, hb, stageEffect]; rfl⟩
      | signal =>
        obtain ⟨t, ht⟩ := hi.busy_task hb
        have hp := (hi.task j t ht).pending s
        simp only [Pipeline.view_pending, hb, StagePc.pending_busy, if_true,
          List.count_cons_self] at hp
        have hw : t.pc = .wait s := by
          by_contra hn
          simp [hn] at hp
        exact ⟨_, by simp only [stageStep, hb, stageEffect, ht, hw, if_true]; rfl⟩

/-- **While a task has not returned, some step is enabled**: no task waits forever. -/
theorem exists_step_of_running (hi : Inv st) (ht : st.tasks[i]? = some t)
    (hd : t.pc.isDone = false) : ∃ a st', goroutineStep env st a = some st' := by
  have hti := hi.task i t ht
  cases hpc : t.pc with
  | start => exact ⟨.task i, _, by simp only [goroutineStep, collectSingle, ht, hpc]; rfl⟩
  | poll => exact ⟨.task i, _, by simp only [goroutineStep, collectSingle, ht, hpc]; rfl⟩
  | number => exact ⟨.task i, _, by simp only [goroutineStep, collectSingle, ht, hpc]; rfl⟩
  | send s =>
    by_cases hlen : (st.chans s).length < chanCap
    · exact ⟨.task i, _, by simp only [goroutineStep, collectSingle, ht, hpc, hlen, if_true]; rfl⟩
    · -- a full channel: its stage can move
      refine ⟨.stage s, exists_stage_step hi (.inl fun hnil => ?_)⟩
      simp [hnil, chanCap] at hlen
  | wait s =>
    -- its match is queued at `s`, or `s` owes it a signal
    have hph := hti.phase
    simp only [Phase, hpc] at hph
    refine ⟨.stage s, exists_stage_step hi ?_⟩
    rcases hph.1 with h | h
    · have hq := hti.queued s
      simp only [Pipeline.view_queued, hpc, h, Stage.length_before, and_self, if_true] at hq
      exact .inl fun hnil => by simp [hnil] at hq
    · have hp := hti.pending s
      simp only [Pipeline.view_pending, hpc, h, List.length_append, Stage.length_before,
        List.length_singleton, and_self, if_true] at hp
      refine .inr ?_
      cases hst : st.stages s with
      | busy j es => exact ⟨j, es, rfl⟩
      | _ => simp [hst, StagePc.pending] at hp
  | done _ => simp [hpc, TaskPc.isDone] at hd

/-! ### The hand-off discipline -/

/-- The hand-off discipline of `collectSingle` in a state of `Collect`. -/
structure Discipline (st : Pipeline) : Prop where
  /-- each match goes to the load, sort, consume and compare stages in this order, and no
      further than the load stage when its error is set -/
  order : ∀ t ∈ st.tasks, t.received <+: allStages ∧ (t.doc.err.isSome → t.received <+: [.load])
  /-- every stage that received a match has signalled it exactly once, but for the stage its
      task is waiting on -/
  signals : ∀ t ∈ st.tasks,
    t.signalled = t.received ∨ ∃ s, t.pc = .wait s ∧ t.received = t.signalled ++ [s]
  /-- no two stages hold the same match -/
  oneHolder : ∀ i s s', (st.stages s).holds i = true → (st.stages s').holds i = true → s = s'
  /-- the sort, consume and compare stages receive only matches without error: their
      `continue` branches are never taken -/
  noContinue : ∀ s j t, s ≠ .load → j ∈ st.chans s → st.tasks[j]? = some t → t.doc.err = none
  /-- `bucket.Consume` has been called once on each match the consume stage received, and on
      no other -/
  consumeOnce : ∀ i t, st.tasks[i]? = some t →
    st.consumed.count i = if .consume ∈ t.received then 1 else 0

theorem Stage.before_prefix (s : Stage) : s.before <+: allStages := by cases s <;> decide

theorem Stage.before_append_prefix (s : Stage) : s.before ++ [s] <+: allStages := by
  cases s <;> decide

/-- A task's ghost logs describe the discipline. -/
theorem Phase.discipline (h : Phase t) :
    (t.received <+: allStages ∧ (t.doc.err.isSome → t.received <+: [.load])) ∧
      (t.signalled = t.received ∨ ∃ s, t.pc = .wait s ∧ t.received = t.signalled ++ [s]) := by
  cases hpc : t.pc with
  | start | poll | number =>
    obtain ⟨hr, hs⟩ : t.received = [] ∧ t.signalled = [] := by simpa [Phase, hpc] using h
    simp [hr, hs]
  | send s =>
    obtain ⟨hr, hs, he⟩ : t.received = s.before ∧ t.signalled = s.before ∧
        (s ≠ .load → t.doc.err = none) := by simpa [Phase, hpc] using h
    refine ⟨⟨hr ▸ s.before_prefix, fun herr => ?_⟩, .inl (hs.trans hr.symm)⟩
    obtain rfl : s = .load := by_contra fun hl => by simp [he hl] at herr
    simp [hr, Stage.before]
  | wait s =>
    obtain ⟨hr, hs, he⟩ : (t.received = s.before ∨ t.received = s.before ++ [s]) ∧
        t.signalled = s.before ∧ (s ≠ .load → t.doc.err = none) := by simpa [Phase, hpc] using h
    have hload : t.doc.err.isSome → s = .load := fun herr =>
      by_contra fun hl => by simp [he hl] at herr
    rcases hr with hr | hr
    · refine ⟨⟨hr ▸ s.before_prefix, fun herr => ?_⟩, .inl (hs.trans hr.symm)⟩
      simp [hr, hload herr, Stage.before]
    · refine ⟨⟨hr ▸ s.before_append_prefix, fun herr => ?_⟩, .inr ⟨s, rfl, hs ▸ hr⟩⟩
      simp [hr, hload herr, Stage.before]
  | done r =>
    cases r with
    | none =>
      obtain ⟨hr, hs, he⟩ : t.received = allStages ∧ t.signalled = allStages ∧ t.doc.err = none := by
        simpa [Phase, hpc] using h
      simp [hr, hs, he]
    | some e =>
      obtain ⟨hs, hr⟩ : t.signalled = t.received ∧
          (t.received = [] ∨ t.received = [.load] ∧ t.doc.err.isSome) := by simpa [Phase, hpc] using h
      have hpre : t.received <+: [.load] := by rcases hr with hr | ⟨hr, -⟩ <;> simp [hr]
      exact ⟨⟨hpre.trans (by decide), fun _ => hpre⟩, .inl hs⟩

/-- Every reachable state keeps the hand-off discipline. -/
theorem Inv.discipline (hi : Inv st) : Discipline st where
  order t ht := by
    obtain ⟨i, ht⟩ := List.mem_iff_getElem?.mp ht
    exact (hi.task i t ht).phase.discipline.1
  signals t ht := by
    obtain ⟨i, ht⟩ := List.mem_iff_getElem?.mp ht
    exact (hi.task i t ht).phase.discipline.2
  oneHolder i s s' hs hs' := by
    -- each stage holding the match is the last stage that received it
    obtain ⟨t, ht⟩ : ∃ t, st.tasks[i]? = some t := by
      cases hst : st.stages s with
      | busy j es =>
        obtain ⟨t, ht⟩ := hi.busy_task hst
        simp only [hst, StagePc.holds_busy, decide_eq_true_eq] at hs
        exact ⟨t, hs ▸ ht⟩
      | _ => simp [hst, StagePc.holds] at hs
    exact Option.some.inj (((hi.task i t ht).holds s hs).1.symm.trans ((hi.task i t ht).holds s' hs').1)
  noContinue s j t hs hj ht := by
    obtain ⟨u, hu, hw, -⟩ := hi.queued_task hj
    obtain rfl : u = t := Option.some.inj (hu.symm.trans ht)
    have := (hi.task j u hu).phase
    simp only [Phase, hw] at this
    exact this.2.2 hs
  consumeOnce i t ht := (hi.task i t ht).consumed

/-- Where nothing can move, every task has returned, every stage that received its match
    signalled it, and `bucket.Consume` was called on it once if its load succeeded. -/
theorem Inv.quiescent (hi : Inv st) (hnone : ∀ a, step env st a = none) (ht : st.tasks[i]? = some t) :
    t.pc.isDone = true ∧ t.signalled = t.received ∧
      (.load ∈ t.received → t.doc.err = none → st.consumed.count i = 1) := by
  have hti := hi.task i t ht
  have hd : t.pc.isDone = true := by
    by_cases hp : st.main = .returned .panicked
    · exact (hi.closed (hi.panicked hp)).2 t (List.mem_iff_getElem?.mpr ⟨i, ht⟩)
    by_contra hn
    obtain ⟨a, st', ha⟩ : ∃ a st', goroutineStep env st a = some st' :=
      exists_step_of_running hi ht (by simpa using hn)
    simpa [step, hp, ha] using hnone a
  have hph := hti.phase
  cases hpc : t.pc with
  | done r =>
    cases r with
    | none =>
      simp only [Phase, hpc] at hph
      obtain ⟨hr, hs, -⟩ := hph
      have := hti.consumed
      simp only [Pipeline.view_consumed, hr] at this
      exact ⟨rfl, hs.trans hr.symm, fun _ _ => by simpa [allStages] using this⟩
    | some e =>
      simp only [Phase, hpc] at hph
      obtain ⟨hs, hr⟩ := hph
      refine ⟨rfl, hs, fun hl he => ?_⟩
      rcases hr with hr | ⟨-, herr⟩
      · simp [hr] at hl
      · simp [he] at herr
  | _ => simp [hpc, TaskPc.isDone] at hd

/-- Where no goroutine can move, `Collect` has returned and every task too: the main goroutine
    can always move unless it has returned, as `errs.Wait()` returns once every task has. -/
theorem returned_of_stuck (h : Reachable env st) (hnone : ∀ a, step env st a = none) :
    (∃ r, st.main = .returned r) ∧ ∀ t ∈ st.tasks, t.pc.isDone := by
  have hall : ∀ t ∈ st.tasks, t.pc.isDone = true := fun t ht => by
    obtain ⟨i, ht⟩ := List.mem_iff_getElem?.mp ht
    exact (h.inv.quiescent hnone ht).1
  refine ⟨?_, hall⟩
  by_cases hp : st.main = .returned .panicked
  · exact ⟨_, hp⟩
  have hm := hnone .main
  simp only [step, hp, if_false, goroutineStep, Collect] at hm
  split at hm
  · split at hm <;> cases hm
  · split at hm <;> cases hm
  · simp only [List.all_eq_true.mpr hall, if_true] at hm
    split at hm <;> cases hm
  · exact ⟨_, ‹_›⟩

/-! ### A search with two matches -/

/-- A search with two matches, of ranks 5 and 3: a collector of size 1 by rank, no aggregation,
    and loads that succeed. -/
def twoMatchEnv : CollectEnv :=
  ⟨(NewTopNCollector 1 0 SortOrder.byRank).get rfl,
    ⟨[⟨1, 1, [[5]], 0, none⟩, ⟨2, 2, [[3]], 0, none⟩], none⟩, [], fun _ => none⟩

/-- A schedule of `Collect` over `twoMatchEnv`: the main goroutine drains the searcher, the
    tasks take their hit numbers in searcher order, and the second task's match goes through the
    sort, consume and compare stages before the first's; `Collect` returns. -/
def twoMatchRun : List Action :=
  [.main, .main, .main, .main, .task 0, .task 0, .task 0, .task 0, .task 1, .task 1, .task 1,
    .stage .load, .stage .load, .stage .load, .stage .load,
    .task 1, .stage .sort, .stage .sort, .task 1, .stage .consume, .stage .consume,
    .task 1, .stage .compare, .stage .compare,
    .task 0, .stage .sort, .stage .sort, .task 0, .stage .consume, .stage .consume,
    .task 0, .stage .compare, .stage .compare, .main]

/-- The state `twoMatchRun` reaches: `Collect` has returned the rank-3 match. -/
def twoMatchDone : Pipeline := (run twoMatchEnv (Pipeline.init twoMatchEnv.hc) twoMatchRun).get rfl

theorem twoMatchDone_reachable : Reachable twoMatchEnv twoMatchDone :=
  Reachable.init.run (Option.some_get _).symm

/-- The state after the four stage goroutines have left: no goroutine can move. -/
def twoMatchExited : Pipeline := (run twoMatchEnv twoMatchDone (allStages.map .exit)).get rfl

theorem twoMatchExited_reachable : Reachable twoMatchEnv twoMatchExited :=
  twoMatchDone_reachable.run (Option.some_get _).symm

/-! ### What every schedule reaches -/

/-- Midway through `twoMatchRun`: the compare stage holds the second match, whose task waits on
    it, while the first task waits to send to the sort stage. -/
def twoMatchMid : Pipeline :=
  (run twoMatchEnv (Pipeline.init twoMatchEnv.hc) (twoMatchRun.take 23)).get rfl

end Bluge.Collector
