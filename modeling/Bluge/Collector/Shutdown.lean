import Bluge.Collector.Protocol

namespace Bluge.Collector

open Bluge.Search

/-!
# Collector — how `Collect` stops

`Collect` has three ways out once the stages run: the results, after `errs.Wait()` and
`close(hc.closePipelines)`; the error of a task, returned after `errs.Wait()` but before the
close; and an error of `searcher.Next`, returned at once.  Its cancellation checks are the
`ctx.Done()` select before the first `Next` and the one in each task whose counter read was a
multiple of `CheckDoneEvery`.

* `Reachable.closed_iff` — `closePipelines` is closed exactly when `Collect` returned results.
* `failed_collect_leaves_stages` — after an error return, `closePipelines` stays open in every
  continuation, and no stage goroutine ever leaves its loop.
* `results_collect_stops_stages` — after the results return, by contrast, every continuation is
  finite and ends with every task returned and all four stage goroutines gone.
* `collect_returns_with_task_running` — a searcher whose second `Next` fails: `Collect` returns
  while the task of the first match has not started.
* `run_main_replicate` — the spawn loop pulls match after match without looking at the
  context; `collect_pulls_past_cancellation` — with 1026 matches, cancelling after the first
  `Next` does not stop the pulls.
-/

variable {env : CollectEnv} {st st' : Pipeline}

/-- Only the main goroutine moves itself, closes `closePipelines` and advances the cursor. -/
theorem step_frame {a : Action} (h : step env st a = some st') (ha : a ≠ .main) :
    st'.main = st.main ∧ st'.closed = st.closed ∧ st'.cursor = st.cursor := by
  replace h := (step_eq_some h).2
  cases a with
  | main => exact absurd rfl ha
  | task i =>
    obtain ⟨t, -, hcase⟩ := collectSingle_eq_some h
    rcases hcase with ⟨-, rfl⟩ | ⟨-, rfl⟩ | ⟨-, rfl⟩ | ⟨s, -, -, rfl⟩ <;> exact ⟨rfl, rfl, rfl⟩
  | stage s =>
    rcases stageStep_eq_some h with ⟨-, h⟩ | ⟨j, e, es, -, h⟩
    · obtain ⟨j, rest, t, -, -, hcase⟩ := stageRecv_eq_some h
      rcases hcase with ⟨-, rfl⟩ | ⟨-, rfl⟩ | ⟨-, rfl⟩ | ⟨-, rfl⟩ <;> exact ⟨rfl, rfl, rfl⟩
    · rcases stageEffect_eq_some h with ⟨x, -, rfl⟩ | ⟨t, -, -, -, rfl⟩ <;> exact ⟨rfl, rfl, rfl⟩
  | exit s =>
    obtain ⟨-, -, rfl⟩ := exitStep_eq_some h
    exact ⟨rfl, rfl, rfl⟩
  | cancel =>
    obtain ⟨-, rfl⟩ := cancelStep_eq_some h
    exact ⟨rfl, rfl, rfl⟩

/-- **`closePipelines` is closed exactly when `Collect` has finalized its results**, whether it
    returned them or `Final` panicked. -/
theorem Reachable.closed_iff (h : Reachable env st) :
    st.closed = true ↔ ∃ o, st.main = .returned (.ofFinal o) := by
  induction h with
  | init => simp [Pipeline.init]
  | step a _ hs ih =>
    by_cases ha : a = .main
    · subst ha
      rcases Collect_eq_some (step_eq_some hs).2 with ⟨hm, -, rfl⟩ | ⟨hm, -, rfl⟩ | ⟨d, hm, -, rfl⟩ |
        ⟨hm, -, rfl⟩ | ⟨e, hm, -, rfl⟩ | ⟨hm, -, -, rfl⟩ | ⟨hm, -, -, rfl⟩
      all_goals first | exact iff_of_true rfl ⟨_, rfl⟩ | simp_all
    · obtain ⟨h1, h2, -⟩ := step_frame hs ha
      rw [h1, h2]
      exact ih

/-- Before the main goroutine's first step, `Collect` has called `Next` on nothing. -/
theorem Reachable.cursor_of_start (h : Reachable env st) (hm : st.main = .start) : st.cursor = 0 := by
  induction h with
  | init => rfl
  | step a _ hs ih =>
    by_cases ha : a = .main
    · subst ha
      rcases Collect_eq_some (step_eq_some hs).2 with ⟨-, -, rfl⟩ | ⟨-, -, rfl⟩ | ⟨_, hl, -, rfl⟩ | ⟨-, -, rfl⟩ |
        ⟨_, -, -, rfl⟩ | ⟨-, -, -, rfl⟩ | ⟨-, -, -, rfl⟩ <;> simp_all
    · obtain ⟨hmain, -, hcur⟩ := step_frame hs ha
      exact hcur.trans (ih (hmain ▸ hm))

/-- After `Collect` has returned the main goroutine is done: nothing moves it again. -/
theorem step_keeps_returned {a : Action} {r : Outcome} (hm : st.main = .returned r)
    (h : step env st a = some st') : st'.main = .returned r := by
  by_cases ha : a = .main
  · subst ha
    simp [step, goroutineStep, Collect, hm] at h
  · exact (step_frame h ha).1 ▸ hm

theorem run_keeps_returned {as : List Action} {r : Outcome} (hm : st.main = .returned r)
    (hr : run env st as = some st') : st'.main = .returned r := by
  induction as generalizing st with
  | nil => cases hr; exact hm
  | cons a as ih =>
    rw [run_cons, Option.bind_eq_some] at hr
    obtain ⟨st₁, h₁, hr⟩ := hr
    exact ih (step_keeps_returned hm h₁) hr

/-- A searcher that yields one match and then fails. -/
def failingNextEnv : CollectEnv :=
  ⟨(NewTopNCollector 1 0 SortOrder.byRank).get rfl, ⟨[⟨1, 1, [[5]], 0, none⟩], some (.next 7)⟩, [],
    fun _ => none⟩

/-- **On its error returns, `Collect` leaves its stages running.**  Once `Collect` has returned
    the error of `searcher.Next` or of a task, `closePipelines` stays open in every continuation
    of the run, so no stage goroutine ever takes the `<-hc.closePipelines` case and leaves its
    loop: they stay blocked in their `select` for good. -/
theorem failed_collect_leaves_stages (h : Reachable env st) {es : List Error}
    (hm : st.main = .returned (.failed es)) {as : List Action} (hr : run env st as = some st') :
    st'.main = .returned (.failed es) ∧ st'.closed = false ∧ ∀ s, st'.stages s ≠ .exited := by
  induction as generalizing st with
  | nil =>
    simp only [run_nil, Option.some.injEq] at hr
    subst hr
    have hc : st.closed = false := by simpa [hm] using h.closed_iff
    exact ⟨hm, hc, fun s hs => by simp [h.inv.exited s hs] at hc⟩
  | cons a as ih =>
    rw [run_cons, Option.bind_eq_some] at hr
    obtain ⟨st₁, h₁, hr⟩ := hr
    exact ih (h.step a h₁) (step_keeps_returned hm h₁) hr

/-- After `Collect` over `failingNextEnv` has returned the error of its second `Next`, its task
    walks into its send to the load stage, which takes the match; the stages stay. -/
theorem failingNext_leaves_stages :
    let st' := (run failingNextEnv ((run failingNextEnv (Pipeline.init failingNextEnv.hc)
      [.main, .main, .main]).get rfl) [.task 0, .task 0, .task 0, .task 0, .stage .load]).get rfl
    st'.main = .returned (.failed [.next 7]) ∧ st'.closed = false ∧ ∀ s, st'.stages s ≠ .exited :=
  failed_collect_leaves_stages (Reachable.init.run (Option.some_get _).symm) (by rfl)
    (Option.some_get _).symm

/-! ### The results path -/

/-- Once started, a stage goroutine never goes back to before its `go` statement. -/
theorem step_stages_ne_off {a : Action} {s : Stage} (h : step env st a = some st')
    (hs : st.stages s ≠ .off) : st'.stages s ≠ .off := by
  replace h := (step_eq_some h).2
  have hupd : ∀ (s' : Stage) (p : StagePc), p ≠ .off → Function.update st.stages s' p s ≠ .off :=
    fun s' p hp => by by_cases e : s = s' <;> simp [Function.update_apply, e, hp, hs]
  have heff : ∀ s' j es, (st.withEffects s' j es).stages s ≠ .off :=
    fun s' j es => hupd s' _ (by split <;> simp)
  cases a with
  | main =>
    rcases Collect_eq_some h with ⟨-, -, rfl⟩ | ⟨-, -, rfl⟩ | ⟨_, -, -, rfl⟩ | ⟨-, -, rfl⟩ |
      ⟨_, -, -, rfl⟩ | ⟨-, -, -, rfl⟩ | ⟨-, -, -, rfl⟩ <;> simp [hs]
  | task i =>
    obtain ⟨t, -, hcase⟩ := collectSingle_eq_some h
    rcases hcase with ⟨-, rfl⟩ | ⟨-, rfl⟩ | ⟨-, rfl⟩ | ⟨_, -, -, rfl⟩ <;> exact hs
  | stage s' =>
    rcases stageStep_eq_some h with ⟨-, h⟩ | ⟨j, e, es, -, h⟩
    · obtain ⟨j, rest, t, -, -, hcase⟩ := stageRecv_eq_some h
      rcases hcase with ⟨-, rfl⟩ | ⟨-, rfl⟩ | ⟨-, rfl⟩ | ⟨-, rfl⟩ <;> exact heff _ _ _
    · rcases stageEffect_eq_some h with ⟨x, -, rfl⟩ | ⟨t, -, -, -, rfl⟩ <;> exact heff _ _ _
  | exit s' =>
    obtain ⟨-, -, rfl⟩ := exitStep_eq_some h
    exact hupd s' .exited (by simp)
  | cancel =>
    obtain ⟨-, rfl⟩ := cancelStep_eq_some h
    exact hs

/-- When `Collect` has returned results, all four stage goroutines were started: the results
    come from `errs.Wait()`, after the `go` statements. -/
theorem Reachable.stages_started_of_results (h : Reachable env st) {rs : List DocumentMatch}
    (hm : st.main = .returned (.results rs)) (s : Stage) : st.stages s ≠ .off := by
  induction h generalizing rs with
  | init => simp [Pipeline.init] at hm
  | step a hreach hs ih =>
    by_cases ha : a = .main
    · subst ha
      rcases Collect_eq_some (step_eq_some hs).2 with ⟨-, -, rfl⟩ | ⟨-, -, rfl⟩ | ⟨_, -, -, rfl⟩ |
        ⟨-, -, rfl⟩ | ⟨_, -, -, rfl⟩ | ⟨hw, -, -, rfl⟩ | ⟨-, -, -, rfl⟩
      iterate 2 simp at hm
      · exact ih hm
      iterate 2 simp at hm
      · exact hreach.inv.started (.inr (.inl hw)) s
      · simp at hm
    · exact step_stages_ne_off hs (ih ((step_frame hs ha).1 ▸ hm))

/-- **On its results path, `Collect` leaves nothing running.**  Once `Collect` has returned its
    results, every continuation of the run is finite and keeps `closePipelines` closed; where it
    stops, with no goroutine able to move, every task has returned and each of the four stage
    goroutines has taken the `<-hc.closePipelines` case and left its loop. -/
theorem results_collect_stops_stages (h : Reachable env st) {rs : List DocumentMatch}
    (hm : st.main = .returned (.results rs)) {as : List Action} (hr : run env st as = some st') :
    as.length ≤ measure env st ∧ st'.main = .returned (.results rs) ∧ st'.closed = true ∧
      ((∀ a, step env st' a = none) →
        (∀ t ∈ st'.tasks, t.pc.isDone) ∧ ∀ s, st'.stages s = .exited) := by
  have h' := h.run hr
  have hm' := run_keeps_returned hm hr
  have hc : st'.closed = true := h'.closed_iff.mpr ⟨some rs, hm'⟩
  refine ⟨run_length_le h hr, hm', hc, fun hnone => ⟨fun t ht => ?_, fun s => ?_⟩⟩
  · obtain ⟨i, hi⟩ := List.mem_iff_getElem?.mp ht
    exact (h'.inv.quiescent hnone hi).1
  · match hs : st'.stages s with
    | .off => exact absurd hs (h'.stages_started_of_results hm' s)
    | .idle => simpa [step, goroutineStep, exitStep, hs, hc, hm'] using hnone (.exit s)
    | .busy j es =>
      obtain ⟨_, hss⟩ : ∃ st'', stageStep env st' s = some st'' :=
        exists_stage_step h'.inv (.inr ⟨j, es, hs⟩)
      simpa [step, goroutineStep, hss, hm'] using hnone (.stage s)
    | .exited => rfl

theorem twoMatch_stops_stages :
    (allStages.map Action.exit).length ≤ measure twoMatchEnv twoMatchDone ∧
      twoMatchExited.main = .returned (.results [⟨2, 2, [[3]], 2, none⟩]) ∧ twoMatchExited.closed = true ∧
      ((∀ a, step twoMatchEnv twoMatchExited a = none) →
        (∀ t ∈ twoMatchExited.tasks, t.pc.isDone) ∧ ∀ s, twoMatchExited.stages s = .exited) :=
  results_collect_stops_stages twoMatchDone_reachable (by rfl) (Option.some_get _).symm

/-- **`Collect` returns while a task is still running.**  The main goroutine pulls the match,
    spawns its task, and returns the error of the second `Next` at once: the task has not
    started, so it still uses the match and its hit number after `Collect` has returned and the
    deferred `searcher.Close` has run, and `closePipelines` was never closed, with all four
    stages in their `select`. -/
theorem collect_returns_with_task_running :
    (run failingNextEnv (Pipeline.init failingNextEnv.hc) [.main, .main, .main]).map
        (fun st => (st.main, st.tasks.map (·.pc), st.closed, allStages.map st.stages)) =
      some (.returned (.failed [.next 7]), [.start], false, [.idle, .idle, .idle, .idle]) := by
  decide

/-! ### Cancellation -/

/-- A spawn: the main goroutine starts a task for the match it holds and pulls the next. -/
theorem Collect_spawn (hm : st.main = .loop) {d : DocumentMatch}
    (hn : env.searcher.next st.cursor = .ok (some d)) :
    Collect env st =
      some { st with tasks := st.tasks ++ [⟨d, .start, [], []⟩], cursor := st.cursor + 1 } := by
  unfold Collect
  split
  · simp_all
  · simp only [hn]
  · simp_all
  · simp_all

/-- **The spawn loop never looks at the context.**  From the spawn loop, `k` steps of the main
    goroutine spawn tasks for the next `k` matches and pull as many, whatever the context. -/
theorem run_main_replicate (st : Pipeline) (hm : st.main = .loop) (k : Nat)
    (hk : st.cursor + k ≤ env.searcher.docs.length) :
    run env st (List.replicate k .main) = some { st with
      tasks := st.tasks ++ ((env.searcher.docs.drop st.cursor).take k).map
        fun d => ⟨d, .start, [], []⟩,
      cursor := st.cursor + k } := by
  induction k generalizing st with
  | zero => simp
  | succ k ih =>
    have hlt : st.cursor < env.searcher.docs.length := by omega
    have hnext : env.searcher.next st.cursor = .ok (some env.searcher.docs[st.cursor]) := by
      simp [Searcher.next, List.getElem?_eq_getElem hlt]
    rw [List.replicate_succ, run_cons, step_of_ne_panicked (by simp [hm]), goroutineStep,
      Collect_spawn hm hnext, Option.some_bind, ih]
    · simp only [List.drop_eq_getElem_cons hlt, List.take_succ_cons, List.map_cons,
        List.append_assoc, List.singleton_append, Nat.add_assoc, Nat.add_comm 1 k]
    · exact hm
    · simp only
      omega

/-- A searcher with 1026 matches, collected ten at a time. -/
def manyMatchesEnv : CollectEnv :=
  ⟨(NewTopNCollector 10 0 SortOrder.byRank).get rfl,
    ⟨(List.range 1026).map fun n => ⟨n, n, [], 0, none⟩, none⟩, [], fun _ => none⟩

/-- **Cancellation does not stop the pulls.**  The context is cancelled right after the first
    `Next`, while 1025 matches remain in the searcher; the main goroutine then pulls 1025 more
    matches, more than `CheckDoneEvery`, and spawns a task for each. -/
theorem collect_pulls_past_cancellation :
    (run manyMatchesEnv (Pipeline.init manyMatchesEnv.hc) [.main, .cancel]).map
        (fun st => (st.cancelled, manyMatchesEnv.searcher.docs.length - (st.cursor + 1))) =
      some (true, 1025) ∧
    (run manyMatchesEnv (Pipeline.init manyMatchesEnv.hc)
        ([.main, .cancel] ++ List.replicate 1025 .main)).map
        (fun st => (st.cancelled, st.cursor, st.tasks.length)) = some (true, 1025, 1025) ∧
    CheckDoneEvery < 1025 := by
  have hlen : manyMatchesEnv.searcher.docs.length = 1026 := by simp [manyMatchesEnv]
  have h₀ : run manyMatchesEnv (Pipeline.init manyMatchesEnv.hc) [.main, .cancel] =
      some { Pipeline.init manyMatchesEnv.hc with
        main := .loop, stages := fun _ => .idle, cancelled := true } := rfl
  refine ⟨by rw [h₀, hlen]; rfl, ?_, by decide⟩
  rw [run_append, h₀, Option.some_bind, run_main_replicate _ rfl 1025 (by rw [hlen]; decide)]
  simp [Pipeline.init, hlen]

end Bluge.Collector
