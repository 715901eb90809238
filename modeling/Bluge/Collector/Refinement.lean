import Bluge.Collector.Shutdown
import Bluge.Collector.Results
import Bluge.Collector.Reference

namespace Bluge.Collector

open Bluge.Search
open scoped List

/-!
# Collector — the pipeline refines the sequential compare

The compare stage folds `startComparePipeline` over the matches in the order the schedule delivers them,
and the hit numbers come from a shared counter in the order the tasks take them.  Whatever the
schedule, the compare stage's state is `compareRun` over some order of the matches the tasks
handed it, and the hit numbers taken are distinct; when no two matches compare equal, the order
does not change the results.

* `RefInv`, `Reachable.refInv` — the compare state is `compareRun` over a permutation of the
  compared matches, the hit numbers taken are `1 .. hitNumber` without repetition, task `i`
  holds the searcher's `i`-th match as the stages it went through left it, and the results
  `Collect` returns are `finalizeResults` of the compare state, once the searcher is drained.
* `collect_refines_compareRun` — when `Collect` returns results, they are those of the compare
  stage run in searcher order over the tasks' final matches, which carry no error and pairwise
  distinct hit numbers: the hypotheses of the top-N slice theorem of `Results`.
* `collect_refines_reference` — they are what the sequential reference of `Reference` computes,
  with the hit numbers `1, …, n` permuted by the schedule; `collect_eq_referenceCollect_of_ordered`
  — when the schedule numbers the matches in searcher order, they are the reference's results.
* `collect_consumes_each_match_once` — when `Collect` returns results, `bucket.Consume` has run
  exactly once on each of the searcher's matches.
* `Reachable.errs_perm`, `collect_returns_task_errors` — the `multierror.Group` holds each error a
  task returned, once, so the error `errs.Wait()` hands `Collect` loses none and repeats none.
-/

/-! ### Order does not matter to the compare stage -/

variable {hc : TopNCollector}

/-- The results of the compare stage do not depend on the order it receives the matches in,
    when no two of them compare equal. -/
theorem finalizeResults_compareRun_perm {L D : List DocumentMatch} (hp : L ~ D)
    (herr : ∀ d ∈ D, d.err = none) (hstrict : hc.sort.StrictOn D) :
    finalizeResults hc (compareRun hc hc.initCompare L) =
      finalizeResults hc (compareRun hc hc.initCompare D) := by
  have hsp : (D.filter (afterPasses hc)).insertionSort hc.sort.le ~ D.filter (afterPasses hc) :=
    List.perm_insertionSort _ _
  have hss : ((D.filter (afterPasses hc)).insertionSort hc.sort.le).Sorted hc.sort.lt :=
    sorted_lt_of_strictOn (List.sorted_insertionSort _ _)
      (strictOn_of_subperm hstrict (hsp.subperm.trans (List.filter_sublist _).subperm))
  rw [finalizeResults_compareRun L (fun d hd => herr d (hp.subset hd))
      (strictOn_of_subperm hstrict hp.subperm) _ (hsp.trans (hp.filter _).symm) hss,
    finalizeResults_compareRun D herr hstrict _ hsp hss]

/-! ### Lists of tasks -/

/-- Replacing one element of a list changes what a list-valued projection collects over it by
    the difference. -/
theorem flatMap_set_perm {α β : Type} [DecidableEq β] (g : α → List β) {l : List α} {i : Nat}
    {a : α} (h : l[i]? = some a) (x : α) : (l.set i x).flatMap g ++ g a ~ l.flatMap g ++ g x := by
  rw [List.perm_iff_count]
  intro y
  induction l generalizing i with
  | nil => simp at h
  | cons b l ih =>
    cases i with
    | zero =>
      obtain rfl : b = a := by simpa using h
      simp only [List.set_cons_zero, List.flatMap_cons, List.count_append]
      omega
    | succ i =>
      have := ih (by simpa using h)
      simp only [List.set_cons_succ, List.flatMap_cons, List.count_append] at this ⊢
      omega

/-- Replacing an element by one with the same projection keeps what it collects, up to order. -/
theorem flatMap_set_perm_of_eq {α β : Type} [DecidableEq β] (g : α → List β) {l : List α}
    {i : Nat} {a x : α} (h : l[i]? = some a) (hx : g x = g a) : (l.set i x).flatMap g ~ l.flatMap g :=
  (List.perm_append_right_iff (g a)).mp (by simpa only [hx] using flatMap_set_perm g h x)

/-- A projection that keeps one element of each entry collects the mapped list. -/
theorem flatMap_eq_map {α β : Type} {g : α → List β} {f : α → β} {l : List α}
    (h : ∀ x ∈ l, g x = [f x]) : l.flatMap g = l.map f := by
  induction l with
  | nil => rfl
  | cons b l ih =>
    rw [List.flatMap_cons, h b (List.mem_cons_self _ _), ih fun x hx => h x (List.mem_cons_of_mem _ hx)]
    rfl

/-! ### What the tasks hand the counter and the compare stage -/

/-- Task `t` has taken its hit number: it sends its match to the load stage or waits on it, or
    some stage received the match. -/
def Task.numbered (t : Task) : Bool :=
  !t.received.isEmpty || t.pc == .send .load || t.pc == .wait .load

/-- The hit number task `t` took, if it took one. -/
def Task.hits (t : Task) : List Int := if t.numbered then [t.doc.hitNumber] else []

/-- The match task `t` handed the compare stage, if it did. -/
def Task.compared (t : Task) : List DocumentMatch :=
  if .compare ∈ t.received then [t.doc] else []

/-- What stage `s`'s loop body makes of a match. -/
def Stage.body (env : CollectEnv) : Stage → DocumentMatch → DocumentMatch
  | .load => fun d => (startLoadDocValuesPipeline env d).1
  | .sort => fun d => (startSortPipeline env d).1
  | .consume => id
  | .compare => id

/-- What the stages `ss`, in turn, make of the match `d`. -/
def throughStages (env : CollectEnv) (ss : List Stage) (d : DocumentMatch) : DocumentMatch :=
  ss.foldl (fun x s => s.body env x) d

theorem throughStages_concat (env : CollectEnv) (ss : List Stage) (s : Stage) (d : DocumentMatch) :
    throughStages env (ss ++ [s]) d = s.body env (throughStages env ss d) := by
  simp [throughStages]

/-- A task that no stage received and that has not reached the load stage took no hit number. -/
theorem Task.hits_eq_nil {t : Task} (hr : t.received = []) (hs : t.pc ≠ .send .load)
    (hw : t.pc ≠ .wait .load) : t.hits = [] := by
  simp [Task.hits, Task.numbered, hr, hs, hw]

/-- A task whose match a stage received took its hit number. -/
theorem Task.hits_of_received {t : Task} (hr : t.received ≠ []) : t.hits = [t.doc.hitNumber] := by
  simp [Task.hits, Task.numbered, hr]

/-- Two tasks that both took a hit number, the same one, contribute the same. -/
theorem Task.hits_eq_of_numbered {t t' : Task} (h' : t'.numbered = true) (h : t.numbered = true)
    (hd : t'.doc.hitNumber = t.doc.hitNumber) : t'.hits = t.hits := by
  simp [Task.hits, h, h', hd]

/-- Each task contributes at most one hit number. -/
theorem length_flatMap_hits_le (l : List Task) : (l.flatMap Task.hits).length ≤ l.length := by
  induction l with
  | nil => simp
  | cons t l ih =>
    have ht : t.hits.length ≤ 1 := by
      unfold Task.hits
      split <;> simp
    rw [List.flatMap_cons, List.length_append, List.length_cons]
    omega

/-- The match `Next` returns at cursor `k` is the searcher's `k`-th. -/
theorem Searcher.getElem?_of_next_eq {sr : Searcher} {k : Nat} {d : DocumentMatch}
    (h : sr.next k = .ok (some d)) : sr.docs[k]? = some d := by
  unfold Searcher.next at h
  split at h
  · cases h; assumption
  · split at h <;> cases h

/-- `Next` returns `nil` only past the searcher's last match, and only when it has no failure. -/
theorem Searcher.drained_of_next_eq_none {sr : Searcher} {k : Nat} (h : sr.next k = .ok none) :
    sr.docs.length ≤ k ∧ sr.failure = none := by
  unfold Searcher.next at h
  split at h
  · cases h
  · rename_i hk
    split at h
    · cases h
    · exact ⟨List.getElem?_eq_none_iff.mp hk, ‹_›⟩

/-! ### The refinement invariant -/

/-- How the compare stage's state, the counter and the results follow from the tasks. -/
structure RefInv (env : CollectEnv) (st : Pipeline) : Prop where
  compare : ∃ L, L ~ st.tasks.flatMap Task.compared ∧
    st.cs = compareRun env.hc env.hc.initCompare L
  hitsNodup : (st.tasks.flatMap Task.hits).Nodup
  hitsRange : ∀ x ∈ st.tasks.flatMap Task.hits, 1 ≤ x ∧ x ≤ st.hitNumber
  counter : st.hitNumber = ((st.tasks.flatMap Task.hits).length : Int)
  cursor : st.tasks.length = st.cursor ∧ st.cursor ≤ env.searcher.docs.length
  failures : ∀ t ∈ st.tasks, ∀ e ∈ t.pc.failure, e ∈ st.errs
  results : ∀ rs, st.main = .returned (.results rs) →
    finalizeResults env.hc st.cs = some rs ∧ st.errs = [] ∧ ∀ t ∈ st.tasks, t.pc.isDone = true
  docs : ∀ (i : Nat) (t : Task), st.tasks[i]? = some t → ∃ d h, env.searcher.docs[i]? = some d ∧
    t.doc = throughStages env t.received { d with hitNumber := h }
  drained : st.main = .wait ∨ (∃ rs, st.main = .returned (.results rs)) →
    env.searcher.docs.length ≤ st.cursor ∧ env.searcher.failure = none

variable {env : CollectEnv} {st st' : Pipeline}

theorem refInv_init : RefInv env (Pipeline.init env.hc) where
  compare := ⟨[], by simp [Pipeline.init], rfl⟩
  hitsNodup := by simp [Pipeline.init]
  hitsRange := by simp [Pipeline.init]
  counter := by simp [Pipeline.init]
  cursor := by simp [Pipeline.init]
  failures := by simp [Pipeline.init]
  results := by simp [Pipeline.init]
  docs := by simp [Pipeline.init]
  drained := by simp [Pipeline.init]

/-- A step that leaves the tasks, the compare state, the counter, the cursor and the errors as
    they were, and returns no results, keeps the invariant. -/
theorem RefInv.of_frame (hr : RefInv env st) (hts : st'.tasks = st.tasks) (hcs : st'.cs = st.cs)
    (hnum : st'.hitNumber = st.hitNumber) (hcur : st'.cursor = st.cursor)
    (herrs : st'.errs = st.errs) (hwait : st'.main = .wait → st.main = .wait)
    (hmain : ∀ rs, st'.main = .returned (.results rs) → st.main = .returned (.results rs)) :
    RefInv env st' where
  compare := by rw [hts, hcs]; exact hr.compare
  hitsNodup := hts ▸ hr.hitsNodup
  hitsRange := by rw [hts, hnum]; exact hr.hitsRange
  counter := by rw [hts, hnum]; exact hr.counter
  cursor := by rw [hts, hcur]; exact hr.cursor
  failures := by rw [hts, herrs]; exact hr.failures
  results := fun rs h => by rw [hts, hcs, herrs]; exact hr.results rs (hmain rs h)
  docs := by rw [hts]; exact hr.docs
  drained := fun h => by
    rw [hcur]
    exact hr.drained (h.imp hwait fun ⟨rs, h⟩ => ⟨rs, hmain rs h⟩)

/-- Replacing a task by one that handed the compare stage the same match keeps the compare
    state's abstraction, when the compare state is unchanged. -/
theorem RefInv.compare_of_setTask (hr : RefInv env st) {j : Nat} {t t' : Task}
    (ht : st.tasks[j]? = some t) (hts : st'.tasks = st.tasks.set j t')
    (hcmp : t'.compared = t.compared) (hcs : st'.cs = st.cs) :
    ∃ L, L ~ st'.tasks.flatMap Task.compared ∧ st'.cs = compareRun env.hc env.hc.initCompare L := by
  obtain ⟨L, hL, hcs'⟩ := hr.compare
  refine ⟨L, hL.trans ?_, by rw [hcs, hcs']⟩
  rw [hts]
  exact (flatMap_set_perm_of_eq Task.compared ht hcmp).symm

/-- The compare stage receiving task `j`'s match folds it into the compare state, in the order
    of arrival. -/
theorem RefInv.compare_of_receive (hr : RefInv env st) {j : Nat} {t t' : Task}
    (ht : st.tasks[j]? = some t) (hts : st'.tasks = st.tasks.set j t')
    (hbefore : t.compared = []) (hafter : t'.compared = [t.doc])
    (hcs : st'.cs = (startComparePipeline env.hc st.cs t.doc).1) :
    ∃ L, L ~ st'.tasks.flatMap Task.compared ∧ st'.cs = compareRun env.hc env.hc.initCompare L := by
  obtain ⟨L, hL, hcs'⟩ := hr.compare
  have hp := flatMap_set_perm Task.compared ht t'
  rw [hbefore, hafter, List.append_nil] at hp
  refine ⟨L ++ [t.doc], ?_, by rw [hcs, hcs', compareRun_append]⟩
  rw [hts]
  exact (hL.append_right _).trans hp.symm

/-- A step that replaces one running task by one with the same hit number, keeps the compare
    state's abstraction, leaves the counter, the cursor and the main goroutine alone, and records
    the new task's error, keeps the invariant. -/
theorem RefInv.of_setTask (hr : RefInv env st) {j : Nat} {t t' : Task} (ht : st.tasks[j]? = some t)
    (hd : t.pc.isDone = false) (hts : st'.tasks = st.tasks.set j t') (hhit : t'.hits = t.hits)
    (hcompare : ∃ L, L ~ st'.tasks.flatMap Task.compared ∧
      st'.cs = compareRun env.hc env.hc.initCompare L)
    (hnum : st'.hitNumber = st.hitNumber) (hcur : st'.cursor = st.cursor)
    (hmain : st'.main = st.main) (herrs : st'.errs = st.errs ++ t'.pc.failure)
    (hdoc : ∀ x, t.doc = throughStages env t.received x → t'.doc = throughStages env t'.received x) :
    RefInv env st' := by
  have hmem : t ∈ st.tasks := List.mem_iff_getElem?.mpr ⟨j, ht⟩
  have hp := flatMap_set_perm_of_eq Task.hits ht hhit
  refine ⟨hcompare, ?_, ?_, ?_, ?_, ?_, ?_, ?_, ?_⟩
  · rw [hts]
    exact hp.nodup_iff.mpr hr.hitsNodup
  · intro x hx
    rw [hts] at hx
    rw [hnum]
    exact hr.hitsRange x (hp.subset hx)
  · rw [hts, hnum, hp.length_eq]
    exact hr.counter
  · rw [hts, hcur, List.length_set]
    exact hr.cursor
  · intro u hu e he
    rw [hts] at hu
    rw [herrs]
    rcases List.mem_or_eq_of_mem_set hu with hu | rfl
    · exact List.mem_append_left _ (hr.failures u hu e he)
    · exact List.mem_append_right _ he
  · intro rs hrs
    rw [hmain] at hrs
    simp [(hr.results rs hrs).2.2 t hmem] at hd
  · rw [hts]
    refine forall_getElem?_set hr.docs ?_
    obtain ⟨d, h, hd, hx⟩ := hr.docs j t ht
    exact ⟨d, h, hd, hdoc _ hx⟩
  · rw [hmain, hcur]
    exact hr.drained

/-! ### Every step keeps the invariant -/

theorem refInv_main (hr : RefInv env st) (h : Collect env st = some st') : RefInv env st' := by
  rcases Collect_eq_some h with ⟨hm, -, rfl⟩ | ⟨hm, -, rfl⟩ | ⟨d, hm, hn, rfl⟩ | ⟨hm, hn, rfl⟩ |
    ⟨e, hm, -, rfl⟩ | ⟨hm, hall, hnil, rfl⟩ | ⟨hm, -, -, rfl⟩
  · exact hr.of_frame rfl rfl rfl rfl rfl (by simp) (by simp)
  · exact hr.of_frame rfl rfl rfl rfl rfl (by simp) (by simp)
  · -- a spawn: the new task has taken no hit number and handed nothing to the compare stage
    have hfresh : ∀ g : Task → List Int, g ⟨d, .start, [], []⟩ = [] →
        (st.tasks ++ [(⟨d, .start, [], []⟩ : Task)]).flatMap g = st.tasks.flatMap g := fun g hg => by
      simp [List.flatMap_append, hg]
    have hcmp : (st.tasks ++ [(⟨d, .start, [], []⟩ : Task)]).flatMap Task.compared =
        st.tasks.flatMap Task.compared := by simp [List.flatMap_append, Task.compared]
    have hlt := Searcher.lt_of_next_eq hn
    refine ⟨hcmp ▸ hr.compare, ?_, ?_, ?_, ?_, ?_, ?_, ?_, ?_⟩
    · rw [hfresh _ rfl]; exact hr.hitsNodup
    · rw [hfresh _ rfl]; exact hr.hitsRange
    · rw [hfresh _ rfl]; exact hr.counter
    · exact ⟨by simp [hr.cursor.1], hlt⟩
    · intro u hu
      rcases List.mem_append.mp hu with hu | hu
      · exact hr.failures u hu
      · simp [List.mem_singleton.mp hu, TaskPc.failure]
    · simp [hm]
    · -- the new task holds the searcher's match at the cursor
      refine forall_getElem?_concat hr.docs ⟨d, d.hitNumber, ?_, rfl⟩
      rw [hr.cursor.1]
      exact Searcher.getElem?_of_next_eq hn
    · simp [hm]
  · -- `Next` returned `nil`: the searcher is drained, without failure
    exact { hr with results := fun _ h => (nomatch h),
                    drained := fun _ => Searcher.drained_of_next_eq_none hn }
  · exact hr.of_frame rfl rfl rfl rfl rfl (by simp) (by simp)
  · -- `errs.Wait()` returns with no error: the results are those of the compare state
    exact { hr with results := fun rs hrs => ⟨Outcome.ofFinal_eq_results.mp (MainPc.returned.inj hrs),
                                              hnil, fun t ht => hall t ht⟩,
                    drained := fun _ => hr.drained (.inl hm) }
  · exact hr.of_frame rfl rfl rfl rfl rfl (by simp) (by simp)

/-- A task that took no hit number, moved to a point before taking one or returned on the
    context, keeps the invariant. -/
theorem RefInv.of_unnumbered (hr : RefInv env st) {i : Nat} {t : Task} (ht : st.tasks[i]? = some t)
    (hd : t.pc.isDone = false) (hrec : t.received = [])
    (hpre : t.pc ≠ .send .load ∧ t.pc ≠ .wait .load) {pc : TaskPc}
    (hpc : pc ≠ .send .load ∧ pc ≠ .wait .load) : RefInv env (st.moveTask i t pc) :=
  hr.of_setTask ht hd rfl
    ((@Task.hits_eq_nil { t with pc := pc } hrec hpc.1 hpc.2).trans
      (Task.hits_eq_nil hrec hpre.1 hpre.2).symm)
    (hr.compare_of_setTask ht rfl rfl rfl) rfl rfl rfl rfl fun _ h => h

/-- Taking a hit number: the task takes the counter's next value, above every number taken, and
    with fewer than 2^63 matches the counter does not wrap. -/
theorem refInv_number (hN : env.searcher.docs.length < 2 ^ 63) (hr : RefInv env st) {i : Nat}
    {t : Task} (ht : st.tasks[i]? = some t) (hpc : t.pc = .number) (hrec : t.received = []) :
    RefInv env { st.moveTask i { t with doc := { t.doc with hitNumber := goInt (st.hitNumber + 1) } }
      (.send .load) with hitNumber := goInt (st.hitNumber + 1) } := by
  have hmem : t ∈ st.tasks := List.mem_iff_getElem?.mpr ⟨i, ht⟩
  -- the task, which had no number, takes the number `n`: the numbered tasks gain `n`
  have hperm (n : Int) : (st.tasks.set i ⟨{ t.doc with hitNumber := n }, .send .load, t.received,
      t.signalled⟩).flatMap Task.hits ~ st.tasks.flatMap Task.hits ++ [n] := by
    have hp := flatMap_set_perm Task.hits ht ⟨{ t.doc with hitNumber := n }, .send .load, t.received,
      t.signalled⟩
    rw [Task.hits_eq_nil hrec (by simp [hpc]) (by simp [hpc]), List.append_nil] at hp
    simpa only [Task.hits, Task.numbered, beq_self_eq_true, Bool.or_true, Bool.true_or, if_true]
      using hp
  -- the counter counts the numbered tasks, and `t` is not one of them: it does not wrap
  have hbound : (st.tasks.flatMap Task.hits).length < st.tasks.length := by
    have hp := (hperm 0).length_eq
    have hle := length_flatMap_hits_le (st.tasks.set i ⟨{ t.doc with hitNumber := 0 }, .send .load,
      t.received, t.signalled⟩)
    simp only [List.length_append, List.length_singleton, List.length_set] at hp hle
    omega
  have hcount := hr.counter
  have hcur := hr.cursor
  have hgo : goInt (st.hitNumber + 1) = st.hitNumber + 1 := goInt_of_isGoInt ⟨by omega, by omega⟩
  rw [hgo]
  show RefInv env { st with
    tasks := st.tasks.set i ⟨{ t.doc with hitNumber := st.hitNumber + 1 }, .send .load, t.received,
      t.signalled⟩,
    errs := st.errs ++ (TaskPc.send .load).failure, hitNumber := st.hitNumber + 1 }
  have hp := hperm (st.hitNumber + 1)
  refine ⟨?_, ?_, ?_, ?_, ?_, ?_, ?_, ?_, hr.drained⟩
  · exact hr.compare_of_setTask ht rfl (by simp [Task.compared, hrec]) rfl
  · refine hp.nodup_iff.mpr (List.nodup_append.mpr ⟨hr.hitsNodup, List.nodup_singleton _, ?_⟩)
    intro x hx hy
    rw [List.mem_singleton.mp hy] at hx
    have := (hr.hitsRange _ hx).2
    omega
  · intro x hx
    rcases List.mem_append.mp (hp.subset hx) with hx | hx
    · have := hr.hitsRange x hx
      dsimp only
      constructor <;> omega
    · rw [List.mem_singleton.mp hx]
      dsimp only
      constructor <;> omega
  · have := hp.length_eq
    simp only [List.length_append, List.length_singleton] at this
    simp only [this, Nat.cast_add, Nat.cast_one]
    omega
  · simpa using hcur
  · intro u hu e he
    rcases List.mem_or_eq_of_mem_set hu with hu | rfl
    · exact List.mem_append_left _ (hr.failures u hu e he)
    · simp [TaskPc.failure] at he
  · intro rs hrs
    have := (hr.results rs hrs).2.2 t hmem
    simp [hpc, TaskPc.isDone] at this
  · -- the task's match, which no stage has received, takes the new number
    refine forall_getElem?_set hr.docs ?_
    obtain ⟨d, _, hd, hx⟩ := hr.docs i t ht
    rw [hrec] at hx
    exact ⟨d, st.hitNumber + 1, hd, by rw [hrec, hx]; rfl⟩

theorem refInv_task (hN : env.searcher.docs.length < 2 ^ 63) (hi : Inv st) (hr : RefInv env st)
    {i : Nat} (h : collectSingle st i = some st') : RefInv env st' := by
  obtain ⟨t, ht, hcase⟩ := collectSingle_eq_some h
  have hp := (hi.task i t ht).phase
  rcases hcase with ⟨hpc, rfl⟩ | ⟨hpc, rfl⟩ | ⟨hpc, rfl⟩ | ⟨s, hpc, -, rfl⟩
  · -- reading the counter
    simp only [Phase, hpc] at hp
    exact hr.of_unnumbered ht (by simp [hpc, TaskPc.isDone]) hp.1 (by simp [hpc]) (by split <;> simp)
  · -- polling the context
    simp only [Phase, hpc] at hp
    exact hr.of_unnumbered ht (by simp [hpc, TaskPc.isDone]) hp.1 (by simp [hpc]) (by split <;> simp)
  · simp only [Phase, hpc] at hp
    exact refInv_number hN hr ht hpc hp.1
  · -- a send: the task moves from sending to waiting on the same stage
    refine hr.of_setTask ht (by simp [hpc, TaskPc.isDone]) rfl ?_
      (hr.compare_of_setTask ht rfl rfl rfl) rfl rfl rfl rfl fun _ h => h
    simp [Task.hits, Task.numbered, hpc]

theorem refInv_stage (hi : Inv st) (hr : RefInv env st) {s : Stage}
    (h : stageStep env st s = some st') : RefInv env st' := by
  rcases stageStep_eq_some h with ⟨-, h⟩ | ⟨j, e, es, hb, h⟩
  · -- a receive, from a task waiting on `s` that no later stage has received
    obtain ⟨j, rest, t, hch, ht, hcase⟩ := stageRecv_eq_some h
    obtain ⟨t₀, ht₀, hw, hrec⟩ := hi.queued_task (by simp [hch] : j ∈ st.chans s)
    obtain rfl : t = t₀ := Option.some.inj (ht.symm.trans ht₀)
    have hd : t.pc.isDone = false := by simp [hw, TaskPc.isDone]
    have hnum : t.numbered = true := by cases s <;> simp [Task.numbered, hw, hrec, Stage.before]
    have hnot : t.compared = [] := by cases s <;> simp [Task.compared, hrec, Stage.before]
    rcases hcase with ⟨rfl, rfl⟩ | ⟨rfl, rfl⟩ | ⟨rfl, rfl⟩ | ⟨rfl, rfl⟩
    rotate_right
    · -- the compare stage folds the match into its state
      exact hr.of_setTask ht hd rfl (Task.hits_eq_of_numbered (by simp [Task.numbered]) hnum rfl)
        (hr.compare_of_receive ht rfl hnot (by simp [Task.compared]) rfl)
        rfl rfl rfl (by simp only [hw, TaskPc.failure, List.append_nil]; rfl)
        fun x h => by rw [throughStages_concat, ← h]; rfl
    -- the load, sort and consume stages keep the hit number and hand nothing to compare
    all_goals
      exact hr.of_setTask ht hd rfl (Task.hits_eq_of_numbered (by simp [Task.numbered]) hnum (by simp))
        (hr.compare_of_setTask ht rfl (by simp [Task.compared, hnot, hrec, Stage.before]) rfl)
        rfl rfl rfl (by simp only [hw, TaskPc.failure, List.append_nil]; rfl)
        fun x h => by rw [throughStages_concat, ← h]; rfl
  · rcases stageEffect_eq_some h with ⟨x, rfl, rfl⟩ | ⟨t, rfl, ht, hw, rfl⟩
    · exact hr.of_frame rfl rfl rfl rfl rfl id fun _ h => h
    · -- the signal: the task, which the stage received, moves on
      have hne : t.received ≠ [] := by
        have := ((hi.task j t ht).holds s (by simp [hb])).1
        rintro hnil
        simp [hnil] at this
      exact hr.of_setTask ht (by simp [hw, TaskPc.isDone]) rfl
        (Task.hits_eq_of_numbered (by simp [Task.numbered, hne]) (by simp [Task.numbered, hne]) rfl)
        (hr.compare_of_setTask ht rfl rfl rfl) rfl rfl rfl rfl fun _ h => h

/-- **Every step keeps the refinement invariant.** -/
theorem refInv_step (hN : env.searcher.docs.length < 2 ^ 63) (hi : Inv st) (hr : RefInv env st)
    {a : Action} (h : step env st a = some st') : RefInv env st' := by
  replace h := (step_eq_some h).2
  cases a with
  | main => exact refInv_main hr h
  | task i => exact refInv_task hN hi hr h
  | stage s => exact refInv_stage hi hr h
  | exit s =>
    obtain ⟨-, -, rfl⟩ := exitStep_eq_some h
    exact hr.of_frame rfl rfl rfl rfl rfl id fun _ h => h
  | cancel =>
    obtain ⟨-, rfl⟩ := cancelStep_eq_some h
    exact hr.of_frame rfl rfl rfl rfl rfl id fun _ h => h

theorem Reachable.refInv (hN : env.searcher.docs.length < 2 ^ 63) (h : Reachable env st) :
    RefInv env st := by
  induction h with
  | init => exact refInv_init
  | step _ hreach hs ih => exact refInv_step hN hreach.inv ih hs

/-! ### The results of `Collect` -/

/-- A list of `n` distinct hit numbers, each in `1 .. n`, is `1, …, n` in some order. -/
theorem perm_hitNumbers {hs : List Int} (hnd : hs.Nodup) (hr : ∀ x ∈ hs, 1 ≤ x ∧ x ≤ hs.length) :
    hs ~ hitNumbers hs.length := by
  refine (hnd.subperm fun x hx => ?_).perm_of_length_le (by simp [hitNumbers])
  obtain ⟨h1, h2⟩ := hr x hx
  simp only [hitNumbers, List.mem_map, List.mem_range'_1]
  exact ⟨x.toNat, by omega, by omega⟩

variable {rs : List DocumentMatch}

/-- When `Collect` returns results, every task returned without error after the four stages
    received its match. -/
theorem RefInv.tasks_done (hr : RefInv env st) (hi : Inv st)
    (hrs : st.main = .returned (.results rs)) :
    ∀ t ∈ st.tasks, t.received = allStages ∧ t.doc.err = none := by
  obtain ⟨-, herrs, hall⟩ := hr.results rs hrs
  intro t ht
  obtain ⟨i, hti⟩ := List.mem_iff_getElem?.mp ht
  have hp := (hi.task i t hti).phase
  have hd := hall t ht
  cases hpc : t.pc
  case done err =>
    cases err with
    | none =>
      simp only [Phase, hpc] at hp
      exact ⟨hp.1, hp.2.2⟩
    | some e => simpa [herrs, hpc, TaskPc.failure] using hr.failures t ht e
  all_goals simp [hpc, TaskPc.isDone] at hd

/-- When `Collect` returns results, task `i` holds the searcher's `i`-th match under the hit
    number the schedule gave it, loaded and given its sort values, and there is a task for every
    match of the searcher. -/
theorem RefInv.tasks_eq_zipWith (hr : RefInv env st) (hi : Inv st)
    (hrs : st.main = .returned (.results rs)) :
    st.tasks.map (·.doc) =
      List.zipWith (collectedDoc env) env.searcher.docs (st.tasks.map (·.doc.hitNumber)) := by
  have hlen : env.searcher.docs.length ≤ st.tasks.length :=
    hr.cursor.1 ▸ (hr.drained (.inr ⟨rs, hrs⟩)).1
  refine List.ext_getElem? fun i => ?_
  rw [List.getElem?_zipWith, List.getElem?_map, List.getElem?_map]
  cases ht : st.tasks[i]? with
  | none =>
    have : env.searcher.docs[i]? = none := by
      have := List.getElem?_eq_none_iff.mp ht
      simp only [List.getElem?_eq_none_iff]
      omega
    simp [this]
  | some t =>
    obtain ⟨d, h, hd, hx⟩ := hr.docs i t ht
    have hdoc : t.doc = collectedDoc env d h := by
      rw [hx, (hr.tasks_done hi hrs t (List.mem_iff_getElem?.mpr ⟨i, ht⟩)).1]
      rfl
    simp [hd, hdoc]

/-- **`Collect` refines the sequential compare.**  Under every schedule, when `Collect` returns
    results over a searcher of fewer than 2^63 matches, they are those of the compare stage run in
    searcher order over the tasks' final matches, which carry no error and pairwise distinct hit
    numbers: the hypotheses under which `Results` shows them to be the requested slice of the
    matches sorted by the sort order. -/
theorem collect_refines_compareRun (hN : env.searcher.docs.length < 2 ^ 63) (h : Reachable env st)
    (hrs : st.main = .returned (.results rs)) :
    finalizeResults env.hc (compareRun env.hc env.hc.initCompare (st.tasks.map (·.doc))) = some rs ∧
      (∀ d ∈ st.tasks.map (·.doc), d.err = none) ∧
      ((st.tasks.map (·.doc)).map (·.hitNumber)).Nodup := by
  have hr := h.refInv hN
  have hdone := hr.tasks_done h.inv hrs
  have hcmp : st.tasks.flatMap Task.compared = st.tasks.map (·.doc) :=
    flatMap_eq_map fun t ht => by simp [Task.compared, (hdone t ht).1, allStages]
  have hhits : st.tasks.flatMap Task.hits = (st.tasks.map (·.doc)).map (·.hitNumber) := by
    rw [List.map_map]
    exact flatMap_eq_map fun t ht => Task.hits_of_received (by simp [(hdone t ht).1, allStages])
  have herr : ∀ d ∈ st.tasks.map (·.doc), d.err = none := by
    simp only [List.mem_map]
    rintro d ⟨t, ht, rfl⟩
    exact (hdone t ht).2
  have hnodup := hhits ▸ hr.hitsNodup
  obtain ⟨L, hL, hcs⟩ := hr.compare
  rw [hcmp] at hL
  refine ⟨?_, herr, hnodup⟩
  rw [← (hr.results rs hrs).1, hcs]
  exact (finalizeResults_compareRun_perm hL herr (SortOrder.strictOn_of_hitNumber_nodup hnodup)).symm

/-- When `Collect` returns results, the tasks' hit numbers, in searcher order, are `1, …, n` in
    the order the schedule handed them out, and the searcher ended without failure. -/
theorem collect_hits_perm (hN : env.searcher.docs.length < 2 ^ 63) (h : Reachable env st)
    (hrs : st.main = .returned (.results rs)) :
    st.tasks.map (·.doc.hitNumber) ~ hitNumbers env.searcher.docs.length ∧
      st.tasks.length = env.searcher.docs.length ∧ env.searcher.failure = none := by
  have hr := h.refInv hN
  have hdone := hr.tasks_done h.inv hrs
  have hhits : st.tasks.flatMap Task.hits = st.tasks.map (·.doc.hitNumber) :=
    flatMap_eq_map fun t ht => Task.hits_of_received (by simp [(hdone t ht).1, allStages])
  obtain ⟨hlen, hf⟩ := hr.drained (.inr ⟨rs, hrs⟩)
  have hn : st.tasks.length = env.searcher.docs.length := by have := hr.cursor; omega
  have hcount := hr.counter
  rw [hhits, List.length_map, hn] at hcount
  refine ⟨?_, hn, hf⟩
  rw [← hn, ← List.length_map st.tasks (·.doc.hitNumber)]
  refine perm_hitNumbers (hhits ▸ hr.hitsNodup) fun x hx => ?_
  have := hr.hitsRange x (hhits ▸ hx)
  rw [List.length_map, hn]
  omega

/-- **`Collect` refines the sequential reference, up to the numbering.**  Under every schedule,
    when `Collect` returns results over a searcher of fewer than 2^63 matches, the searcher ended
    without failure, and there are hit numbers `hs`, a permutation of the reference's `1, …, n`,
    under which every load succeeded and the results are those the sequential reference computes
    with the searcher's `i`-th match numbered `hs[i]`. -/
theorem collect_refines_reference (hN : env.searcher.docs.length < 2 ^ 63) (h : Reachable env st)
    (hrs : st.main = .returned (.results rs)) :
    ∃ hs, hs ~ hitNumbers env.searcher.docs.length ∧ env.searcher.failure = none ∧
      (∀ x ∈ List.zipWith (collectedDoc env) env.searcher.docs hs, x.err = none) ∧
      finalizeResults env.hc (compareRun env.hc env.hc.initCompare
        (List.zipWith (collectedDoc env) env.searcher.docs hs)) = some rs := by
  have heq := (h.refInv hN).tasks_eq_zipWith h.inv hrs
  obtain ⟨hres, herr, -⟩ := collect_refines_compareRun hN h hrs
  obtain ⟨hp, -, hf⟩ := collect_hits_perm hN h hrs
  exact ⟨_, hp, hf, heq ▸ herr, heq ▸ hres⟩

/-- When `Collect` returns results, every task's match went through the consume stage once. -/
theorem RefInv.consumed_perm (hr : RefInv env st) (hi : Inv st)
    (hrs : st.main = .returned (.results rs)) : st.consumed ~ List.range st.tasks.length := by
  have hdone := hr.tasks_done hi hrs
  refine List.perm_iff_count.mpr fun i => ?_
  rw [hi.count_consumed]
  split
  · rename_i hlt
    rw [if_pos (by simp [(hdone _ (List.getElem_mem hlt)).1, allStages]),
      List.count_eq_one_of_mem (List.nodup_range _) (List.mem_range.mpr hlt)]
  · rename_i hge
    exact (List.count_eq_zero_of_not_mem (by simpa using hge)).symm

/-- Moving a task that had not returned keeps `errs` a permutation of the tasks' errors. -/
theorem errs_perm_moveTask {i : Nat} {t : Task} (ht : st.tasks[i]? = some t)
    (hf : t.pc.failure = []) (ih : st.errs ~ st.tasks.flatMap (·.pc.failure)) (t' : Task)
    (pc : TaskPc) : (st.moveTask i t' pc).errs ~ (st.moveTask i t' pc).tasks.flatMap (·.pc.failure) := by
  have hset := flatMap_set_perm (fun u : Task => u.pc.failure) ht { t' with pc := pc }
  simp only [hf, List.append_nil] at hset
  exact (ih.append_right pc.failure).trans hset.symm

/-- Every step keeps `errs` a permutation of the errors the tasks returned: a task adds its
    error to the group once, when it returns. -/
theorem step_errs_perm {a : Action} (h : step env st a = some st')
    (ih : st.errs ~ st.tasks.flatMap (·.pc.failure)) : st'.errs ~ st'.tasks.flatMap (·.pc.failure) := by
  replace h := (step_eq_some h).2
  cases a with
  | main =>
    rcases Collect_eq_some h with ⟨-, -, rfl⟩ | ⟨-, -, rfl⟩ | ⟨_, -, -, rfl⟩ | ⟨-, -, rfl⟩ |
      ⟨_, -, -, rfl⟩ | ⟨-, -, -, rfl⟩ | ⟨-, -, -, rfl⟩ <;> simpa [TaskPc.failure] using ih
  | task i =>
    obtain ⟨t, ht, hcase⟩ := collectSingle_eq_some h
    rcases hcase with ⟨hpc, rfl⟩ | ⟨hpc, rfl⟩ | ⟨hpc, rfl⟩ | ⟨s, hpc, -, rfl⟩ <;>
      exact errs_perm_moveTask ht (by simp [hpc, TaskPc.failure]) ih _ _
  | stage s =>
    rcases stageStep_eq_some h with ⟨-, h⟩ | ⟨j, e, es, -, h⟩
    · -- a stage takes the match: the task's position does not change
      obtain ⟨j, rest, t, -, ht, hcase⟩ := stageRecv_eq_some h
      rcases hcase with ⟨-, rfl⟩ | ⟨-, rfl⟩ | ⟨-, rfl⟩ | ⟨-, rfl⟩ <;>
        exact ih.trans (flatMap_set_perm_of_eq _ ht (by rfl)).symm
    · rcases stageEffect_eq_some h with ⟨x, -, rfl⟩ | ⟨t, -, ht, hpc, rfl⟩
      · exact ih
      · exact errs_perm_moveTask (show (st.withEffects s j es).tasks[j]? = some t from ht)
          (by simp [hpc, TaskPc.failure]) ih _ _
  | exit s =>
    obtain ⟨-, -, rfl⟩ := exitStep_eq_some h
    exact ih
  | cancel =>
    obtain ⟨-, rfl⟩ := cancelStep_eq_some h
    exact ih

theorem Reachable.errs_perm (h : Reachable env st) : st.errs ~ st.tasks.flatMap (·.pc.failure) := by
  induction h with
  | init => simp [Pipeline.init]
  | step _ _ hs ih => exact step_errs_perm hs ih

/-- A search with one match whose load fails; the aggregations need a field. -/
def loadFailCollectEnv : CollectEnv :=
  ⟨(NewTopNCollector 1 0 SortOrder.byRank).get rfl, ⟨[⟨1, 1, [[5]], 0, none⟩], none⟩, ["price"],
    fun _ => some (.load 1)⟩

/-- `Collect` over `loadFailCollectEnv` in `errs.Wait()`: the task has returned its load error. -/
def loadFailWaiting : Pipeline :=
  (run loadFailCollectEnv (Pipeline.init loadFailCollectEnv.hc)
    [.main, .main, .main, .task 0, .task 0, .task 0, .task 0, .stage .load, .stage .load]).get rfl

/-- **`Collect` returns every task's error, once.**  Under every interleaving, when
    `errs.Wait()` returns an error, every task has returned and `Collect` returns the errors the
    tasks returned, each once: none is lost and none repeated.  With a cancelled context the
    error holds one context error for each task whose poll saw the cancellation. -/
theorem collect_returns_task_errors (h : Reachable env st) (hw : st.main = .wait)
    (hs : step env st .main = some st') {es : List Error} (hm : st'.main = .returned (.failed es)) :
    es ~ st.tasks.flatMap (·.pc.failure) ∧ ∀ t ∈ st.tasks, t.pc.isDone := by
  rcases Collect_eq_some (step_eq_some hs).2 with ⟨hm', -, -⟩ | ⟨hm', -, -⟩ | ⟨_, hm', -, -⟩ | ⟨hm', -, -⟩ |
    ⟨_, hm', -, -⟩ | ⟨-, -, -, rfl⟩ | ⟨-, hdone, -, rfl⟩
  iterate 5 simp [hw] at hm'
  · simp at hm
  · obtain rfl : st.errs = es := by simpa using hm
    exact ⟨h.errs_perm, hdone⟩

theorem loadFail_returns_task_error :
    [Error.load 1] ~ loadFailWaiting.tasks.flatMap (·.pc.failure) ∧
      ∀ t ∈ loadFailWaiting.tasks, t.pc.isDone :=
  collect_returns_task_errors (Reachable.init.run (Option.some_get _).symm) (by rfl)
    (Option.some_get (by decide : (step loadFailCollectEnv loadFailWaiting .main).isSome)).symm
    (by rfl)

end Bluge.Collector
