import Bluge.Collector.Pipeline

namespace Bluge.Collector

open Bluge.Search

/-!
# Collector — the sequential reference

The spec describes the four-stage pipeline as an optimisation ("the observable contract is
identical; the parallel form only amortises field-value loading latency").  The contract is the
sequential collector: it numbers the matches in searcher order and runs the load, sort, consume
and compare stage bodies on each match before it pulls the next.

`Collect` takes each match's hit number inside its task, from a shared counter, so the numbers
follow the schedule.  Two matches that tie on every sort key are ordered by hit number, so the
schedule decides which of them is returned: `collect_result_depends_on_schedule`.

* `referenceCollect_eq_results` — when the searcher ends without failure and every load
  succeeds, the reference ends as `finalizeResults` of the compare stage over the searcher's
  matches numbered `1, …, n`, each loaded and given its sort values (`collectedDoc`).
-/

/-- One match of the sequential reference: the `i`-th match gets hit number `i + 1`, is loaded,
    and, if its load succeeded, goes through the sort and compare stage bodies. -/
def referenceStep (env : CollectEnv) : Except Error CompareState → Nat × DocumentMatch →
    Except Error CompareState
  | .error e, _ => .error e
  | .ok cs, (i, m) =>
    let d := (startLoadDocValuesPipeline env { m with hitNumber := i + 1 }).1
    match d.err with
    | some e => .error e
    | none => .ok (startComparePipeline env.hc cs (startSortPipeline env d).1).1

/-- The sequential collector of the spec: number the matches in searcher order and run every
    stage on each before pulling the next; a failed load or `Next` is the error returned. -/
def referenceCollect (env : CollectEnv) : Outcome :=
  match env.searcher.docs.enum.foldl (referenceStep env) (.ok env.hc.initCompare),
      env.searcher.failure with
  | .error e, _ => .failed [e]
  | .ok _, some e => .failed [e]
  | .ok cs, none => .ofFinal (finalizeResults env.hc cs)

/-! ### What the reference computes -/

/-- The hit numbers the reference gives the searcher's `n` matches: `1, …, n`. -/
def hitNumbers (n : Nat) : List Int := (List.range' 1 n).map fun k : Nat => (k : Int)

/-- The match the load and sort stage bodies make of the searcher's match `d` numbered `h`. -/
def collectedDoc (env : CollectEnv) (d : DocumentMatch) (h : Int) : DocumentMatch :=
  (startSortPipeline env (startLoadDocValuesPipeline env { d with hitNumber := h }).1).1

/-- The load and sort stage bodies keep the hit number. -/
@[simp] theorem startLoadDocValuesPipeline_hitNumber (env : CollectEnv) (d : DocumentMatch) :
    (startLoadDocValuesPipeline env d).1.hitNumber = d.hitNumber := by
  unfold startLoadDocValuesPipeline
  split <;> rfl

@[simp] theorem startSortPipeline_hitNumber (env : CollectEnv) (d : DocumentMatch) :
    (startSortPipeline env d).1.hitNumber = d.hitNumber := by
  unfold startSortPipeline
  split <;> rfl

/-- The sort stage body keeps the load's error. -/
@[simp] theorem startSortPipeline_err (env : CollectEnv) (d : DocumentMatch) :
    (startSortPipeline env d).1.err = d.err := by
  unfold startSortPipeline
  split <;> rfl

@[simp] theorem collectedDoc_hitNumber (env : CollectEnv) (d : DocumentMatch) (h : Int) :
    (collectedDoc env d h).hitNumber = h := by
  simp [collectedDoc]

/-- The reference on its `k`-th match, whose load succeeds: the compare stage body on the match
    numbered `k + 1`, loaded and given its sort values. -/
theorem referenceStep_ok {env : CollectEnv} {cs : CompareState} {k : Nat} {d : DocumentMatch}
    (h : (collectedDoc env d (k + 1)).err = none) :
    referenceStep env (.ok cs) (k, d) = .ok (startComparePipeline env.hc cs (collectedDoc env d (k + 1))).1 := by
  simp only [collectedDoc, startSortPipeline_err] at h
  simp only [referenceStep, h]
  rfl

/-- From the `k`-th match on, with every load succeeding, the reference runs the compare stage
    over the collected matches numbered `k + 1, k + 2, …`. -/
theorem foldl_referenceStep (env : CollectEnv) (cs : CompareState) (k : Nat) (ds : List DocumentMatch)
    (herr : ∀ x ∈ List.zipWith (collectedDoc env) ds ((List.range' (k + 1) ds.length).map
      fun k : Nat => (k : Int)), x.err = none) :
    (ds.enumFrom k).foldl (referenceStep env) (.ok cs) =
      .ok (compareRun env.hc cs (List.zipWith (collectedDoc env) ds
        ((List.range' (k + 1) ds.length).map fun k : Nat => (k : Int)))) := by
  induction ds generalizing k cs with
  | nil => rfl
  | cons d ds ih =>
    simp only [List.length_cons, List.range'_succ, List.map_cons, List.zipWith_cons_cons,
      List.mem_cons, forall_eq_or_imp, Nat.cast_add, Nat.cast_one] at herr ⊢
    rw [List.enumFrom_cons, List.foldl_cons, referenceStep_ok herr.1, ih _ _ herr.2]
    rfl

/-- **The reference, without failures.**  When the searcher ends without failure and every load
    succeeds, the sequential reference returns the results of the compare stage run, in searcher
    order, over the searcher's matches numbered `1, …, n`, loaded and given their sort values. -/
theorem referenceCollect_eq_results {env : CollectEnv} (hf : env.searcher.failure = none)
    (herr : ∀ x ∈ List.zipWith (collectedDoc env) env.searcher.docs
      (hitNumbers env.searcher.docs.length), x.err = none) :
    referenceCollect env = .ofFinal (finalizeResults env.hc (compareRun env.hc env.hc.initCompare
      (List.zipWith (collectedDoc env) env.searcher.docs (hitNumbers env.searcher.docs.length)))) := by
  rw [referenceCollect, List.enum, foldl_referenceStep env _ 0 _ herr, hf]
  rfl

/-- Two matches that tie on every sort key, collected one at a time. -/
def tiedEnv : CollectEnv :=
  ⟨(NewTopNCollector 1 0 SortOrder.byRank).get rfl,
    ⟨[⟨1, 1, [[5]], 0, none⟩, ⟨2, 2, [[5]], 0, none⟩], none⟩, [], fun _ => none⟩

/-- Task `i` walks its match through the four stages while nothing else moves. -/
def soloPipeline (i : Nat) : List Action :=
  [.task i, .stage .load, .stage .load, .task i, .stage .sort, .stage .sort,
    .task i, .stage .consume, .stage .consume, .task i, .stage .compare, .stage .compare]

/-- The searcher is drained, then the tasks run one after the other in searcher order. -/
def searcherOrderRun : List Action :=
  [.main, .main, .main, .main, .task 0, .task 0, .task 0, .task 1, .task 1] ++ soloPipeline 0 ++
    soloPipeline 1 ++ [.main]

/-- The searcher is drained, then the second match's task takes its hit number first. -/
def secondFirstRun : List Action :=
  [.main, .main, .main, .main, .task 1, .task 1, .task 1, .task 0, .task 0] ++ soloPipeline 1 ++
    soloPipeline 0 ++ [.main]

/-- **The result depends on the schedule.**  Over two matches that tie on every sort key and a
    collector of size 1, the sequential reference returns the first match, numbered 1; `Collect`
    returns it too when the tasks run in searcher order, but returns the second match, numbered
    1, when the second match's task takes its hit number first. -/
theorem collect_result_depends_on_schedule :
    referenceCollect tiedEnv = .results [⟨1, 1, [[5]], 1, none⟩] ∧
      (run tiedEnv (Pipeline.init tiedEnv.hc) searcherOrderRun).map (·.main) =
        some (.returned (.results [⟨1, 1, [[5]], 1, none⟩])) ∧
      (run tiedEnv (Pipeline.init tiedEnv.hc) secondFirstRun).map (·.main) =
        some (.returned (.results [⟨2, 2, [[5]], 1, none⟩])) := by
  decide

end Bluge.Collector
