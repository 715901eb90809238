import Bluge.MultiSearch
import Bluge.Collector.Refinement

namespace Bluge

open Bluge.Search Bluge.Collector
open scoped List

/-!
# MultiSearch — `Collect` over the multi-searcher list

`MultiSearch` makes one searcher per reader, wraps them in `NewMultiSearcherList` and calls
`collector.Collect(ctx, aggs, msl)`: the main goroutine of `Collect` pulls its matches with
`MultiSearcherList.Next`, which receives from `docChan` while the producers are still sending.

* `SearchState`, `searchStep` — the fan-in goroutine, the producers and the goroutines of
  `Collect` under every interleaving; the pull of `Collect`'s main goroutine is `MultiSearcherList.Next` on
  the multi-searcher list, and it blocks while `docChan` is empty and open.
* `SearchInv`, `SearchReachable.inv` — the multi-searcher list is in a state it reaches on its
  own, and `Collect` is in a state it reaches over a searcher whose matches begin with those
  `Next` has returned, and are exactly those once `Next` has returned `nil`.
* `multiSearch_refines_reference` — when `Collect` returns results, they are what the
  sequential reference computes over the searchers' matches before their first failed load, in
  the order `docChan` delivered them, with the hit numbers `1, …, n` permuted by the schedule;
  `multiSearch_consumes_each_match_once` — the aggregations have consumed each of them once.
* `searchStep` — a panic ends the whole program: after the division by zero of
  `collectAllDocuments` or the panic of `Final`, no goroutine moves.
* `multiSearch_returns` — over at least one searcher every run is finite, and where no goroutine
  can move `Collect` has returned; `multiSearch_panics_without_searchers` — over none, `Collect`
  never gets its results, and the program ends in the fan-in goroutine's division by zero.
-/

/-- The state of a `MultiSearch` call: the multi-searcher list, and the `Collect` call that
    drains it. -/
structure SearchState where
  multi : MultiState
  collect : Pipeline

/-- A `MultiSearch` call when `NewMultiSearcherList` has returned and `Collect` starts. -/
def SearchState.init (hc : TopNCollector) : SearchState := ⟨MultiState.init, Pipeline.init hc⟩

/-- The atomic actions: a step of `collectAllDocuments`, of the producer of searcher `i`, or of
    a goroutine of `Collect`. -/
inductive SearchAction where
  | fanIn
  | producer (i : Nat)
  | collect (a : Action)
  deriving DecidableEq, Repr

/-- The inputs of `Collect` with the searcher `s`. -/
def Collector.CollectEnv.withSearcher (env : CollectEnv) (s : Searcher) : CollectEnv :=
  { env with searcher := s }

/-- The searcher `Collect` has seen: the matches `MultiSearcherList.Next` returned, which never
    returns an error. -/
def MultiState.searcher (st : MultiState) : Searcher := ⟨st.received.map (·.2), none⟩

/-- One atomic action of one goroutine.  The pull of `Collect`'s main goroutine calls
    `MultiSearcherList.Next`; its result is the next result of the searcher made of the matches
    returned so far.  The other steps of `Collect` never call `Next`. -/
def searchGoroutineStep (env : CollectEnv) (menv : MultiEnv) (st : SearchState) :
    SearchAction → Option SearchState
  | .fanIn => (multiStep menv st.multi .fanIn).map fun m => { st with multi := m }
  | .producer i => (multiStep menv st.multi (.producer i)).map fun m => { st with multi := m }
  | .collect a =>
    if a = .main ∧ st.collect.main = .loop then
      (MultiSearcherList.Next st.multi).bind fun m =>
        (Collect (env.withSearcher m.searcher) st.collect).map fun c => ⟨m, c⟩
    else (step env st.collect a).map fun c => { st with collect := c }

/-- One atomic action of the program.  A panic ends the whole program (exit status 2): once
    `collectAllDocuments` has divided by zero, or `Final` has panicked in `Collect`, no goroutine
    moves. -/
def searchStep (env : CollectEnv) (menv : MultiEnv) (st : SearchState) (a : SearchAction) :
    Option SearchState :=
  if st.multi.fanIn = .panicked ∨ st.collect.main = .returned .panicked then none
  else searchGoroutineStep env menv st a

/-- The states of a `MultiSearch` call, under every interleaving. -/
inductive SearchReachable (env : CollectEnv) (menv : MultiEnv) : SearchState → Prop where
  | init : SearchReachable env menv (SearchState.init env.hc)
  | step {st st' : SearchState} (a : SearchAction) :
      SearchReachable env menv st → searchStep env menv st a = some st' →
        SearchReachable env menv st'

/-- A schedule carried out from `st`, `none` if some action of it is not enabled. -/
def searchRun (env : CollectEnv) (menv : MultiEnv) (st : SearchState) :
    List SearchAction → Option SearchState
  | [] => some st
  | a :: as => (searchStep env menv st a).bind fun st' => searchRun env menv st' as

/-- **Inversion, the program.** A step is a goroutine's step, before any panic. -/
theorem searchStep_eq_some {env : CollectEnv} {menv : MultiEnv} {st st' : SearchState}
    {a : SearchAction} (h : searchStep env menv st a = some st') :
    ¬(st.multi.fanIn = .panicked ∨ st.collect.main = .returned .panicked) ∧
      searchGoroutineStep env menv st a = some st' := by
  unfold searchStep at h
  split at h
  · cases h
  · exact ⟨‹_›, h⟩

theorem SearchReachable.run {env : CollectEnv} {menv : MultiEnv} {st st' : SearchState}
    (h : SearchReachable env menv st) {as : List SearchAction}
    (hr : searchRun env menv st as = some st') : SearchReachable env menv st' := by
  induction as generalizing st with
  | nil => cases hr; exact h
  | cons a as ih =>
    obtain ⟨st₁, h₁, hr⟩ := Option.bind_eq_some.mp hr
    exact ih (h.step a h₁) hr

/-! ### `Collect` reads its searcher only in its pull -/

@[simp] theorem Collector.CollectEnv.withSearcher_hc (env : CollectEnv) (s : Searcher) :
    (env.withSearcher s).hc = env.hc := rfl

@[simp] theorem Collector.CollectEnv.withSearcher_searcher (env : CollectEnv) (s : Searcher) :
    (env.withSearcher s).searcher = s := rfl

@[simp] theorem collectedDoc_withSearcher (env : CollectEnv) (s : Searcher) :
    collectedDoc (env.withSearcher s) = collectedDoc env := rfl

/-- Outside its pull, `Collect` does not read its searcher. -/
theorem step_withSearcher (env : CollectEnv) (s : Searcher) {st : Pipeline} {a : Action}
    (ha : ¬(a = .main ∧ st.main = .loop)) : step (env.withSearcher s) st a = step env st a := by
  rw [step, step]
  congr 1
  cases a with
  | main =>
    have hm : st.main ≠ .loop := fun h => ha ⟨rfl, h⟩
    show Collect _ st = Collect env st
    unfold Collect
    split <;> first | rfl | contradiction
  | _ => rfl

/-- The searcher of the matches `l` and then others gives the first of the others next. -/
theorem Collector.Searcher.next_append_cons {l rest : List DocumentMatch} {x : DocumentMatch} {k : Nat}
    (hk : k = l.length) : (⟨l ++ x :: rest, none⟩ : Searcher).next k = .ok (some x) := by
  subst hk
  unfold Searcher.next
  rw [List.getElem?_append_right (le_refl _), Nat.sub_self, List.getElem?_cons_zero]

/-- The searcher of the matches `l` returns `nil` past them. -/
theorem Collector.Searcher.next_length {l : List DocumentMatch} {k : Nat} (hk : k = l.length) :
    (⟨l, none⟩ : Searcher).next k = .ok none := by
  simp [Searcher.next, hk]

/-- The pull of the main goroutine when its searcher has a next match `d`. -/
theorem Collect_loop_some (env : CollectEnv) {st : Pipeline} {d : DocumentMatch}
    (hm : st.main = .loop) (hn : env.searcher.next st.cursor = .ok (some d)) :
    Collect env st = some { st with tasks := st.tasks ++ [⟨d, .start, [], []⟩], cursor := st.cursor + 1 } := by
  simp only [Collect, hm, hn]

/-- The pull of the main goroutine when its searcher returns `nil`. -/
theorem Collect_loop_none (env : CollectEnv) {st : Pipeline} (hm : st.main = .loop)
    (hn : env.searcher.next st.cursor = .ok none) : Collect env st = some { st with main := .wait } := by
  simp only [Collect, hm, hn]

/-- The fan-in goroutine and the producers leave what `Next` has returned alone. -/
theorem multiStep_received {menv : MultiEnv} {m m' : MultiState} {a : MultiAction}
    (ha : a ≠ .next) (h : multiStep menv m a = some m') :
    m'.received = m.received ∧ m'.sawNil = m.sawNil := by
  cases a with
  | fanIn =>
    rcases collectAllDocuments_eq_some h with ⟨-, -, rfl⟩ | ⟨-, -, rfl⟩ | ⟨_, -, -, -, rfl⟩ | ⟨_, -, -, rfl⟩ |
      ⟨-, -, rfl⟩ <;> exact ⟨rfl, rfl⟩
  | producer i =>
    obtain ⟨s, -, ⟨k, -, rfl⟩ | ⟨k, d, -, -, rfl⟩⟩ := collectAllDocuments.producer_eq_some h <;> exact ⟨rfl, rfl⟩
  | next => exact absurd rfl ha

/-! ### The simulation -/

/-- What a `MultiSearch` state says of its two components. -/
structure SearchInv (env : CollectEnv) (menv : MultiEnv) (st : SearchState) : Prop where
  multi : MultiReachable menv st.multi
  cursor : st.collect.cursor = st.multi.received.length
  collect : ∀ rest, (st.multi.sawNil = true → rest = []) →
    Reachable (env.withSearcher ⟨st.multi.received.map (·.2) ++ rest, none⟩) st.collect
  nil : st.collect.main = .wait ∨ (∃ o, st.collect.main = .returned (.ofFinal o)) →
    st.multi.sawNil = true
  early : st.multi.sawNil = true → st.collect.main ≠ .start ∧ st.collect.main ≠ .loop

variable {env : CollectEnv} {menv : MultiEnv} {st st' : SearchState}

theorem searchInv_init : SearchInv env menv (SearchState.init env.hc) where
  multi := .init
  cursor := rfl
  collect _ _ := .init
  nil h := by simp [SearchState.init, Pipeline.init] at h
  early h := by simp [SearchState.init, MultiState.init] at h

/-- A step of the fan-in goroutine or of a producer keeps the invariant. -/
theorem SearchInv.multiStep (hi : SearchInv env menv st) {a : MultiAction} (ha : a ≠ .next)
    {m : MultiState} (h : multiStep menv st.multi a = some m) :
    SearchInv env menv { st with multi := m } := by
  obtain ⟨hrec, hnil⟩ := multiStep_received ha h
  exact ⟨hi.multi.step a h, hrec ▸ hi.cursor, fun rest => hrec ▸ hnil ▸ hi.collect rest,
    hnil ▸ hi.nil, hnil ▸ hi.early⟩

/-- The pull: `Next` returning a match makes `Collect` spawn its task; `Next` returning `nil`
    makes it wait in `errs.Wait()`. -/
theorem SearchInv.pull_cases (hi : SearchInv env menv st) (hm : st.collect.main = .loop)
    {m : MultiState} (hn : MultiSearcherList.Next st.multi = some m) {c : Pipeline}
    (hc : Collect (env.withSearcher m.searcher) st.collect = some c) :
    st.multi.sawNil = false ∧
      ((∃ x, m.received = st.multi.received ++ [x] ∧ m.sawNil = false ∧
          c = { st.collect with tasks := st.collect.tasks ++ [⟨x.2, .start, [], []⟩],
                                cursor := st.collect.cursor + 1 }) ∨
        (m.received = st.multi.received ∧ m.sawNil = true ∧ c = { st.collect with main := .wait })) := by
  have hk : st.collect.cursor = (st.multi.received.map (·.2)).length := by simp [hi.cursor]
  obtain ⟨hsaw, ⟨x, rest, -, rfl⟩ | ⟨-, -, rfl⟩⟩ := MultiSearcherList.Next_eq_some hn
  · refine ⟨hsaw, .inl ⟨x, rfl, hsaw, Option.some.inj (hc.symm.trans (Collect_loop_some _ hm ?_))⟩⟩
    simpa [MultiState.searcher] using @Searcher.next_append_cons _ [] x.2 _ hk
  · refine ⟨hsaw, .inr ⟨rfl, rfl, Option.some.inj (hc.symm.trans (Collect_loop_none _ hm ?_))⟩⟩
    simpa [MultiState.searcher] using Searcher.next_length hk

/-- **The pull keeps the invariant.**  Over every searcher holding the match `Next` returned
    next, `Collect` spawns its task; over the searcher ending where `Next` returned `nil`, it
    waits. -/
theorem SearchInv.pull (hi : SearchInv env menv st) (hm : st.collect.main = .loop)
    {m : MultiState} (hn : MultiSearcherList.Next st.multi = some m) {c : Pipeline}
    (hc : Collect (env.withSearcher m.searcher) st.collect = some c) : SearchInv env menv ⟨m, c⟩ := by
  have hk : st.collect.cursor = (st.multi.received.map (·.2)).length := by simp [hi.cursor]
  obtain ⟨hsaw, ⟨x, hrec, hsaw', rfl⟩ | ⟨hrec, hsaw', rfl⟩⟩ := hi.pull_cases hm hn hc
  · refine ⟨hi.multi.step .next hn, by simp [hrec, hi.cursor], fun rest _ => ?_,
      fun h => by simp [hm] at h, fun h => by simp [hsaw'] at h⟩
    rw [hrec, List.map_append, List.append_assoc, List.map_singleton, List.singleton_append]
    exact (hi.collect (x.2 :: rest) (by simp [hsaw])).step .main
      ((step_of_ne_panicked (by simp [hm])).trans (Collect_loop_some _ hm (Searcher.next_append_cons hk)))
  · refine ⟨hi.multi.step .next hn, hrec ▸ hi.cursor, fun rest hrest => ?_, fun _ => hsaw',
      fun _ => by simp⟩
    obtain rfl := hrest hsaw'
    rw [hrec]
    exact (hi.collect [] (by simp [hsaw])).step .main
      ((step_of_ne_panicked (by simp [hm])).trans
        (Collect_loop_none _ hm (Searcher.next_length (by simpa using hk))))

/-- A step of `Collect` other than its pull keeps the invariant: it takes the same step over
    every searcher. -/
theorem SearchInv.collectStep (hi : SearchInv env menv st) {a : Action}
    (ha : ¬(a = .main ∧ st.collect.main = .loop)) {c : Pipeline} (h : step env st.collect a = some c) :
    SearchInv env menv { st with collect := c } := by
  -- the main goroutine leaves `start`, or returns from `errs.Wait()`, or does not move
  have hframe : c.cursor = st.collect.cursor ∧ (c.main = st.collect.main ∨
      st.collect.main = .start ∧ (c.main = .loop ∨ ∃ es, c.main = .returned (.failed es)) ∨
      st.collect.main = .wait ∧ ∃ r, c.main = .returned r) := by
    by_cases hma : a = .main
    · subst hma
      have hm : st.collect.main ≠ .loop := fun h => ha ⟨rfl, h⟩
      rcases Collect_eq_some (step_eq_some h).2 with ⟨hm', -, rfl⟩ | ⟨hm', -, rfl⟩ | ⟨_, hm', -⟩ | ⟨hm', -⟩ |
        ⟨_, hm', -⟩ | ⟨hm', -, -, rfl⟩ | ⟨hm', -, -, rfl⟩
      · exact ⟨rfl, .inr (.inl ⟨hm', .inr ⟨_, rfl⟩⟩)⟩
      · exact ⟨rfl, .inr (.inl ⟨hm', .inl rfl⟩)⟩
      iterate 3 exact absurd hm' hm
      iterate 2 exact ⟨rfl, .inr (.inr ⟨hm', _, rfl⟩)⟩
    · obtain ⟨hmain, -, hcur⟩ := step_frame h hma
      exact ⟨hcur, .inl hmain⟩
  obtain ⟨hcur, hmain⟩ := hframe
  refine ⟨hi.multi, hcur.trans hi.cursor,
    fun rest hrest => (hi.collect rest hrest).step a ((step_withSearcher env _ ha).trans h),
    fun hc => hi.nil ?_, fun hs => ?_⟩
  · rcases hmain with hm | ⟨-, hm | ⟨es, hm⟩⟩ | ⟨hm, -⟩
    · exact hm ▸ hc
    iterate 2 simp [hm] at hc
    · exact .inl hm
  · have := hi.early hs
    rcases hmain with hm | ⟨hm, -⟩ | ⟨-, r, hm⟩
    · exact hm ▸ this
    · exact absurd hm this.1
    · simp [hm]

/-- **Every step keeps the invariant.** -/
theorem searchStep_inv (hi : SearchInv env menv st) {a : SearchAction}
    (h : searchStep env menv st a = some st') : SearchInv env menv st' := by
  replace h := (searchStep_eq_some h).2
  cases a with
  | fanIn =>
    obtain ⟨m, hm, rfl⟩ := Option.map_eq_some'.mp h
    exact hi.multiStep (by simp) hm
  | producer i =>
    obtain ⟨m, hm, rfl⟩ := Option.map_eq_some'.mp h
    exact hi.multiStep (by simp) hm
  | collect a =>
    simp only [searchGoroutineStep] at h
    split at h
    · rename_i hpull
      obtain ⟨m, hn, hc⟩ := Option.bind_eq_some.mp h
      obtain ⟨c, hmc, rfl⟩ := Option.map_eq_some'.mp hc
      exact hi.pull hpull.2 hn hmc
    · rename_i hpull
      obtain ⟨c, hc, rfl⟩ := Option.map_eq_some'.mp h
      exact hi.collectStep hpull hc

theorem SearchReachable.inv (h : SearchReachable env menv st) : SearchInv env menv st := by
  induction h with
  | init => exact searchInv_init
  | step _ _ hs ih => exact searchStep_inv ih hs

/-! ### A search over two readers -/

/-- `Collect` by rank with a collector of size 1, no aggregation, and loads that succeed. -/
def byRankCollectEnv : CollectEnv :=
  ⟨(NewTopNCollector 1 0 SortOrder.byRank).get rfl, ⟨[], none⟩, [], fun _ => none⟩

/-- A schedule over `twoSearchersEnv`: the second reader's producer sends first, and
    `docChan` is closed.  `Collect` pulls the rank-7 match, then the rank-5 one, then `nil`;
    the second task takes hit number 1, and the first task's match goes through the stages
    first; `Collect` returns. -/
def twoReaderRun : List SearchAction :=
  [.fanIn, .fanIn, .fanIn, .fanIn, .producer 1, .producer 1, .producer 0, .producer 0,
    .producer 1, .producer 0, .fanIn] ++
    [.main, .main, .main, .main, .task 1, .task 1, .task 1, .task 1, .task 0, .task 0, .task 0,
      .stage .load, .stage .load, .stage .load, .stage .load,
      .task 0, .stage .sort, .stage .sort, .task 0, .stage .consume, .stage .consume,
      .task 0, .stage .compare, .stage .compare,
      .task 1, .stage .sort, .stage .sort, .task 1, .stage .consume, .stage .consume,
      .task 1, .stage .compare, .stage .compare, .main].map .collect

/-- The state `twoReaderRun` reaches: `Collect` has returned the rank-5 match. -/
def twoReaderDone : SearchState :=
  (searchRun byRankCollectEnv twoSearchersEnv (SearchState.init byRankCollectEnv.hc) twoReaderRun).get rfl

theorem twoReaderDone_reachable : SearchReachable byRankCollectEnv twoSearchersEnv twoReaderDone :=
  SearchReachable.init.run (Option.some_get _).symm

/-- The state after the four stage goroutines have left: no goroutine can move. -/
def twoReaderExited : SearchState :=
  (searchRun byRankCollectEnv twoSearchersEnv twoReaderDone (allStages.map (.collect ∘ .exit))).get rfl

theorem twoReaderExited_reachable : SearchReachable byRankCollectEnv twoSearchersEnv twoReaderExited :=
  twoReaderDone_reachable.run (Option.some_get _).symm

/-! ### The results of `MultiSearch` -/

/-- The multi-searcher list delivers no more matches than its searchers hold. -/
theorem length_flatten_loadedPrefix_le (menv : MultiEnv) :
    ((menv.searchers.map (loadedPrefix menv)).flatten).length ≤
      (menv.searchers.map (·.docs.length)).sum := by
  rw [List.length_flatten, List.map_map]
  exact List.sum_le_sum fun s _ => (List.takeWhile_prefix _).length_le

/-- When `Collect` has returned results, `Next` had returned `nil`: `Collect` ran over the
    searcher of the matches `Next` returned, a permutation of the searchers' matches before their
    first failed load. -/
theorem SearchReachable.reachable_of_results (h : SearchReachable env menv st)
    (hN : (menv.searchers.map (·.docs.length)).sum < 2 ^ 63) {rs : List DocumentMatch}
    (hrs : st.collect.main = .returned (.results rs)) :
    st.multi.received.map (·.2) ~ (menv.searchers.map (loadedPrefix menv)).flatten ∧
      Reachable (env.withSearcher st.multi.searcher) st.collect ∧
      (st.multi.received.map (·.2)).length < 2 ^ 63 := by
  have hi := h.inv
  have hperm := hi.multi.inv.received_perm (hi.nil (.inr ⟨some rs, hrs⟩))
  have hreach := hi.collect [] fun _ => rfl
  rw [List.append_nil] at hreach
  exact ⟨hperm, hreach, hperm.length_eq ▸ lt_of_le_of_lt (length_flatten_loadedPrefix_le menv) hN⟩

/-- **`MultiSearch` refines the sequential reference, up to order and numbering.**  Under every
    interleaving of the producers, the fan-in goroutine and `Collect`, over searchers holding
    fewer than 2^63 matches in all, when `Collect` returns results they are what the sequential
    reference computes over the matches `ds` that `MultiSearcherList.Next` returned: a
    permutation of the searchers' matches before their first failed load, each loaded and
    given its sort values under hit numbers `hs`, a permutation of `1, …, n`. -/
theorem multiSearch_refines_reference (h : SearchReachable env menv st)
    (hN : (menv.searchers.map (·.docs.length)).sum < 2 ^ 63) {rs : List DocumentMatch}
    (hrs : st.collect.main = .returned (.results rs)) :
    ∃ ds hs, ds ~ (menv.searchers.map (loadedPrefix menv)).flatten ∧
      hs ~ hitNumbers ds.length ∧
      (∀ x ∈ List.zipWith (collectedDoc env) ds hs, x.err = none) ∧
      finalizeResults env.hc (compareRun env.hc env.hc.initCompare
        (List.zipWith (collectedDoc env) ds hs)) = some rs := by
  obtain ⟨hperm, hreach, hlen⟩ := h.reachable_of_results hN hrs
  obtain ⟨hs, hp, -, herr, hres⟩ := collect_refines_reference hlen hreach hrs
  exact ⟨_, hs, hperm, hp, herr, hres⟩

theorem twoReaders_refine_reference :
    ∃ ds hs, ds ~ (twoSearchersEnv.searchers.map (loadedPrefix twoSearchersEnv)).flatten ∧
      hs ~ hitNumbers ds.length ∧
      (∀ x ∈ List.zipWith (collectedDoc byRankCollectEnv) ds hs, x.err = none) ∧
      finalizeResults byRankCollectEnv.hc
        (compareRun byRankCollectEnv.hc byRankCollectEnv.hc.initCompare
          (List.zipWith (collectedDoc byRankCollectEnv) ds hs)) = some [⟨1, 1, [[5]], 1, none⟩] :=
  multiSearch_refines_reference twoReaderDone_reachable (by decide) (by rfl)

/-- **`MultiSearch`'s aggregations see every delivered match once.**  Under every interleaving
    of the producers, the fan-in goroutine and `Collect`, when `Collect` returns results,
    `bucket.Consume` has run exactly once on each match `MultiSearcherList.Next` returned, and
    these are, up to order, the searchers' matches before their first failed load. -/
theorem multiSearch_consumes_each_match_once (h : SearchReachable env menv st)
    (hN : (menv.searchers.map (·.docs.length)).sum < 2 ^ 63) {rs : List DocumentMatch}
    (hrs : st.collect.main = .returned (.results rs)) :
    st.multi.received.map (·.2) ~ (menv.searchers.map (loadedPrefix menv)).flatten ∧
      st.collect.consumed ~ List.range st.multi.received.length := by
  obtain ⟨hperm, hreach, hlen⟩ := h.reachable_of_results hN hrs
  have htasks := (collect_hits_perm hlen hreach hrs).2.1
  simp only [Collector.CollectEnv.withSearcher_searcher, MultiState.searcher, List.length_map] at htasks
  exact ⟨hperm, htasks ▸ (hreach.refInv hlen).consumed_perm hreach.inv hrs⟩

theorem twoReaders_consume_once :
    twoReaderDone.multi.received.map (·.2) ~
        (twoSearchersEnv.searchers.map (loadedPrefix twoSearchersEnv)).flatten ∧
      twoReaderDone.collect.consumed ~ List.range twoReaderDone.multi.received.length :=
  multiSearch_consumes_each_match_once twoReaderDone_reachable (by decide) (by rfl)

/-! ### `MultiSearch` returns -/

/-- A bound on the steps left in a `MultiSearch` call: a step of the multi-searcher list counts
    for more than the task a pull spawns, and `Collect` is measured over an empty searcher, the
    multi-searcher list accounting for the matches still to come. -/
def searchMeasure (env : CollectEnv) (menv : MultiEnv) (st : SearchState) : Nat :=
  20 * multiMeasure menv st.multi + measure (env.withSearcher ⟨[], none⟩) st.collect

/-- At its pull, the main goroutine always moves, whatever its searcher returns. -/
theorem Collect_loop_isSome (env : CollectEnv) {st : Pipeline} (hm : st.main = .loop) :
    ∃ c, Collect env st = some c := by
  simp only [Collect, hm]
  split <;> exact ⟨_, rfl⟩

/-- A spawn adds a task at its start and leaves the main goroutine's weight over an empty
    searcher. -/
theorem measure_spawn (env : CollectEnv) {st : Pipeline} (hm : st.main = .loop) (d : DocumentMatch) :
    measure (env.withSearcher ⟨[], none⟩)
        { st with tasks := st.tasks ++ [⟨d, .start, [], []⟩], cursor := st.cursor + 1 } =
      measure (env.withSearcher ⟨[], none⟩) st + 19 := by
  simp only [Collector.measure, mainWeight, hm, CollectEnv.withSearcher_searcher, List.length_nil,
    Nat.zero_sub, List.map_append, List.sum_append, List.map_cons, List.map_nil, List.sum_cons,
    List.sum_nil, TaskPc.weight]
  omega

/-- **Every step decreases the measure.** -/
theorem searchStep_measure_lt (hi : SearchInv env menv st) {a : SearchAction}
    (h : searchStep env menv st a = some st') : searchMeasure env menv st' < searchMeasure env menv st := by
  replace h := (searchStep_eq_some h).2
  cases a with
  | fanIn =>
    obtain ⟨m, hm, rfl⟩ := Option.map_eq_some'.mp h
    have := multiStep_measure_lt hi.multi.inv hm
    simp only [searchMeasure]
    omega
  | producer i =>
    obtain ⟨m, hm, rfl⟩ := Option.map_eq_some'.mp h
    have := multiStep_measure_lt hi.multi.inv hm
    simp only [searchMeasure]
    omega
  | collect a =>
    simp only [searchGoroutineStep] at h
    split at h
    · -- the pull: `Next` lowers the list's measure, which outweighs the spawned task
      rename_i hpull
      obtain ⟨m, hn, hc⟩ := Option.bind_eq_some.mp h
      obtain ⟨c, hmc, rfl⟩ := Option.map_eq_some'.mp hc
      have hlt : multiMeasure menv m < multiMeasure menv st.multi := measure_next hn
      rcases (hi.pull_cases hpull.2 hn hmc).2 with ⟨x, -, -, rfl⟩ | ⟨-, -, rfl⟩
      · have := measure_spawn env hpull.2 x.2
        simp only [searchMeasure]
        omega
      · simp only [searchMeasure, Collector.measure, mainWeight, hpull.2]
        omega
    · rename_i hpull
      obtain ⟨c, hc, rfl⟩ := Option.map_eq_some'.mp h
      have := step_measure_lt (hi.collect [] fun _ => rfl).inv
        ((step_withSearcher env ⟨[], none⟩ hpull).trans hc)
      simp only [searchMeasure]
      omega

/-- Every run from a reachable state is at most as long as the measure. -/
theorem searchRun_length_le (h : SearchReachable env menv st) {as : List SearchAction}
    (hr : searchRun env menv st as = some st') : as.length ≤ searchMeasure env menv st := by
  induction as generalizing st with
  | nil => simp
  | cons a as ih =>
    obtain ⟨st₁, h₁, hr⟩ := Option.bind_eq_some.mp hr
    have := ih (h.step a h₁) hr
    have := searchStep_measure_lt h.inv h₁
    simp only [List.length_cons]
    omega

/-- Over at least one searcher, a state where no goroutine can move is one where `Collect` has
    ended. -/
theorem SearchReachable.returned_of_stuck (h : SearchReachable env menv st) (hN : menv.searchers ≠ [])
    (hstuck : ∀ a, searchStep env menv st a = none) : ∃ r, st.collect.main = .returned r := by
  have hi := h.inv
  -- a panic in `Final` ends `Collect`; the division by zero needs an empty list of searchers
  by_cases hp : st.collect.main = .returned .panicked
  · exact ⟨_, hp⟩
  have hf : st.multi.fanIn ≠ .panicked := fun hf =>
    hN (List.length_eq_zero.mp (hf ▸ hi.multi.inv.fanIn).1)
  replace hstuck : ∀ a, searchGoroutineStep env menv st a = none := fun a => by
    simpa [searchStep, hf, hp] using hstuck a
  -- `Collect` is past its pull: there the list would let it or one of its goroutines move
  have hpast : st.collect.main ≠ .loop := by
    intro hm
    have hsaw : st.multi.sawNil = false := Bool.eq_false_iff.mpr fun hs => (hi.early hs).2 hm
    obtain ⟨a, ha⟩ := exists_multiStep hi.multi hN hsaw
    obtain ⟨m, hm'⟩ := Option.isSome_iff_exists.mp ha
    cases a with
    | fanIn => simpa [searchGoroutineStep, hm'] using hstuck .fanIn
    | producer i => simpa [searchGoroutineStep, hm'] using hstuck (.producer i)
    | next =>
      have hn : MultiSearcherList.Next st.multi = some m := hm'
      obtain ⟨c, hc⟩ := Collect_loop_isSome (env.withSearcher m.searcher) hm
      simpa [searchGoroutineStep, hm, hn, hc] using hstuck (.collect .main)
  -- then every step of `Collect` is one over the searcher it reaches its state by
  refine (Collector.returned_of_stuck (hi.collect [] fun _ => rfl) fun a => ?_).1
  rw [step_withSearcher env _ fun h => hpast h.2]
  simpa [searchGoroutineStep, hpast] using hstuck (.collect a)

/-- **`MultiSearch` returns under every schedule.**  Over at least one searcher, every run of a
    `MultiSearch` call is finite, and a state where no goroutine can move is one where `Collect`
    has returned: the producers cannot block it forever, nor it them. -/
theorem multiSearch_returns (h : SearchReachable env menv st) (hN : menv.searchers ≠ []) :
    (∀ as st', searchRun env menv st as = some st' → as.length ≤ searchMeasure env menv st) ∧
      ((∀ a, searchStep env menv st a = none) → ∃ r, st.collect.main = .returned r) :=
  ⟨fun _ _ hr => searchRun_length_le h hr, h.returned_of_stuck hN⟩

theorem twoReaders_return :
    (∀ as st', searchRun byRankCollectEnv twoSearchersEnv twoReaderExited as = some st' →
        as.length ≤ searchMeasure byRankCollectEnv twoSearchersEnv twoReaderExited) ∧
      ((∀ a, searchStep byRankCollectEnv twoSearchersEnv twoReaderExited a = none) →
        ∃ r, twoReaderExited.collect.main = .returned r) :=
  multiSearch_returns twoReaderExited_reachable (by decide)

/-- Over no searchers, `Next` never returns `nil`, so `Collect` never finalizes its results. -/
theorem SearchReachable.not_finalized_of_nil (h : SearchReachable env menv st)
    (hN : menv.searchers = []) (o : Option (List DocumentMatch)) :
    st.collect.main ≠ .returned (.ofFinal o) := fun hm => by
  have hi := h.inv
  have hcl := (hi.multi.inv.nil (hi.nil (.inr ⟨o, hm⟩))).1
  have hf := hi.multi.inv.fanIn
  rcases hi.multi.fanIn_of_nil hN with hs | hs <;> rw [hs] at hf <;> simp [hf.2] at hcl

/-- **Without searchers, `MultiSearch` panics.**  With no reader, every run of a `MultiSearch`
    call is finite, and `Collect` neither returns results nor reaches `Final`: `Next`, which
    does not look at the context, waits on a `docChan` that is never closed.  A state where no
    goroutine can move is one where `collectAllDocuments` has divided by `len(m.searchers) = 0`,
    which ends the program, whether or not `Collect` returned the context's error before. -/
theorem multiSearch_panics_without_searchers (h : SearchReachable env menv st)
    (hN : menv.searchers = []) :
    (∀ as st', searchRun env menv st as = some st' → as.length ≤ searchMeasure env menv st) ∧
      (∀ o, st.collect.main ≠ .returned (.ofFinal o)) ∧
      ((∀ a, searchStep env menv st a = none) → st.multi.fanIn = .panicked) := by
  refine ⟨fun _ _ hr => searchRun_length_le h hr, h.not_finalized_of_nil hN, fun hstuck => ?_⟩
  rcases h.inv.multi.fanIn_of_nil hN with hs | hs
  · -- before the division, the fan-in goroutine can take it
    have := hstuck .fanIn
    simp [searchStep, searchGoroutineStep, multiStep, collectAllDocuments, hs, hN] at this
    exact absurd this (h.not_finalized_of_nil hN none)
  · exact hs

/-- No reader: `Collect` starts its pull loop, the context is cancelled, and the fan-in
    goroutine divides by zero. -/
def noReaderPanicked : SearchState :=
  (searchRun byRankCollectEnv ⟨[], [], fun _ => none⟩ (SearchState.init byRankCollectEnv.hc)
    [.collect .main, .collect .cancel, .fanIn]).get rfl

theorem noReader_panics :
    (∀ a, searchStep byRankCollectEnv ⟨[], [], fun _ => none⟩ noReaderPanicked a = none) ∧
      ((∀ as st', searchRun byRankCollectEnv ⟨[], [], fun _ => none⟩ noReaderPanicked as = some st' →
          as.length ≤ searchMeasure byRankCollectEnv ⟨[], [], fun _ => none⟩ noReaderPanicked) ∧
        (∀ o, noReaderPanicked.collect.main ≠ .returned (.ofFinal o)) ∧
        ((∀ a, searchStep byRankCollectEnv ⟨[], [], fun _ => none⟩ noReaderPanicked a = none) →
          noReaderPanicked.multi.fanIn = .panicked)) :=
  ⟨fun _ => rfl, multiSearch_panics_without_searchers
    (SearchReachable.init.run (Option.some_get _).symm) rfl⟩

end Bluge
