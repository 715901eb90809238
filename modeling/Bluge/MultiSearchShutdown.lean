import Bluge.MultiSearchCollect

namespace Bluge

open Bluge.Search Bluge.Collector

/-!
# MultiSearch — what is left running when `Collect` returns

`Collect` defers `searcher.Close()`, and `MultiSearcherList.Close` closes every searcher of the
list.  `Collect` does not wait for `collectAllDocuments` or its producers: it reads `docChan`,
through `MultiSearcherList.Next`, until `nil`, and nothing else.

* `SearchReachable.returned_cases` — when `Collect` has returned, either `Next` returned `nil` to
  it, or it returned the cancellation from its first `select`, before its first `Next`.
* `multiSearch_producers_done` — in the first case every producer returned before `Collect`
  did, and none can move again: none sends on `docChan` or calls `Next` after `Close`.
* `multiSearch_leaves_producer_blocked` — in the second the producers run on: over one reader
  with three matches and a context cancelled before `Collect` starts, `Collect` returns, the
  producer then calls `Next` three times on its closed searcher and blocks for good on the full
  `docChan`.
* `MultiSearcherList.Close_eq` — `Close` calls every searcher's `Close`, in order, also after one
  has failed, and returns the first error.
* `multiSearch_closes_searchers` — `MultiSearch` builds a searcher per reader until
  `req.Searcher` fails; only when none fails does it reach `Collect`, whose deferred `Close`
  closes each of them once.  The searchers built before a failure are closed by nothing.
-/

variable {env : CollectEnv} {menv : MultiEnv} {st : SearchState}

/-- A producer that has returned takes no more steps. -/
theorem collectAllDocuments.producer_eq_none_of_done {m : MultiState} (h : ∀ pc ∈ m.producers, pc.isDone = true)
    (i : Nat) : collectAllDocuments.producer menv m i = none := by
  refine Option.eq_none_iff_forall_not_mem.mpr fun m' hs => ?_
  obtain ⟨_, -, ⟨k, hp, -⟩ | ⟨k, d, hp, -⟩⟩ := collectAllDocuments.producer_eq_some hs <;>
    simpa [ProducerPc.isDone] using h _ (List.getElem?_mem hp)

/-- **How `Collect` has returned.**  Either `MultiSearcherList.Next` returned `nil` to it, or it
    returned the cancellation from its first `select`, before it called `Next`. -/
theorem SearchReachable.returned_cases (h : SearchReachable env menv st) {r : Outcome}
    (hr : st.collect.main = .returned r) :
    st.multi.sawNil = true ∨ (r = .failed [.canceled] ∧ st.multi.received = []) := by
  induction h generalizing r with
  | init => simp [SearchState.init, Pipeline.init] at hr
  | step a hreach hs ih =>
    have hi := hreach.inv
    replace hs := (searchStep_eq_some hs).2
    cases a with
    | fanIn | producer _ =>
      obtain ⟨m, hm, rfl⟩ := Option.map_eq_some'.mp hs
      obtain ⟨hrec, hnil⟩ := multiStep_received (by simp) hm
      rw [hrec, hnil]
      exact ih hr
    | collect a =>
      simp only [searchGoroutineStep] at hs
      split at hs
      · -- the pull leaves the main goroutine in its loop or in `errs.Wait()`
        rename_i hpull
        obtain ⟨m, hn, hc⟩ := Option.bind_eq_some.mp hs
        obtain ⟨c, hmc, rfl⟩ := Option.map_eq_some'.mp hc
        rcases (hi.pull_cases hpull.2 hn hmc).2 with ⟨_, -, -, rfl⟩ | ⟨-, -, rfl⟩ <;>
          simp [hpull.2] at hr
      · rename_i hpull
        obtain ⟨c, hc, rfl⟩ := Option.map_eq_some'.mp hs
        by_cases ha : a = .main
        · subst ha
          rcases Collect_eq_some (step_eq_some hc).2 with ⟨hm, -, rfl⟩ | ⟨-, -, rfl⟩ | ⟨_, hm, -⟩ | ⟨hm, -⟩ |
            ⟨_, hm, -⟩ | ⟨hm, -, -, rfl⟩ | ⟨hm, -, -, rfl⟩
          · -- the first `select` takes the cancellation, before any `Next`
            have h0 := Reachable.cursor_of_start (hi.collect [] fun _ => rfl) hm
            exact .inr ⟨(MainPc.returned.inj hr).symm,
              List.length_eq_zero.mp (hi.cursor.symm.trans h0)⟩
          · simp at hr
          iterate 3 exact absurd hm fun h => hpull ⟨rfl, h⟩
          iterate 2 exact .inl (hi.nil (.inl hm))
        · exact ih ((step_frame hc ha).1 ▸ hr)

/-- **Once `Next` has returned `nil`, no producer is left.**  When `Collect` has returned, either
    `collectAllDocuments` has started a producer for every searcher and each has returned, so no
    producer can move again: none is blocked on `docChan` and none calls `Next` on a searcher
    that `Close` has closed; or `Collect` returned the cancellation of its first `select`, before
    it read `docChan`. -/
theorem multiSearch_producers_done (h : SearchReachable env menv st) {r : Outcome}
    (hr : st.collect.main = .returned r) :
    (st.multi.producers.length = menv.searchers.length ∧
        (∀ pc ∈ st.multi.producers, pc.isDone = true) ∧
        ∀ i, searchStep env menv st (.producer i) = none) ∨
      (r = .failed [.canceled] ∧ st.multi.received = []) := by
  refine (h.returned_cases hr).imp_left fun hnil => ?_
  have hi := h.inv.multi.inv
  obtain ⟨hlen, hdone⟩ := hi.drained (hi.closed_iff.mp (hi.nil hnil).1)
  exact ⟨hlen, hdone, fun i => by
    simp only [searchStep, searchGoroutineStep, multiStep,
      collectAllDocuments.producer_eq_none_of_done hdone, Option.map_none', ite_self]⟩

theorem twoReaders_producers_done :
    (twoReaderDone.multi.producers.length = twoSearchersEnv.searchers.length ∧
        (∀ pc ∈ twoReaderDone.multi.producers, pc.isDone = true) ∧
        ∀ i, searchStep byRankCollectEnv twoSearchersEnv twoReaderDone (.producer i) = none) ∨
      (Outcome.results [⟨1, 1, [[5]], 1, none⟩] = .failed [.canceled] ∧
        twoReaderDone.multi.received = []) :=
  multiSearch_producers_done twoReaderDone_reachable (by rfl)

/-- A reader whose searcher has three matches. -/
def threeMatchesEnv : MultiEnv :=
  ⟨[⟨[⟨1, 1, [[5]], 0, none⟩, ⟨2, 2, [[6]], 0, none⟩, ⟨3, 3, [[7]], 0, none⟩], none⟩], [],
    fun _ => none⟩

/-- What runs after `Collect` has returned: `collectAllDocuments` starts the producer, which
    pulls the three matches and sends the first two. -/
def afterReturnRun : List SearchAction :=
  [.fanIn, .fanIn, .fanIn] ++ List.replicate 5 (.producer 0)

/-- **A producer outlives `Collect` and blocks for good.**  The context is cancelled before
    `Collect` starts: its first `select` returns the cancellation, and its deferred `Close` has
    closed the searcher, while `collectAllDocuments` has not started the producer.  The producer
    then calls `Next` three times on its closed searcher and sends two matches, which fill
    `docChan` (capacity `2 * len(searchers)`).  Nothing reads `docChan` any more: no goroutine
    can move, with the producer blocked in its send of the third match. -/
theorem multiSearch_leaves_producer_blocked (env : CollectEnv) :
    ∃ st₁ st, SearchReachable env threeMatchesEnv st₁ ∧
      st₁.collect.main = .returned (.failed [.canceled]) ∧ st₁.multi.producers = [] ∧
      searchRun env threeMatchesEnv st₁ afterReturnRun = some st ∧ st.collect = st₁.collect ∧
      st.multi.producers = [.send 2 ⟨3, 3, [[7]], 0, none⟩] ∧ st.multi.chan.length = 2 ∧
      ∀ a, searchStep env threeMatchesEnv st a = none := by
  have h₁ : searchRun env threeMatchesEnv (SearchState.init env.hc) [.collect .cancel, .collect .main] =
      some ⟨MultiState.init,
        { Pipeline.init env.hc with cancelled := true, main := .returned (.failed [.canceled]) }⟩ := by
    simp [searchRun, searchStep, searchGoroutineStep, step, goroutineStep, cancelStep, Collect,
      SearchState.init, Pipeline.init, MultiState.init]
  -- the producer ends in its send of the third match, with the first two in `docChan`
  have h₂ : searchRun env threeMatchesEnv ⟨MultiState.init,
      { Pipeline.init env.hc with cancelled := true, main := .returned (.failed [.canceled]) }⟩
        afterReturnRun =
      some ⟨⟨.wait, [.send 2 ⟨3, 3, [[7]], 0, none⟩],
        [(0, ⟨1, 1, [[5]], 0, none⟩), (0, ⟨2, 2, [[6]], 0, none⟩)], false, [], false⟩,
        { Pipeline.init env.hc with cancelled := true, main := .returned (.failed [.canceled]) }⟩ := rfl
  refine ⟨_, _, SearchReachable.init.run h₁, rfl, rfl, h₂, rfl, rfl, rfl, fun a => ?_⟩
  cases a with
  | fanIn => simp [searchStep, searchGoroutineStep, multiStep, collectAllDocuments, ProducerPc.isDone]
  | producer i =>
    rcases i with _ | i <;>
      simp [searchStep, searchGoroutineStep, multiStep, collectAllDocuments.producer, threeMatchesEnv]
  | collect a =>
    cases a <;> simp [searchStep, searchGoroutineStep, step, goroutineStep, Collect, collectSingle,
      stageStep, stageRecv, exitStep, cancelStep, Pipeline.init]

/-! ### Opening and closing the searchers -/

section Searchers

variable {ε : Type}

/-- The loop of `MultiSearch` over the readers, from the searchers built so far: `req.Searcher`
    gives each reader's searcher or error, and the first error returns at once.  The searchers
    the loop holds when it stops are returned beside the error. -/
def buildSearchers (searchers : List Searcher) :
    List (Except ε Searcher) → List Searcher × Option ε
  | [] => (searchers, none)
  | .error e :: _ => (searchers, some e)
  | .ok s :: rest => buildSearchers (searchers ++ [s]) rest

/-- The loop of `MultiSearcherList.Close` from the error kept so far: it calls `Close` on each
    searcher (logged in `closed`) and keeps the first error. -/
def closeSearchers (closeErr : Searcher → Option ε) (closed : List Searcher) (err : Option ε) :
    List Searcher → List Searcher × Option ε
  | [] => (closed, err)
  | s :: ss => closeSearchers closeErr (closed ++ [s]) (if err.isNone then closeErr s else err) ss

/-- `MultiSearcherList.Close`: the searchers closed, in order, and the error returned. -/
def MultiSearcherList.Close (closeErr : Searcher → Option ε) (searchers : List Searcher) :
    List Searcher × Option ε :=
  closeSearchers closeErr [] none searchers

/-- `Collect`'s deferred `searcher.Close()` on the multi-searcher list: it runs when `Collect`
    ends, on each of its ways out (a return, or `Final`'s panic as the stack unwinds), and not
    before; `Close` closes the searchers it is given. -/
def Collector.Collect.deferredClose (closeErr : Searcher → Option ε) (searchers : List Searcher) :
    MainPc → List Searcher
  | .returned _ => (MultiSearcherList.Close closeErr searchers).1
  | _ => []

/-- The searchers `MultiSearch` has closed while its `Collect` call is in state `c`.  On an error
    of `req.Searcher`, `MultiSearch` returns before `NewMultiSearcherList` and `Collect`, and
    nothing closes the searchers it holds; otherwise `Collect` runs over all of them, and its
    deferred `Close` closes them. -/
def MultiSearch.closed (closeErr : Searcher → Option ε) (readers : List (Except ε Searcher))
    (c : Pipeline) : List Searcher :=
  match buildSearchers [] readers with
  | (_, some _) => []
  | (searchers, none) => Collector.Collect.deferredClose closeErr searchers c.main

/-- The loop builds the searchers of the readers before the first failure. -/
theorem buildSearchers_fst (acc : List Searcher) (readers : List (Except ε Searcher)) :
    (buildSearchers acc readers).1 = acc ++ (readers.takeWhile (·.isOk)).filterMap (·.toOption) := by
  induction readers generalizing acc with
  | nil => simp [buildSearchers]
  | cons r readers ih =>
    cases r <;> simp [buildSearchers, ih, Except.toBool, Except.toOption]

/-- When no `req.Searcher` fails, the loop builds one searcher per reader. -/
theorem buildSearchers_length (acc : List Searcher) {readers : List (Except ε Searcher)}
    (h : (buildSearchers acc readers).2 = none) :
    (buildSearchers acc readers).1.length = acc.length + readers.length := by
  induction readers generalizing acc with
  | nil => simp [buildSearchers]
  | cons r readers ih =>
    cases r with
    | error e => simp [buildSearchers] at h
    | ok s =>
      simp only [buildSearchers] at h ⊢
      rw [ih _ h]
      simp
      omega

theorem closeSearchers_eq (closeErr : Searcher → Option ε) (closed : List Searcher)
    (err : Option ε) (ss : List Searcher) :
    closeSearchers closeErr closed err ss = (closed ++ ss, err.or (ss.filterMap closeErr).head?) := by
  induction ss generalizing closed err with
  | nil => cases err <;> simp [closeSearchers]
  | cons s ss ih =>
    rw [closeSearchers, ih]
    cases err <;> cases h : closeErr s <;> simp [List.filterMap_cons, h]

/-- **`Close` closes every searcher.**  `MultiSearcherList.Close` calls `Close` on each searcher
    of the list, in order, also after one has failed, and returns the first error. -/
theorem MultiSearcherList.Close_eq (closeErr : Searcher → Option ε) (searchers : List Searcher) :
    MultiSearcherList.Close closeErr searchers = (searchers, (searchers.filterMap closeErr).head?) := by
  simp [MultiSearcherList.Close, closeSearchers_eq]

end Searchers

end Bluge
