import Bluge.Collector.Store

namespace Bluge.Collector

open Bluge.Search
open scoped List

/-!
# Collector — `TopNCollector` and its compare stage

The sequential heart of `search/collector/topn.go`: how a collector is built, one iteration of
the compare-and-store goroutine (`startComparePipeline`), and `finalizeResults`.  The concurrent
pipeline around them lives in `Pipeline.lean`.

* `goInt` — Go's 64-bit `int`: arithmetic wraps around modulo `2^64`.
* `newTopNCollector`, `NewTopNCollector`, `NewTopNCollectorAfter` — construction; the store
  allocation fails (`none`) when the computed capacity `backingSize` is negative.
* `newTopNCollector_backingSize_mem` — when the construction succeeds, `backingSize` lies in
  `[1, PreAllocSizeSkipCap + 1]` and `size+skip` is the true sum; `newTopNCollector_sum_overflows`
  — `size = MaxInt, skip = 1` wraps `size+skip` to `MinInt` and the allocation panics.
* `startComparePipeline` — one loop iteration of `startComparePipeline` on a received match: the new state,
  and the completion signal and pool returns it makes, in order.
* `finalizeResultsInPlace_eq` — the swap loop of `finalizeResults` stays in range and reverses
  the results: the source's loop is the `reverse` of `finalizeResults`.
* `startComparePipeline_held` — the compare stage loses nothing it holds: the new store and lowest
  match, with what went back to the pool, are a sub-permutation of the old ones with `d`.
-/

/-! ### Go's `int` -/

/-- Go's `int` on a 64-bit platform: arithmetic wraps around modulo `2^64`. -/
def goInt (x : Int) : Int := x.bmod (2 ^ 64)

/-- `x` is a value of Go's `int`. -/
def IsGoInt (x : Int) : Prop := -2 ^ 63 ≤ x ∧ x < 2 ^ 63

theorem goInt_of_isGoInt {x : Int} (h : IsGoInt x) : goInt x = x := by
  unfold goInt IsGoInt at *
  rw [Int.bmod_def]
  split <;> omega

/-- A sum of two non-negative `int`s past `MaxInt` wraps to a negative value. -/
theorem goInt_of_overflow {x : Int} (h1 : 2 ^ 63 ≤ x) (h2 : x < 2 ^ 64) : goInt x = x - 2 ^ 64 := by
  unfold goInt
  rw [Int.bmod_def]
  split <;> omega

/-! ### Construction -/

/-- `PreAllocSizeSkipCap`: preallocation is capped at this amount when `size+skip` exceeds it. -/
def PreAllocSizeSkipCap : Int := 1000

/-- `switchFromSliceToHeap`: above this `size+skip` the store is a heap. -/
def switchFromSliceToHeap : Int := 10

/-- `CheckDoneEvery`: how often a task polls the context. -/
def CheckDoneEvery : Int := 1024

/-- Which `collectorStore` implementation a collector allocates. -/
inductive StoreKind where
  | slice
  | heap
  deriving DecidableEq, Repr

/-- The configuration fields of `TopNCollector`.  Its store, `lowestMatchOutsideResults` and the
    `HitNumber` it writes into `searchAfter` change as matches arrive: they are the
    `CompareState` below. -/
structure TopNCollector where
  size : Int
  skip : Int
  sort : SortOrder
  reverse : Bool
  backingSize : Int
  storeKind : StoreKind
  neededFields : List String
  searchAfter : Option DocumentMatch

/-- `hc.backingSize` as `newTopNCollector` computes it, with Go's wrapping `int` sums. -/
def backingSizeOf (size skip : Int) : Int :=
  if goInt (size + skip) > PreAllocSizeSkipCap then PreAllocSizeSkipCap + 1
  else goInt (goInt (size + skip) + 1)

/-- Modelled from the spec: `newStoreHeap` / `newStoreSlice` (not in the source) allocate an
    empty store of capacity `backingSize` (spec: "fixed capacity size+skip+1").  Go's `make`
    panics on a negative capacity, which is `none` here. -/
def newStore (capacity : Int) : Option (List DocumentMatch) :=
  if capacity < 0 then none else some []

/-- `newTopNCollector(size, skip, sort, reverse)`. -/
def newTopNCollector (size skip : Int) (sort : SortOrder) (reverse : Bool) :
    Option TopNCollector :=
  let backingSize := backingSizeOf size skip
  let storeKind := if goInt (size + skip) > switchFromSliceToHeap then .heap else .slice
  (newStore backingSize).map fun _ =>
    { size, skip, sort, reverse, backingSize, storeKind, neededFields := sort.fields,
      searchAfter := none }

/-- `NewTopNCollector(size, skip, sort)`. -/
def NewTopNCollector (size skip : Int) (sort : SortOrder) : Option TopNCollector :=
  newTopNCollector size skip sort false

/-- `NewTopNCollectorAfter(size, sort, after, reverse)`: no skip, and a search-after key, a
    fresh `DocumentMatch` carrying only `after` as its sort value. -/
def NewTopNCollectorAfter (size : Int) (sort : SortOrder) (after : List Bytes) (reverse : Bool) :
    Option TopNCollector :=
  (newTopNCollector size 0 sort reverse).map fun rv =>
    { rv with searchAfter := some { ptr := 0, sortValue := after } }

/-- The store allocation succeeds exactly when the computed capacity is not negative. -/
theorem newTopNCollector_eq_some {size skip : Int} {sort : SortOrder} {reverse : Bool}
    {hc : TopNCollector} (h : newTopNCollector size skip sort reverse = some hc) :
    0 ≤ backingSizeOf size skip ∧ hc.size = size ∧ hc.skip = skip ∧ hc.sort = sort ∧
      hc.reverse = reverse ∧ hc.searchAfter = none := by
  simp only [newTopNCollector, newStore, Option.map_eq_some'] at h
  obtain ⟨_, hb, rfl⟩ := h
  refine ⟨?_, rfl, rfl, rfl, rfl, rfl⟩
  by_contra hlt
  simp [lt_of_not_le hlt] at hb

/-- Without overflow, the capacity is `size + skip + 1` capped at `PreAllocSizeSkipCap + 1`. -/
theorem backingSizeOf_mem {size skip : Int} (hsize : 0 ≤ size) (hskip : 0 ≤ skip)
    (hlt : size + skip < 2 ^ 63) :
    1 ≤ backingSizeOf size skip ∧ backingSizeOf size skip ≤ PreAllocSizeSkipCap + 1 := by
  unfold backingSizeOf PreAllocSizeSkipCap
  rw [goInt_of_isGoInt ⟨by omega, hlt⟩]
  split
  · omega
  · rw [goInt_of_isGoInt ⟨by omega, by omega⟩]
    omega

/-- Past `math.MaxInt` the sum wraps to a negative value, which is not above the cap, and the
    capacity `size + skip + 1` is negative too. -/
theorem backingSizeOf_neg {size skip : Int} (hsize : size < 2 ^ 63) (hskip : skip < 2 ^ 63)
    (hge : 2 ^ 63 ≤ size + skip) : backingSizeOf size skip < 0 := by
  unfold backingSizeOf PreAllocSizeSkipCap
  rw [goInt_of_overflow hge (by omega), if_neg (by omega), goInt_of_isGoInt ⟨by omega, by omega⟩]
  omega

/-- A collector built from non-negative `int`s `size` and `skip`: their sum did not wrap, so
    the store bound `size + skip` is the true sum. -/
theorem goInt_size_add_skip {size skip : Int} {sort : SortOrder} {reverse : Bool}
    {hc : TopNCollector} (hsize : 0 ≤ size ∧ size < 2 ^ 63) (hskip : 0 ≤ skip ∧ skip < 2 ^ 63)
    (h : newTopNCollector size skip sort reverse = some hc) :
    goInt (hc.size + hc.skip) = size + skip := by
  obtain ⟨hb, rfl, rfl, -⟩ := newTopNCollector_eq_some h
  have hlt : hc.size + hc.skip < 2 ^ 63 :=
    not_le.mp fun hge => absurd hb (not_le.mpr (backingSizeOf_neg hsize.2 hskip.2 hge))
  exact goInt_of_isGoInt ⟨by omega, hlt⟩

/-- The capacity a collector is built with is the one `newTopNCollector` computes. -/
theorem newTopNCollector_backingSize {size skip : Int} {sort : SortOrder} {reverse : Bool}
    {hc : TopNCollector} (h : newTopNCollector size skip sort reverse = some hc) :
    hc.backingSize = backingSizeOf size skip := by
  simp only [newTopNCollector, Option.map_eq_some'] at h
  obtain ⟨_, -, rfl⟩ := h
  rfl

/-- Over non-negative `int`s, `newTopNCollector` returns exactly when `size + skip` does not pass
    `math.MaxInt`: past it the sum wraps to a negative value, and so does the capacity
    `size + skip + 1` the store is allocated with. -/
theorem newTopNCollector_isSome_iff {size skip : Int} (hsize : 0 ≤ size ∧ size < 2 ^ 63)
    (hskip : 0 ≤ skip ∧ skip < 2 ^ 63) (sort : SortOrder) (reverse : Bool) :
    (newTopNCollector size skip sort reverse).isSome ↔ size + skip < 2 ^ 63 := by
  have hb : 0 ≤ backingSizeOf size skip ↔ size + skip < 2 ^ 63 :=
    ⟨fun hb => not_le.mp fun hge => absurd hb (not_le.mpr (backingSizeOf_neg hsize.2 hskip.2 hge)),
      fun hlt => le_trans zero_le_one (backingSizeOf_mem hsize.1 hskip.1 hlt).1⟩
  rw [← hb]
  simp [newTopNCollector, newStore]

/-- **The capacity of a collector over non-negative `int`s.**  A collector that
    `newTopNCollector` returns has a capacity in `1 .. PreAllocSizeSkipCap + 1`, and its store
    bound `size + skip` is the true, non-negative sum. -/
theorem newTopNCollector_backingSize_mem {size skip : Int} {sort : SortOrder} {reverse : Bool}
    {hc : TopNCollector} (hsize : 0 ≤ size ∧ size < 2 ^ 63) (hskip : 0 ≤ skip ∧ skip < 2 ^ 63)
    (h : newTopNCollector size skip sort reverse = some hc) :
    1 ≤ hc.backingSize ∧ hc.backingSize ≤ PreAllocSizeSkipCap + 1 ∧
      goInt (hc.size + hc.skip) = size + skip ∧ 0 ≤ size + skip := by
  have hlt := (newTopNCollector_isSome_iff hsize hskip sort reverse).mp (by simp [h])
  rw [newTopNCollector_backingSize h]
  exact ⟨(backingSizeOf_mem hsize.1 hskip.1 hlt).1, (backingSizeOf_mem hsize.1 hskip.1 hlt).2,
    goInt_size_add_skip hsize hskip h, by omega⟩

theorem newTopNCollector_backingSize_ten :
    1 ≤ ((newTopNCollector 10 0 SortOrder.byRank false).get rfl).backingSize ∧
      ((newTopNCollector 10 0 SortOrder.byRank false).get rfl).backingSize ≤ PreAllocSizeSkipCap + 1 ∧
      goInt (((newTopNCollector 10 0 SortOrder.byRank false).get rfl).size +
        ((newTopNCollector 10 0 SortOrder.byRank false).get rfl).skip) = 10 + 0 ∧ (0 : Int) ≤ 10 + 0 :=
  newTopNCollector_backingSize_mem (by norm_num) (by norm_num) (Option.some_get _).symm

/-- **`size+skip` overflows.**  `NewTopNCollector(math.MaxInt, 1, sort)`: both arguments are
    non-negative `int`s, but their sum wraps to `math.MinInt`, which is not above
    `PreAllocSizeSkipCap`, so the capacity is `math.MinInt + 1`, and the store's `make` panics. -/
theorem newTopNCollector_sum_overflows (sort : SortOrder) :
    IsGoInt (2 ^ 63 - 1) ∧ goInt ((2 ^ 63 - 1) + 1) = -2 ^ 63 ∧
      backingSizeOf (2 ^ 63 - 1) 1 = -2 ^ 63 + 1 ∧ NewTopNCollector (2 ^ 63 - 1) 1 sort = none := by
  have hsum : goInt ((2 ^ 63 - 1) + 1) = -2 ^ 63 := by
    rw [goInt_of_overflow (by norm_num) (by norm_num)]
    norm_num
  have hb : backingSizeOf (2 ^ 63 - 1) 1 = -2 ^ 63 + 1 := by
    unfold backingSizeOf PreAllocSizeSkipCap
    rw [hsum, if_neg (by norm_num), goInt_of_isGoInt ⟨by norm_num, by norm_num⟩]
  refine ⟨⟨by norm_num, by norm_num⟩, hsum, hb, ?_⟩
  simp only [NewTopNCollector, newTopNCollector, newStore, hb]
  norm_num

/-! ### The compare stage -/

/-- What the compare goroutine holds between matches: the store, `lowestMatchOutsideResults`,
    and `searchAfter` (whose `HitNumber` it overwrites before each comparison). -/
structure CompareState where
  store : List DocumentMatch
  lowest : Option DocumentMatch
  searchAfter : Option DocumentMatch
  deriving DecidableEq, Repr

/-- The compare stage's state when a collector starts. -/
def TopNCollector.initCompare (hc : TopNCollector) : CompareState :=
  ⟨[], none, hc.searchAfter⟩

/-- What one loop iteration of a stage does to the outside world, in order: a completion signal
    on the match's `PipelineFinished` channel, or `DocumentMatchPool.Put` of a match. -/
inductive Effect where
  | signal
  | put (d : DocumentMatch)
  deriving DecidableEq, Repr

/-- The matches an effect list returns to the pool. -/
def puts : List Effect → List DocumentMatch
  | [] => []
  | .signal :: es => puts es
  | .put d :: es => d :: puts es

/-- The matches the compare stage holds on to. -/
def CompareState.held (s : CompareState) : List DocumentMatch := s.store ++ s.lowest.toList

variable (hc : TopNCollector)

/-- The `AddNotExceedingSize` branch of `startComparePipeline`: store `d`; a removed match
    becomes `lowestMatchOutsideResults` when there is none yet or when it sorts before the
    current one, which then goes back to the pool. -/
def storeMatch (s : CompareState) (d : DocumentMatch) : CompareState × List Effect :=
  let added := addNotExceedingSize hc.sort s.store d (goInt (hc.size + hc.skip))
  match added.2, s.lowest with
  | none, _ => ({ s with store := added.1 }, [.signal])
  | some r, none => ({ s with store := added.1, lowest := some r }, [.signal])
  | some r, some l =>
    if hc.sort.compare r l < 0 then ({ s with store := added.1, lowest := some r }, [.put l, .signal])
    else ({ s with store := added.1 }, [.signal])

/-- The `lowestMatchOutsideResults` short-circuit: a match sorting no earlier than the lowest
    match already evicted is signalled and put back in the pool without touching the store. -/
def skipOrStore (s : CompareState) (d : DocumentMatch) : CompareState × List Effect :=
  match s.lowest with
  | some l => if hc.sort.compare d l ≥ 0 then (s, [.signal, .put d]) else storeMatch hc s d
  | none => storeMatch hc s d

/-- One loop iteration of `startComparePipeline` on a received match `d`. -/
def startComparePipeline (s : CompareState) (d : DocumentMatch) : CompareState × List Effect :=
  if d.err.isSome then (s, [])
  else match s.searchAfter with
    | some sa =>
      let sa := { sa with hitNumber := d.hitNumber }
      let s := { s with searchAfter := some sa }
      if hc.sort.compare d sa ≤ 0 then (s, [.signal]) else skipOrStore hc s d
    | none => skipOrStore hc s d

/-- The compare stage's state after receiving `ds` in this order. -/
def compareRun (s : CompareState) (ds : List DocumentMatch) : CompareState :=
  ds.foldl (fun s d => (startComparePipeline hc s d).1) s

/-- `finalizeResults`: `Final(skip)`, reversed in place when `reverse` is set; `none` when
    `Final` panics. -/
def finalizeResults (s : CompareState) : Option (List DocumentMatch) :=
  (final s.store hc.skip).map fun results => if hc.reverse then results.reverse else results

@[simp] theorem compareRun_nil (s : CompareState) : compareRun hc s [] = s := rfl

@[simp] theorem compareRun_append (s : CompareState) (ds : List DocumentMatch) (d : DocumentMatch) :
    compareRun hc s (ds ++ [d]) = (startComparePipeline hc (compareRun hc s ds) d).1 := by
  simp [compareRun, List.foldl_append]

/-- The search-after comparison reads only the key's sort values: with the key's `HitNumber`
    set to the candidate's, `compare` is the comparison of sort values. -/
theorem compare_searchAfter (o : SortOrder) (d sa : DocumentMatch) :
    o.compare d { sa with hitNumber := d.hitNumber } = o.compareValues d.sortValue sa.sortValue := by
  unfold SortOrder.compare
  simp only [ne_eq, ite_not, if_true]
  split <;> simp_all

/-! ### What one iteration can do -/

/-- **Inversion.** One iteration of the compare loop either skips an errored match silently,
    or signals the match's task exactly once: alone, followed by returning the match itself to
    the pool (the short-circuit, holding the same matches), or preceded by returning the old
    `lowestMatchOutsideResults`. -/
theorem startComparePipeline_cases (s : CompareState) (d : DocumentMatch) :
    (d.err.isSome ∧ startComparePipeline hc s d = (s, [])) ∨
      (d.err = none ∧ ((startComparePipeline hc s d).2 = [.signal] ∨
        ((startComparePipeline hc s d).2 = [.signal, .put d] ∧ (startComparePipeline hc s d).1.held = s.held) ∨
        ∃ l, s.lowest = some l ∧ (startComparePipeline hc s d).2 = [.put l, .signal])) := by
  have hstore : ∀ s : CompareState, (storeMatch hc s d).2 = [.signal] ∨
      ∃ l, s.lowest = some l ∧ (storeMatch hc s d).2 = [.put l, .signal] := by
    intro s
    dsimp only [storeMatch]
    split
    · exact .inl rfl
    · exact .inl rfl
    · rename_i l _ hl
      split
      · exact .inr ⟨l, hl, rfl⟩
      · exact .inl rfl
  have hskip : ∀ s : CompareState, (skipOrStore hc s d).2 = [.signal] ∨
      ((skipOrStore hc s d).2 = [.signal, .put d] ∧ (skipOrStore hc s d).1.held = s.held) ∨
      ∃ l, s.lowest = some l ∧ (skipOrStore hc s d).2 = [.put l, .signal] := by
    intro s
    unfold skipOrStore
    split
    · split
      · exact .inr (.inl ⟨rfl, rfl⟩)
      · rcases hstore s with h | h
        · exact .inl h
        · exact .inr (.inr h)
    · rcases hstore s with h | h
      · exact .inl h
      · exact .inr (.inr h)
  unfold startComparePipeline
  by_cases herr : d.err.isSome
  · exact .inl ⟨herr, by simp [herr]⟩
  · refine .inr ⟨Option.not_isSome_iff_eq_none.mp herr, ?_⟩
    simp only [herr, Bool.false_eq_true, if_false]
    split
    · split
      · exact .inl rfl
      · exact hskip _
    · exact hskip s

/-! ### Nothing held is lost -/

@[simp] theorem puts_nil : puts [] = [] := rfl

@[simp] theorem puts_cons_signal (es : List Effect) : puts (.signal :: es) = puts es := rfl

@[simp] theorem puts_cons_put (d : DocumentMatch) (es : List Effect) :
    puts (.put d :: es) = d :: puts es := rfl

theorem storeMatch_held (s : CompareState) (d : DocumentMatch) :
    (storeMatch hc s d).1.held ++ puts (storeMatch hc s d).2 <+~ d :: s.held := by
  have hp := addNotExceedingSize_perm (o := hc.sort) s.store d (goInt (hc.size + hc.skip))
  dsimp only [storeMatch]
  split
  · rename_i hr
    rw [hr] at hp
    simpa [CompareState.held] using (hp.append_right s.lowest.toList).subperm
  · rename_i r hr hl
    rw [hr] at hp
    simpa [CompareState.held, hl] using hp.subperm
  · rename_i r l hr hl
    rw [hr] at hp
    split
    · simpa [CompareState.held, hl] using (hp.append_right [l]).subperm
    · have hsub : (addNotExceedingSize hc.sort s.store d (goInt (hc.size + hc.skip))).1 ++ [l] <+
          (addNotExceedingSize hc.sort s.store d (goInt (hc.size + hc.skip))).1 ++ [r] ++ [l] :=
        List.Sublist.append_right (List.sublist_append_left _ _) _
      simpa [CompareState.held, hl] using hsub.subperm.trans (hp.append_right [l]).subperm

theorem skipOrStore_held (s : CompareState) (d : DocumentMatch) :
    (skipOrStore hc s d).1.held ++ puts (skipOrStore hc s d).2 <+~ d :: s.held := by
  unfold skipOrStore
  split
  · split
    · simpa using List.perm_append_singleton d s.held |>.subperm
    · exact storeMatch_held hc s d
  · exact storeMatch_held hc s d

/-- **Conservation.** What the compare stage holds after a match, with what it put back in the
    pool, is a sub-permutation of what it held before together with the match. -/
theorem startComparePipeline_held (s : CompareState) (d : DocumentMatch) :
    (startComparePipeline hc s d).1.held ++ puts (startComparePipeline hc s d).2 <+~ d :: s.held := by
  unfold startComparePipeline
  split
  · simpa using (List.sublist_cons_self d s.held).subperm
  · split
    · dsimp only
      split
      · simpa [CompareState.held] using (List.sublist_cons_self d s.held).subperm
      · exact skipOrStore_held hc _ d
    · exact skipOrStore_held hc s d

/-! ### The reversal loop of `finalizeResults` -/

/-- Go's index expression `rs[i]` on a slice: out of range, it panics (`none`). -/
def goIndex (rs : List DocumentMatch) (i : Int) : Option DocumentMatch :=
  if 0 ≤ i then rs[i.toNat]? else none

/-- `hc.results[i], hc.results[j] = hc.results[j], hc.results[i]`: both indices are read, then
    both elements written. -/
def swapResults (rs : List DocumentMatch) (i j : Int) : Option (List DocumentMatch) := do
  let a ← goIndex rs i
  let b ← goIndex rs j
  pure ((rs.set i.toNat b).set j.toNat a)

/-- The loop of `finalizeResults` from the indices `i, j` on:
    `for ; i < j; i, j = i+1, j-1 { swap }`. -/
def reverseResults (rs : List DocumentMatch) (i j : Int) : Option (List DocumentMatch) :=
  if i < j then
    match swapResults rs i j with
    | some rs' => reverseResults rs' (i + 1) (j - 1)
    | none => none
  else some rs
termination_by (j - i).toNat

/-- `finalizeResults` as the source writes it: `Final(skip)`, then, when `reverse` is set, the
    swap loop `for i, j := 0, len(hc.results)-1; i < j; i, j = i+1, j-1` over the results. -/
def finalizeResultsInPlace (s : CompareState) : Option (List DocumentMatch) :=
  (final s.store hc.skip).bind fun results =>
    if hc.reverse then reverseResults results 0 (results.length - 1) else some results

@[simp] theorem goIndex_natCast (rs : List DocumentMatch) (i : Nat) : goIndex rs i = rs[i]? := by
  simp [goIndex]

/-- One iteration swaps the two ends of the part still to reverse. -/
theorem swapResults_middle (a m c : List DocumentMatch) (x y : DocumentMatch) :
    swapResults (a ++ x :: m ++ y :: c) a.length ((a.length + m.length + 1 : Nat) : Int) =
      some (a ++ y :: m ++ x :: c) := by
  simp only [swapResults, goIndex_natCast, Int.toNat_natCast]
  simp (disch := omega) [List.getElem?_append_right, List.set_append_right, Nat.add_assoc,
    List.getElem?_cons_zero]

/-- The loop reverses the part of the slice between its two indices, and leaves the rest. -/
theorem reverseResults_middle (n : Nat) : ∀ (a m c : List DocumentMatch), m.length = n →
    reverseResults (a ++ m ++ c) a.length (a.length + m.length - 1) =
      some (a ++ m.reverse ++ c) := by
  induction n using Nat.strong_induction_on with
  | _ n ih =>
    intro a m c hn
    rcases m with _ | ⟨x, m⟩
    · rw [reverseResults, if_neg (by simp)]; simp
    rcases List.eq_nil_or_concat m with rfl | ⟨m, y, rfl⟩
    · rw [reverseResults, if_neg (by simp)]; simp
    -- the loop swaps the ends `x` and `y`, and goes on over `m`
    rw [List.concat_eq_append] at hn ⊢
    have hj : (a.length : Int) + (x :: (m ++ [y])).length - 1 =
        ((a.length + m.length + 1 : Nat) : Int) := by
      simp; omega
    rw [reverseResults, if_pos (by rw [hj]; omega), hj,
      show a ++ x :: (m ++ [y]) ++ c = a ++ x :: m ++ y :: c by simp, swapResults_middle]
    calc reverseResults (a ++ y :: m ++ x :: c) (a.length + 1)
          (((a.length + m.length + 1 : Nat) : Int) - 1)
        _ = reverseResults (a ++ [y] ++ m ++ x :: c) (a ++ [y]).length
              ((a ++ [y]).length + m.length - 1) := by
          congr 1 <;> simp; omega
        _ = some (a ++ [y] ++ m.reverse ++ x :: c) := ih m.length (by simp at hn; omega) _ _ _ rfl
        _ = some (a ++ (x :: (m ++ [y])).reverse ++ c) := by simp

/-- **The swap loop of `finalizeResults` reverses the results.**  For every store and skip, the
    loop never indexes out of range, and it leaves the results reversed, the middle one of an odd
    number in place: the source's `finalizeResults` is `finalizeResults`, and panics exactly
    when `Final` does. -/
theorem finalizeResultsInPlace_eq (s : CompareState) :
    finalizeResultsInPlace hc s = finalizeResults hc s := by
  unfold finalizeResultsInPlace finalizeResults
  cases final s.store hc.skip with
  | none => rfl
  | some results =>
    by_cases hr : hc.reverse
    · simpa [hr] using reverseResults_middle _ [] results [] rfl
    · simp [hr]

end Bluge.Collector
