import Bluge.Collector.Shortcut

namespace Bluge.Collector

open Bluge.Search
open scoped List

/-!
# Collector — what `finalizeResults` returns

With the short-circuit shown sound (`Shortcut.lean`), the compare stage stores what a plain run
of `AddNotExceedingSize` stores, which is a truncated insertion sort of the matches the
search-after filter lets through.  Under a comparison that is strict on the matches, sorted
permutations are unique, so the results do not depend on the order the stage received them.

* `afterPasses` — the search-after filter: sort values strictly greater than the key's; a
  match whose sort values equal the key is dropped whatever its hit number.
* `plainRun_eq` — the plain store after a run is the first `size+skip` of the sorted matches
  that pass the filter.
* `finalizeResults_eq_slice` — `NewTopNCollector(size, skip, sort)` returns ranks
  `skip .. skip+size-1` of the matches sorted by `Compare`, for every arrival order.
* `finalizeResults_searchAfter` — `NewTopNCollectorAfter(size, sort, after, reverse)` returns
  the first `size` matches sorting strictly after `after`, reversed when asked.
* `searchAfter_next_page` — feeding a page's last sort key back as `after` gives the next page,
  less the matches that tie with that key.
-/

variable {hc : TopNCollector}

/-- Whether the search-after filter lets `d` through. -/
def afterPasses (hc : TopNCollector) (d : DocumentMatch) : Bool :=
  match hc.searchAfter with
  | some sa => 0 < hc.sort.compareValues d.sortValue sa.sortValue
  | none => true

/-- The plain step on a match without error: the filter, then the add. -/
theorem plainCompareDoc_eq (store : List DocumentMatch) {d : DocumentMatch} (hd : d.err = none) :
    plainCompareDoc hc store d =
      if afterPasses hc d then (addNotExceedingSize hc.sort store d (goInt (hc.size + hc.skip))).1
      else store := by
  unfold plainCompareDoc afterPasses
  simp only [hd, Option.isSome_none, Bool.false_eq_true, if_false]
  cases hc.searchAfter with
  | none => simp
  | some sa =>
    simp only [compare_searchAfter]
    by_cases h : 0 < hc.sort.compareValues d.sortValue sa.sortValue
    · simp [h, not_le.mpr h]
    · simp [h, le_of_not_lt h]

/-- **The plain run sorts.** The plain store after a run is the first `size+skip` of the
    insertion-sorted matches that pass the search-after filter. -/
theorem plainRun_eq (ds : List DocumentMatch) (herr : ∀ d ∈ ds, d.err = none) :
    plainRun hc ds = ((ds.filter (afterPasses hc)).reverse.insertionSort hc.sort.le).take
      (goInt (hc.size + hc.skip)).toNat := by
  induction ds using List.reverseRecOn with
  | nil => simp [plainRun]
  | append_singleton ds d ih =>
    have hprev := ih fun x hx => herr x (List.mem_append_left _ hx)
    rw [plainRun, List.foldl_append, ← plainRun, hprev, List.foldl_cons, List.foldl_nil,
      plainCompareDoc_eq _ (herr d (by simp)), List.filter_append]
    by_cases hp : afterPasses hc d
    · rw [if_pos hp, addNotExceedingSize_fst d (List.length_take_le _ _), take_orderedInsert_take]
      simp [hp, List.insertionSort]
    · simp [hp]

/-- For any collector, on matches without error on which `Compare` is strict, the results are
    `Final(skip)` of the first `size+skip` of any sorted permutation of the matches that pass the
    search-after filter, reversed when `reverse` is set. -/
theorem finalizeResults_compareRun (ds : List DocumentMatch) (herr : ∀ d ∈ ds, d.err = none)
    (hstrict : hc.sort.StrictOn ds) (sorted : List DocumentMatch)
    (hperm : sorted ~ ds.filter (afterPasses hc)) (hsorted : sorted.Sorted hc.sort.lt) :
    finalizeResults hc (compareRun hc hc.initCompare ds) =
      (final (sorted.take (goInt (hc.size + hc.skip)).toNat) hc.skip).map fun results =>
        if hc.reverse then results.reverse else results := by
  have hrev : sorted ~ (ds.filter (afterPasses hc)).reverse := hperm.trans (List.reverse_perm _).symm
  have hstrict' : hc.sort.StrictOn (ds.filter (afterPasses hc)).reverse :=
    strictOn_of_subperm hstrict ((List.reverse_perm _).subperm.trans (List.filter_sublist _).subperm)
  rw [finalizeResults, (compareRun_inv ds hstrict).2.1, plainRun_eq ds herr,
    eq_of_perm_of_strictOn hstrict' hrev hsorted]

/-! ### `NewTopNCollector` -/

/-- **Top-N is a slice of the sorted matches.** A collector built by
    `NewTopNCollector(size, skip, sort)` over matches without error and with pairwise distinct
    hit numbers, received in any order, returns ranks `skip .. skip+size-1` (those that exist)
    of the matches sorted ascending by `Compare`. -/
theorem finalizeResults_eq_slice (size skip : Int) (hsize : 0 ≤ size ∧ size < 2 ^ 63)
    (hskip : 0 ≤ skip ∧ skip < 2 ^ 63) (sort : SortOrder) (hc : TopNCollector)
    (h : NewTopNCollector size skip sort = some hc) (ds : List DocumentMatch)
    (herr : ∀ d ∈ ds, d.err = none) (hhit : (ds.map (·.hitNumber)).Nodup)
    (sorted : List DocumentMatch) (hperm : sorted ~ ds) (hsorted : sorted.Sorted sort.lt) :
    finalizeResults hc (compareRun hc hc.initCompare ds) =
      some ((sorted.drop skip.toNat).take size.toNat) := by
  have hbound := goInt_size_add_skip hsize hskip h
  obtain ⟨-, hsz, hsk, hsort, hrev, hafter⟩ := newTopNCollector_eq_some h
  subst hsort
  have hpass : ds.filter (afterPasses hc) = ds := List.filter_eq_self.mpr fun d _ => by
    simp [afterPasses, hafter]
  rw [finalizeResults_compareRun ds herr (SortOrder.strictOn_of_hitNumber_nodup hhit) sorted
    (hpass.symm ▸ hperm) hsorted, hbound, hsk, final_of_nonneg _ hskip.1]
  simp only [hrev, Bool.false_eq_true, if_false, Option.map_some', List.drop_take]
  congr 2
  omega

/-- The two-of-four example: `NewTopNCollector(2, 1, byRank)` over ranks 4, 1, 3, 2 returns
    the matches of rank 2 and 3. -/
theorem finalizeResults_eq_slice_example :
    (0 ≤ (2 : Int) ∧ (2 : Int) < 2 ^ 63) ∧
      finalizeResults ((NewTopNCollector 2 1 SortOrder.byRank).get rfl)
        (compareRun ((NewTopNCollector 2 1 SortOrder.byRank).get rfl)
          ((NewTopNCollector 2 1 SortOrder.byRank).get rfl).initCompare
          [⟨1, 0, [[4]], 1, none⟩, ⟨2, 0, [[1]], 2, none⟩, ⟨3, 0, [[3]], 3, none⟩,
            ⟨4, 0, [[2]], 4, none⟩]) = some [⟨4, 0, [[2]], 4, none⟩, ⟨3, 0, [[3]], 3, none⟩] :=
  ⟨⟨by decide, by decide⟩,
    finalizeResults_eq_slice 2 1 ⟨by decide, by decide⟩ ⟨by decide, by decide⟩ SortOrder.byRank _
      (Option.some_get _).symm _ (by decide) (by decide)
      [⟨2, 0, [[1]], 2, none⟩, ⟨4, 0, [[2]], 4, none⟩, ⟨3, 0, [[3]], 3, none⟩,
        ⟨1, 0, [[4]], 1, none⟩] (by decide) (by decide)⟩

/-! ### `NewTopNCollectorAfter` -/

/-- A collector built by `NewTopNCollectorAfter` is a `newTopNCollector` with no skip and the
    search-after key. -/
theorem newTopNCollectorAfter_eq_some {size : Int} {sort : SortOrder} {after : List Bytes}
    {reverse : Bool} (h : NewTopNCollectorAfter size sort after reverse = some hc) :
    ∃ hc0, newTopNCollector size 0 sort reverse = some hc0 ∧
      hc = { hc0 with searchAfter := some { ptr := 0, sortValue := after } } := by
  simp only [NewTopNCollectorAfter, Option.map_eq_some'] at h
  obtain ⟨hc0, h0, rfl⟩ := h
  exact ⟨hc0, h0, rfl⟩

/-- The results of a collector built by `NewTopNCollectorAfter(size, sort, after, reverse)`:
    the first `size` of any sorted permutation of the matches whose sort values compare strictly
    greater than `after`, reversed when `reverse` is set. -/
theorem finalizeResults_after {size : Int} (hsize : 0 ≤ size ∧ size < 2 ^ 63) {sort : SortOrder}
    {after : List Bytes} {reverse : Bool} (h : NewTopNCollectorAfter size sort after reverse = some hc)
    {ds : List DocumentMatch} (herr : ∀ d ∈ ds, d.err = none) (hhit : (ds.map (·.hitNumber)).Nodup)
    {sorted : List DocumentMatch}
    (hperm : sorted ~ ds.filter fun d => 0 < sort.compareValues d.sortValue after)
    (hsorted : sorted.Sorted sort.lt) :
    finalizeResults hc (compareRun hc hc.initCompare ds) =
      some (if reverse then (sorted.take size.toNat).reverse else sorted.take size.toNat) := by
  obtain ⟨hc0, h0, rfl⟩ := newTopNCollectorAfter_eq_some h
  have hbound := goInt_size_add_skip hsize ⟨le_refl 0, by omega⟩ h0
  obtain ⟨-, -, hsk, hsort, hrev, -⟩ := newTopNCollector_eq_some h0
  subst hsort
  rw [@finalizeResults_compareRun { hc0 with searchAfter := some { ptr := 0, sortValue := after } }
    ds herr (SortOrder.strictOn_of_hitNumber_nodup hhit) sorted hperm hsorted]
  simp only [hsk, Int.add_zero] at hbound
  simp only [hbound, hsk, hrev, final_of_nonneg _ (le_refl 0), Int.toNat_zero, List.drop_zero,
    Int.add_zero, Option.map_some']

/-- **Search-after.** A collector built by `NewTopNCollectorAfter(size, sort, after, reverse)`
    over matches without error and with pairwise distinct hit numbers, received in any order,
    returns the first `size` matches in `Compare` order among those whose sort values compare
    strictly greater than `after` (so a match whose sort values equal `after` is excluded
    whatever its hit number), reversed when `reverse` is set. -/
theorem finalizeResults_searchAfter (size : Int) (hsize : 0 ≤ size ∧ size < 2 ^ 63)
    (sort : SortOrder) (after : List Bytes) (reverse : Bool) (hc : TopNCollector)
    (h : NewTopNCollectorAfter size sort after reverse = some hc) (ds : List DocumentMatch)
    (herr : ∀ d ∈ ds, d.err = none) (hhit : (ds.map (·.hitNumber)).Nodup)
    (sorted : List DocumentMatch)
    (hperm : sorted ~ ds.filter fun d => 0 < sort.compareValues d.sortValue after)
    (hsorted : sorted.Sorted sort.lt) :
    finalizeResults hc (compareRun hc hc.initCompare ds) =
      some (if reverse then (sorted.take size.toNat).reverse else sorted.take size.toNat) :=
  finalizeResults_after hsize h herr hhit hperm hsorted

/-- Ranks 1, 2, 2, 3, 4 after rank 2, two per page, reversed: the ranks 4 and 3; both rank-2
    matches are skipped. -/
theorem finalizeResults_searchAfter_example :
    (0 ≤ (2 : Int) ∧ (2 : Int) < 2 ^ 63) ∧
      finalizeResults ((NewTopNCollectorAfter 2 SortOrder.byRank [[2]] true).get rfl)
        (compareRun ((NewTopNCollectorAfter 2 SortOrder.byRank [[2]] true).get rfl)
          ((NewTopNCollectorAfter 2 SortOrder.byRank [[2]] true).get rfl).initCompare
          [⟨1, 0, [[3]], 1, none⟩, ⟨2, 0, [[2]], 2, none⟩, ⟨3, 0, [[1]], 3, none⟩,
            ⟨4, 0, [[4]], 4, none⟩, ⟨5, 0, [[2]], 5, none⟩]) =
        some [⟨4, 0, [[4]], 4, none⟩, ⟨1, 0, [[3]], 1, none⟩] :=
  ⟨⟨by decide, by decide⟩,
    finalizeResults_searchAfter 2 ⟨by decide, by decide⟩ SortOrder.byRank [[2]] true _
      (Option.some_get _).symm _ (by decide) (by decide)
      [⟨1, 0, [[3]], 1, none⟩, ⟨4, 0, [[4]], 4, none⟩] (by decide) (by decide)⟩

/-! ### Paging with search-after -/

/-- Against the last element of a sorted prefix, everything in the prefix has sort values no
    greater, and everything after it no smaller. -/
theorem compareValues_last {o : SortOrder} {l : List DocumentMatch} (hs : l.Sorted o.lt) {k : Nat}
    {last : DocumentMatch} (hlast : (l.take k).getLast? = some last) :
    (∀ x ∈ l.take k, o.compareValues x.sortValue last.sortValue ≤ 0) ∧
      ∀ y ∈ l.drop k, 0 ≤ o.compareValues y.sortValue last.sortValue := by
  have hmem : last ∈ l.take k := List.mem_of_getLast?_eq_some hlast
  have hsplit := List.dropLast_append_getLast? last hlast
  have htake : (l.take k).Sorted o.lt := hs.sublist (List.take_sublist _ _)
  rw [← hsplit, List.Sorted, List.pairwise_append] at htake
  constructor
  · intro x hx
    rw [← hsplit, List.mem_append, List.mem_singleton] at hx
    rcases hx with hx | rfl
    · have := SortOrder.compare_nonpos_iff.mp (le_of_lt (htake.2.2 x hx last (List.mem_singleton_self _)))
      omega
    · exact le_of_eq (SortOrder.compareValues_self _)
  · intro y hy
    have hly := SortOrder.compare_nonpos_iff.mp (le_of_lt (hs.rel_of_mem_take_of_mem_drop hmem hy))
    have := o.compareValues_neg_iff y.sortValue last.sortValue
    omega

/-- Search-after on a sorted list of matches keeps exactly the matches past the prefix whose
    sort values differ from its last element's. -/
theorem filter_after_last {o : SortOrder} {l : List DocumentMatch} (hs : l.Sorted o.lt) {k : Nat}
    {last : DocumentMatch} (hlast : (l.take k).getLast? = some last) :
    l.filter (fun d => 0 < o.compareValues d.sortValue last.sortValue) =
      (l.drop k).filter fun d => o.compareValues d.sortValue last.sortValue ≠ 0 := by
  obtain ⟨hpre, hpost⟩ := compareValues_last hs hlast
  conv_lhs => rw [← List.take_append_drop k l]
  rw [List.filter_append, List.filter_eq_nil_iff.mpr fun x hx => by simpa using hpre x hx,
    List.nil_append]
  exact List.filter_congr fun y hy => by
    have := hpost y hy
    simp only [decide_eq_decide]
    omega

/-- **The next page, less the ties.** Let `page1` be the results of `NewTopNCollector(size, 0,
    sort)` and `last` its last element.  Then
    `NewTopNCollectorAfter(size, sort, last.SortValue, false)` over the same matches returns the
    first `size` of the matches at ranks `size` and beyond whose sort values differ from
    `last`'s; when no such match ties with `last`, that is exactly ranks `size .. 2*size-1`. -/
theorem searchAfter_next_page (size : Int) (hsize : 0 < size ∧ size < 2 ^ 63) (sort : SortOrder)
    (ds : List DocumentMatch) (herr : ∀ d ∈ ds, d.err = none) (hhit : (ds.map (·.hitNumber)).Nodup)
    (sorted : List DocumentMatch) (hperm : sorted ~ ds) (hsorted : sorted.Sorted sort.lt)
    (hc1 : TopNCollector) (h1 : NewTopNCollector size 0 sort = some hc1) (last : DocumentMatch)
    (hlast : (finalizeResults hc1 (compareRun hc1 hc1.initCompare ds)).bind List.getLast? = some last)
    (hc2 : TopNCollector) (h2 : NewTopNCollectorAfter size sort last.sortValue false = some hc2) :
    finalizeResults hc2 (compareRun hc2 hc2.initCompare ds) =
        some (((sorted.drop size.toNat).filter fun d =>
          sort.compareValues d.sortValue last.sortValue ≠ 0).take size.toNat) ∧
      ((∀ d ∈ sorted.drop size.toNat, sort.compareValues d.sortValue last.sortValue ≠ 0) →
        finalizeResults hc2 (compareRun hc2 hc2.initCompare ds) =
          some ((sorted.drop size.toNat).take size.toNat)) := by
  -- the first page is the first `size` sorted matches
  have hpage1 : finalizeResults hc1 (compareRun hc1 hc1.initCompare ds) =
      some (sorted.take size.toNat) := by
    have hbound := goInt_size_add_skip ⟨hsize.1.le, hsize.2⟩ ⟨le_refl 0, by omega⟩ h1
    obtain ⟨-, -, hsk, hsort, hrev, hafter⟩ := newTopNCollector_eq_some h1
    subst hsort
    have hpass : ds.filter (afterPasses hc1) = ds := List.filter_eq_self.mpr fun d _ => by
      simp [afterPasses, hafter]
    rw [finalizeResults_compareRun ds herr (SortOrder.strictOn_of_hitNumber_nodup hhit) sorted
      (hpass.symm ▸ hperm) hsorted, hbound, hsk, final_of_nonneg _ (le_refl 0)]
    simp [hrev]
  rw [hpage1, Option.some_bind] at hlast
  -- the second page filters the sorted matches by the last key
  have hpage2 := finalizeResults_after ⟨hsize.1.le, hsize.2⟩ h2 herr hhit
    ((hperm.filter _).trans (List.Perm.refl _)) (hsorted.filter _)
  rw [if_neg Bool.false_ne_true, filter_after_last hsorted hlast] at hpage2
  refine ⟨hpage2, fun hnotie => ?_⟩
  rw [hpage2, List.filter_eq_self.mpr fun d hd => by simpa using hnotie d hd]

/-- Ranks 1, 2, 2, 3, two per page: the first page ends with the first rank-2 match, and the
    page after its key holds only the rank-3 match; the second rank-2 match is on neither. -/
theorem searchAfter_next_page_example :
    (finalizeResults ((NewTopNCollector 2 0 SortOrder.byRank).get rfl)
        (compareRun ((NewTopNCollector 2 0 SortOrder.byRank).get rfl)
          ((NewTopNCollector 2 0 SortOrder.byRank).get rfl).initCompare
          [⟨1, 0, [[1]], 1, none⟩, ⟨2, 0, [[2]], 2, none⟩, ⟨3, 0, [[2]], 3, none⟩,
            ⟨4, 0, [[3]], 4, none⟩])).bind List.getLast? = some ⟨2, 0, [[2]], 2, none⟩ ∧
      finalizeResults ((NewTopNCollectorAfter 2 SortOrder.byRank [[2]] false).get rfl)
        (compareRun ((NewTopNCollectorAfter 2 SortOrder.byRank [[2]] false).get rfl)
          ((NewTopNCollectorAfter 2 SortOrder.byRank [[2]] false).get rfl).initCompare
          [⟨1, 0, [[1]], 1, none⟩, ⟨2, 0, [[2]], 2, none⟩, ⟨3, 0, [[2]], 3, none⟩,
            ⟨4, 0, [[3]], 4, none⟩]) = some [⟨4, 0, [[3]], 4, none⟩] :=
  ⟨by decide,
    (searchAfter_next_page 2 ⟨by decide, by decide⟩ SortOrder.byRank _ (by decide) (by decide)
      [⟨1, 0, [[1]], 1, none⟩, ⟨2, 0, [[2]], 2, none⟩, ⟨3, 0, [[2]], 3, none⟩,
        ⟨4, 0, [[3]], 4, none⟩] (by decide) (by decide)
      ((NewTopNCollector 2 0 SortOrder.byRank).get rfl) (Option.some_get _).symm
      ⟨2, 0, [[2]], 2, none⟩ (by decide)
      ((NewTopNCollectorAfter 2 SortOrder.byRank [[2]] false).get rfl)
      (Option.some_get _).symm).1.trans (by decide)⟩

/-- Two matches tie on rank 5, one per page.  The first page is the first match, but the page
    after its sort key is empty, where rank 1 of the sorted matches is the second match. -/
theorem searchAfter_skips_tied_match :
    (NewTopNCollector 1 0 SortOrder.byRank).bind (fun hc => finalizeResults hc
        (compareRun hc hc.initCompare [⟨1, 0, [[5]], 1, none⟩, ⟨2, 0, [[5]], 2, none⟩])) =
        some [⟨1, 0, [[5]], 1, none⟩] ∧
      (NewTopNCollectorAfter 1 SortOrder.byRank [[5]] false).bind (fun hc => finalizeResults hc
        (compareRun hc hc.initCompare [⟨1, 0, [[5]], 1, none⟩, ⟨2, 0, [[5]], 2, none⟩])) =
        some [] ∧
      SortOrder.byRank.lt ⟨1, 0, [[5]], 1, none⟩ ⟨2, 0, [[5]], 2, none⟩ := by
  decide

end Bluge.Collector
