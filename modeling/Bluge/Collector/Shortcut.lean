import Bluge.Collector.TopN

namespace Bluge.Collector

open Bluge.Search
open scoped List

/-!
# Collector — the `lowestMatchOutsideResults` short-circuit is sound

`startComparePipeline` remembers the best match it has evicted from the store and drops, with
one comparison, every later match that sorts no earlier.  The comment calls this an
optimisation: "with this one comparison, we can avoid all heap operations if this hit would have
been added and then immediately removed".  This file proves that it is one.

* `plainCompareDoc` — the compare step the short-circuit optimises: the same search-after
  filter, then always `AddNotExceedingSize(d, size+skip)`.
* `LowestInv` — the store is sorted and within the bound, and once `lowestMatchOutsideResults`
  is set the store is full and everything in it sorts strictly before it.
* `startComparePipeline_inv` — one iteration keeps `LowestInv` and stores what the plain step stores;
  `compareRun_inv` is the same for a whole run.
* `lowestMatchOutsideResults_invariant` — after every run on which `Compare` is strict, the
  store equals the plain step's, and `lowestMatchOutsideResults` is unset or sits above a full
  store of `max(size+skip, 0)` matches.
-/

variable (hc : TopNCollector)

/-- The compare step without the short-circuit: the search-after filter, then always
    `AddNotExceedingSize(d, hc.size+hc.skip)`. -/
def plainCompareDoc (store : List DocumentMatch) (d : DocumentMatch) : List DocumentMatch :=
  if d.err.isSome then store
  else match hc.searchAfter with
    | some sa =>
      if hc.sort.compare d { sa with hitNumber := d.hitNumber } ≤ 0 then store
      else (addNotExceedingSize hc.sort store d (goInt (hc.size + hc.skip))).1
    | none => (addNotExceedingSize hc.sort store d (goInt (hc.size + hc.skip))).1

/-- The plain step's store after receiving `ds` in this order. -/
def plainRun (ds : List DocumentMatch) : List DocumentMatch := ds.foldl (plainCompareDoc hc) []

/-- The invariant behind the short-circuit. -/
structure LowestInv (s : CompareState) : Prop where
  sorted : s.store.Sorted hc.sort.le
  length_le : s.store.length ≤ (goInt (hc.size + hc.skip)).toNat
  full : ∀ l, s.lowest = some l → s.store.length = (goInt (hc.size + hc.skip)).toNat
  below : ∀ l, s.lowest = some l → ∀ x ∈ s.store, hc.sort.lt x l
  afterKey : s.searchAfter.map (·.sortValue) = hc.searchAfter.map (·.sortValue)

theorem lowestInv_init : LowestInv hc hc.initCompare :=
  ⟨List.sorted_nil, by simp [TopNCollector.initCompare], by simp [TopNCollector.initCompare],
    by simp [TopNCollector.initCompare], rfl⟩

variable {hc}

/-- A removed match sorts strictly after everything the add kept. -/
theorem lt_removed {s : CompareState} {d r : DocumentMatch} (hi : LowestInv hc s)
    (hstrict : hc.sort.StrictOn (d :: s.store))
    (hr : (addNotExceedingSize hc.sort s.store d (goInt (hc.size + hc.skip))).2 = some r) :
    ∀ x ∈ (addNotExceedingSize hc.sort s.store d (goInt (hc.size + hc.skip))).1, hc.sort.lt x r := by
  have hp := addNotExceedingSize_perm (o := hc.sort) s.store d (goInt (hc.size + hc.skip))
  rw [hr, Option.toList_some] at hp
  have hs := strictOn_of_subperm hstrict hp.subperm
  unfold SortOrder.StrictOn at hs
  rw [List.pairwise_append] at hs
  intro x hx
  exact lt_of_le_of_ne (addNotExceedingSize_removed_max hi.sorted hr x hx)
    (hs.2.2 x hx r (List.mem_singleton_self r))

/-- The store after `storeMatch`: the plain add's, with the invariant kept, provided the new
    match sorts before any `lowestMatchOutsideResults`. -/
theorem storeMatch_inv {s : CompareState} {d : DocumentMatch} (hi : LowestInv hc s)
    (hstrict : hc.sort.StrictOn (d :: s.store)) (hd : ∀ l, s.lowest = some l → hc.sort.lt d l) :
    LowestInv hc (storeMatch hc s d).1 ∧
      (storeMatch hc s d).1.store = (addNotExceedingSize hc.sort s.store d (goInt (hc.size + hc.skip))).1 := by
  have hp := addNotExceedingSize_perm (o := hc.sort) s.store d (goInt (hc.size + hc.skip))
  have hsorted := addNotExceedingSize_sorted d (goInt (hc.size + hc.skip)) hi.sorted
  -- a removed match leaves the store full, and becomes the lowest match
  have hlowest : ∀ r, (addNotExceedingSize hc.sort s.store d (goInt (hc.size + hc.skip))).2 = some r →
      LowestInv hc { s with store := (addNotExceedingSize hc.sort s.store d (goInt (hc.size + hc.skip))).1,
                            lowest := some r } := fun r hr => by
    have hlt := (addNotExceedingSize_snd_eq_none s.store d (goInt (hc.size + hc.skip))).not.mp
      (by rw [hr]; exact Option.some_ne_none r)
    have hlen := hp.length_eq
    simp only [hr, List.length_append, Option.toList_some, List.length_singleton,
      List.length_cons, List.length_nil] at hlen
    have hfull : (addNotExceedingSize hc.sort s.store d (goInt (hc.size + hc.skip))).1.length =
        (goInt (hc.size + hc.skip)).toNat := by
      have := hi.length_le
      omega
    exact ⟨hsorted, hfull.le, fun _ h => by cases h; exact hfull,
      fun _ h => by cases h; exact lt_removed hi hstrict hr, hi.afterKey⟩
  dsimp only [storeMatch]
  split
  · -- nothing removed: the store was not full, so no lowest match is set
    rename_i hr
    have hle := (addNotExceedingSize_snd_eq_none s.store d (goInt (hc.size + hc.skip))).mp hr
    have hlen := hp.length_eq
    simp only [hr, List.length_append, Option.toList_none, List.length_nil, List.length_cons,
      Nat.add_zero] at hlen
    have hnone : s.lowest = none := by
      cases hl : s.lowest with
      | none => rfl
      | some l => have := hi.full l hl; omega
    have hle' : (addNotExceedingSize hc.sort s.store d (goInt (hc.size + hc.skip))).1.length ≤
        (goInt (hc.size + hc.skip)).toNat := by omega
    exact ⟨⟨hsorted, hle', by simp [hnone], by simp [hnone], hi.afterKey⟩, rfl⟩
  · -- a removed match becomes the first lowest
    exact ⟨hlowest _ ‹_›, rfl⟩
  · rename_i r l hr hl
    split
    · -- the removed match sorts before the old lowest and replaces it
      exact ⟨hlowest r hr, rfl⟩
    · -- unreachable: the removed match is the new one or a stored one, all below the lowest
      rename_i hge
      exfalso
      rcases List.mem_cons.mp (hp.subset (by simp [hr]) : r ∈ d :: s.store) with rfl | hmem
      · exact hge (hd l hl)
      · exact hge (hi.below l hl r hmem)

/-- The short-circuit changes nothing the plain step would keep. -/
theorem skipOrStore_inv {s : CompareState} {d : DocumentMatch} (hi : LowestInv hc s)
    (hstrict : hc.sort.StrictOn (d :: s.held)) :
    LowestInv hc (skipOrStore hc s d).1 ∧
      (skipOrStore hc s d).1.store = (addNotExceedingSize hc.sort s.store d (goInt (hc.size + hc.skip))).1 := by
  have hstrict' : hc.sort.StrictOn (d :: s.store) :=
    hstrict.sublist (List.cons_sublist_cons.mpr (List.sublist_append_left _ _))
  unfold skipOrStore
  split
  · rename_i l hl
    split
    · -- `d` sorts no earlier than the lowest: the plain add would evict `d` itself
      rename_i hge
      refine ⟨hi, ?_⟩
      have hld : hc.sort.le l d := by
        have := SortOrder.compare_neg_iff (o := hc.sort) (i := l) (j := d)
        have := SortOrder.compare_eq_zero_comm (o := hc.sort) (i := l) (j := d)
        unfold SortOrder.le
        omega
      have hins := orderedInsert_of_forall_lt fun x hx =>
        SortOrder.compare_lt_of_lt_of_le (hi.below l hl x hx) hld
      have hfull := hi.full l hl
      rw [addNotExceedingSize_of_lt d (by omega), hins, List.dropLast_concat]
    · exact storeMatch_inv hi hstrict' fun l' h => by
        rw [hl] at h; cases h; exact lt_of_not_le ‹_›
  · rename_i hl
    exact storeMatch_inv hi hstrict' fun l' h => by rw [hl] at h; cases h

/-- **One step.** An iteration of the compare loop keeps `LowestInv` and leaves the store the
    plain step leaves. -/
theorem startComparePipeline_inv {s : CompareState} {d : DocumentMatch} (hi : LowestInv hc s)
    (hstrict : hc.sort.StrictOn (d :: s.held)) :
    LowestInv hc (startComparePipeline hc s d).1 ∧ (startComparePipeline hc s d).1.store = plainCompareDoc hc s.store d := by
  unfold startComparePipeline plainCompareDoc
  split
  · exact ⟨hi, rfl⟩
  · split
    · rename_i sa hsa
      -- the search-after key has the same sort values in the state and in the collector
      obtain ⟨sa0, hsa0, hkey⟩ : ∃ sa0, hc.searchAfter = some sa0 ∧ sa0.sortValue = sa.sortValue := by
        have := hi.afterKey
        rw [hsa] at this
        cases h : hc.searchAfter with
        | none => simp [h] at this
        | some sa0 => simp only [h, Option.map_some', Option.some.injEq] at this; exact ⟨sa0, rfl, this.symm⟩
      have hi' : LowestInv hc { s with searchAfter := some { sa with hitNumber := d.hitNumber } } :=
        ⟨hi.sorted, hi.length_le, hi.full, hi.below, by rw [hsa0]; simp [hkey]⟩
      dsimp only
      simp only [hsa0, compare_searchAfter]
      simp only [hkey]
      split_ifs
      · exact ⟨hi', rfl⟩
      · exact skipOrStore_inv hi' hstrict
    · rename_i hsa
      have hsa0 : hc.searchAfter = none := by
        have := hi.afterKey
        rw [hsa] at this
        cases h : hc.searchAfter with
        | none => rfl
        | some _ => simp [h] at this
      rw [hsa0]
      exact skipOrStore_inv hi hstrict

/-- **A whole run.** From a fresh collector, on any arrival order of matches on which `Compare`
    is strict, the compare stage keeps `LowestInv`, holds only matches it received, and its store
    is the plain step's. -/
theorem compareRun_inv (ds : List DocumentMatch) (h : hc.sort.StrictOn ds) :
    LowestInv hc (compareRun hc hc.initCompare ds) ∧
      (compareRun hc hc.initCompare ds).store = plainRun hc ds ∧
      (compareRun hc hc.initCompare ds).held <+~ ds := by
  induction ds using List.reverseRecOn with
  | nil => exact ⟨lowestInv_init hc, rfl, by simp [TopNCollector.initCompare, CompareState.held]⟩
  | append_singleton ds d ih =>
    have hds : hc.sort.StrictOn ds := h.sublist (List.sublist_append_left _ _)
    obtain ⟨hi, hplain, hheld⟩ := ih hds
    have hsub : d :: (compareRun hc hc.initCompare ds).held <+~ ds ++ [d] :=
      ((List.subperm_cons d).mpr hheld).trans (List.perm_append_singleton d ds).symm.subperm
    obtain ⟨hi', hstore⟩ := startComparePipeline_inv hi (strictOn_of_subperm h hsub)
    refine ⟨by rw [compareRun_append]; exact hi', ?_, ?_⟩
    · rw [compareRun_append, hstore, hplain, plainRun, plainRun, List.foldl_append]
      rfl
    · rw [compareRun_append]
      exact ((List.sublist_append_left _ _).subperm.trans (startComparePipeline_held hc _ d)).trans hsub

/-- **The short-circuit is sound.**  After every run of the compare stage on which `Compare` is
    strict, `lowestMatchOutsideResults` is unset, or the store holds exactly `max(size+skip, 0)`
    matches, all sorting strictly before it; and the store is the plain step's. -/
theorem lowestMatchOutsideResults_invariant (hc : TopNCollector) (ds : List DocumentMatch)
    (h : hc.sort.StrictOn ds) :
    ((compareRun hc hc.initCompare ds).lowest = none ∨
      ∃ l, (compareRun hc hc.initCompare ds).lowest = some l ∧
        (compareRun hc hc.initCompare ds).store.length = max (goInt (hc.size + hc.skip)) 0 ∧
        ∀ x ∈ (compareRun hc hc.initCompare ds).store, hc.sort.lt x l) ∧
      (compareRun hc hc.initCompare ds).store = plainRun hc ds := by
  obtain ⟨hi, hplain, -⟩ := compareRun_inv ds h
  refine ⟨?_, hplain⟩
  cases hl : (compareRun hc hc.initCompare ds).lowest with
  | none => exact .inl rfl
  | some l =>
    have hfull := hi.full l hl
    exact .inr ⟨l, rfl, by omega, hi.below l hl⟩

/-- Two matches of ranks 2 and 1 into a one-slot collector: the store holds what the plain
    step holds. -/
theorem lowestMatchOutsideResults_invariant_example :
    SortOrder.byRank.StrictOn [⟨1, 0, [[2]], 1, none⟩, ⟨2, 0, [[1]], 2, none⟩] ∧
      (compareRun ((NewTopNCollector 1 0 SortOrder.byRank).get rfl)
        ((NewTopNCollector 1 0 SortOrder.byRank).get rfl).initCompare
        [⟨1, 0, [[2]], 1, none⟩, ⟨2, 0, [[1]], 2, none⟩]).store =
        plainRun ((NewTopNCollector 1 0 SortOrder.byRank).get rfl)
          [⟨1, 0, [[2]], 1, none⟩, ⟨2, 0, [[1]], 2, none⟩] :=
  ⟨by decide, (lowestMatchOutsideResults_invariant _ _ (by decide)).2⟩

/-- `NewTopNCollector(-1, 0, sort)` is built (its capacity `size+skip+1` is 0).  After one
    match, `lowestMatchOutsideResults` is set while the store holds 0 matches, not
    `size+skip = -1`. -/
theorem lowest_set_with_negative_size :
    (NewTopNCollector (-1) 0 SortOrder.byRank).map (fun hc =>
        ((compareRun hc hc.initCompare [⟨1, 0, [[1]], 1, none⟩]).lowest,
          ((compareRun hc hc.initCompare [⟨1, 0, [[1]], 1, none⟩]).store.length : Int),
          hc.size + hc.skip)) =
      some (some ⟨1, 0, [[1]], 1, none⟩, 0, -1) := by
  decide

end Bluge.Collector
