import Bluge.Search.Match

namespace Bluge.Collector

open Bluge.Search
open scoped List

/-!
# Collector — the bounded store

`collectorStore` is an interface (`AddNotExceedingSize`, `Final`) with two implementations, a
slice and a heap, that are not part of the source.  The collector's claims assume only the
interface's contract, so this file models the contract: the store is a list kept in `compare`
order; adding past the bound removes and returns the last (worst) element; `Final(skip)` drops
the first `skip`.

* `addNotExceedingSize` — the contract of `AddNotExceedingSize`.
* `addNotExceedingSize_perm` — nothing is lost: the kept list and the removed match are a
  permutation of the old store with the new match.
* `addNotExceedingSize_fst` — from a store within the bound, adding keeps the first `size`
  elements of the ordered insertion; with `take_orderedInsert_take` this makes a run of adds a
  truncated insertion sort.
* `eq_of_perm_of_strictOn` — under a comparison that is strict on the matches, a sorted
  permutation is unique: "the matches sorted ascending by `Compare`" is well defined.
-/

variable {o : SortOrder}

/-! ### Sorted lists under a sort order -/

/-- A comparison that is strict on a list stays strict on any sub-permutation of it. -/
theorem strictOn_of_subperm {l l' : List DocumentMatch} (h : o.StrictOn l)
    (hs : l' <+~ l) : o.StrictOn l' := by
  obtain ⟨m, hm, hsub⟩ := hs
  exact (hm.pairwise_iff fun h' => (SortOrder.compare_eq_zero_comm.not.mp h')).mp (h.sublist hsub)

/-- A list sorted by `le` on which the comparison is strict is sorted by `lt`. -/
theorem sorted_lt_of_strictOn {l : List DocumentMatch} (hs : l.Sorted o.le) (h : o.StrictOn l) :
    l.Sorted o.lt :=
  (hs.and h).imp fun ⟨hle, hne⟩ => lt_of_le_of_ne hle hne

/-- Two sorted permutations of one list of matches, on which the comparison is strict, agree. -/
theorem eq_of_perm_of_strictOn {l s : List DocumentMatch} (hl : o.StrictOn l) (hp : s ~ l)
    (hs : s.Sorted o.lt) : l.insertionSort o.le = s :=
  List.eq_of_perm_of_sorted ((List.perm_insertionSort _ l).trans hp.symm)
    (sorted_lt_of_strictOn (List.sorted_insertionSort _ l)
      (strictOn_of_subperm hl (List.perm_insertionSort _ l).subperm)) hs

/-- Inserting a match that sorts after everything appends it. -/
theorem orderedInsert_of_forall_lt {l : List DocumentMatch} {d : DocumentMatch}
    (h : ∀ x ∈ l, o.lt x d) : l.orderedInsert o.le d = l ++ [d] := by
  induction l with
  | nil => rfl
  | cons x xs ih =>
    have hx : ¬ o.le d x := fun hle =>
      absurd (SortOrder.compare_neg_iff.mp (h x (by simp))) (not_lt.mpr hle)
    simp only [List.orderedInsert, hx, if_false, List.cons_append,
      ih fun y hy => h y (List.mem_cons_of_mem _ hy)]

/-- Truncating before an ordered insertion does not change the truncated result. -/
theorem take_orderedInsert_take (k : Nat) (d : DocumentMatch) (l : List DocumentMatch) :
    ((l.take k).orderedInsert o.le d).take k = (l.orderedInsert o.le d).take k := by
  induction l generalizing k with
  | nil => simp
  | cons x xs ih =>
    cases k with
    | zero => simp
    | succ k =>
      by_cases h : o.le d x
      · simp only [List.take_succ_cons, List.orderedInsert, h, if_true]
        cases k <;> simp [List.take_take]
      · simp only [List.take_succ_cons, List.orderedInsert, h, if_false, ih]

/-! ### The store contract -/

/-- Modelled from the spec: `collectorStore.AddNotExceedingSize`.  "Add the document, and if the
    new store size exceeds the provided size the last element is removed and returned.  If the
    size has not been exceeded, nil is returned." -/
def addNotExceedingSize (o : SortOrder) (store : List DocumentMatch) (doc : DocumentMatch)
    (size : Int) : List DocumentMatch × Option DocumentMatch :=
  let s := store.orderedInsert o.le doc
  if size < s.length then (s.dropLast, s.getLast?) else (s, none)

/-- Modelled from the spec: `collectorStore.Final(skip, fixup)` — the stored documents in
    `compare` order, without the first `skip`.  A negative `skip` panics (`none`): the slice store
    indexes `c.slice[skip]`, and the heap store pops more documents than it holds.  The
    collector's `fixup` (`doc.Complete(nil)`) changes no field the model tracks. -/
def final (store : List DocumentMatch) (skip : Int) : Option (List DocumentMatch) :=
  if skip < 0 then none else some (store.drop skip.toNat)

@[simp] theorem final_of_nonneg (store : List DocumentMatch) {skip : Int} (h : 0 ≤ skip) :
    final store skip = some (store.drop skip.toNat) := if_neg (not_lt.mpr h)

/-- Below the bound the match is inserted and nothing is removed. -/
theorem addNotExceedingSize_of_le {store : List DocumentMatch} (doc : DocumentMatch) {size : Int}
    (h : store.length + 1 ≤ size) :
    addNotExceedingSize o store doc size = (store.orderedInsert o.le doc, none) := by
  simp only [addNotExceedingSize, List.orderedInsert_length]
  rw [if_neg (by push_cast; omega)]

/-- Past the bound the insertion's last element is removed and returned. -/
theorem addNotExceedingSize_of_lt {store : List DocumentMatch} (doc : DocumentMatch) {size : Int}
    (h : size < store.length + 1) :
    addNotExceedingSize o store doc size =
      ((store.orderedInsert o.le doc).dropLast, (store.orderedInsert o.le doc).getLast?) := by
  simp only [addNotExceedingSize, List.orderedInsert_length]
  rw [if_pos (by push_cast; omega)]

theorem orderedInsert_ne_nil (store : List DocumentMatch) (doc : DocumentMatch) :
    store.orderedInsert o.le doc ≠ [] := by
  simp [← List.length_pos, List.orderedInsert_length]

/-- An add removes nothing exactly when the insertion stays within the bound. -/
theorem addNotExceedingSize_snd_eq_none (store : List DocumentMatch) (doc : DocumentMatch)
    (size : Int) : (addNotExceedingSize o store doc size).2 = none ↔ store.length + 1 ≤ size := by
  rcases lt_or_le size (store.length + 1) with h | h
  · simp [addNotExceedingSize_of_lt doc h, List.getLast?_eq_getLast _ (orderedInsert_ne_nil _ _),
      not_le.mpr h]
  · simp [addNotExceedingSize_of_le doc h, h]

/-- Nothing is lost by an add: kept and removed together are the old store with `doc`. -/
theorem addNotExceedingSize_perm (store : List DocumentMatch) (doc : DocumentMatch) (size : Int) :
    (addNotExceedingSize o store doc size).1 ++ (addNotExceedingSize o store doc size).2.toList
      ~ doc :: store := by
  rcases lt_or_le size (store.length + 1) with h | h
  · rw [addNotExceedingSize_of_lt doc h, List.getLast?_eq_getLast _ (orderedInsert_ne_nil _ _),
      Option.toList_some, List.dropLast_append_getLast]
    exact List.perm_orderedInsert _ _ _
  · simpa [addNotExceedingSize_of_le doc h] using List.perm_orderedInsert _ _ _

/-- From a store within the bound, the kept list is the insertion truncated to the bound. -/
theorem addNotExceedingSize_fst {store : List DocumentMatch} (doc : DocumentMatch) {size : Int}
    (h : store.length ≤ size.toNat) :
    (addNotExceedingSize o store doc size).1 = (store.orderedInsert o.le doc).take size.toNat := by
  have hlen := List.orderedInsert_length o.le store doc
  rcases lt_or_le size (store.length + 1) with hs | hs
  · simp only [addNotExceedingSize_of_lt doc hs, List.dropLast_eq_take, hlen]
    congr 1
    omega
  · rw [addNotExceedingSize_of_le doc hs, List.take_of_length_le]
    omega

/-- Adding keeps the store sorted. -/
theorem addNotExceedingSize_sorted {store : List DocumentMatch} (doc : DocumentMatch) (size : Int)
    (h : store.Sorted o.le) : (addNotExceedingSize o store doc size).1.Sorted o.le := by
  have hs := h.orderedInsert doc
  rcases lt_or_le size (store.length + 1) with hl | hl
  · rw [addNotExceedingSize_of_lt doc hl]
    exact hs.sublist (List.dropLast_sublist _)
  · rwa [addNotExceedingSize_of_le doc hl]

/-- The removed match sorts no earlier than anything kept. -/
theorem addNotExceedingSize_removed_max {store : List DocumentMatch} {doc r : DocumentMatch}
    {size : Int} (h : store.Sorted o.le) (hr : (addNotExceedingSize o store doc size).2 = some r) :
    ∀ x ∈ (addNotExceedingSize o store doc size).1, o.le x r := by
  have hs := h.orderedInsert doc
  rcases lt_or_le size (store.length + 1) with hl | hl
  · rw [addNotExceedingSize_of_lt doc hl] at hr ⊢
    rw [← List.dropLast_append_getLast? r hr, List.Sorted, List.pairwise_append] at hs
    exact fun x hx => hs.2.2 x hx r (List.mem_singleton_self r)
  · simp [addNotExceedingSize_of_le doc hl] at hr

end Bluge.Collector
