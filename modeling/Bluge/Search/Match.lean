import Mathlib

namespace Bluge.Search

/-!
# Search — document matches and sort orders

The collector reads three things from the `search` package: the `DocumentMatch` record that
flows through its pipeline, the `SortOrder` that ranks matches, and the errors a search can
end with.  That package is not part of the source, so this file models the parts the collector
uses, after the spec (§4.5: "evaluate each sort term … into the match's sort key vector") and the
collector's own comment on `Compare` ("exact sort order matches use hit number to break tie").

* `SortOrder` — a comparison of sort-key vectors, carried together with the laws of a total
  preorder, so an ill-behaved sort order cannot be built; its `compute` and `fields`.
* `SortOrder.compare` — `SortOrder.Compare`: sort keys first, ties broken by ascending
  `HitNumber`.
* `compare_nonpos_trans`, `compare_neg_iff` — `compare` is again a total preorder, strict on
  matches with distinct hit numbers (`strictOn_of_hitNumber_nodup`).
-/

/-- A byte string (`[]byte`). -/
abbrev Bytes := List UInt8

/-- The errors a collection can end with: the context's `ctx.Err()` after cancellation, an
    error returned by a searcher's `Next`, or one returned by `LoadDocumentValues`. -/
inductive Error where
  | canceled
  | next (code : Nat)
  | load (code : Nat)
  deriving DecidableEq, Repr

/-- The fields of `search.DocumentMatch` that the collector reads or writes.  `ptr` is the
    identity of the (pooled) object: two values with the same `ptr` are one Go pointer. -/
structure DocumentMatch where
  ptr : Nat
  number : Nat := 0
  sortValue : List Bytes := []
  hitNumber : Int := 0
  err : Option Error := none
  deriving DecidableEq, Repr

/-- Modelled from the spec: `search.SortOrder`.  `compareValues` compares two sort-key vectors
    (lexicographically over the sort fields in bluge); it is a total preorder.  `compute` is
    `SortOrder.Compute`, the sort keys of a match from its loaded values; `fields` is
    `SortOrder.Fields`, the doc-value fields the sort needs. -/
structure SortOrder where
  compareValues : List Bytes → List Bytes → Int
  compute : DocumentMatch → List Bytes
  fields : List String
  compareValues_neg_iff : ∀ a b, compareValues a b < 0 ↔ 0 < compareValues b a
  compareValues_trans : ∀ a b c, compareValues a b ≤ 0 → compareValues b c ≤ 0 →
    compareValues a c ≤ 0

namespace SortOrder

variable (o : SortOrder)

/-- `SortOrder.Compare`: sort keys first; when they tie, the lower `HitNumber` sorts first. -/
def compare (i j : DocumentMatch) : Int :=
  let c := o.compareValues i.sortValue j.sortValue
  if c ≠ 0 then c
  else if i.hitNumber = j.hitNumber then 0
  else if i.hitNumber > j.hitNumber then 1
  else -1

/-- `i` sorts no later than `j`. -/
def le (i j : DocumentMatch) : Prop := o.compare i j ≤ 0

/-- `i` sorts strictly before `j`. -/
def lt (i j : DocumentMatch) : Prop := o.compare i j < 0

instance : DecidableRel o.le := fun i j => inferInstanceAs (Decidable (o.compare i j ≤ 0))

instance : DecidableRel o.lt := fun i j => inferInstanceAs (Decidable (o.compare i j < 0))

/-- The comparison is strict on a list of matches: no two entries compare equal. -/
def StrictOn (ds : List DocumentMatch) : Prop := ds.Pairwise fun a b => o.compare a b ≠ 0

instance : DecidablePred o.StrictOn := fun ds =>
  inferInstanceAs (Decidable (ds.Pairwise fun a b => o.compare a b ≠ 0))

/-! ### Laws of the sort-key comparison -/

variable {o}

theorem compareValues_self (a : List Bytes) : o.compareValues a a = 0 := by
  have h := o.compareValues_neg_iff a a
  by_contra hne
  rcases lt_or_gt_of_ne hne with hlt | hgt
  · exact absurd (h.mp hlt) (lt_asymm hlt)
  · exact absurd (h.mpr hgt) (lt_asymm hgt)

theorem compareValues_eq_zero_comm {a b : List Bytes} :
    o.compareValues a b = 0 ↔ o.compareValues b a = 0 := by
  have h1 := o.compareValues_neg_iff a b
  have h2 := o.compareValues_neg_iff b a
  omega

/-- Strict transitivity, first step strict. -/
theorem compareValues_lt_of_lt_of_le {a b c : List Bytes} (hab : o.compareValues a b < 0)
    (hbc : o.compareValues b c ≤ 0) : o.compareValues a c < 0 := by
  by_contra h
  have hca : o.compareValues c a ≤ 0 := by
    have := o.compareValues_neg_iff a c
    omega
  have hba := o.compareValues_trans b c a hbc hca
  have := o.compareValues_neg_iff a b
  omega

/-- Strict transitivity, second step strict. -/
theorem compareValues_lt_of_le_of_lt {a b c : List Bytes} (hab : o.compareValues a b ≤ 0)
    (hbc : o.compareValues b c < 0) : o.compareValues a c < 0 := by
  by_contra h
  have hca : o.compareValues c a ≤ 0 := by
    have := o.compareValues_neg_iff a c
    omega
  have hcb := o.compareValues_trans c a b hca hab
  have := o.compareValues_neg_iff b c
  omega

/-! ### Laws of `compare` -/

theorem compare_nonpos_iff {i j : DocumentMatch} :
    o.compare i j ≤ 0 ↔ o.compareValues i.sortValue j.sortValue < 0 ∨
      (o.compareValues i.sortValue j.sortValue = 0 ∧ i.hitNumber ≤ j.hitNumber) := by
  unfold compare
  by_cases hc : o.compareValues i.sortValue j.sortValue = 0
  · simp only [hc, ne_eq, not_true_eq_false, if_false, lt_irrefl, true_and, false_or]
    split_ifs <;> omega
  · simp only [hc, ne_eq, not_false_eq_true, if_true, false_and, or_false]
    omega

theorem compare_eq_zero_iff {i j : DocumentMatch} :
    o.compare i j = 0 ↔
      o.compareValues i.sortValue j.sortValue = 0 ∧ i.hitNumber = j.hitNumber := by
  unfold compare
  by_cases hc : o.compareValues i.sortValue j.sortValue = 0
  · simp only [hc, ne_eq, not_true_eq_false, if_false, true_and]
    split_ifs <;> simp_all
  · simp [hc]

theorem compare_neg_iff {i j : DocumentMatch} : o.compare i j < 0 ↔ 0 < o.compare j i := by
  unfold compare
  have hv := o.compareValues_neg_iff i.sortValue j.sortValue
  have hz : o.compareValues i.sortValue j.sortValue = 0 ↔
      o.compareValues j.sortValue i.sortValue = 0 := compareValues_eq_zero_comm
  by_cases hc : o.compareValues i.sortValue j.sortValue = 0
  · simp only [hc, ne_eq, not_true_eq_false, if_false, hz.mp hc]
    split_ifs <;> omega
  · have hc' : o.compareValues j.sortValue i.sortValue ≠ 0 := fun h => hc (hz.mpr h)
    simp only [ne_eq, hc, hc', not_false_eq_true, if_true]
    omega

theorem compare_eq_zero_comm {i j : DocumentMatch} : o.compare i j = 0 ↔ o.compare j i = 0 := by
  rw [compare_eq_zero_iff, compare_eq_zero_iff, compareValues_eq_zero_comm]
  exact and_congr_right fun _ => eq_comm

theorem compare_nonpos_total (i j : DocumentMatch) : o.compare i j ≤ 0 ∨ o.compare j i ≤ 0 := by
  have := (compare_neg_iff (o := o) (i := j) (j := i))
  omega

/-- `compare` is transitive as a preorder: lexicographic over (sort keys, hit number). -/
theorem compare_nonpos_trans {a b c : DocumentMatch} (hab : o.compare a b ≤ 0)
    (hbc : o.compare b c ≤ 0) : o.compare a c ≤ 0 := by
  rw [compare_nonpos_iff] at hab hbc ⊢
  rcases hab with hab | ⟨hab, hab'⟩
  · exact .inl (compareValues_lt_of_lt_of_le hab (by rcases hbc with h | ⟨h, -⟩ <;> omega))
  · rcases hbc with hbc | ⟨hbc, hbc'⟩
    · exact .inl (compareValues_lt_of_le_of_lt (by omega) hbc)
    · have hac := o.compareValues_trans _ _ _ (le_of_eq hab) (le_of_eq hbc)
      have hca := o.compareValues_trans _ _ _ (le_of_eq (compareValues_eq_zero_comm.mp hbc))
        (le_of_eq (compareValues_eq_zero_comm.mp hab))
      have := o.compareValues_neg_iff a.sortValue c.sortValue
      exact .inr ⟨by omega, le_trans hab' hbc'⟩

theorem compare_lt_of_lt_of_le {a b c : DocumentMatch} (hab : o.compare a b < 0)
    (hbc : o.compare b c ≤ 0) : o.compare a c < 0 := by
  by_contra h
  have hca : o.compare c a ≤ 0 := by
    have := compare_neg_iff (o := o) (i := a) (j := c)
    omega
  have := compare_nonpos_trans hbc hca
  have := compare_neg_iff (o := o) (i := a) (j := b)
  omega

instance : IsTotal DocumentMatch o.le := ⟨compare_nonpos_total⟩

instance : IsTrans DocumentMatch o.le := ⟨fun _ _ _ => compare_nonpos_trans⟩

instance : IsAntisymm DocumentMatch o.lt :=
  ⟨fun _ _ hab hba => absurd (compare_neg_iff.mp hab) (lt_asymm hba)⟩

/-! ### Sorting on one numeric key -/

/-- A sort on one numeric key of the sort values, ascending (a sort on one numeric field):
    `compute` and `fields` as the field's sort computes them. -/
def ofKey (key : List Bytes → Nat) (compute : DocumentMatch → List Bytes) (fields : List String) :
    SortOrder where
  compareValues a b := if key a < key b then -1 else if key a = key b then 0 else 1
  compute := compute
  fields := fields
  compareValues_neg_iff a b := by dsimp only; split_ifs <;> omega
  compareValues_trans a b c := by dsimp only; split_ifs <;> omega

/-- Ascending sort on a `rank` field whose value is the first byte of the first sort value;
    `compute` keeps the sort values a match already has. -/
def byRank : SortOrder :=
  ofKey (fun v => ((v.headD []).headD 0).toNat) (fun d => d.sortValue) ["rank"]

/-- Matches with pairwise distinct hit numbers never compare equal. -/
theorem strictOn_of_hitNumber_nodup {ds : List DocumentMatch}
    (h : (ds.map (·.hitNumber)).Nodup) : o.StrictOn ds := by
  unfold StrictOn
  rw [List.Nodup, List.pairwise_map] at h
  exact h.imp fun hne heq => hne (compare_eq_zero_iff.mp heq).2

end SortOrder

end Bluge.Search
