import Bluge.Collector.TopN

namespace Bluge.Collector

open Bluge.Search
open scoped List

/-!
# Collector — the compare stage and the pool it shares

`DocumentMatch` objects are pooled per search context (spec §5: "returned to the pool after the
compare-and-store stage or on eviction").  The compare goroutine puts a match back in two
places: the short-circuit puts the received match after signalling its task, and a new
`lowestMatchOutsideResults` puts the old one.  A recycled match that is still referenced would
be overwritten when the pool hands it out again.

The pool is the one of `Collect`'s `searchContext`: `searcher.Next(searchContext)` on the main
goroutine takes objects from it (`Get`), and the compare goroutine, started with the same
context, returns objects to it (`Put`), with no lock between them.  Objects are identified by
`ptr`.

* `PoolState`, `poolStep` — the pool with each `Get` and each compare iteration done at once, as
  a lock held across `Get` and `Put` would make them.
* `PoolInv`, `PoolReachable.inv` — there, the pool, the matches in flight and the matches the
  stage holds are pairwise distinct objects, and every held match's task has been signalled;
  `compare_puts_safe` — every `Put` returns an object that is in neither the store nor
  `lowestMatchOutsideResults`, not already in the pool, and whose task was signalled.
* `RacePool`, `raceStep` — the pool as the source shares it: `Put` is
  `p.avail = append(p.avail, d)`, whose write of `p.avail` is a step of its own, so a `Get` can
  fall between its read and its write.  `RaceReachable.flush` — when a `Get` waits for a `Put`
  in progress, the runs are those of `poolStep`; `pool_hands_out_stored_match` — without that
  wait, the write puts back an object that `Get` has just handed out, and the pool later hands
  out the object of a stored match.
-/

/-- The compare stage with the search context's `DocumentMatchPool`.  `inFlight` are the objects
    handed out and not yet through the compare stage; `signalled` the objects whose task the
    compare stage has signalled since they were last handed out. -/
structure PoolState where
  cs : CompareState
  pool : List Nat
  inFlight : List Nat
  signalled : List Nat
  deriving DecidableEq, Repr

/-- What can happen next: the pool hands out an object, a searcher allocates a fresh object
    (the pool is empty), or the compare stage receives a handed-out match. -/
inductive PoolEvent where
  | get
  | alloc (p : Nat)
  | compare (d : DocumentMatch)
  deriving DecidableEq, Repr

/-- The objects the compare stage holds. -/
def PoolState.heldPtrs (st : PoolState) : List Nat := st.cs.held.map (·.ptr)

/-- Carry out a compare iteration's effects in order: a signal marks the match's task as
    signalled, a `Put` pushes the object on the pool. -/
def applyEffects (d : DocumentMatch) : PoolState → List Effect → PoolState
  | st, [] => st
  | st, .signal :: es => applyEffects d { st with signalled := d.ptr :: st.signalled } es
  | st, .put x :: es => applyEffects d { st with pool := x.ptr :: st.pool } es

/-- One step.  `Get` pops the most recently returned object (the pool is a stack); a fresh
    object is one nothing references. -/
def poolStep (hc : TopNCollector) (st : PoolState) : PoolEvent → Option PoolState
  | .get =>
    match st.pool with
    | p :: rest =>
      some { st with pool := rest, inFlight := p :: st.inFlight,
                     signalled := st.signalled.filter (· ≠ p) }
    | [] => none
  | .alloc p =>
    if st.pool = [] ∧ p ∉ st.inFlight ∧ p ∉ st.heldPtrs then
      some { st with inFlight := p :: st.inFlight, signalled := st.signalled.filter (· ≠ p) }
    else none
  | .compare d =>
    if d.ptr ∈ st.inFlight then
      some (applyEffects d { st with cs := (startComparePipeline hc st.cs d).1,
                                     inFlight := st.inFlight.erase d.ptr } (startComparePipeline hc st.cs d).2)
    else none

/-- A fresh search context's pool of `n` preallocated objects. -/
def PoolState.init (hc : TopNCollector) (n : Nat) : PoolState :=
  ⟨hc.initCompare, List.range n, [], []⟩

/-- The states reachable from a fresh search context. -/
inductive PoolReachable (hc : TopNCollector) (n : Nat) : PoolState → Prop where
  | init : PoolReachable hc n (PoolState.init hc n)
  | step {st st' : PoolState} (e : PoolEvent) :
      PoolReachable hc n st → poolStep hc st e = some st' → PoolReachable hc n st'

/-- The pool's invariant. -/
structure PoolInv (st : PoolState) : Prop where
  nodup : (st.pool ++ st.inFlight ++ st.heldPtrs).Nodup
  held_signalled : ∀ x ∈ st.cs.held, x.ptr ∈ st.signalled
  inFlight_fresh : ∀ p ∈ st.inFlight, p ∉ st.signalled

/-- A `Put` of `x` is safe: `x` is in neither the store nor `lowestMatchOutsideResults`, not
    already in the pool, and its task has been signalled. -/
def PutSafe (cs : CompareState) (pool signalled : List Nat) (x : DocumentMatch) : Prop :=
  x.ptr ∉ cs.held.map (·.ptr) ∧ x.ptr ∉ pool ∧ x.ptr ∈ signalled

/-- Every `Put` among `effs`, carried out in order from `pool` and `signalled`, is safe. -/
def PutsSafe (cs : CompareState) (d : DocumentMatch) : List Nat → List Nat → List Effect → Prop
  | _, _, [] => True
  | pool, sig, .signal :: es => PutsSafe cs d pool (d.ptr :: sig) es
  | pool, sig, .put x :: es => PutSafe cs pool sig x ∧ PutsSafe cs d (x.ptr :: pool) sig es

variable {hc : TopNCollector}

/-! ### List facts -/

private theorem nodup_of_subperm {l l' : List Nat} (h : l <+~ l') (hn : l'.Nodup) : l.Nodup := by
  obtain ⟨m, hm, hs⟩ := h
  exact hm.nodup_iff.mp (hn.sublist hs)

private theorem subperm_map_ptr {l l' : List DocumentMatch} (h : l <+~ l') :
    l.map (·.ptr) <+~ l'.map (·.ptr) := by
  obtain ⟨m, hm, hs⟩ := h
  exact ⟨m.map (·.ptr), hm.map _, hs.map _⟩

/-- Rearranging a list of objects keeps it free of duplicates. -/
private theorem nodup_of_count {l l' : List Nat} (h : ∀ x, l.count x = l'.count x)
    (hn : l'.Nodup) : l.Nodup :=
  (List.perm_iff_count.mpr h).nodup_iff.mpr hn

/-- Moving a match out of flight into what the stage holds keeps the objects distinct. -/
private theorem nodup_move {a b h x : List Nat} {p : Nat} (hn : (a ++ b ++ h).Nodup) (hp : p ∈ b)
    (hx : x <+~ p :: h) : (a ++ b.erase p ++ x).Nodup := by
  have hb : a ++ b ++ h ~ a ++ (p :: b.erase p) ++ h :=
    ((List.perm_cons_erase hp).append_left a).append_right h
  refine nodup_of_subperm ((List.subperm_append_left _).mpr hx) (nodup_of_count (fun y => ?_)
    (hb.nodup_iff.mp hn))
  simp only [List.count_append, List.count_cons]
  omega

/-! ### The invariant along a run -/

theorem poolInv_init (n : Nat) : PoolInv (PoolState.init hc n) :=
  ⟨by simpa [PoolState.init, PoolState.heldPtrs, TopNCollector.initCompare, CompareState.held]
      using List.nodup_range n,
    by simp [PoolState.init, TopNCollector.initCompare, CompareState.held],
    by simp [PoolState.init]⟩

theorem poolInv_get {st : PoolState} {p : Nat} {rest : List Nat} (hi : PoolInv st)
    (hp : st.pool = p :: rest) :
    PoolInv { st with pool := rest, inFlight := p :: st.inFlight,
                      signalled := st.signalled.filter (· ≠ p) } := by
  have hn := hi.nodup
  rw [hp] at hn
  refine ⟨?_, fun x hx => ?_, fun q hq => ?_⟩
  · exact nodup_of_count (fun y => by
      simp only [List.count_append, List.count_cons, PoolState.heldPtrs]; omega) hn
  · have hne : x.ptr ≠ p := by
      intro h
      simp only [List.cons_append, List.nodup_cons, List.mem_append] at hn
      exact hn.1 (.inr (h ▸ List.mem_map_of_mem _ hx))
    simpa [hne] using hi.held_signalled x hx
  · simp only [List.mem_filter, decide_eq_true_eq, not_and, not_not]
    rcases List.mem_cons.mp hq with rfl | hq
    · exact fun _ => rfl
    · exact fun h => absurd h (hi.inFlight_fresh q hq)

theorem poolInv_alloc {st : PoolState} {p : Nat} (hi : PoolInv st) (hpool : st.pool = [])
    (hf : p ∉ st.inFlight) (hh : p ∉ st.heldPtrs) :
    PoolInv { st with inFlight := p :: st.inFlight, signalled := st.signalled.filter (· ≠ p) } := by
  have hn := hi.nodup
  rw [hpool] at hn ⊢
  refine ⟨?_, fun x hx => ?_, fun q hq => ?_⟩
  · simp only [List.nil_append, List.cons_append, List.nodup_cons, List.mem_append] at hn ⊢
    exact ⟨fun h => h.elim hf hh, hn⟩
  · have hne : x.ptr ≠ p := fun h => hh (h ▸ List.mem_map_of_mem _ hx)
    simpa [hne] using hi.held_signalled x hx
  · simp only [List.mem_filter, decide_eq_true_eq, not_and, not_not]
    rcases List.mem_cons.mp hq with rfl | hq
    · exact fun _ => rfl
    · exact fun h => absurd h (hi.inFlight_fresh q hq)

/-- **One compare iteration.** Receiving a handed-out match keeps the invariant, and every
    `Put` it makes is safe. -/
theorem poolInv_compare {st : PoolState} {d : DocumentMatch} (hi : PoolInv st)
    (hd : d.ptr ∈ st.inFlight) :
    PoolInv (applyEffects d { st with cs := (startComparePipeline hc st.cs d).1,
                                      inFlight := st.inFlight.erase d.ptr } (startComparePipeline hc st.cs d).2) ∧
      PutsSafe (startComparePipeline hc st.cs d).1 d st.pool st.signalled (startComparePipeline hc st.cs d).2 := by
  have hcons := startComparePipeline_held hc st.cs d
  have hptrs : ((startComparePipeline hc st.cs d).1.held ++ puts (startComparePipeline hc st.cs d).2).map (·.ptr) <+~
      d.ptr :: st.heldPtrs := subperm_map_ptr hcons
  have hn := hi.nodup
  have hinf : (st.inFlight.erase d.ptr).Nodup :=
    (List.nodup_append.mp (List.nodup_append.mp hn).1).2.1.erase _
  have hfresh : ∀ q ∈ st.inFlight.erase d.ptr, q ∉ d.ptr :: st.signalled := fun q hq => by
    rw [(List.nodup_append.mp (List.nodup_append.mp hn).1).2.1.mem_erase_iff] at hq
    exact List.not_mem_cons_of_ne_of_not_mem hq.1 (hi.inFlight_fresh q hq.2)
  -- a held match is the received one, or was held before: either way it was signalled
  have hsig : ∀ x ∈ (startComparePipeline hc st.cs d).1.held, x.ptr ∈ d.ptr :: st.signalled := fun x hx => by
    rcases List.mem_cons.mp (hcons.subset (List.mem_append_left _ hx)) with rfl | hx
    · exact List.mem_cons_self _ _
    · exact List.mem_cons_of_mem _ (hi.held_signalled x hx)
  rcases startComparePipeline_cases hc st.cs d with ⟨-, heq⟩ | ⟨-, heff | ⟨heff, hheld⟩ | ⟨l, hl, heff⟩⟩
  · -- an errored match: dropped silently
    rw [heq]
    refine ⟨⟨nodup_move hn hd (List.Subperm.cons_right _ (List.Subperm.refl _)),
      hi.held_signalled, fun q hq => fun h => hfresh q hq (List.mem_cons_of_mem _ h)⟩, trivial⟩
  · -- signalled, nothing returned
    rw [heff] at hptrs ⊢
    simp only [puts_cons_signal, puts_nil, List.append_nil] at hptrs
    refine ⟨⟨nodup_move hn hd hptrs, hsig, hfresh⟩, trivial⟩
  · -- the short-circuit: signalled, then the received match goes back to the pool
    rw [heff] at hptrs ⊢
    have hdh : d.ptr ∉ st.heldPtrs := fun h =>
      List.disjoint_left.mp (List.nodup_append.mp hn).2.2 (List.mem_append_right _ hd) h
    have hdp : d.ptr ∉ st.pool := fun h =>
      List.disjoint_left.mp (List.nodup_append.mp (List.nodup_append.mp hn).1).2.2 h hd
    refine ⟨⟨?_, hsig, hfresh⟩, ⟨by rw [hheld]; exact hdh, hdp, List.mem_cons_self _ _⟩, trivial⟩
    have hm := nodup_move hn hd (List.Subperm.refl (d.ptr :: st.heldPtrs))
    simp only [applyEffects, PoolState.heldPtrs, hheld]
    exact nodup_of_count (fun y => by
      simp only [List.count_append, List.count_cons, PoolState.heldPtrs]; omega) hm
  · -- a new lowest: the old one goes back to the pool, then the task is signalled
    rw [heff] at hptrs ⊢
    simp only [puts_cons_put, puts_cons_signal, puts_nil] at hptrs
    have hmove := nodup_move hn hd hptrs
    have hlh : l ∈ st.cs.held := by simp [CompareState.held, hl]
    have hlp : l.ptr ∉ st.pool := fun h =>
      List.disjoint_left.mp (List.nodup_append.mp hn).2.2 (List.mem_append_left _ h)
        (List.mem_map_of_mem _ hlh)
    have hlnew : l.ptr ∉ (startComparePipeline hc st.cs d).1.held.map (·.ptr) := fun h => by
      have := (List.nodup_append.mp hmove).2.1
      simp only [List.map_append, List.map_cons, List.map_nil] at this
      exact (List.nodup_append.mp this).2.2 h (List.mem_singleton_self _)
    refine ⟨⟨?_, hsig, hfresh⟩, ⟨hlnew, hlp, hi.held_signalled l hlh⟩, trivial⟩
    simp only [applyEffects, PoolState.heldPtrs]
    exact nodup_of_count (fun y => by
      simp only [List.count_append, List.count_cons, List.count_nil, List.map_append,
        List.map_cons, List.map_nil]; omega) hmove

theorem poolStep_inv {st st' : PoolState} {e : PoolEvent} (hi : PoolInv st)
    (h : poolStep hc st e = some st') : PoolInv st' := by
  cases e with
  | get =>
    simp only [poolStep] at h
    split at h
    · cases h
      exact poolInv_get hi ‹_›
    · cases h
  | alloc p =>
    simp only [poolStep] at h
    split at h
    · rename_i hfresh
      cases h
      exact poolInv_alloc hi hfresh.1 hfresh.2.1 hfresh.2.2
    · cases h
  | compare d =>
    simp only [poolStep] at h
    split at h
    · cases h
      exact (poolInv_compare hi ‹_›).1
    · cases h

theorem PoolReachable.inv {n : Nat} {st : PoolState} (h : PoolReachable hc n st) : PoolInv st := by
  induction h with
  | init => exact poolInv_init n
  | step _ _ hs ih => exact poolStep_inv ih hs

/-- The results are stored matches. -/
theorem mem_store_of_mem_finalizeResults {s : CompareState} {rs : List DocumentMatch}
    (h : finalizeResults hc s = some rs) {x : DocumentMatch} (hx : x ∈ rs) : x ∈ s.store := by
  obtain ⟨results, hf, rfl⟩ := Option.map_eq_some'.mp h
  unfold final at hf
  split at hf
  · cases hf
  · cases hf
    split at hx
    · exact List.mem_of_mem_drop (List.mem_reverse.mp hx)
    · exact List.mem_of_mem_drop hx

/-- **Pooled matches are returned safely, one goroutine at a time.** In every state of the
    serialised pool reachable from a fresh search context, when the compare stage receives a
    handed-out match, every `Put` it makes returns an object that is in neither the store nor
    `lowestMatchOutsideResults`, is not already in the pool (so it is never put twice without
    being handed out in between), and whose task was already signalled.  No match the stage
    holds, and none of the final results, is in the pool. -/
theorem compare_puts_safe (hc : TopNCollector) (n : Nat) {st : PoolState}
    (h : PoolReachable hc n st) (d : DocumentMatch) (hd : d.ptr ∈ st.inFlight) :
    PutsSafe (startComparePipeline hc st.cs d).1 d st.pool st.signalled
        (startComparePipeline hc st.cs d).2 ∧
      (∀ x ∈ st.cs.held, x.ptr ∉ st.pool) ∧
      ∀ rs ∈ finalizeResults hc st.cs, ∀ x ∈ rs, x.ptr ∉ st.pool := by
  have hi := h.inv
  have hheld : ∀ x ∈ st.cs.held, x.ptr ∉ st.pool := fun x hx hp =>
    List.disjoint_left.mp (List.nodup_append.mp hi.nodup).2.2 (List.mem_append_left _ hp)
      (List.mem_map_of_mem _ hx)
  exact ⟨(poolInv_compare hi hd).2, hheld, fun rs hrs x hx =>
    hheld x (List.mem_append_left _ (mem_store_of_mem_finalizeResults hrs hx))⟩

/-! ### The pool shared without a lock -/

/-- The compare stage and the pool, with the write of a `Put` in progress: the slice that
    `append` built from the `p.avail` the `Put` read. -/
structure RacePool where
  st : PoolState
  write : Option (List Nat)
  deriving DecidableEq, Repr

/-- What can happen next: a step of `poolStep`, or the write of the `Put` in progress. -/
inductive RaceEvent where
  | pool (e : PoolEvent)
  | write
  deriving DecidableEq, Repr

/-- Modelled from the code's calls: the compare goroutine calls `ctx.DocumentMatchPool.Put` and
    the main goroutine `searcher.Next(searchContext)`, which takes its object from the same pool,
    with nothing between them; the pool, not in the source, is the slice `p.avail` that `Put`
    appends to.  A compare iteration that puts an object reads the pool and leaves it as it was;
    the write of `p.avail` comes later, and the compare goroutine receives its next match only
    after it.  With `locked`, a `Get` also waits for the write, as under a lock held across
    `Get` and `Put`; the source has no such lock (`locked = false`). -/
def raceStep (hc : TopNCollector) (locked : Bool) (rs : RacePool) : RaceEvent → Option RacePool
  | .pool (.compare d) =>
    if rs.write = none then
      (poolStep hc rs.st (.compare d)).map fun st' =>
        if puts (startComparePipeline hc rs.st.cs d).2 = [] then ⟨st', none⟩
        else ⟨{ st' with pool := rs.st.pool }, some st'.pool⟩
    else none
  | .pool e =>
    if locked ∧ rs.write ≠ none then none else (poolStep hc rs.st e).map (⟨·, rs.write⟩)
  | .write => rs.write.map fun avail => ⟨{ rs.st with pool := avail }, none⟩

/-- A fresh search context's pool of `n` preallocated objects, with no `Put` in progress. -/
def RacePool.init (hc : TopNCollector) (n : Nat) : RacePool := ⟨PoolState.init hc n, none⟩

/-- The states reachable from a fresh search context. -/
inductive RaceReachable (hc : TopNCollector) (n : Nat) (locked : Bool) : RacePool → Prop where
  | init : RaceReachable hc n locked (RacePool.init hc n)
  | step {rs rs' : RacePool} (e : RaceEvent) :
      RaceReachable hc n locked rs → raceStep hc locked rs e = some rs' →
        RaceReachable hc n locked rs'

/-- A schedule carried out from `rs`, `none` if some event of it is not enabled. -/
def raceRun (hc : TopNCollector) (locked : Bool) (rs : RacePool) : List RaceEvent → Option RacePool
  | [] => some rs
  | e :: es => (raceStep hc locked rs e).bind fun rs' => raceRun hc locked rs' es

/-- Every state a schedule reaches from a reachable state is reachable. -/
theorem RaceReachable.run {n : Nat} {locked : Bool} {rs rs' : RacePool}
    (h : RaceReachable hc n locked rs) {es : List RaceEvent}
    (hr : raceRun hc locked rs es = some rs') : RaceReachable hc n locked rs' := by
  induction es generalizing rs with
  | nil => cases hr; exact h
  | cons e es ih =>
    obtain ⟨rs₁, h₁, hr⟩ := Option.bind_eq_some.mp hr
    exact ih (h.step e h₁) hr

/-- The serialised state a `RacePool` stands for: the `Put` in progress written. -/
def RacePool.flush (rs : RacePool) : PoolState :=
  match rs.write with
  | some avail => { rs.st with pool := avail }
  | none => rs.st

/-- **Under the lock, a step is a step of `poolStep` or a stutter.**  The write of a `Put`
    changes nothing of the state it stands for, and every other step is the serialised one. -/
theorem raceStep_locked_flush {rs rs' : RacePool} {e : RaceEvent}
    (h : raceStep hc true rs e = some rs') :
    rs'.flush = rs.flush ∨ ∃ e', poolStep hc rs.flush e' = some rs'.flush := by
  match e, hw : rs.write with
  | .write, some avail =>
    simp only [raceStep, hw, Option.map_some', Option.some.injEq] at h
    subst h
    exact .inl (by simp [RacePool.flush, hw])
  | .write, none => simp [raceStep, hw] at h
  | .pool (.compare d), some _ => simp [raceStep, hw] at h
  | .pool (.compare d), none =>
    simp only [raceStep, hw, if_true, Option.map_eq_some'] at h
    obtain ⟨st', hs, rfl⟩ := h
    refine .inr ⟨.compare d, ?_⟩
    by_cases hp : puts (startComparePipeline hc rs.st.cs d).2 = [] <;>
      simp [RacePool.flush, hw, hp, hs]
  | .pool .get, some _ | .pool (.alloc _), some _ => simp [raceStep, hw] at h
  | .pool .get, none | .pool (.alloc p), none =>
    simp only [raceStep, hw, ne_eq, not_true_eq_false, and_false, if_false,
      Option.map_eq_some'] at h
    obtain ⟨st', hs, rfl⟩ := h
    exact .inr ⟨_, by simpa [RacePool.flush, hw] using hs⟩

/-- Under the lock, every reachable state stands for a reachable state of `poolStep`. -/
theorem RaceReachable.flush {n : Nat} {rs : RacePool} (h : RaceReachable hc n true rs) :
    PoolReachable hc n rs.flush := by
  induction h with
  | init => exact .init
  | step _ _ hs ih =>
    rcases raceStep_locked_flush hs with heq | ⟨e', he'⟩
    · rwa [heq]
    · exact .step e' ih he'

/-- The compare stage of a one-result collector. -/
def racedHc : TopNCollector := (NewTopNCollector 1 0 SortOrder.byRank).get rfl

/-- A schedule over a pool of four objects.  `searcher.Next` takes objects 0, 1 and 2 for
    matches of rank 1, 5 and 7; the first is stored, the second evicted into
    `lowestMatchOutsideResults`, and the third short-circuited and put back while the pool
    holds object 3.  `searcher.Next` takes object 3 before that `Put` writes the pool, and the
    write puts it back.  The next match, of rank 0, comes in object 3 and is stored, evicting
    the rank-1 match, so the rank-5 one is put back; `searcher.Next` then takes objects 1, 2
    and 3. -/
def racedRun : List RaceEvent :=
  [.pool .get, .pool (.compare ⟨0, 0, [[1]], 1, none⟩),
   .pool .get, .pool (.compare ⟨1, 0, [[5]], 2, none⟩),
   .pool .get, .pool (.compare ⟨2, 0, [[7]], 3, none⟩),
   .pool .get, .write,
   .pool (.compare ⟨3, 0, [[0]], 4, none⟩), .write,
   .pool .get, .pool .get, .pool .get]

/-- The state `racedRun` reaches in the source's pool. -/
def racedPool : RacePool := (raceRun racedHc false (RacePool.init racedHc 4) racedRun).get (by decide)

/-- **The pool hands out the object of a stored match.**  In the schedule `racedRun`, which the
    source allows and a lock across `Get` and `Put` would not, the rank-0 match stored in
    object 3 is the final result, while object 3, returned to the pool by the stale write of a
    `Put`, has been handed out again to `searcher.Next`, which fills it with its next match. -/
theorem pool_hands_out_stored_match :
    RaceReachable racedHc 4 false racedPool ∧
      raceRun racedHc true (RacePool.init racedHc 4) racedRun = none ∧
      finalizeResults racedHc racedPool.st.cs = some [⟨3, 0, [[0]], 4, none⟩] ∧
      3 ∈ racedPool.st.inFlight :=
  ⟨RaceReachable.init.run (Option.some_get _).symm, by decide, by decide, by decide⟩

end Bluge.Collector
