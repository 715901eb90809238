import Bluge.Collector.Pipeline

namespace Bluge

open Bluge.Search Bluge.Collector
open scoped List

/-!
# MultiSearch — the fan-in of the searchers

`NewMultiSearcherList` starts `collectAllDocuments`, which computes a pool size per searcher
(dividing by the number of searchers) and runs one producer per searcher through an
`errgroup.Group` limited to 1000 goroutines at a time.  Each producer pulls its searcher's
matches, loads their values when the collector needs fields, and sends them on `docChan`, of
capacity twice the number of searchers; a failed load ends the producer.  Once every producer
has returned, `docChan` is closed.  `MultiSearcherList.Next` receives from `docChan`: the
matches, then `nil` once the channel is closed and drained.

* `MultiState`, `multiStep` — the fan-in goroutine, the producers and the consumer calling
  `Next`, under every interleaving.
* `MultiInv`, `MultiReachable.inv` — the matches sent so far by each producer, in flight or
  received, are its searcher's first matches, in order, all with successful loads.
* `multiSearch_reaches_nil` — over a non-empty list of searchers every run is finite, and a
  state where no goroutine can move is one where `Next` has returned `nil`: whatever the
  schedule, the consumer gets its `nil`.
* `multiSearcher_delivers` — and once `Next` has returned `nil`, the matches it returned are a
  permutation of the concatenation of the searchers' matches before their first failed load,
  each searcher's in its order; `multiSearch_drops_matches_after_failed_load` — matches after a
  failed load are lost although no `Next` fails.
* `collectAllDocuments_divides_by_zero` — over no searchers, the first step of
  `collectAllDocuments` is its division by zero, and `docChan` is never closed.
-/

/-- The inputs of `NewMultiSearcherList`: the searchers, and from the collector config the
    fields to load (`cc.NeededFields`), with what `LoadDocumentValues` returns for each match. -/
structure MultiEnv where
  searchers : List Searcher
  neededFields : List String
  loadDocumentValues : DocumentMatch → Option Error

/-- The concurrency limit of the producers' `errgroup.Group` (`errs.SetLimit(1000)`). -/
def errgroupLimit : Nat := 1000

/-- The goroutine running `collectAllDocuments`: about to compute the per-searcher pool size,
    starting the producer of searcher `n`, in `errs.Wait()`, returned after closing `docChan`,
    or panicked on the integer division by zero, which ends the whole program: `searchStep`
    moves no goroutine after it. -/
inductive FanInPc where
  | start
  | spawning (n : Nat)
  | wait
  | closed
  | panicked
  deriving DecidableEq, Repr

/-- A producer: about to make its `k`-th `Next` call (it has sent `k` matches), about to send its
    `k`-th match `d` on `docChan`, or returned after sending `sent` matches. -/
inductive ProducerPc where
  | pull (k : Nat)
  | send (k : Nat) (d : DocumentMatch)
  | done (sent : Nat) (err : Option Error)
  deriving DecidableEq, Repr

/-- A producer has returned. -/
def ProducerPc.isDone : ProducerPc → Bool
  | .done _ _ => true
  | _ => false

/-- The matches a producer has sent. -/
def ProducerPc.sent : ProducerPc → Nat
  | .pull k => k
  | .send k _ => k
  | .done k _ => k

/-- The state of a multi-search: the fan-in goroutine, the producers started so far (by
    searcher), `docChan`, and what `Next` has returned.  Each match in the channel or received
    carries, as a ghost tag, the index of the searcher that produced it. -/
structure MultiState where
  fanIn : FanInPc
  producers : List ProducerPc
  chan : List (Nat × DocumentMatch)
  closed : Bool
  received : List (Nat × DocumentMatch)
  /-- `Next` has returned `nil` -/
  sawNil : Bool
  deriving DecidableEq, Repr

/-- A multi-search when `NewMultiSearcherList` returns. -/
def MultiState.init : MultiState := ⟨.start, [], [], false, [], false⟩

/-- The atomic actions: a step of `collectAllDocuments`, of the producer of searcher `i`, or a
    call of `Next`. -/
inductive MultiAction where
  | fanIn
  | producer (i : Nat)
  | next
  deriving DecidableEq, Repr

/-- The load check of a producer: it passes unless some field is needed and the load fails. -/
def loadOk (env : MultiEnv) (d : DocumentMatch) : Bool :=
  !(env.neededFields.length > 0 && (env.loadDocumentValues d).isSome)

/-- A producer's `k`-th `Next` call and the load that follows it. -/
def producerPull (env : MultiEnv) (s : Searcher) (k : Nat) : ProducerPc :=
  match s.next k with
  | .ok (some d) =>
    if env.neededFields.length > 0 then
      match env.loadDocumentValues d with
      | some e => .done k (some e)
      | none => .send k d
    else .send k d
  | .ok none => .done k none
  | .error e => .done k (some e)

/-- `collectAllDocuments`: the pool size divides by the number of searchers; `errs.Go` blocks
    while 1000 producers run; `errs.Wait()` then `close(m.docChan)`. -/
def collectAllDocuments (env : MultiEnv) (st : MultiState) : Option MultiState :=
  match st.fanIn with
  | .start =>
    if env.searchers.length = 0 then some { st with fanIn := .panicked }
    else some { st with fanIn := .spawning 0 }
  | .spawning n =>
    if n < env.searchers.length then
      if (st.producers.filter (!·.isDone)).length < errgroupLimit then
        some { st with producers := st.producers ++ [.pull 0], fanIn := .spawning (n + 1) }
      else none
    else some { st with fanIn := .wait }
  | .wait =>
    if st.producers.all (·.isDone) then some { st with fanIn := .closed, closed := true }
    else none
  | .closed => none
  | .panicked => none

/-- The producer of searcher `i`: a `Next` call with its load, or a send on `docChan`, which
    blocks while the channel holds twice as many matches as there are searchers. -/
def collectAllDocuments.producer (env : MultiEnv) (st : MultiState) (i : Nat) : Option MultiState :=
  match st.producers[i]?, env.searchers[i]? with
  | some (.pull k), some s => some { st with producers := st.producers.set i (producerPull env s k) }
  | some (.send k d), some _ =>
    if st.chan.length < 2 * env.searchers.length then
      some { st with producers := st.producers.set i (.pull (k + 1)), chan := st.chan ++ [(i, d)] }
    else none
  | _, _ => none

/-- `MultiSearcherList.Next`: the next match of `docChan`, or `nil` once it is closed and
    drained; its caller stops at `nil`. -/
def MultiSearcherList.Next (st : MultiState) : Option MultiState :=
  if st.sawNil then none
  else
    match st.chan with
    | x :: rest => some { st with chan := rest, received := st.received ++ [x] }
    | [] => if st.closed then some { st with sawNil := true } else none

/-- One atomic action, `none` when it is not enabled. -/
def multiStep (env : MultiEnv) (st : MultiState) : MultiAction → Option MultiState
  | .fanIn => collectAllDocuments env st
  | .producer i => collectAllDocuments.producer env st i
  | .next => MultiSearcherList.Next st

/-- A schedule carried out from `st`. -/
def multiRun (env : MultiEnv) (st : MultiState) : List MultiAction → Option MultiState
  | [] => some st
  | a :: as =>
    match multiStep env st a with
    | some st' => multiRun env st' as
    | none => none

/-- The states of a multi-search, under every interleaving. -/
inductive MultiReachable (env : MultiEnv) : MultiState → Prop where
  | init : MultiReachable env MultiState.init
  | step {st st' : MultiState} (a : MultiAction) :
      MultiReachable env st → multiStep env st a = some st' → MultiReachable env st'

/-! ### What each searcher delivers -/

/-- The matches of searcher `s` before its first match whose load fails. -/
def loadedPrefix (env : MultiEnv) (s : Searcher) : List DocumentMatch :=
  s.docs.takeWhile (loadOk env)

/-- What each producer has done with its searcher's matches. -/
def ProducerInv (env : MultiEnv) (s : Searcher) : ProducerPc → Prop
  | .pull k => (s.docs.take k).all (loadOk env)
  | .send k d => (s.docs.take k).all (loadOk env) ∧ s.docs[k]? = some d ∧ loadOk env d
  | .done k _ => s.docs.take k = loadedPrefix env s

/-- The matches of searcher `i` sent so far: in the channel or received by `Next`. -/
def MultiState.sentBy (st : MultiState) (i : Nat) : List DocumentMatch :=
  ((st.received ++ st.chan).filter (·.1 = i)).map (·.2)

/-- What the position of the fan-in goroutine says of the producers it started and of
    `docChan`. -/
def FanInPc.Inv (env : MultiEnv) (st : MultiState) : FanInPc → Prop
  | .start => st.producers = [] ∧ st.closed = false
  | .spawning n => n = st.producers.length ∧ st.closed = false
  | .wait => st.producers.length = env.searchers.length ∧ st.closed = false
  | .closed => st.producers.length = env.searchers.length ∧ st.closed = true ∧
      ∀ pc ∈ st.producers, pc.isDone = true
  | .panicked => env.searchers.length = 0 ∧ st.closed = false

/-- The invariant of a multi-search. -/
structure MultiInv (env : MultiEnv) (st : MultiState) : Prop where
  producer : ∀ i pc s, st.producers[i]? = some pc → env.searchers[i]? = some s →
    ProducerInv env s pc ∧ st.sentBy i = s.docs.take pc.sent
  tags : ∀ x ∈ st.received ++ st.chan, x.1 < st.producers.length
  length : st.producers.length ≤ env.searchers.length
  fanIn : st.fanIn.Inv env st
  nil : st.sawNil = true → st.closed = true ∧ st.chan = []

variable {env : MultiEnv} {st st' : MultiState}

/-! ### What each step can do -/

/-- **Inversion, `collectAllDocuments`.** -/
theorem collectAllDocuments_eq_some (h : collectAllDocuments env st = some st') :
    (st.fanIn = .start ∧ env.searchers.length = 0 ∧ st' = { st with fanIn := .panicked }) ∨
    (st.fanIn = .start ∧ env.searchers.length ≠ 0 ∧ st' = { st with fanIn := .spawning 0 }) ∨
    (∃ n, st.fanIn = .spawning n ∧ n < env.searchers.length ∧
      (st.producers.filter (!·.isDone)).length < errgroupLimit ∧
      st' = { st with producers := st.producers ++ [.pull 0], fanIn := .spawning (n + 1) }) ∨
    (∃ n, st.fanIn = .spawning n ∧ ¬ n < env.searchers.length ∧ st' = { st with fanIn := .wait }) ∨
    (st.fanIn = .wait ∧ (∀ pc ∈ st.producers, pc.isDone) ∧
      st' = { st with fanIn := .closed, closed := true }) := by
  unfold collectAllDocuments at h
  split at h
  · rename_i hpc
    split at h <;> cases h
    · exact .inl ⟨hpc, ‹_›, rfl⟩
    · exact .inr (.inl ⟨hpc, ‹_›, rfl⟩)
  · rename_i n hpc
    split at h
    · split at h <;> cases h
      exact .inr (.inr (.inl ⟨n, hpc, ‹_›, ‹_›, rfl⟩))
    · cases h
      exact .inr (.inr (.inr (.inl ⟨n, hpc, ‹_›, rfl⟩)))
  · rename_i hpc
    split at h <;> cases h
    exact .inr (.inr (.inr (.inr ⟨hpc, List.all_eq_true.mp ‹_›, rfl⟩)))
  · cases h
  · cases h

/-- **Inversion, producers.** -/
theorem collectAllDocuments.producer_eq_some {i : Nat} (h : collectAllDocuments.producer env st i = some st') :
    ∃ s, env.searchers[i]? = some s ∧
      ((∃ k, st.producers[i]? = some (.pull k) ∧
          st' = { st with producers := st.producers.set i (producerPull env s k) }) ∨
        (∃ k d, st.producers[i]? = some (.send k d) ∧ st.chan.length < 2 * env.searchers.length ∧
          st' = { st with producers := st.producers.set i (.pull (k + 1)),
                          chan := st.chan ++ [(i, d)] })) := by
  unfold collectAllDocuments.producer at h
  split at h
  · cases h
    exact ⟨_, ‹_›, .inl ⟨_, ‹_›, rfl⟩⟩
  · split at h <;> cases h
    exact ⟨_, ‹_›, .inr ⟨_, _, ‹_›, ‹_›, rfl⟩⟩
  · cases h

/-- **Inversion, `Next`.** -/
theorem MultiSearcherList.Next_eq_some (h : MultiSearcherList.Next st = some st') :
    st.sawNil = false ∧
      ((∃ x rest, st.chan = x :: rest ∧ st' = { st with chan := rest, received := st.received ++ [x] }) ∨
        (st.chan = [] ∧ st.closed = true ∧ st' = { st with sawNil := true })) := by
  unfold MultiSearcherList.Next at h
  split at h
  · cases h
  · rename_i hs
    refine ⟨by simpa using hs, ?_⟩
    split at h
    · cases h
      exact .inl ⟨_, _, ‹_›, rfl⟩
    · split at h <;> cases h
      exact .inr ⟨‹_›, ‹_›, rfl⟩

@[simp] theorem multiRun_nil (st : MultiState) : multiRun env st [] = some st := rfl

theorem multiRun_cons (st : MultiState) (a : MultiAction) (as : List MultiAction) :
    multiRun env st (a :: as) = (multiStep env st a).bind (multiRun env · as) := by
  simp only [multiRun]
  split <;> simp_all

/-- Every state a schedule reaches from a reachable state is reachable. -/
theorem MultiReachable.run (h : MultiReachable env st) {as : List MultiAction}
    (hr : multiRun env st as = some st') : MultiReachable env st' := by
  induction as generalizing st with
  | nil => cases hr; exact h
  | cons a as ih =>
    rw [multiRun_cons, Option.bind_eq_some] at hr
    obtain ⟨st₁, h₁, hr⟩ := hr
    exact ih (h.step a h₁) hr

/-! ### A producer's `Next` call and load -/

/-- A prefix whose elements all pass, followed by a failing element or by the end of the list,
    is what `takeWhile` keeps. -/
theorem takeWhile_eq_take {α : Type} {p : α → Bool} {l : List α} {k : Nat}
    (h : (l.take k).all p) (hk : ∀ d, l[k]? = some d → p d = false) : l.takeWhile p = l.take k := by
  induction l generalizing k with
  | nil => simp
  | cons a l ih =>
    cases k with
    | zero => simp [List.takeWhile_cons, hk a (by simp)]
    | succ k =>
      simp only [List.take_succ_cons, List.all_cons, Bool.and_eq_true] at h
      simp [List.takeWhile_cons, h.1, ih h.2 fun d hd => hk d (by simpa using hd)]

/-- After a `Next` call and load that follow `k` successful ones, the producer either holds the
    `k`-th match, loaded, to send, or has returned having sent the searcher's loaded prefix. -/
theorem producerPull_inv {s : Searcher} {k : Nat} (h : (s.docs.take k).all (loadOk env)) :
    ProducerInv env s (producerPull env s k) ∧ (producerPull env s k).sent = k := by
  have hstop : (∀ d, s.docs[k]? = some d → loadOk env d = false) →
      s.docs.take k = loadedPrefix env s := fun hk => (takeWhile_eq_take h hk).symm
  unfold producerPull
  split
  · rename_i d hn
    have hd : s.docs[k]? = some d := by
      unfold Searcher.next at hn
      split at hn
      · cases hn; assumption
      · split at hn <;> cases hn
    split
    · split
      · refine ⟨hstop fun d' hd' => ?_, rfl⟩
        cases hd.symm.trans hd'
        simp_all [loadOk]
      · exact ⟨⟨h, hd, by simp_all [loadOk]⟩, rfl⟩
    · exact ⟨⟨h, hd, by simp_all [loadOk]⟩, rfl⟩
  all_goals
    rename_i hn
    refine ⟨hstop fun d hd => ?_, rfl⟩
    simp [Searcher.next, hd] at hn

/-! ### The invariant holds along every run -/

/-- A send on the channel adds its match to its producer's sequence and to no other. -/
theorem MultiState.sentBy_push (st : MultiState) (ps : List ProducerPc) (i j : Nat)
    (d : DocumentMatch) :
    ({ st with producers := ps, chan := st.chan ++ [(i, d)] } : MultiState).sentBy j =
      st.sentBy j ++ if i = j then [d] else [] := by
  by_cases h : i = j <;> simp [MultiState.sentBy, h]

theorem MultiInv.init : MultiInv env MultiState.init := by
  constructor <;> simp [MultiState.init, FanInPc.Inv]

/-- `docChan` is closed exactly once `collectAllDocuments` has returned. -/
theorem MultiInv.closed_iff (hi : MultiInv env st) : st.closed = true ↔ st.fanIn = .closed := by
  have h := hi.fanIn
  cases hf : st.fanIn <;> rw [hf] at h <;> simp [FanInPc.Inv] at h ⊢ <;> simp [h]

/-- Once `collectAllDocuments` has returned, it started every producer and each has returned. -/
theorem MultiInv.drained (hi : MultiInv env st) (h : st.fanIn = .closed) :
    st.producers.length = env.searchers.length ∧ ∀ pc ∈ st.producers, pc.isDone = true := by
  have hf := hi.fanIn
  rw [h] at hf
  exact ⟨hf.1, hf.2.2⟩

/-- While a producer runs, `collectAllDocuments` is past its start and waits for it, `docChan`
    is open, and `Next` has not returned `nil`. -/
theorem MultiInv.open_of_running (hi : MultiInv env st) {i : Nat} {pc : ProducerPc}
    (h : st.producers[i]? = some pc) (hpc : pc.isDone = false) :
    st.fanIn ≠ .closed ∧ st.fanIn ≠ .start ∧ st.closed = false ∧ st.sawNil = false := by
  have hfan : st.fanIn ≠ .closed := fun hc => by
    simp [(hi.drained hc).2 pc (List.getElem?_mem h)] at hpc
  have hstart : st.fanIn ≠ .start := fun hs => by
    have hf := hi.fanIn
    rw [hs] at hf
    simp [hf.1] at h
  have hclosed : st.closed = false := Bool.eq_false_iff.mpr fun hc => hfan (hi.closed_iff.mp hc)
  refine ⟨hfan, hstart, hclosed, ?_⟩
  cases hn : st.sawNil
  · rfl
  · simp [(hi.nil hn).1] at hclosed

/-- A producer's step, which changes no producer count, keeps what the fan-in goroutine's
    position says. -/
theorem FanInPc.Inv.of_producer {f : FanInPc} (h : f.Inv env st) (hf : f ≠ .closed)
    (hs : f ≠ .start) {ps : List ProducerPc} (hlen : ps.length = st.producers.length)
    (ch : List (Nat × DocumentMatch)) : f.Inv env { st with producers := ps, chan := ch } := by
  cases f <;> simp_all [FanInPc.Inv]

theorem collectAllDocuments_inv (hi : MultiInv env st) (h : collectAllDocuments env st = some st') :
    MultiInv env st' := by
  have hf := hi.fanIn
  rcases collectAllDocuments_eq_some h with ⟨hpc, hN, rfl⟩ | ⟨hpc, -, rfl⟩ | ⟨n, hpc, hn, -, rfl⟩ |
    ⟨n, hpc, hn, rfl⟩ | ⟨hpc, hall, rfl⟩ <;> rw [hpc] at hf
  · exact { hi with fanIn := ⟨hN, hf.2⟩ }
  · exact { hi with fanIn := ⟨by simp [hf.1], hf.2⟩ }
  · refine { hi with fanIn := ⟨by simp [hf.1], hf.2⟩, producer := ?_, tags := ?_, length := ?_ }
    · intro j pc s hj hs
      rcases getElem?_concat_eq_some hj with hj | ⟨rfl, rfl⟩
      · exact hi.producer j pc s hj hs
      · refine ⟨by simp [ProducerInv], ?_⟩
        simp only [MultiState.sentBy, ProducerPc.sent, List.take_zero, List.map_eq_nil_iff,
          List.filter_eq_nil_iff, decide_eq_true_eq]
        exact fun x hx hj => (hi.tags x hx).ne hj
    · exact fun x hx => by simpa using Nat.lt_succ_of_lt (hi.tags x hx)
    · have := hf.1
      simp only [List.length_append, List.length_singleton]
      omega
  · have := hf.1
    have := hi.length
    exact { hi with fanIn := ⟨by dsimp only; omega, hf.2⟩ }
  · exact { hi with fanIn := ⟨hf.1, rfl, hall⟩,
                    nil := fun hn => absurd (hi.nil hn).1 (by simp [hf.2]) }

theorem collectAllDocuments.producer_inv (hi : MultiInv env st) {i : Nat} (h : collectAllDocuments.producer env st i = some st') :
    MultiInv env st' := by
  obtain ⟨s, hs, hcase⟩ := collectAllDocuments.producer_eq_some h
  rcases hcase with ⟨k, hp, rfl⟩ | ⟨k, d, hp, -, rfl⟩
  · obtain ⟨hinv, hsent⟩ := hi.producer i _ s hp hs
    have hopen := hi.open_of_running hp rfl
    refine { hi with producer := ?_,
                     fanIn := hi.fanIn.of_producer hopen.1 hopen.2.1 (List.length_set ..) st.chan,
                     tags := by simpa only [List.length_set] using hi.tags,
                     length := by simpa only [List.length_set] using hi.length }
    intro j pc s' hj hs'
    rcases getElem?_set_eq_some hj with ⟨rfl, rfl⟩ | ⟨-, hj⟩
    · cases hs.symm.trans hs'
      have hpull := producerPull_inv hinv
      exact ⟨hpull.1, by rw [hpull.2]; exact hsent⟩
    · exact hi.producer j pc s' hj hs'
  · obtain ⟨⟨hall, hd, hok⟩, hsent⟩ := hi.producer i _ s hp hs
    have hopen := hi.open_of_running hp rfl
    have hlt : i < st.producers.length := (List.getElem?_eq_some_iff.mp hp).1
    refine { hi with producer := ?_, tags := ?_,
                     fanIn := hi.fanIn.of_producer hopen.1 hopen.2.1 (List.length_set ..) _,
                     nil := fun hn => by simp [hopen.2.2.2] at hn,
                     length := by simpa only [List.length_set] using hi.length }
    · intro j pc s' hj hs'
      rw [MultiState.sentBy_push]
      rcases getElem?_set_eq_some hj with ⟨rfl, rfl⟩ | ⟨hne, hj⟩
      · cases hs.symm.trans hs'
        have htake : s.docs.take (k + 1) = s.docs.take k ++ [d] := by simp [List.take_succ, hd]
        exact ⟨by simp [ProducerInv, htake, hall, hok], by simp [hsent, ProducerPc.sent, htake]⟩
      · obtain ⟨hinv, hsent⟩ := hi.producer j pc s' hj hs'
        exact ⟨hinv, by simp [hsent, Ne.symm hne]⟩
    · intro x hx
      have hx : x ∈ (st.received ++ st.chan) ++ [(i, d)] := by simpa only [List.append_assoc] using hx
      rcases List.mem_append.mp hx with hx | hx
      · simpa using hi.tags x hx
      · simpa [List.mem_singleton.mp hx] using hlt

theorem MultiSearcherList.Next_inv (hi : MultiInv env st) (h : MultiSearcherList.Next st = some st') : MultiInv env st' := by
  obtain ⟨hn, ⟨x, rest, hch, rfl⟩ | ⟨hch, hcl, rfl⟩⟩ := MultiSearcherList.Next_eq_some h
  · have hrc : st.received ++ [x] ++ rest = st.received ++ st.chan := by simp [hch]
    exact { hi with nil := by simp [hn],
                    producer := fun j pc s hj hs => by
                      simpa only [MultiState.sentBy, hrc] using hi.producer j pc s hj hs,
                    tags := by simpa only [hrc] using hi.tags }
  · exact { hi with nil := fun _ => ⟨hcl, hch⟩ }

theorem multiStep_inv (hi : MultiInv env st) {a : MultiAction} (h : multiStep env st a = some st') :
    MultiInv env st' := by
  cases a with
  | fanIn => exact collectAllDocuments_inv hi h
  | producer i => exact collectAllDocuments.producer_inv hi h
  | next => exact MultiSearcherList.Next_inv hi h

theorem MultiReachable.inv (h : MultiReachable env st) : MultiInv env st := by
  induction h with
  | init => exact MultiInv.init
  | step _ _ hs ih => exact multiStep_inv ih hs

/-! ### What `Next` returns -/

/-- The tagged elements below `N`, laid out tag class after tag class, are a permutation of
    themselves. -/
theorem filter_tag_lt_perm {α : Type} (l : List (Nat × α)) (N : Nat) :
    l.filter (·.1 < N) ~ (List.range N).flatMap fun i => l.filter (·.1 = i) := by
  induction N with
  | zero => simp
  | succ N ih =>
    rw [List.range_succ, List.flatMap_append, List.flatMap_singleton]
    refine (List.filter_append_perm (·.1 < N) (l.filter (·.1 < N + 1))).symm.trans
      (List.Perm.append ?_ (List.Perm.of_eq ?_))
    · rw [List.filter_filter]
      refine (List.Perm.of_eq (List.filter_congr fun x _ => ?_)).trans ih
      by_cases hx : x.1 < N <;> simp [hx]
      omega
    · rw [List.filter_filter]
      refine List.filter_congr fun x _ => ?_
      by_cases hx : x.1 = N <;> simp [hx]
      omega

/-- Laying out, index after index, one list per element of `l` computed from the element. -/
theorem flatMap_range_length {α β : Type} (l : List α) (f : α → List β) (g : Nat → List β)
    (h : ∀ i a, l[i]? = some a → g i = f a) : (List.range l.length).flatMap g = (l.map f).flatten := by
  induction l generalizing g with
  | nil => simp
  | cons a l ih =>
    rw [List.length_cons, List.range_succ_eq_map, List.flatMap_cons, List.flatMap_map,
      h 0 a (by simp), ih (fun i => g i.succ) fun i b hb => h (i + 1) b (by simpa using hb)]
    rfl

/-- Once `Next` has returned `nil`, every producer has returned, having sent its searcher's matches
    before the first failed load: the matches received from searcher `i` are those, in order. -/
theorem MultiInv.received_class (hi : MultiInv env st) (hnil : st.sawNil = true) {i : Nat}
    {s : Searcher} (hs : env.searchers[i]? = some s) :
    (st.received.filter (·.1 = i)).map (·.2) = loadedPrefix env s := by
  obtain ⟨hcl, hch⟩ := hi.nil hnil
  have hfan := hi.closed_iff.mp hcl
  have hlt : i < st.producers.length := (hi.drained hfan).1 ▸ (List.getElem?_eq_some_iff.mp hs).1
  obtain ⟨pc, hpc⟩ : ∃ pc, st.producers[i]? = some pc := ⟨_, List.getElem?_eq_getElem hlt⟩
  obtain ⟨hinv, hsent⟩ := hi.producer i pc s hpc hs
  have hdone := (hi.drained hfan).2 pc (List.getElem?_mem hpc)
  cases pc with
  | done k e =>
    simpa [MultiState.sentBy, hch] using hsent.trans (hinv : s.docs.take k = loadedPrefix env s)
  | pull k => simp [ProducerPc.isDone] at hdone
  | send k d => simp [ProducerPc.isDone] at hdone

/-- Once `Next` has returned `nil`, the matches it returned are, up to order, the searchers'
    matches before their first failed load, searcher after searcher. -/
theorem MultiInv.received_perm (hi : MultiInv env st) (hnil : st.sawNil = true) :
    st.received.map (·.2) ~ (env.searchers.map (loadedPrefix env)).flatten := by
  have hlen := (hi.drained (hi.closed_iff.mp (hi.nil hnil).1)).1
  have htags : st.received = st.received.filter (·.1 < env.searchers.length) :=
    (List.filter_eq_self.mpr fun x hx => by simpa [hlen] using hi.tags x (by simp [hx])).symm
  calc st.received.map (·.2)
      ~ ((List.range env.searchers.length).flatMap fun i =>
          st.received.filter (·.1 = i)).map (·.2) :=
        ((List.Perm.of_eq htags).trans (filter_tag_lt_perm _ _)).map _
    _ = (List.range env.searchers.length).flatMap fun i =>
          (st.received.filter (·.1 = i)).map (·.2) := List.map_flatMap _ _ _
    _ = (env.searchers.map (loadedPrefix env)).flatten :=
        flatMap_range_length _ _ _ fun _ _ hs => hi.received_class hnil hs

/-- Two searchers of one match each; the collector needs no field. -/
def twoSearchersEnv : MultiEnv :=
  ⟨[⟨[⟨1, 1, [[5]], 0, none⟩], none⟩, ⟨[⟨2, 2, [[7]], 0, none⟩], none⟩], [], fun _ => none⟩

/-- A schedule over `twoSearchersEnv`: both producers start, the second sends first, and `Next`
    drains the channel. -/
def twoSearchersRun : List MultiAction :=
  [.fanIn, .fanIn, .fanIn, .fanIn, .producer 1, .producer 1, .producer 0, .producer 0,
    .producer 0, .producer 1, .fanIn, .next, .next, .next]

/-- Where `twoSearchersRun` ends: `Next` has returned `nil`. -/
def twoSearchersDone : MultiState :=
  (multiRun twoSearchersEnv MultiState.init twoSearchersRun).get rfl

/-- One searcher of two matches, whose second match fails to load; the collector needs a field. -/
def loadFailEnv : MultiEnv :=
  ⟨[⟨[⟨1, 1, [[5]], 0, none⟩, ⟨2, 2, [[7]], 0, none⟩], none⟩], ["price"],
    fun d => if d.number = 2 then some (.load 1) else none⟩

/-- A schedule over `loadFailEnv`: the producer sends the first match and fails to load the
    second; `collectAllDocuments` closes the channel and `Next` drains it. -/
def loadFailRun : List MultiAction :=
  [.fanIn, .fanIn, .fanIn, .producer 0, .producer 0, .producer 0, .fanIn, .next, .next]

/-- **A failed load loses the searcher's later matches.**  No `Next` call of the searcher fails,
    yet `Next` returns `nil` after the first match only: the producer returned on the failed
    load of the second. -/
theorem multiSearch_drops_matches_after_failed_load :
    (∀ s ∈ loadFailEnv.searchers, s.failure = none) ∧
      ∃ st, multiRun loadFailEnv MultiState.init loadFailRun = some st ∧ st.sawNil = true ∧
        st.received.map (·.2) = [⟨1, 1, [[5]], 0, none⟩] ∧
        ¬ st.received.map (·.2) ~ (loadFailEnv.searchers.map (·.docs)).flatten :=
  ⟨by decide, _, rfl, rfl, rfl, by decide⟩

/-! ### Every run is finite, and ends with `nil` -/

/-- The matches of all the searchers: no producer makes more `Next` calls. -/
def docBound (env : MultiEnv) : Nat := (env.searchers.map (·.docs.length)).sum

/-- The steps a producer has left at most, each send counting for the receive it enables, when
    its searcher has at most `m` matches. -/
def ProducerPc.weight (m : Nat) : ProducerPc → Nat
  | .pull k => 3 * (m - k) + 2
  | .send k _ => 3 * (m - k) + 1
  | .done _ _ => 0

/-- The steps `collectAllDocuments` has left at most, with those of the producers it has yet
    to start. -/
def FanInPc.weight (env : MultiEnv) : FanInPc → Nat
  | .start => env.searchers.length * (3 * docBound env + 3) + 3
  | .spawning n => (env.searchers.length - n) * (3 * docBound env + 3) + 2
  | .wait => 1
  | .closed => 0
  | .panicked => 0

/-- A bound on the number of steps left in a multi-search. -/
def multiMeasure (env : MultiEnv) (st : MultiState) : Nat :=
  st.fanIn.weight env + (st.producers.map (·.weight (docBound env))).sum + st.chan.length +
    if st.sawNil then 0 else 1

/-- A searcher has at most as many matches as all the searchers together. -/
theorem length_le_docBound {i : Nat} {s : Searcher} (h : env.searchers[i]? = some s) :
    s.docs.length ≤ docBound env :=
  List.le_sum_of_mem (List.mem_map_of_mem _ (List.getElem?_mem h))

/-- A `Next` call with its load leaves the producer fewer steps. -/
theorem producerPull_weight (s : Searcher) (k m : Nat) :
    (producerPull env s k).weight m < (ProducerPc.pull k).weight m := by
  unfold producerPull
  split
  · split
    · split <;> simp [ProducerPc.weight]
    · simp [ProducerPc.weight]
  all_goals simp [ProducerPc.weight]

theorem measure_fanIn (h : collectAllDocuments env st = some st') :
    multiMeasure env st' < multiMeasure env st := by
  unfold multiMeasure
  rcases collectAllDocuments_eq_some h with ⟨hpc, -, rfl⟩ | ⟨hpc, -, rfl⟩ | ⟨n, hpc, hn, -, rfl⟩ |
    ⟨n, hpc, hn, rfl⟩ | ⟨hpc, -, rfl⟩
  · simp only [hpc, FanInPc.weight]
    omega
  · simp only [hpc, FanInPc.weight, Nat.sub_zero]
    omega
  · -- a producer starts: its steps move from the fan-in goroutine's count to its own
    have hsub : (env.searchers.length - n) * (3 * docBound env + 3) =
        (env.searchers.length - (n + 1)) * (3 * docBound env + 3) + (3 * docBound env + 3) := by
      rw [show env.searchers.length - n = env.searchers.length - (n + 1) + 1 by omega, Nat.succ_mul]
    simp only [hpc, FanInPc.weight, List.map_append, List.map_cons, List.map_nil, List.sum_append,
      List.sum_cons, List.sum_nil, ProducerPc.weight, Nat.sub_zero]
    omega
  · simp only [hpc, FanInPc.weight, Nat.sub_eq_zero_of_le (Nat.le_of_not_lt hn), Nat.zero_mul]
    omega
  · simp only [hpc, FanInPc.weight]
    omega

theorem measure_producer (hi : MultiInv env st) {i : Nat} (h : collectAllDocuments.producer env st i = some st') :
    multiMeasure env st' < multiMeasure env st := by
  obtain ⟨s, hs, hcase⟩ := collectAllDocuments.producer_eq_some h
  unfold multiMeasure
  rcases hcase with ⟨k, hp, rfl⟩ | ⟨k, d, hp, -, rfl⟩
  · have := sum_map_set (·.weight (docBound env)) hp (producerPull env s k)
    have := @producerPull_weight env s k (docBound env)
    dsimp only at this ⊢
    omega
  · -- a send: the producer's step becomes the receive it enables
    have := sum_map_set (·.weight (docBound env)) hp (.pull (k + 1))
    have hk : k < docBound env := lt_of_lt_of_le
      (List.getElem?_eq_some_iff.mp ((hi.producer i _ s hp hs).1.2.1)).1 (length_le_docBound hs)
    simp only [List.length_append, List.length_singleton, ProducerPc.weight] at this ⊢
    omega

theorem measure_next (h : MultiSearcherList.Next st = some st') : multiMeasure env st' < multiMeasure env st := by
  obtain ⟨hn, ⟨x, rest, hch, rfl⟩ | ⟨-, -, rfl⟩⟩ := MultiSearcherList.Next_eq_some h
  · simp only [multiMeasure, hch, List.length_cons]
    omega
  · simp only [multiMeasure, hn, Bool.false_eq_true, ↓reduceIte]
    omega

/-- **Every step decreases the measure.** -/
theorem multiStep_measure_lt (hi : MultiInv env st) {a : MultiAction}
    (h : multiStep env st a = some st') : multiMeasure env st' < multiMeasure env st := by
  cases a with
  | fanIn => exact measure_fanIn h
  | producer i => exact measure_producer hi h
  | next => exact measure_next h

/-- Every run from a reachable state is at most as long as the measure. -/
theorem multiRun_length_le (h : MultiReachable env st) {as : List MultiAction}
    (hr : multiRun env st as = some st') : as.length ≤ multiMeasure env st := by
  induction as generalizing st with
  | nil => simp
  | cons a as ih =>
    rw [multiRun_cons, Option.bind_eq_some] at hr
    obtain ⟨st₁, h₁, hr⟩ := hr
    have := ih (h.step a h₁) hr
    have := multiStep_measure_lt h.inv h₁
    simp only [List.length_cons]
    omega

/-- A producer that has not returned can move, or `Next` can take a match from the full
    channel it waits on. -/
theorem exists_step_of_producer (hi : MultiInv env st) {i : Nat} {pc : ProducerPc}
    (hp : st.producers[i]? = some pc) (hpc : pc.isDone = false) :
    ∃ a, (multiStep env st a).isSome := by
  have hopen := hi.open_of_running hp hpc
  have hlt : i < env.searchers.length :=
    lt_of_lt_of_le (List.getElem?_eq_some_iff.mp hp).1 hi.length
  obtain ⟨s, hs⟩ : ∃ s, env.searchers[i]? = some s := ⟨_, List.getElem?_eq_getElem hlt⟩
  cases pc with
  | pull k => exact ⟨.producer i, by simp [multiStep, collectAllDocuments.producer, hp, hs]⟩
  | send k d =>
    by_cases hc : st.chan.length < 2 * env.searchers.length
    · exact ⟨.producer i, by simp [multiStep, collectAllDocuments.producer, hp, hs, hc]⟩
    · obtain ⟨x, rest, hch⟩ := List.exists_cons_of_ne_nil
        (show st.chan ≠ [] from fun h => by simp only [h, List.length_nil] at hc; omega)
      exact ⟨.next, by simp [multiStep, MultiSearcherList.Next, hopen.2.2.2, hch]⟩
  | done k e => simp [ProducerPc.isDone] at hpc

/-- **No deadlock.**  Over a non-empty list of searchers, until `Next` has returned `nil` some
    goroutine can move: the fan-in goroutine, a producer, or the consumer. -/
theorem exists_multiStep (h : MultiReachable env st) (hN : env.searchers ≠ [])
    (hn : st.sawNil = false) : ∃ a, (multiStep env st a).isSome := by
  have hi := h.inv
  have hrun : ∀ pc ∈ st.producers, pc.isDone = false → ∃ a, (multiStep env st a).isSome :=
    fun pc hpc hd => by
      obtain ⟨i, hp⟩ := List.mem_iff_getElem?.mp hpc
      exact exists_step_of_producer hi hp hd
  have hf := hi.fanIn
  cases hfan : st.fanIn with
  | start =>
    exact ⟨.fanIn, by
      by_cases hz : env.searchers.length = 0 <;> simp [multiStep, collectAllDocuments, hfan, hz]⟩
  | spawning n =>
    by_cases hlt : n < env.searchers.length
    · by_cases hlim : (st.producers.filter (!·.isDone)).length < errgroupLimit
      · exact ⟨.fanIn, by simp [multiStep, collectAllDocuments, hfan, hlt, hlim]⟩
      · -- 1000 producers run: one of them can move
        obtain ⟨pc, hpc⟩ := List.exists_mem_of_length_pos
          (show 0 < (st.producers.filter (!·.isDone)).length by simp only [errgroupLimit] at hlim; omega)
        rw [List.mem_filter, Bool.not_eq_true'] at hpc
        exact hrun pc hpc.1 hpc.2
    · exact ⟨.fanIn, by simp [multiStep, collectAllDocuments, hfan, hlt]⟩
  | wait =>
    by_cases hall : st.producers.all (·.isDone)
    · exact ⟨.fanIn, by simp [multiStep, collectAllDocuments, hfan, hall]⟩
    · obtain ⟨pc, hpc, hd⟩ : ∃ pc ∈ st.producers, pc.isDone = false := by simpa using hall
      exact hrun pc hpc hd
  | closed =>
    rw [hfan] at hf
    cases hch : st.chan with
    | nil => exact ⟨.next, by simp [multiStep, MultiSearcherList.Next, hn, hch, hf.2.1]⟩
    | cons x rest => exact ⟨.next, by simp [multiStep, MultiSearcherList.Next, hn, hch]⟩
  | panicked =>
    rw [hfan] at hf
    exact absurd (List.length_eq_zero.mp hf.1) hN

/-- Over a non-empty list of searchers, a state where no goroutine can move is one where `Next`
    has returned `nil`. -/
theorem MultiReachable.sawNil_of_stuck (h : MultiReachable env st) (hN : env.searchers ≠ [])
    (hstuck : ∀ a, multiStep env st a = none) : st.sawNil = true := by
  by_contra hn
  obtain ⟨a, ha⟩ := exists_multiStep h hN (Bool.eq_false_iff.mpr hn)
  simp [hstuck a] at ha

/-- **`Next` returns `nil` under every schedule.**  Over a non-empty list of searchers, every run
    of a multi-search is finite, and a state in which no goroutine can move is one in which
    `Next` has returned `nil`: every producer has returned, and `docChan` is closed and
    drained. -/
theorem multiSearch_reaches_nil (h : MultiReachable env st) (hN : env.searchers ≠ []) :
    (∀ as st', multiRun env st as = some st' → as.length ≤ multiMeasure env st) ∧
      ((∀ a, multiStep env st a = none) → st.sawNil = true ∧ st.closed = true ∧ st.chan = [] ∧
        ∀ pc ∈ st.producers, pc.isDone = true) := by
  refine ⟨fun as st' hr => multiRun_length_le h hr, fun hstuck => ?_⟩
  have hn := h.sawNil_of_stuck hN hstuck
  obtain ⟨hcl, hch⟩ := h.inv.nil hn
  exact ⟨hn, hcl, hch, (h.inv.drained (h.inv.closed_iff.mp hcl)).2⟩

theorem twoSearchers_reach_nil :
    (∀ as st', multiRun twoSearchersEnv twoSearchersDone as = some st' →
        as.length ≤ multiMeasure twoSearchersEnv twoSearchersDone) ∧
      ((∀ a, multiStep twoSearchersEnv twoSearchersDone a = none) →
        twoSearchersDone.sawNil = true ∧ twoSearchersDone.closed = true ∧ twoSearchersDone.chan = [] ∧
          ∀ pc ∈ twoSearchersDone.producers, pc.isDone = true) :=
  multiSearch_reaches_nil (MultiReachable.init.run (Option.some_get _).symm) (by decide)

/-- **What `Next` delivers.**  Over a non-empty list of searchers, every run is finite, and a
    state where no goroutine can move is one where `Next` has returned `nil`.  Once it has, the
    matches `Next` returned before are a permutation of the concatenation, over the searchers,
    of each searcher's matches before its first failed load, and each searcher's matches arrive
    in its order.  A failed load ends its producer, so the searcher's later matches are never
    delivered, although no `Next` call fails. -/
theorem multiSearcher_delivers (h : MultiReachable env st) (hN : env.searchers ≠ []) :
    (∀ as st', multiRun env st as = some st' → as.length ≤ multiMeasure env st) ∧
      ((∀ a, multiStep env st a = none) → st.sawNil = true) ∧
      (st.sawNil = true →
        st.received.map (·.2) ~ (env.searchers.map (loadedPrefix env)).flatten ∧
          ∀ i s, env.searchers[i]? = some s →
            (st.received.filter (·.1 = i)).map (·.2) = loadedPrefix env s) :=
  ⟨fun _ _ hr => multiRun_length_le h hr, h.sawNil_of_stuck hN,
    fun hnil => ⟨h.inv.received_perm hnil, fun _ _ hs => h.inv.received_class hnil hs⟩⟩

/-- `twoSearchersRun` ends where `Next` has returned `nil`, the second searcher's match first. -/
theorem multiSearcher_delivers_example :
    twoSearchersDone.sawNil = true ∧ twoSearchersDone.received.map (·.2) ≠
        (twoSearchersEnv.searchers.map (loadedPrefix twoSearchersEnv)).flatten ∧
      ((∀ as st', multiRun twoSearchersEnv twoSearchersDone as = some st' →
          as.length ≤ multiMeasure twoSearchersEnv twoSearchersDone) ∧
        ((∀ a, multiStep twoSearchersEnv twoSearchersDone a = none) → twoSearchersDone.sawNil = true) ∧
        (twoSearchersDone.sawNil = true →
          twoSearchersDone.received.map (·.2) ~
              (twoSearchersEnv.searchers.map (loadedPrefix twoSearchersEnv)).flatten ∧
            ∀ i s, twoSearchersEnv.searchers[i]? = some s →
              (twoSearchersDone.received.filter (·.1 = i)).map (·.2) = loadedPrefix twoSearchersEnv s)) :=
  ⟨rfl, by decide, multiSearcher_delivers (MultiReachable.init.run (Option.some_get _).symm) (by decide)⟩

/-! ### Over no searchers -/

/-- Over no searchers, the fan-in goroutine can only take the division's panic: there is no
    producer to start. -/
theorem MultiReachable.fanIn_of_nil (h : MultiReachable env st) (hN : env.searchers = []) :
    st.fanIn = .start ∨ st.fanIn = .panicked := by
  induction h with
  | init => exact .inl rfl
  | step a _ hs ih =>
    cases a with
    | fanIn =>
      rcases collectAllDocuments_eq_some hs with ⟨-, -, rfl⟩ | ⟨-, hne, -⟩ | ⟨_, hf, -⟩ | ⟨_, hf, -⟩ | ⟨hf, -⟩
      · exact .inr rfl
      · simp [hN] at hne
      all_goals rcases ih with h | h <;> simp [h] at hf
    | producer i =>
      obtain ⟨s, hs', -⟩ := collectAllDocuments.producer_eq_some hs
      simp [hN] at hs'
    | next =>
      obtain ⟨-, ⟨_, _, -, rfl⟩ | ⟨-, -, rfl⟩⟩ := MultiSearcherList.Next_eq_some hs <;> exact ih

/-- **Over no searchers, `collectAllDocuments` divides by zero.**  `MultiSearch` with no reader
    builds a multi-searcher list over no searchers, and the first step of `collectAllDocuments`
    is the integer division by `len(m.searchers) = 0`, a run-time panic.  Whatever the schedule,
    the goroutine has taken that step or none, and `docChan` is never closed. -/
theorem collectAllDocuments_divides_by_zero (neededFields : List String)
    (load : DocumentMatch → Option Error) :
    collectAllDocuments ⟨[], neededFields, load⟩ MultiState.init =
        some { MultiState.init with fanIn := .panicked } ∧
      ∀ st, MultiReachable ⟨[], neededFields, load⟩ st →
        (st.fanIn = .start ∨ st.fanIn = .panicked) ∧ st.closed = false := by
  refine ⟨rfl, fun st h => ⟨h.fanIn_of_nil rfl, ?_⟩⟩
  have hf := h.inv.fanIn
  rcases h.fanIn_of_nil rfl with hs | hs <;> rw [hs] at hf <;> exact hf.2

end Bluge
