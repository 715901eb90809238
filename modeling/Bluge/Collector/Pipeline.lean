import Bluge.Collector.TopN

namespace Bluge.Collector

open Bluge.Search

/-!
# Collector — `Collect` as a transition system

`TopNCollector.Collect` pulls matches from the searcher on its own goroutine and gives each one
to a task (a closure run by `errs.Go`), which takes a hit number from the shared counter and then
runs `collectSingle`: it sends the match to the load, sort, consume and compare stage goroutines
in turn, over channels of capacity 10, and after each send waits on the match's unbuffered
`PipelineFinished` channel for the stage's signal.  When the searcher is drained the main
goroutine waits for every task, closes `closePipelines` and finalizes the results.

`Pipeline` is the state of all these goroutines together; `step` performs one atomic action of
one of them, chosen freely, so the runs of `step` are the interleavings of the Go program.

* A signal on `PipelineFinished` is one joint step of the stage and of the task waiting for it,
  as a send on an unbuffered channel is.
* The main goroutine's `errs.Go` and the `searcher.Next` after it are one step: nothing but the
  main goroutine observes the searcher.  A task's local work after a receive (the `d.Err` check
  of `collectSingle`) belongs to the step that woke it.
* Ghost logs record what the program does not keep: which stages received and signalled each
  match, the matches `bucket.Consume` was called on, and the `DocumentMatchPool.Put`s.

Everything later proofs need about `step` is said once, by one inversion lemma per goroutine
at the end of this file.
-/

/-- Modelled from the spec: the searcher `Collect` drains (`search.Collectible`, not in the
    source).  `Next` returns the matches `docs` in order, then `nil`, or the error `failure`. -/
structure Searcher where
  docs : List DocumentMatch
  failure : Option Error := none
  deriving DecidableEq, Repr

/-- Go's `(next, err)` pair from the `k`-th call of `searcher.Next`. -/
def Searcher.next (s : Searcher) (k : Nat) : Except Error (Option DocumentMatch) :=
  match s.docs[k]? with
  | some d => .ok (some d)
  | none =>
    match s.failure with
    | some e => .error e
    | none => .ok none

/-- The inputs of one `Collect` call: the collector, the searcher, the fields the aggregations
    need (`aggs.Fields()`), and what `LoadDocumentValues` returns for each match. -/
structure CollectEnv where
  hc : TopNCollector
  searcher : Searcher
  aggFields : List String
  loadDocumentValues : DocumentMatch → Option Error

/-- `hc.neededFields` once `Collect` has appended the aggregations' fields and filtered repeats
    (through a map, so in no fixed order; the load stage only asks whether it is empty). -/
def CollectEnv.neededFields (env : CollectEnv) : List String :=
  let fields := env.hc.neededFields ++ env.aggFields
  if fields.length > 1 then fields.dedup else fields

/-- The capacity of the four stage channels (`make(chan *search.DocumentMatch, 10)`). -/
def chanCap : Nat := 10

/-! ### Goroutines -/

/-- The four stage goroutines, in the order `collectSingle` visits them. -/
inductive Stage where
  | load
  | sort
  | consume
  | compare
  deriving DecidableEq, Repr

/-- A stage's position in that order. -/
def Stage.idx : Stage → Nat
  | .load => 0
  | .sort => 1
  | .consume => 2
  | .compare => 3

/-- The stages a match passes through before it is sent to `s`. -/
def Stage.before : Stage → List Stage
  | .load => []
  | .sort => [.load]
  | .consume => [.load, .sort]
  | .compare => [.load, .sort, .consume]

/-- All four stages, in order. -/
def allStages : List Stage := [.load, .sort, .consume, .compare]

/-- Where a task is: about to read the counter, polling `ctx.Done()` because the counter was
    a multiple of `CheckDoneEvery`, about to take its hit number, sending its match to a stage,
    waiting on `<-pf` for a stage, or returned (with its error). -/
inductive TaskPc where
  | start
  | poll
  | number
  | send (s : Stage)
  | wait (s : Stage)
  | done (err : Option Error)
  deriving DecidableEq, Repr

/-- A task returns. -/
def TaskPc.isDone : TaskPc → Bool
  | .done _ => true
  | _ => false

/-- The error a returning task hands to the `multierror.Group`. -/
def TaskPc.failure : TaskPc → List Error
  | .done (some e) => [e]
  | _ => []

/-- Where `collectSingle` goes once stage `s` has signalled: on to the next stage, or it
    returns `d.Err` after a failed load, or `nil` after the compare stage. -/
def Stage.afterSignal (err : Option Error) : Stage → TaskPc
  | .load =>
    match err with
    | some e => .done (some e)
    | none => .send .sort
  | .sort => .send .consume
  | .consume => .send .compare
  | .compare => .done none

/-- A task and its match; `received` and `signalled` are ghost logs of the stages that took the
    match off their channel and of the stages whose signal the task received. -/
structure Task where
  doc : DocumentMatch
  pc : TaskPc
  received : List Stage
  signalled : List Stage
  deriving DecidableEq, Repr

/-- A stage goroutine: not started, in its `select`, handling task `task`'s match with
    `effects` (signals and `Put`s) still to perform, or returned on `closePipelines`. -/
inductive StagePc where
  | off
  | idle
  | busy (task : Nat) (effects : List Effect)
  | exited
  deriving DecidableEq, Repr

/-- How `Collect` ends: it returns a result iterator over `ds`, or an error (the `multierror`
    of the tasks' errors, or the single error of `ctx` or of `Next`); or `Final` panics on a
    negative skip, which ends the program. -/
inductive Outcome where
  | results (ds : List DocumentMatch)
  | failed (errs : List Error)
  | panicked
  deriving DecidableEq, Repr

/-- The end of `Collect` once `finalizeResults` has run: its results, or its panic. -/
def Outcome.ofFinal : Option (List DocumentMatch) → Outcome
  | some ds => .results ds
  | none => .panicked

@[simp] theorem Outcome.ofFinal_eq_results {o : Option (List DocumentMatch)} {ds : List DocumentMatch} :
    Outcome.ofFinal o = .results ds ↔ o = some ds := by
  cases o <;> simp [Outcome.ofFinal]

@[simp] theorem Outcome.ofFinal_ne_failed (o : Option (List DocumentMatch)) (errs : List Error) :
    Outcome.ofFinal o ≠ .failed errs := by
  cases o <;> simp [Outcome.ofFinal]

@[simp] theorem Outcome.failed_ne_ofFinal (o : Option (List DocumentMatch)) (errs : List Error) :
    .failed errs ≠ Outcome.ofFinal o := (Outcome.ofFinal_ne_failed o errs).symm

/-- The main goroutine: before the first `Next`, in the task spawn loop, in `errs.Wait()`, or
    ended. -/
inductive MainPc where
  | start
  | loop
  | wait
  | returned (r : Outcome)
  deriving DecidableEq, Repr

/-- The state of one `Collect` call. -/
structure Pipeline where
  main : MainPc
  /-- the number of the `Next` call whose result the main goroutine holds -/
  cursor : Nat
  cancelled : Bool
  hitNumber : Int
  tasks : List Task
  stages : Stage → StagePc
  chans : Stage → List Nat
  /-- `closePipelines` has been closed -/
  closed : Bool
  cs : CompareState
  /-- the tasks whose match `bucket.Consume` was called on, in order -/
  consumed : List Nat
  /-- the matches put into the `DocumentMatchPool`, in order -/
  pooled : List DocumentMatch
  /-- the errors the `multierror.Group` collected, in order -/
  errs : List Error

/-- `Collect` on entry: nothing started, the counter at zero. -/
def Pipeline.init (hc : TopNCollector) : Pipeline :=
  ⟨.start, 0, false, 0, [], fun _ => .off, fun _ => [], false, hc.initCompare, [], [], []⟩

/-- Replace task `i`. -/
def Pipeline.setTask (st : Pipeline) (i : Nat) (t : Task) : Pipeline :=
  { st with tasks := st.tasks.set i t }

/-- Move task `i` (now `t`) to `pc`; a task returning an error adds it to the group's errors. -/
def Pipeline.moveTask (st : Pipeline) (i : Nat) (t : Task) (pc : TaskPc) : Pipeline :=
  { st.setTask i { t with pc := pc } with errs := st.errs ++ pc.failure }

/-- The atomic actions: one of the main goroutine, of task `i`, of stage `s` (a receive or its
    next effect), stage `s` taking the `closePipelines` case of its `select`, or the
    context being cancelled. -/
inductive Action where
  | main
  | task (i : Nat)
  | stage (s : Stage)
  | exit (s : Stage)
  | cancel
  deriving DecidableEq, Repr

/-! ### The main goroutine -/

/-- `Collect`'s own goroutine.  Its first `Next` follows a `ctx.Done()` check and is followed by
    starting the stages; each loop iteration spawns a task for the current match and calls
    `Next`.  A `Next` error returns at once; otherwise `errs.Wait()` waits for every task, and an
    error of any task is returned; otherwise `closePipelines` is closed and the results
    finalized. -/
def Collect (env : CollectEnv) (st : Pipeline) : Option Pipeline :=
  match st.main with
  | .start =>
    if st.cancelled then some { st with main := .returned (.failed [.canceled]) }
    else some { st with main := .loop, stages := fun _ => .idle }
  | .loop =>
    match env.searcher.next st.cursor with
    | .ok (some d) =>
      some { st with tasks := st.tasks ++ [⟨d, .start, [], []⟩], cursor := st.cursor + 1 }
    | .ok none => some { st with main := .wait }
    | .error e => some { st with main := .returned (.failed [e]) }
  | .wait =>
    if st.tasks.all (·.pc.isDone) then
      if st.errs = [] then
        some { st with closed := true, main := .returned (.ofFinal (finalizeResults env.hc st.cs)) }
      else some { st with main := .returned (.failed st.errs) }
    else none
  | .returned _ => none

/-! ### Tasks -/

/-- One step of task `i`: the closure given to `errs.Go`, then `collectSingle` up to each send.
    Go's truncated `%` and Lean's `%` agree on whether the remainder is zero.  A task waiting on
    `<-pf` moves only when a stage signals it (`stageEffect`). -/
def collectSingle (st : Pipeline) (i : Nat) : Option Pipeline :=
  match st.tasks[i]? with
  | none => none
  | some t =>
    match t.pc with
    | .start => some (st.moveTask i t (if st.hitNumber % CheckDoneEvery = 0 then .poll else .number))
    | .poll => some (st.moveTask i t (if st.cancelled then .done (some .canceled) else .number))
    | .number =>
      some { st.moveTask i { t with doc := { t.doc with hitNumber := goInt (st.hitNumber + 1) } }
               (.send .load) with hitNumber := goInt (st.hitNumber + 1) }
    | .send s =>
      if (st.chans s).length < chanCap then
        some { st.moveTask i t (.wait s) with chans := Function.update st.chans s (st.chans s ++ [i]) }
      else none
    | .wait _ => none
    | .done _ => none

/-! ### Stages -/

/-- The load stage's loop body: `d.Err = d.LoadDocumentValues(ctx, hc.neededFields)` when
    some field is needed, then the signal. -/
def startLoadDocValuesPipeline (env : CollectEnv) (d : DocumentMatch) : DocumentMatch × List Effect :=
  (if env.neededFields.length > 0 then { d with err := env.loadDocumentValues d } else d, [.signal])

/-- The sort stage's loop body: `continue` on a failed match, else `hc.sort.Compute(d)` and the
    signal. -/
def startSortPipeline (env : CollectEnv) (d : DocumentMatch) : DocumentMatch × List Effect :=
  if d.err.isSome then (d, []) else ({ d with sortValue := env.hc.sort.compute d }, [.signal])

/-- The consume stage's loop body on task `j`'s match: `continue` on a failed match, else
    `bucket.Consume(d)` and the signal. -/
def startConsumePipeline (consumed : List Nat) (j : Nat) (d : DocumentMatch) : List Nat × List Effect :=
  if d.err.isSome then (consumed, []) else (consumed ++ [j], [.signal])

/-- Stage `s`, handling task `j`'s match, has `es` left to perform; with none left it is back
    in its `select`. -/
def Pipeline.withEffects (st : Pipeline) (s : Stage) (j : Nat) (es : List Effect) : Pipeline :=
  { st with stages := Function.update st.stages s (if es = [] then .idle else .busy j es) }

/-- Stage `s` has taken task `j`'s match off its channel; the match is now `d`, and the stage
    has `effs` to perform. -/
def Pipeline.deliver (st : Pipeline) (s : Stage) (j : Nat) (t : Task) (d : DocumentMatch)
    (effs : List Effect) : Pipeline :=
  { (st.setTask j { t with doc := d, received := t.received ++ [s] }).withEffects s j effs with
    chans := Function.update st.chans s (st.chans s).tail }

/-- Stage `s`, in its `select`, receives the match at the head of its channel and runs its loop
    body (the compare stage's is `startComparePipeline`). -/
def stageRecv (env : CollectEnv) (st : Pipeline) (s : Stage) : Option Pipeline :=
  match st.chans s with
  | [] => none
  | j :: _ =>
    match st.tasks[j]? with
    | none => none
    | some t =>
      match s with
      | .load => some (st.deliver .load j t (startLoadDocValuesPipeline env t.doc).1 (startLoadDocValuesPipeline env t.doc).2)
      | .sort => some (st.deliver .sort j t (startSortPipeline env t.doc).1 (startSortPipeline env t.doc).2)
      | .consume =>
        some ({ st with consumed := (startConsumePipeline st.consumed j t.doc).1 }.deliver .consume j t
          t.doc (startConsumePipeline st.consumed j t.doc).2)
      | .compare =>
        some ({ st with cs := (startComparePipeline env.hc st.cs t.doc).1 }.deliver .compare j t t.doc
          (startComparePipeline env.hc st.cs t.doc).2)

/-- Stage `s`, handling task `j`'s match, performs its next effect `e`: a `Put` into the pool,
    or the signal on `PipelineFinished`, which wakes the task from `<-pf`. -/
def stageEffect (st : Pipeline) (s : Stage) (j : Nat) (e : Effect) (es : List Effect) :
    Option Pipeline :=
  match e with
  | .put x => some { st.withEffects s j es with pooled := st.pooled ++ [x] }
  | .signal =>
    match st.tasks[j]? with
    | none => none
    | some t =>
      if t.pc = .wait s then
        some ((st.withEffects s j es).moveTask j { t with signalled := t.signalled ++ [s] }
          (s.afterSignal t.doc.err))
      else none

/-- One step of stage `s` other than leaving: a receive, or its next effect. -/
def stageStep (env : CollectEnv) (st : Pipeline) (s : Stage) : Option Pipeline :=
  match st.stages s with
  | .idle => stageRecv env st s
  | .busy j (e :: es) => stageEffect st s j e es
  | _ => none

/-- Stage `s` takes the `<-hc.closePipelines` case of its `select` and returns. -/
def exitStep (st : Pipeline) (s : Stage) : Option Pipeline :=
  match st.stages s with
  | .idle => if st.closed then some { st with stages := Function.update st.stages s .exited } else none
  | _ => none

/-- The context is cancelled, once. -/
def cancelStep (st : Pipeline) : Option Pipeline :=
  if st.cancelled then none else some { st with cancelled := true }

/-! ### Runs -/

/-- One atomic action of one goroutine, `none` when it is not enabled. -/
def goroutineStep (env : CollectEnv) (st : Pipeline) : Action → Option Pipeline
  | .main => Collect env st
  | .task i => collectSingle st i
  | .stage s => stageStep env st s
  | .exit s => exitStep st s
  | .cancel => cancelStep st

/-- One atomic action of the program.  A panic in `Final` ends the program (exit status 2): no
    goroutine moves after it. -/
def step (env : CollectEnv) (st : Pipeline) (a : Action) : Option Pipeline :=
  if st.main = .returned .panicked then none else goroutineStep env st a

/-- A schedule carried out from `st`, `none` if some action of it is not enabled. -/
def run (env : CollectEnv) (st : Pipeline) : List Action → Option Pipeline
  | [] => some st
  | a :: as =>
    match step env st a with
    | some st' => run env st' as
    | none => none

/-- The states of a `Collect` call, under every interleaving. -/
inductive Reachable (env : CollectEnv) : Pipeline → Prop where
  | init : Reachable env (Pipeline.init env.hc)
  | step {st st' : Pipeline} (a : Action) :
      Reachable env st → step env st a = some st' → Reachable env st'

variable {env : CollectEnv}

@[simp] theorem run_nil (st : Pipeline) : run env st [] = some st := rfl

theorem run_cons (st : Pipeline) (a : Action) (as : List Action) :
    run env st (a :: as) = (step env st a).bind (run env · as) := by
  simp only [run]
  split <;> simp_all

/-- A schedule split in two runs the first part, then the second. -/
theorem run_append (st : Pipeline) (as bs : List Action) :
    run env st (as ++ bs) = (run env st as).bind (run env · bs) := by
  induction as generalizing st with
  | nil => rfl
  | cons a as ih =>
    simp only [List.cons_append, run_cons, ih, Option.bind_assoc]

/-- A lookup in a list with one element appended. -/
theorem getElem?_concat_eq_some {α : Type} {l : List α} {a b : α} {i : Nat}
    (h : (l ++ [a])[i]? = some b) : l[i]? = some b ∨ (i = l.length ∧ b = a) := by
  rcases Nat.lt_or_ge i l.length with hi | hi
  · exact .inl (by rwa [List.getElem?_append_left hi] at h)
  · rw [List.getElem?_append_right hi] at h
    rcases hk : i - l.length with _ | k
    · simp_all
      omega
    · simp [hk] at h

/-- A lookup in a list with one element replaced. -/
theorem getElem?_set_eq_some {α : Type} {l : List α} {a b : α} {i j : Nat}
    (h : (l.set i a)[j]? = some b) : (j = i ∧ b = a) ∨ (j ≠ i ∧ l[j]? = some b) := by
  by_cases hj : j = i
  · subst hj
    simp [List.getElem?_set] at h
    exact .inl ⟨rfl, h.2.symm⟩
  · rw [List.getElem?_set_ne (Ne.symm hj)] at h
    exact .inr ⟨hj, h⟩

/-- A property of every indexed element survives replacing one by an element that has it. -/
theorem forall_getElem?_set {α : Type} {P : Nat → α → Prop} {l : List α} {j : Nat} {x : α}
    (h : ∀ i a, l[i]? = some a → P i a) (hx : P j x) :
    ∀ i a, (l.set j x)[i]? = some a → P i a := by
  intro i a ha
  rcases getElem?_set_eq_some ha with ⟨rfl, rfl⟩ | ⟨-, ha⟩
  · exact hx
  · exact h i a ha

/-- A property of every indexed element survives appending an element that has it. -/
theorem forall_getElem?_concat {α : Type} {P : Nat → α → Prop} {l : List α} {x : α}
    (h : ∀ i a, l[i]? = some a → P i a) (hx : P l.length x) :
    ∀ i a, (l ++ [x])[i]? = some a → P i a := by
  intro i a ha
  rcases getElem?_concat_eq_some ha with ha | ⟨rfl, rfl⟩
  · exact h i a ha
  · exact hx

/-- Replacing one element of a list changes the sum of a weight over it by the difference. -/
theorem sum_map_set {α : Type} (f : α → Nat) {l : List α} {i : Nat} {a : α} (h : l[i]? = some a)
    (x : α) : ((l.set i x).map f).sum + f a = (l.map f).sum + f x := by
  induction l generalizing i with
  | nil => simp at h
  | cons b l ih =>
    cases i with
    | zero =>
      obtain rfl : b = a := by simpa using h
      simp only [List.set_cons_zero, List.map_cons, List.sum_cons]
      omega
    | succ i =>
      have := ih (by simpa using h)
      simp only [List.set_cons_succ, List.map_cons, List.sum_cons]
      omega

/-- Every state a schedule reaches from a reachable state is reachable. -/
theorem Reachable.run {st st' : Pipeline} (h : Reachable env st) {as : List Action}
    (hr : run env st as = some st') : Reachable env st' := by
  induction as generalizing st with
  | nil => cases hr; exact h
  | cons a as ih =>
    rw [run_cons, Option.bind_eq_some] at hr
    obtain ⟨st₁, h₁, hr⟩ := hr
    exact ih (h.step a h₁) hr

/-! ### What one step can do -/

variable {st st' : Pipeline}

/-- Before any panic, the program steps as its goroutines do. -/
theorem step_of_ne_panicked {a : Action} (h : st.main ≠ .returned .panicked) :
    step env st a = goroutineStep env st a := if_neg h

/-- **Inversion, the program.** A step is a goroutine's step, before any panic. -/
theorem step_eq_some {a : Action} (h : step env st a = some st') :
    st.main ≠ .returned .panicked ∧ goroutineStep env st a = some st' := by
  unfold step at h
  split at h
  · cases h
  · exact ⟨‹_›, h⟩

/-- **Inversion, main goroutine.** -/
theorem Collect_eq_some (h : Collect env st = some st') :
    (st.main = .start ∧ st.cancelled = true ∧ st' = { st with main := .returned (.failed [.canceled]) }) ∨
    (st.main = .start ∧ st.cancelled = false ∧ st' = { st with main := .loop, stages := fun _ => .idle }) ∨
    (∃ d, st.main = .loop ∧ env.searcher.next st.cursor = .ok (some d) ∧
      st' = { st with tasks := st.tasks ++ [⟨d, .start, [], []⟩], cursor := st.cursor + 1 }) ∨
    (st.main = .loop ∧ env.searcher.next st.cursor = .ok none ∧ st' = { st with main := .wait }) ∨
    (∃ e, st.main = .loop ∧ env.searcher.next st.cursor = .error e ∧
      st' = { st with main := .returned (.failed [e]) }) ∨
    (st.main = .wait ∧ (∀ t ∈ st.tasks, t.pc.isDone) ∧ st.errs = [] ∧
      st' = { st with closed := true, main := .returned (.ofFinal (finalizeResults env.hc st.cs)) }) ∨
    (st.main = .wait ∧ (∀ t ∈ st.tasks, t.pc.isDone) ∧ st.errs ≠ [] ∧
      st' = { st with main := .returned (.failed st.errs) }) := by
  unfold Collect at h
  split at h
  · rename_i hm
    cases hc : st.cancelled <;> simp only [hc, if_true, if_false, Bool.false_eq_true] at h <;>
      cases h
    · exact .inr (.inl ⟨hm, rfl, rfl⟩)
    · exact .inl ⟨hm, rfl, rfl⟩
  · rename_i hm
    split at h <;> cases h
    · exact .inr (.inr (.inl ⟨_, hm, ‹_›, rfl⟩))
    · exact .inr (.inr (.inr (.inl ⟨hm, ‹_›, rfl⟩)))
    · exact .inr (.inr (.inr (.inr (.inl ⟨_, hm, ‹_›, rfl⟩))))
  · rename_i hm
    split at h
    · rename_i hall
      have hall := List.all_eq_true.mp hall
      split at h <;> cases h
      · exact .inr (.inr (.inr (.inr (.inr (.inl ⟨hm, hall, ‹_›, rfl⟩)))))
      · exact .inr (.inr (.inr (.inr (.inr (.inr ⟨hm, hall, ‹_›, rfl⟩)))))
    · cases h
  · cases h

/-- **Inversion, tasks.** -/
theorem collectSingle_eq_some {i : Nat} (h : collectSingle st i = some st') :
    ∃ t, st.tasks[i]? = some t ∧
      ((t.pc = .start ∧
          st' = st.moveTask i t (if st.hitNumber % CheckDoneEvery = 0 then .poll else .number)) ∨
        (t.pc = .poll ∧
          st' = st.moveTask i t (if st.cancelled then .done (some .canceled) else .number)) ∨
        (t.pc = .number ∧
          st' = { st.moveTask i { t with doc := { t.doc with hitNumber := goInt (st.hitNumber + 1) } }
                    (.send .load) with hitNumber := goInt (st.hitNumber + 1) }) ∨
        ∃ s, t.pc = .send s ∧ (st.chans s).length < chanCap ∧
          st' = { st.moveTask i t (.wait s) with
                  chans := Function.update st.chans s (st.chans s ++ [i]) }) := by
  unfold collectSingle at h
  split at h
  · cases h
  · rename_i t ht
    refine ⟨t, ht, ?_⟩
    split at h
    · cases h; exact .inl ⟨‹_›, rfl⟩
    · cases h; exact .inr (.inl ⟨‹_›, rfl⟩)
    · cases h; exact .inr (.inr (.inl ⟨‹_›, rfl⟩))
    · split at h
      · cases h; exact .inr (.inr (.inr ⟨_, ‹_›, ‹_›, rfl⟩))
      · cases h
    · cases h
    · cases h

/-- **Inversion, stage receive.** The stage takes the head of its channel, a task waiting for
    it, and runs its body. -/
theorem stageRecv_eq_some {s : Stage} (h : stageRecv env st s = some st') :
    ∃ j rest t, st.chans s = j :: rest ∧ st.tasks[j]? = some t ∧
      ((s = .load ∧ st' = st.deliver .load j t (startLoadDocValuesPipeline env t.doc).1 (startLoadDocValuesPipeline env t.doc).2) ∨
        (s = .sort ∧ st' = st.deliver .sort j t (startSortPipeline env t.doc).1 (startSortPipeline env t.doc).2) ∨
        (s = .consume ∧ st' = { st with consumed := (startConsumePipeline st.consumed j t.doc).1 }.deliver
          .consume j t t.doc (startConsumePipeline st.consumed j t.doc).2) ∨
        (s = .compare ∧ st' = { st with cs := (startComparePipeline env.hc st.cs t.doc).1 }.deliver
          .compare j t t.doc (startComparePipeline env.hc st.cs t.doc).2)) := by
  unfold stageRecv at h
  split at h
  · cases h
  · rename_i j rest hch
    split at h
    · cases h
    · rename_i t ht
      refine ⟨j, rest, t, hch, ht, ?_⟩
      cases s <;> cases h
      · exact .inl ⟨rfl, rfl⟩
      · exact .inr (.inl ⟨rfl, rfl⟩)
      · exact .inr (.inr (.inl ⟨rfl, rfl⟩))
      · exact .inr (.inr (.inr ⟨rfl, rfl⟩))

/-- **Inversion, stage effects.** A `Put`, or the signal, which needs the task waiting on
    `<-pf` for this stage. -/
theorem stageEffect_eq_some {s : Stage} {j : Nat} {e : Effect} {es : List Effect}
    (h : stageEffect st s j e es = some st') :
    (∃ x, e = .put x ∧ st' = { st.withEffects s j es with pooled := st.pooled ++ [x] }) ∨
      (∃ t, e = .signal ∧ st.tasks[j]? = some t ∧ t.pc = .wait s ∧
        st' = (st.withEffects s j es).moveTask j { t with signalled := t.signalled ++ [s] }
          (s.afterSignal t.doc.err)) := by
  unfold stageEffect at h
  split at h
  · cases h; exact .inl ⟨_, rfl, rfl⟩
  · split at h
    · cases h
    · split at h
      · cases h; exact .inr ⟨_, rfl, ‹_›, ‹_›, rfl⟩
      · cases h

/-- **Inversion, stages.** -/
theorem stageStep_eq_some {s : Stage} (h : stageStep env st s = some st') :
    (st.stages s = .idle ∧ stageRecv env st s = some st') ∨
      ∃ j e es, st.stages s = .busy j (e :: es) ∧ stageEffect st s j e es = some st' := by
  unfold stageStep at h
  split at h
  · exact .inl ⟨‹_›, h⟩
  · exact .inr ⟨_, _, _, ‹_›, h⟩
  · cases h

/-- **Inversion, leaving on `closePipelines`.** -/
theorem exitStep_eq_some {s : Stage} (h : exitStep st s = some st') :
    st.stages s = .idle ∧ st.closed = true ∧
      st' = { st with stages := Function.update st.stages s .exited } := by
  unfold exitStep at h
  split at h
  · split at h
    · cases h; exact ⟨‹_›, ‹_›, rfl⟩
    · cases h
  · cases h

/-- **Inversion, cancellation.** -/
theorem cancelStep_eq_some (h : cancelStep st = some st') :
    st.cancelled = false ∧ st' = { st with cancelled := true } := by
  unfold cancelStep at h
  split at h
  · cases h
  · rename_i hc
    cases h
    exact ⟨by simpa using hc, rfl⟩

end Bluge.Collector
