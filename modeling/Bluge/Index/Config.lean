import Mathlib

namespace Bluge.Index

/-!
# Index — `Config` and its builders

`Config` is passed by value, but three of its fields are references: the maps
`supportedSegmentPlugins` and `virtualFields`, and the channel `AnalysisChan`.  Copying a
`Config` copies the references, not what they point to.  The `With…` builders have value
receivers: `WithPersisterNapTimeMSec` and `WithNormCalc` change their own copy only, while
`WithVirtualField` and `WithSegmentPlugin` write through the map references, into maps that every
copy shares, and a write into a `nil` map panics.

* `Heap` — the maps and channels allocated so far; a `Config` holds references into it.
* `defaultConfig`, `DefaultConfig`, `InMemoryOnlyConfig` — fresh maps and channel, and the `ice`
  segment plugin registered through `rv.WithSegmentPlugin`, whose result is discarded.
* `Session`, `SessionReachable` — a program's calls of these functions in any order, on any of
  the configs it holds, with each config's origin: the `DefaultConfig` or `InMemoryOnlyConfig`
  call it was copied from.
* `SessionInv`, `SessionReachable.inv` — every call keeps the invariant: held configs have
  allocated maps, share them exactly with the configs of their origin, and each map of plugins
  by version belongs to one type of one map.
* `SessionReachable.held_share_iff` — two held configs share their maps exactly when they come
  from the same call; `SessionReachable.builders_write_shared` — a `WithVirtualField` or
  `WithSegmentPlugin` write is seen through every config of the receiver's origin and no other;
  `SessionReachable.defaultConfig_registers_ice` — a new config sees exactly the `ice` plugin.
-/

/-! ### Values and references -/

/-- Modelled from the code's use: `segment.Field` (package `bluge_segment_api`, not in the
    source) is an interface; `WithVirtualField` reads its `Name()` and stores the field, the rest
    of which is `id` here. -/
structure Field where
  name : String
  id : Nat
  deriving DecidableEq, Repr

/-- Modelled from the code's use: a `SegmentPlugin` (not in the source) holds a segment format's
    `Type` and `Version`, which `WithSegmentPlugin` reads, and its `New`, `Load` and `Merge`,
    which nothing here calls (`impl`). -/
structure SegmentPlugin where
  type : String
  version : UInt32
  impl : Nat
  deriving DecidableEq, Repr

/-- Modelled from the code's calls: a config's `Directory`, by the constructor that made it
    (`NewFileSystemDirectory(path)`, `NewInMemoryDirectory()`, not in the source). -/
inductive Directory where
  | fileSystem (path : String)
  | inMemory
  deriving DecidableEq, Repr

/-- `func(field string, numTerms int) float32`; nothing here calls it. -/
def NormCalc : Type := String → Int → Float

/-- The maps and channels allocated so far.  A reference is a number below `next`; the maps of
    each type are indexed by their references, and a map not yet allocated is empty. -/
structure Heap where
  /-- The maps of type `map[string]map[uint32]*SegmentPlugin`: their values are references to
      maps of the next type. -/
  segmentPlugins : Nat → String → Option Nat
  /-- The maps of type `map[uint32]*SegmentPlugin`. -/
  pluginVersions : Nat → UInt32 → Option SegmentPlugin
  /-- The maps of type `map[string][]segment.Field`. -/
  virtualFields : Nat → String → Option (List Field)
  /-- The next reference `make`, or a map literal, allocates. -/
  next : Nat

/-- Nothing allocated. -/
def Heap.empty : Heap := ⟨fun _ _ => none, fun _ _ => none, fun _ _ => none, 0⟩

/-- `make`, or a map literal: a new reference. -/
def Heap.alloc (heap : Heap) : Nat × Heap := (heap.next, { heap with next := heap.next + 1 })

/-- `m[name] = fields` in the map `r` of type `map[string][]segment.Field`. -/
def Heap.setVirtualFields (heap : Heap) (r : Nat) (name : String) (fields : List Field) : Heap :=
  let m := Function.update (heap.virtualFields r) name (some fields)
  { heap with virtualFields := Function.update heap.virtualFields r m }

/-- `m[type] = q` in the map `r` of type `map[string]map[uint32]*SegmentPlugin`. -/
def Heap.setSegmentPlugins (heap : Heap) (r : Nat) (type : String) (q : Nat) : Heap :=
  let m := Function.update (heap.segmentPlugins r) type (some q)
  { heap with segmentPlugins := Function.update heap.segmentPlugins r m }

/-- `m[version] = plugin` in the map `q` of type `map[uint32]*SegmentPlugin`. -/
def Heap.setPluginVersions (heap : Heap) (q : Nat) (version : UInt32) (plugin : SegmentPlugin) :
    Heap :=
  let m := Function.update (heap.pluginVersions q) version (some plugin)
  { heap with pluginVersions := Function.update heap.pluginVersions q m }

/-- `Config`, with the fields the functions of this file set.  A `nil` map or channel is
    `none`; the defaults are Go's zero values, so `{}` is `Config{}`. -/
structure Config where
  segmentType : String := ""
  segmentVersion : UInt32 := 0
  supportedSegmentPlugins : Option Nat := none
  numAnalysisWorkers : Int := 0
  analysisChan : Option Nat := none
  directory : Option Directory := none
  normCalc : Option NormCalc := none
  mergeBufferSize : Int := 0
  optimizeConjunction : Bool := false
  optimizeConjunctionUnadorned : Bool := false
  optimizeDisjunctionUnadorned : Bool := false
  optimizeDisjunctionUnadornedMinChildCardinality : Int := 0
  minSegmentsForInMemoryMerge : Int := 0
  persisterNapTimeMSec : Int := 0
  persisterNapUnderNumFiles : Int := 0
  memoryPressurePauseThreshold : Int := 0
  virtualFields : Option Nat := none

/-! ### Reading the maps -/

/-- `config.virtualFields[name]`: the `nil` slice when the map is `nil` or has no entry. -/
def Heap.virtualFieldsOf (heap : Heap) (config : Config) (name : String) : List Field :=
  match config.virtualFields with
  | some r => (heap.virtualFields r name).getD []
  | none => []

/-- `config.supportedSegmentPlugins[type][version]`: `nil` when a map on the way is `nil` or has
    no entry. -/
def Heap.segmentPluginOf (heap : Heap) (config : Config) (type : String) (version : UInt32) :
    Option SegmentPlugin :=
  config.supportedSegmentPlugins.bind fun r =>
    (heap.segmentPlugins r type).bind fun q => heap.pluginVersions q version

/-! ### The builders -/

/-- `config.WithPersisterNapTimeMSec(napTime)`: the receiver's copy with the new nap time. -/
def Config.WithPersisterNapTimeMSec (config : Config) (napTime : Int) : Config :=
  { config with persisterNapTimeMSec := napTime }

/-- `config.WithNormCalc(calc)`: the receiver's copy with the new `NormCalc`. -/
def Config.WithNormCalc (config : Config) (normCalc : NormCalc) : Config :=
  { config with normCalc := some normCalc }

/-- `config.WithVirtualField(field)`:
    `config.virtualFields[field.Name()] = append(config.virtualFields[field.Name()], field)`
    writes through the receiver's map reference, then returns the receiver's copy.  Into a `nil`
    map the write panics (`none`). -/
def Config.WithVirtualField (config : Config) (field : Field) (heap : Heap) :
    Option (Heap × Config) :=
  match config.virtualFields with
  | none => none
  | some r =>
    let fields := (heap.virtualFields r field.name).getD []
    some (heap.setVirtualFields r field.name (fields ++ [field]), config)

/-- `config.WithSegmentPlugin(plugin)`: when `supportedSegmentPlugins` has no map for the
    plugin's type, a new one is allocated and stored; then the plugin is stored in that map under
    its version, and the receiver's copy is returned.  A `nil` `supportedSegmentPlugins` panics
    at the first write (`none`). -/
def Config.WithSegmentPlugin (config : Config) (plugin : SegmentPlugin) (heap : Heap) :
    Option (Heap × Config) :=
  match config.supportedSegmentPlugins with
  | none => none
  | some r =>
    let (q, heap) : Nat × Heap := match heap.segmentPlugins r plugin.type with
      | some q => (q, heap)
      | none =>
        let (q, heap) := heap.alloc
        (q, heap.setSegmentPlugins r plugin.type q)
    some (heap.setPluginVersions q plugin.version plugin, config)

/-! ### The constructors -/

/-- `defaultConfig()`, over the `ice` segment plugin (`ice.Type`, `ice.Version` and its
    functions): the map literals and `make(chan func())` allocate, in the literal's order, and
    `rv.WithSegmentPlugin(...)` registers the plugin through `rv`'s map reference, though its
    result is discarded. -/
def defaultConfig (ice : SegmentPlugin) (heap : Heap) : Option (Heap × Config) :=
  let (vf, heap) := heap.alloc
  let (ch, heap) := heap.alloc
  let (sp, heap) := heap.alloc
  let rv : Config :=
    { segmentType := ice.type
      segmentVersion := ice.version
      mergeBufferSize := 1024 * 1024
      optimizeConjunction := true
      optimizeConjunctionUnadorned := true
      optimizeDisjunctionUnadorned := true
      optimizeDisjunctionUnadornedMinChildCardinality := 256
      minSegmentsForInMemoryMerge := 2
      persisterNapTimeMSec := 0
      persisterNapUnderNumFiles := 1000
      memoryPressurePauseThreshold := 2 ^ 63 - 1
      virtualFields := some vf
      numAnalysisWorkers := 4
      analysisChan := some ch
      supportedSegmentPlugins := some sp }
  (rv.WithSegmentPlugin ice heap).map fun (heap, _) => (heap, rv)

/-- `DefaultConfig(path)`: `defaultConfig()` over a file system directory at `path`. -/
def DefaultConfig (ice : SegmentPlugin) (path : String) (heap : Heap) : Option (Heap × Config) :=
  (defaultConfig ice heap).map fun (heap, rv) => (heap, { rv with directory := some (.fileSystem path) })

/-- `InMemoryOnlyConfig()`: `defaultConfig()` over an in-memory directory. -/
def InMemoryOnlyConfig (ice : SegmentPlugin) (heap : Heap) : Option (Heap × Config) :=
  (defaultConfig ice heap).map fun (heap, rv) => (heap, { rv with directory := some .inMemory })

/-! ### Programs using the package -/

/-- A call a program makes: build a config, or call a builder on the `i`-th config it holds,
    whose result it then holds too. -/
inductive ConfigCall where
  | defaultConfig (path : String)
  | inMemoryOnlyConfig
  | withPersisterNapTimeMSec (i : Nat) (napTime : Int)
  | withVirtualField (i : Nat) (field : Field)
  | withNormCalc (i : Nat) (normCalc : NormCalc)
  | withSegmentPlugin (i : Nat) (plugin : SegmentPlugin)

/-- What a program holds: the heap, and the configs it has built, each with its origin (ghost):
    the `DefaultConfig` or `InMemoryOnlyConfig` call it was copied from, among `made` calls. -/
structure Session where
  heap : Heap
  held : List (Config × Nat)
  made : Nat

/-- The program holds `c`, copied from origin `o`, over the heap `heap`. -/
def Session.hold (s : Session) (heap : Heap) (c : Config) (o : Nat) : Session :=
  { s with heap, held := s.held ++ [(c, o)] }

/-- One call; `none` when it panics, or names a config the program does not hold. -/
def Session.step (ice : SegmentPlugin) (s : Session) : ConfigCall → Option Session
  | .defaultConfig path => (DefaultConfig ice path s.heap).map fun (heap, c) =>
      { s.hold heap c s.made with made := s.made + 1 }
  | .inMemoryOnlyConfig => (InMemoryOnlyConfig ice s.heap).map fun (heap, c) =>
      { s.hold heap c s.made with made := s.made + 1 }
  | .withPersisterNapTimeMSec i napTime => s.held[i]?.map fun (c, o) =>
      s.hold s.heap (c.WithPersisterNapTimeMSec napTime) o
  | .withVirtualField i field => s.held[i]?.bind fun (c, o) =>
      (c.WithVirtualField field s.heap).map fun (heap, c') => s.hold heap c' o
  | .withNormCalc i normCalc => s.held[i]?.map fun (c, o) =>
      s.hold s.heap (c.WithNormCalc normCalc) o
  | .withSegmentPlugin i plugin => s.held[i]?.bind fun (c, o) =>
      (c.WithSegmentPlugin plugin s.heap).map fun (heap, c') => s.hold heap c' o

/-- The sessions of a program that starts with nothing allocated. -/
inductive SessionReachable (ice : SegmentPlugin) : Session → Prop where
  | init : SessionReachable ice ⟨Heap.empty, [], 0⟩
  | step {s s' : Session} (a : ConfigCall) :
      SessionReachable ice s → s.step ice a = some s' → SessionReachable ice s'

/-! ### Reads after writes -/

section Heap
variable (heap : Heap)

@[simp] theorem Heap.alloc_fst : heap.alloc.1 = heap.next := rfl
@[simp] theorem Heap.next_alloc : heap.alloc.2.next = heap.next + 1 := rfl
@[simp] theorem Heap.segmentPlugins_alloc : heap.alloc.2.segmentPlugins = heap.segmentPlugins := rfl
@[simp] theorem Heap.pluginVersions_alloc : heap.alloc.2.pluginVersions = heap.pluginVersions := rfl
@[simp] theorem Heap.virtualFields_alloc : heap.alloc.2.virtualFields = heap.virtualFields := rfl

@[simp] theorem Heap.virtualFields_setVirtualFields (r : Nat) (name : String) (fs : List Field)
    (r' : Nat) (name' : String) : (heap.setVirtualFields r name fs).virtualFields r' name' =
      if r' = r ∧ name' = name then some fs else heap.virtualFields r' name' := by
  by_cases h : r' = r <;> by_cases h' : name' = name <;> simp [Heap.setVirtualFields, h, h']

@[simp] theorem Heap.segmentPlugins_setSegmentPlugins (r : Nat) (type : String) (q r' : Nat)
    (type' : String) : (heap.setSegmentPlugins r type q).segmentPlugins r' type' =
      if r' = r ∧ type' = type then some q else heap.segmentPlugins r' type' := by
  by_cases h : r' = r <;> by_cases h' : type' = type <;> simp [Heap.setSegmentPlugins, h, h']

@[simp] theorem Heap.pluginVersions_setPluginVersions (q : Nat) (version : UInt32)
    (plugin : SegmentPlugin) (q' : Nat) (version' : UInt32) :
    (heap.setPluginVersions q version plugin).pluginVersions q' version' =
      if q' = q ∧ version' = version then some plugin else heap.pluginVersions q' version' := by
  by_cases h : q' = q <;> by_cases h' : version' = version <;> simp [Heap.setPluginVersions, h, h']

@[simp] theorem Heap.next_setVirtualFields (r : Nat) (name : String) (fs : List Field) :
    (heap.setVirtualFields r name fs).next = heap.next := rfl
@[simp] theorem Heap.segmentPlugins_setVirtualFields (r : Nat) (name : String) (fs : List Field) :
    (heap.setVirtualFields r name fs).segmentPlugins = heap.segmentPlugins := rfl
@[simp] theorem Heap.pluginVersions_setVirtualFields (r : Nat) (name : String) (fs : List Field) :
    (heap.setVirtualFields r name fs).pluginVersions = heap.pluginVersions := rfl
@[simp] theorem Heap.next_setSegmentPlugins (r : Nat) (type : String) (q : Nat) :
    (heap.setSegmentPlugins r type q).next = heap.next := rfl
@[simp] theorem Heap.pluginVersions_setSegmentPlugins (r : Nat) (type : String) (q : Nat) :
    (heap.setSegmentPlugins r type q).pluginVersions = heap.pluginVersions := rfl
@[simp] theorem Heap.virtualFields_setSegmentPlugins (r : Nat) (type : String) (q : Nat) :
    (heap.setSegmentPlugins r type q).virtualFields = heap.virtualFields := rfl
@[simp] theorem Heap.next_setPluginVersions (q : Nat) (version : UInt32) (plugin : SegmentPlugin) :
    (heap.setPluginVersions q version plugin).next = heap.next := rfl
@[simp] theorem Heap.segmentPlugins_setPluginVersions (q : Nat) (version : UInt32)
    (plugin : SegmentPlugin) :
    (heap.setPluginVersions q version plugin).segmentPlugins = heap.segmentPlugins := rfl
@[simp] theorem Heap.virtualFields_setPluginVersions (q : Nat) (version : UInt32)
    (plugin : SegmentPlugin) :
    (heap.setPluginVersions q version plugin).virtualFields = heap.virtualFields := rfl

end Heap

/-! ### What the builders do -/

variable {c : Config}

/-- `WithVirtualField` on a non-`nil` map appends the field under its name. -/
theorem Config.WithVirtualField_some {r : Nat} (hc : c.virtualFields = some r) (field : Field)
    (heap : Heap) : c.WithVirtualField field heap =
      some (heap.setVirtualFields r field.name ((heap.virtualFields r field.name).getD [] ++ [field]), c) := by
  simp [Config.WithVirtualField, hc]

/-- `WithSegmentPlugin` on a non-`nil` map stores the plugin in the map for its type, which it
    first allocates when there is none. -/
theorem Config.WithSegmentPlugin_some {r : Nat} (hc : c.supportedSegmentPlugins = some r)
    (plugin : SegmentPlugin) (heap : Heap) :
    ∃ q heap₁, (heap.segmentPlugins r plugin.type = some q ∧ heap₁ = heap ∨
        heap.segmentPlugins r plugin.type = none ∧ q = heap.next ∧
          heap₁ = heap.alloc.2.setSegmentPlugins r plugin.type heap.next) ∧
      c.WithSegmentPlugin plugin heap = some (heap₁.setPluginVersions q plugin.version plugin, c) := by
  cases hq : heap.segmentPlugins r plugin.type with
  | some q => exact ⟨q, heap, .inl ⟨rfl, rfl⟩, by simp [Config.WithSegmentPlugin, hc, hq]⟩
  | none => exact ⟨_, _, .inr ⟨rfl, rfl, rfl⟩, by simp [Config.WithSegmentPlugin, hc, hq]⟩

@[simp] theorem Session.heap_hold (s : Session) (heap : Heap) (c : Config) (o : Nat) :
    (s.hold heap c o).heap = heap := rfl

@[simp] theorem Session.held_hold (s : Session) (heap : Heap) (c : Config) (o : Nat) :
    (s.hold heap c o).held = s.held ++ [(c, o)] := rfl

/-! ### The invariant of a program's configs -/

/-- The config's two maps and its channel are allocated below `n`. -/
def Config.Allocated (c : Config) (n : Nat) : Prop :=
  (∃ r, c.virtualFields = some r ∧ r < n) ∧ (∃ r, c.analysisChan = some r ∧ r < n) ∧
    ∃ r, c.supportedSegmentPlugins = some r ∧ r < n

theorem Config.Allocated.mono {c : Config} {n m : Nat} (h : c.Allocated n) (hn : n ≤ m) :
    c.Allocated m := by
  obtain ⟨⟨a, ha, ha'⟩, ⟨b, hb, hb'⟩, ⟨d, hd, hd'⟩⟩ := h
  exact ⟨⟨a, ha, by omega⟩, ⟨b, hb, by omega⟩, ⟨d, hd, by omega⟩⟩

/-- Two configs hold the same references. -/
def Config.SameRefs (c c' : Config) : Prop :=
  c.virtualFields = c'.virtualFields ∧ c.analysisChan = c'.analysisChan ∧
    c.supportedSegmentPlugins = c'.supportedSegmentPlugins

/-- What every session satisfies. -/
structure SessionInv (s : Session) : Prop where
  /-- Every held config has its two maps and its channel, allocated, and comes from a call made. -/
  allocated : ∀ c o, (c, o) ∈ s.held → o < s.made ∧ c.Allocated s.heap.next
  /-- Two held configs share a reference exactly when they come from the same call. -/
  shares : ∀ c o c' o', (c, o) ∈ s.held → (c', o') ∈ s.held →
    (c.virtualFields = c'.virtualFields ↔ o = o') ∧ (c.analysisChan = c'.analysisChan ↔ o = o') ∧
      (c.supportedSegmentPlugins = c'.supportedSegmentPlugins ↔ o = o')
  /-- Nothing is stored in a map not yet allocated. -/
  fresh : ∀ r, s.heap.next ≤ r → (∀ t, s.heap.segmentPlugins r t = none) ∧
    (∀ v, s.heap.pluginVersions r v = none) ∧ ∀ n, s.heap.virtualFields r n = none
  /-- Each map of type `map[uint32]*SegmentPlugin` is allocated, and stored under one type of one
      map. -/
  owned : ∀ r t q, s.heap.segmentPlugins r t = some q → q < s.heap.next ∧
    ∀ r' t', s.heap.segmentPlugins r' t' = some q → r' = r ∧ t' = t

variable {s : Session} {ice : SegmentPlugin}

theorem sessionInv_init : SessionInv ⟨Heap.empty, [], 0⟩ :=
  ⟨by simp, by simp, fun _ _ => by simp [Heap.empty], fun _ _ _ h => by simp [Heap.empty] at h⟩

/-- Holding a copy of a held config keeps the invariant. -/
theorem SessionInv.hold_copy (hi : SessionInv s) {c c' : Config} {o : Nat} (hmem : (c, o) ∈ s.held)
    (hc : c'.SameRefs c) : SessionInv (s.hold s.heap c' o) := by
  obtain ⟨h1, h2, h3⟩ := hc
  have hmem' : ∀ {d p}, (d, p) ∈ (s.hold s.heap c' o).held → (d, p) ∈ s.held ∨ c' = d ∧ o = p := by
    intro d p h
    simpa [Session.hold, eq_comm] using h
  refine ⟨fun d p hd => ?_, fun d p d' p' hd hd' => ?_, hi.fresh, hi.owned⟩
  · rcases hmem' hd with hd | ⟨rfl, rfl⟩
    · exact hi.allocated d p hd
    · simpa [Config.Allocated, h1, h2, h3] using hi.allocated c o hmem
  · rcases hmem' hd with hd | ⟨rfl, rfl⟩ <;> rcases hmem' hd' with hd' | ⟨rfl, rfl⟩
    · exact hi.shares d p d' p' hd hd'
    · simpa [h1, h2, h3] using hi.shares d p c o hd hmem
    · simpa [h1, h2, h3] using hi.shares c o d' p' hmem hd'
    · simp

/-- Holding a config whose references no held config has, from a new call, keeps the
    invariant. -/
theorem SessionInv.hold_new (hi : SessionInv s) {c : Config} (hc : c.Allocated s.heap.next)
    (hnew : ∀ d o, (d, o) ∈ s.held → d.virtualFields ≠ c.virtualFields ∧
      d.analysisChan ≠ c.analysisChan ∧ d.supportedSegmentPlugins ≠ c.supportedSegmentPlugins) :
    SessionInv { s.hold s.heap c s.made with made := s.made + 1 } := by
  have hmem' : ∀ {d p}, (d, p) ∈ s.held ++ [(c, s.made)] → (d, p) ∈ s.held ∨ c = d ∧ s.made = p := by
    intro d p h
    simpa [eq_comm] using h
  refine ⟨fun d p hd => ?_, fun d p d' p' hd hd' => ?_, hi.fresh, hi.owned⟩
  · rcases hmem' hd with hd | ⟨rfl, rfl⟩
    · exact ⟨by have := (hi.allocated d p hd).1; simp [Session.hold]; omega,
        (hi.allocated d p hd).2⟩
    · exact ⟨by simp [Session.hold], hc⟩
  · rcases hmem' hd with hd | ⟨rfl, rfl⟩ <;> rcases hmem' hd' with hd' | ⟨rfl, rfl⟩
    · exact hi.shares d p d' p' hd hd'
    · have := (hi.allocated d p hd).1
      obtain ⟨h1, h2, h3⟩ := hnew d p hd
      simp only [h1, h2, h3, false_iff]
      omega
    · have := (hi.allocated d' p' hd').1
      obtain ⟨h1, h2, h3⟩ := hnew d' p' hd'
      simp only [Ne.symm h1, Ne.symm h2, Ne.symm h3, false_iff]
      omega
    · simp

/-- An allocation keeps the invariant. -/
theorem SessionInv.alloc (hi : SessionInv s) : SessionInv { s with heap := s.heap.alloc.2 } :=
  ⟨fun c o h => ⟨(hi.allocated c o h).1, (hi.allocated c o h).2.mono (by simp)⟩, hi.shares,
    fun r hr => hi.fresh r (by simp at hr; omega),
    fun r t q h => ⟨by simpa using (hi.owned r t q h).1.trans (Nat.lt_succ_self _), (hi.owned r t q h).2⟩⟩

/-- A write of `WithVirtualField` keeps the invariant. -/
theorem SessionInv.withVirtualField (hi : SessionInv s) {c : Config} (hc : c.Allocated s.heap.next)
    {field : Field} {heap : Heap} {c' : Config}
    (h : c.WithVirtualField field s.heap = some (heap, c')) : SessionInv { s with heap } ∧ c' = c := by
  obtain ⟨⟨r, hr, hlt⟩, -⟩ := hc
  rw [Config.WithVirtualField_some hr, Option.some.injEq, Prod.mk.injEq] at h
  obtain ⟨rfl, rfl⟩ := h
  refine ⟨⟨hi.allocated, hi.shares, fun r' hr' => ?_, hi.owned⟩, rfl⟩
  obtain ⟨h1, h2, h3⟩ := hi.fresh r' hr'
  exact ⟨h1, h2, fun n => by simp [h3, show r' ≠ r by simp at hr'; omega]⟩

/-- A write of `WithSegmentPlugin` keeps the invariant. -/
theorem SessionInv.withSegmentPlugin (hi : SessionInv s) {c : Config} (hc : c.Allocated s.heap.next)
    {plugin : SegmentPlugin} {heap : Heap} {c' : Config}
    (h : c.WithSegmentPlugin plugin s.heap = some (heap, c')) :
    SessionInv { s with heap } ∧ c' = c := by
  obtain ⟨-, -, r, hr, hlt⟩ := hc
  obtain ⟨q, heap₁, hcase, h'⟩ := Config.WithSegmentPlugin_some hr plugin s.heap
  rw [h', Option.some.injEq, Prod.mk.injEq] at h
  obtain ⟨rfl, rfl⟩ := h
  refine ⟨?_, rfl⟩
  rcases hcase with ⟨hq, rfl⟩ | ⟨hq, rfl, rfl⟩
  · -- the plugin goes into the map its type already has
    have hqlt := (hi.owned r plugin.type q hq).1
    refine ⟨hi.allocated, hi.shares, fun r' hr' => ?_, by simpa using hi.owned⟩
    obtain ⟨h1, h2, h3⟩ := hi.fresh r' hr'
    exact ⟨h1, fun v => by simp [h2, show r' ≠ q by simp at hr'; omega], h3⟩
  · -- a map for the type is allocated at `next`, stored, and receives the plugin
    refine ⟨fun d p hd => ⟨(hi.allocated d p hd).1, (hi.allocated d p hd).2.mono (by simp)⟩,
      hi.shares, fun r' hr' => ?_, fun r' t q' hq' => ?_⟩
    · simp only [Heap.next_setPluginVersions, Heap.next_setSegmentPlugins, Heap.next_alloc] at hr'
      obtain ⟨h1, h2, h3⟩ := hi.fresh r' (by omega)
      exact ⟨fun t => by simp [h1, show r' ≠ r by omega],
        fun v => by simp [h2, show r' ≠ s.heap.next by omega], by simpa using h3⟩
    · simp only [Heap.segmentPlugins_setPluginVersions, Heap.segmentPlugins_setSegmentPlugins,
        Heap.segmentPlugins_alloc, Heap.next_setPluginVersions, Heap.next_setSegmentPlugins,
        Heap.next_alloc] at hq' ⊢
      split_ifs at hq' with hrt
      · -- the new entry: nothing else points to the new map
        obtain rfl := Option.some.inj hq'
        refine ⟨by omega, fun r'' t'' h'' => ?_⟩
        split_ifs at h'' with hrt'
        · exact ⟨hrt'.1.trans hrt.1.symm, hrt'.2.trans hrt.2.symm⟩
        · exact absurd (hi.owned r'' t'' _ h'').1 (lt_irrefl _)
      · obtain ⟨hlt', huniq⟩ := hi.owned r' t q' hq'
        refine ⟨by omega, fun r'' t'' h'' => ?_⟩
        split_ifs at h'' with hrt'
        · exact absurd (Option.some.inj h'') (by omega)
        · exact huniq r'' t'' h''

/-- What `defaultConfig` allocates and registers. -/
theorem defaultConfig_some (ice : SegmentPlugin) (heap : Heap)
    (hfresh : heap.segmentPlugins (heap.next + 2) ice.type = none) :
    ∃ rv, defaultConfig ice heap = some ((heap.alloc.2.alloc.2.alloc.2.alloc.2.setSegmentPlugins
        (heap.next + 2) ice.type (heap.next + 3)).setPluginVersions (heap.next + 3) ice.version ice, rv) ∧
      rv.virtualFields = some heap.next ∧ rv.analysisChan = some (heap.next + 1) ∧
      rv.supportedSegmentPlugins = some (heap.next + 2) ∧ rv.segmentType = ice.type ∧
      rv.segmentVersion = ice.version := by
  simp only [defaultConfig, Config.WithSegmentPlugin, Heap.alloc, Nat.add_assoc, Nat.reduceAdd,
    hfresh, Option.map_some', Option.some.injEq, Prod.mk.injEq, true_and, exists_eq_left', and_self]

/-- `defaultConfig` keeps the invariant, the config it returns held from a new call. -/
theorem SessionInv.defaultConfig (hi : SessionInv s) {heap : Heap} {rv c : Config}
    (h : defaultConfig ice s.heap = some (heap, rv)) (hc : c.SameRefs rv) :
    SessionInv { s.hold heap c s.made with made := s.made + 1 } := by
  have hfresh := hi.fresh (s.heap.next + 2) (by omega)
  obtain ⟨rv', hdef, h1, h2, h3, -, -⟩ := defaultConfig_some ice s.heap (hfresh.1 _)
  rw [hdef, Option.some.injEq, Prod.mk.injEq] at h
  obtain ⟨rfl, rfl⟩ := h
  -- the three allocations, then `rv.WithSegmentPlugin`, which allocates the map for the type
  have hs3 : SessionInv { s with heap := s.heap.alloc.2.alloc.2.alloc.2 } := hi.alloc.alloc.alloc
  have hreg : rv'.WithSegmentPlugin ice s.heap.alloc.2.alloc.2.alloc.2 =
      some ((s.heap.alloc.2.alloc.2.alloc.2.alloc.2.setSegmentPlugins (s.heap.next + 2) ice.type
        (s.heap.next + 3)).setPluginVersions (s.heap.next + 3) ice.version ice, rv') := by
    simp [Config.WithSegmentPlugin, h3, hfresh.1, Heap.alloc]
  have hrv : rv'.Allocated (s.heap.next + 3) :=
    ⟨⟨_, h1, by omega⟩, ⟨_, h2, by omega⟩, ⟨_, h3, by omega⟩⟩
  obtain ⟨hc1, hc2, hc3⟩ := hc
  refine (hs3.withSegmentPlugin hrv hreg).1.hold_new
    (by simpa [Config.Allocated, hc1, hc2, hc3] using hrv.mono (Nat.le_succ _)) fun d o hd => ?_
  obtain ⟨⟨a, ha, ha'⟩, ⟨b, hb, hb'⟩, ⟨e, he, he'⟩⟩ := (hi.allocated d o hd).2
  simp only [hc1, hc2, hc3, h1, h2, h3, ha, hb, he, ne_eq, Option.some.injEq]
  omega

/-- **Every call keeps the invariant.** -/
theorem SessionInv.step (hi : SessionInv s) {a : ConfigCall} {s' : Session}
    (h : s.step ice a = some s') : SessionInv s' := by
  cases a with
  | defaultConfig path | inMemoryOnlyConfig =>
    simp only [Session.step, DefaultConfig, InMemoryOnlyConfig] at h
    obtain ⟨⟨heap, c⟩, hd, rfl⟩ := Option.map_eq_some'.mp h
    obtain ⟨⟨heap', rv⟩, hdc, hx⟩ := Option.map_eq_some'.mp hd
    obtain ⟨rfl, rfl⟩ := Prod.mk.inj hx
    exact hi.defaultConfig hdc ⟨rfl, rfl, rfl⟩
  | withPersisterNapTimeMSec i _ | withNormCalc i _ =>
    obtain ⟨⟨c, o⟩, hc, rfl⟩ := Option.map_eq_some'.mp h
    exact hi.hold_copy (List.getElem?_mem hc) ⟨rfl, rfl, rfl⟩
  | withVirtualField i _ | withSegmentPlugin i _ =>
    -- the builder writes through the receiver's map and returns the receiver
    obtain ⟨⟨c, o⟩, hc, h'⟩ := Option.bind_eq_some.mp h
    obtain ⟨⟨heap, c'⟩, hw, rfl⟩ := Option.map_eq_some'.mp h'
    have hmem := List.getElem?_mem hc
    have hb : SessionInv { s with heap } ∧ c' = c := by
      first
        | exact hi.withVirtualField (hi.allocated c o hmem).2 hw
        | exact hi.withSegmentPlugin (hi.allocated c o hmem).2 hw
    obtain ⟨hi', rfl⟩ := hb
    exact hi'.hold_copy hmem ⟨rfl, rfl, rfl⟩

theorem SessionReachable.inv (h : SessionReachable ice s) : SessionInv s := by
  induction h with
  | init => exact sessionInv_init
  | step _ _ hs ih => exact ih.step hs

/-! ### What the configs see -/

/-- After `WithVirtualField`, a config holding the receiver's map sees the field appended under
    its name; a config holding another map sees nothing change. -/
theorem virtualFieldsOf_withVirtualField {c : Config} {r : Nat} (hc : c.virtualFields = some r)
    {field : Field} {heap heap' : Heap} {c₁ : Config}
    (h : c.WithVirtualField field heap = some (heap', c₁)) {c' : Config} {r' : Nat}
    (hc' : c'.virtualFields = some r') (name : String) :
    heap'.virtualFieldsOf c' name =
      heap.virtualFieldsOf c' name ++ if r' = r ∧ name = field.name then [field] else [] := by
  rw [Config.WithVirtualField_some hc, Option.some.injEq, Prod.mk.injEq] at h
  obtain ⟨rfl, -⟩ := h
  simp only [Heap.virtualFieldsOf, hc', Heap.virtualFields_setVirtualFields]
  split_ifs with h
  · simp [h.1, h.2]
  · simp

/-- After `WithSegmentPlugin`, a config holding the receiver's map finds the plugin under its
    type and version; every other lookup is unchanged, since each map of plugins by version
    belongs to one type of one map. -/
theorem segmentPluginOf_withSegmentPlugin (hi : SessionInv s) {c : Config} {r : Nat}
    (hc : c.supportedSegmentPlugins = some r) {plugin : SegmentPlugin} {heap : Heap} {c₁ : Config}
    (h : c.WithSegmentPlugin plugin s.heap = some (heap, c₁)) {c' : Config} {r' : Nat}
    (hc' : c'.supportedSegmentPlugins = some r') (type : String) (version : UInt32) :
    heap.segmentPluginOf c' type version =
      if r' = r ∧ type = plugin.type ∧ version = plugin.version then some plugin
      else s.heap.segmentPluginOf c' type version := by
  obtain ⟨q, heap₁, hcase, h'⟩ := Config.WithSegmentPlugin_some hc plugin s.heap
  rw [h', Option.some.injEq, Prod.mk.injEq] at h
  obtain ⟨rfl, -⟩ := h
  simp only [Heap.segmentPluginOf, hc', Option.some_bind]
  rcases hcase with ⟨hq, rfl⟩ | ⟨hq, rfl, rfl⟩
  · -- the map for the type existed: only it changes
    simp only [Heap.segmentPlugins_setPluginVersions, Heap.pluginVersions_setPluginVersions]
    by_cases hrt : r' = r ∧ type = plugin.type
    · obtain ⟨rfl, rfl⟩ := hrt
      by_cases hv : version = plugin.version <;> simp [hq, hv]
    · rw [if_neg fun h => hrt ⟨h.1, h.2.1⟩]
      cases hq' : s.heap.segmentPlugins r' type with
      | none => rfl
      | some q' =>
        have hne : q' ≠ q := fun he => hrt ((hi.owned r plugin.type q hq).2 r' type (he ▸ hq'))
        simp [hne]
  · -- the map for the type is new: nothing pointed to it before
    simp only [Heap.segmentPlugins_setPluginVersions, Heap.pluginVersions_setPluginVersions,
      Heap.segmentPlugins_setSegmentPlugins, Heap.segmentPlugins_alloc, Heap.pluginVersions_alloc,
      Heap.pluginVersions_setSegmentPlugins]
    by_cases hrt : r' = r ∧ type = plugin.type
    · obtain ⟨rfl, rfl⟩ := hrt
      by_cases hv : version = plugin.version <;>
        simp [hq, hv, (hi.fresh s.heap.next (le_refl _)).2.1]
    · have hrt' : ¬(r' = r ∧ type = plugin.type ∧ version = plugin.version) :=
        fun h => hrt ⟨h.1, h.2.1⟩
      simp only [hrt, hrt', if_false]
      cases hq' : s.heap.segmentPlugins r' type with
      | none => rfl
      | some q' =>
        have hne : q' ≠ s.heap.next := by have := (hi.owned r' type q' hq').1; omega
        simp [hne]

/-- A config held after a builder call on the held `(c, o)` was held before, or is the copy the
    call returned: it holds `c`'s maps exactly when it comes from `o`. -/
theorem SessionInv.hold_refs (hi : SessionInv s) {c : Config} {o : Nat} (hmem : (c, o) ∈ s.held)
    {heap : Heap} {c' : Config} {o' : Nat} (hc' : (c', o') ∈ (s.hold heap c o).held) :
    c'.Allocated s.heap.next ∧ (c'.virtualFields = c.virtualFields ↔ o' = o) ∧
      (c'.supportedSegmentPlugins = c.supportedSegmentPlugins ↔ o' = o) := by
  simp only [Session.hold, List.mem_append, List.mem_singleton, Prod.mk.injEq] at hc'
  rcases hc' with hc' | ⟨rfl, rfl⟩
  · obtain ⟨h1, -, h3⟩ := hi.shares c' o' c o hc' hmem
    exact ⟨(hi.allocated c' o' hc').2, h1, h3⟩
  · exact ⟨(hi.allocated c' o' hmem).2, by simp, by simp⟩

/-! ### A program holding a config and its copy -/

/-- A segment plugin standing for `ice`. -/
def icePlugin : SegmentPlugin := ⟨"ice", 1, 0⟩

/-- A program that calls `DefaultConfig("index")`, then copies the config it got with another
    nap time. -/
def copiedConfigSession : Session :=
  ((((⟨Heap.empty, [], 0⟩ : Session).step icePlugin (.defaultConfig "index")).get rfl).step
    icePlugin (.withPersisterNapTimeMSec 0 5)).get rfl

theorem copiedConfigSession_reachable : SessionReachable icePlugin copiedConfigSession :=
  .step _ (.step _ .init (Option.some_get _).symm) (Option.some_get _).symm

/-! ### What a program sees -/

/-- **Copies share their maps; separate calls do not.**  In every session of a program, whatever
    calls it made in whatever order, the configs it holds have non-`nil` maps, and two of them
    share their `virtualFields` map, their `supportedSegmentPlugins` map and their `AnalysisChan`
    exactly when they were copied, through any chain of builders, from the same `DefaultConfig`
    or `InMemoryOnlyConfig` call. -/
theorem SessionReachable.held_share_iff (h : SessionReachable ice s) {c c' : Config} {o o' : Nat}
    (hc : (c, o) ∈ s.held) (hc' : (c', o') ∈ s.held) :
    c.virtualFields.isSome ∧ c.supportedSegmentPlugins.isSome ∧
      (c.virtualFields = c'.virtualFields ↔ o = o') ∧ (c.analysisChan = c'.analysisChan ↔ o = o') ∧
      (c.supportedSegmentPlugins = c'.supportedSegmentPlugins ↔ o = o') := by
  have hi := h.inv
  obtain ⟨-, ⟨⟨r, hr, -⟩, -, ⟨r', hr', -⟩⟩⟩ := hi.allocated c o hc
  exact ⟨by simp [hr], by simp [hr'], hi.shares c o c' o' hc hc'⟩

theorem copiedConfig_shares_maps :
    let c := copiedConfigSession.held[0]?.get (by decide)
    let c' := copiedConfigSession.held[1]?.get (by decide)
    c.1.virtualFields.isSome ∧ c.1.supportedSegmentPlugins.isSome ∧
      (c.1.virtualFields = c'.1.virtualFields ↔ c.2 = c'.2) ∧
      (c.1.analysisChan = c'.1.analysisChan ↔ c.2 = c'.2) ∧
      (c.1.supportedSegmentPlugins = c'.1.supportedSegmentPlugins ↔ c.2 = c'.2) :=
  copiedConfigSession_reachable.held_share_iff
    (List.getElem?_mem (Option.some_get (by decide : copiedConfigSession.held[0]?.isSome)).symm)
    (List.getElem?_mem (Option.some_get (by decide : copiedConfigSession.held[1]?.isSome)).symm)

/-- A `Config{}` has `nil` maps: `WithVirtualField` panics on it. -/
example : ({} : Config).WithVirtualField ⟨"title", 0⟩ Heap.empty = none := rfl

/-- **A builder's write is seen by every copy of its receiver, and by no other config.**  In
    every session, `WithVirtualField` and `WithSegmentPlugin` on a held config return; the field
    is then appended under its name for every config that comes from the receiver's origin, the
    receiver and its earlier copies included, and the plugin found under its type and version
    through each of them; what every other config sees does not change. -/
theorem SessionReachable.builders_write_shared (h : SessionReachable ice s) {i : Nat} {c : Config}
    {o : Nat} (hi : s.held[i]? = some (c, o)) :
    (∀ field, ∃ s', s.step ice (.withVirtualField i field) = some s' ∧
      ∀ c' o', (c', o') ∈ s'.held → ∀ name, s'.heap.virtualFieldsOf c' name =
        s.heap.virtualFieldsOf c' name ++ if o' = o ∧ name = field.name then [field] else []) ∧
    (∀ plugin, ∃ s', s.step ice (.withSegmentPlugin i plugin) = some s' ∧
      ∀ c' o', (c', o') ∈ s'.held → ∀ type version, s'.heap.segmentPluginOf c' type version =
        if o' = o ∧ type = plugin.type ∧ version = plugin.version then some plugin
        else s.heap.segmentPluginOf c' type version) := by
  have hinv := h.inv
  have hmem := List.getElem?_mem hi
  obtain ⟨⟨r, hr, -⟩, -, ⟨p, hp, -⟩⟩ := (hinv.allocated c o hmem).2
  refine ⟨fun field => ?_, fun plugin => ?_⟩
  · have hw := Config.WithVirtualField_some hr field s.heap
    refine ⟨_, by simp only [Session.step, hi, Option.some_bind, hw, Option.map_some']; rfl,
      fun c' o' hc' name => ?_⟩
    obtain ⟨⟨⟨r', hr', -⟩, -⟩, hvf, -⟩ := hinv.hold_refs hmem hc'
    rw [Session.heap_hold, virtualFieldsOf_withVirtualField hr hw hr']
    simp only [show r' = r ↔ o' = o by rw [← hvf, hr', hr, Option.some.injEq]]
  · obtain ⟨q, heap₁, -, hw⟩ := Config.WithSegmentPlugin_some hp plugin s.heap
    refine ⟨_, by simp only [Session.step, hi, Option.some_bind, hw, Option.map_some']; rfl,
      fun c' o' hc' type version => ?_⟩
    obtain ⟨⟨-, -, ⟨p', hp', -⟩⟩, -, hsp⟩ := hinv.hold_refs hmem hc'
    rw [Session.heap_hold, segmentPluginOf_withSegmentPlugin hinv hp hw hp']
    simp only [show p' = p ↔ o' = o by rw [← hsp, hp', hp, Option.some.injEq]]

theorem copiedConfig_writes_shared :
    let c := copiedConfigSession.held[0]?.get (by decide)
    (∀ field, ∃ s', copiedConfigSession.step icePlugin (.withVirtualField 0 field) = some s' ∧
      ∀ c' o', (c', o') ∈ s'.held → ∀ name, s'.heap.virtualFieldsOf c' name =
        copiedConfigSession.heap.virtualFieldsOf c' name ++
          if o' = c.2 ∧ name = field.name then [field] else []) ∧
    (∀ plugin, ∃ s', copiedConfigSession.step icePlugin (.withSegmentPlugin 0 plugin) = some s' ∧
      ∀ c' o', (c', o') ∈ s'.held → ∀ type version, s'.heap.segmentPluginOf c' type version =
        if o' = c.2 ∧ type = plugin.type ∧ version = plugin.version then some plugin
        else copiedConfigSession.heap.segmentPluginOf c' type version) :=
  copiedConfigSession_reachable.builders_write_shared
    (Option.some_get (by decide : copiedConfigSession.held[0]?.isSome)).symm

/-- **A new config sees only the `ice` plugin, and changes no other config.**  In every session,
    `DefaultConfig(path)` and `InMemoryOnlyConfig()` return a config with no virtual fields whose
    registry holds exactly the `ice` plugin, found under the config's own `SegmentType` and
    `SegmentVersion`: `rv.WithSegmentPlugin` registered it through `rv`'s map, though its result
    is discarded.  What every config held before sees does not change. -/
theorem SessionReachable.defaultConfig_registers_ice (h : SessionReachable ice s) {a : ConfigCall}
    (ha : a = .inMemoryOnlyConfig ∨ ∃ path, a = .defaultConfig path) :
    ∃ s' c, s.step ice a = some s' ∧ s'.held = s.held ++ [(c, s.made)] ∧
      (∀ name, s'.heap.virtualFieldsOf c name = []) ∧
      (∀ type version, s'.heap.segmentPluginOf c type version =
        if type = ice.type ∧ version = ice.version then some ice else none) ∧
      s'.heap.segmentPluginOf c c.segmentType c.segmentVersion = some ice ∧
      ∀ d o, (d, o) ∈ s.held →
        (∀ name, s'.heap.virtualFieldsOf d name = s.heap.virtualFieldsOf d name) ∧
        ∀ type version, s'.heap.segmentPluginOf d type version = s.heap.segmentPluginOf d type version := by
  have hi := h.inv
  have hfresh₂ := hi.fresh (s.heap.next + 2) (by omega)
  have hfresh₃ := hi.fresh (s.heap.next + 3) (by omega)
  obtain ⟨rv, hdef, h1, -, h3, h4, h5⟩ := defaultConfig_some ice s.heap (hfresh₂.1 _)
  obtain ⟨heap, hheap⟩ : ∃ heap, heap = (s.heap.alloc.2.alloc.2.alloc.2.alloc.2.setSegmentPlugins
      (s.heap.next + 2) ice.type (s.heap.next + 3)).setPluginVersions (s.heap.next + 3)
      ice.version ice := ⟨_, rfl⟩
  rw [← hheap] at hdef
  -- the new config's maps are the fresh ones `defaultConfig` filled
  have hnew : ∀ c : Config, c.SameRefs rv → c.segmentType = ice.type →
      c.segmentVersion = ice.version → (∀ name, heap.virtualFieldsOf c name = []) ∧
      (∀ type version, heap.segmentPluginOf c type version =
        if type = ice.type ∧ version = ice.version then some ice else none) ∧
      heap.segmentPluginOf c c.segmentType c.segmentVersion = some ice := by
    rintro c ⟨hc1, -, hc3⟩ hc4 hc5
    have hsp : ∀ type version, heap.segmentPluginOf c type version =
        if type = ice.type ∧ version = ice.version then some ice else none := fun type version => by
      by_cases ht : type = ice.type <;> by_cases hv : version = ice.version <;>
        simp [hheap, Heap.segmentPluginOf, hc3, h3, ht, hv, hfresh₂.1, hfresh₃.2.1]
    refine ⟨fun name => ?_, hsp, by simp [hsp, hc4, hc5]⟩
    simp [hheap, Heap.virtualFieldsOf, hc1, h1, (hi.fresh s.heap.next le_rfl).2.2]
  -- the maps of the configs held before are below `next`, and only fresh ones were written
  have hold : ∀ d o, (d, o) ∈ s.held →
      (∀ name, heap.virtualFieldsOf d name = s.heap.virtualFieldsOf d name) ∧
      ∀ type version, heap.segmentPluginOf d type version = s.heap.segmentPluginOf d type version := by
    intro d o hd
    obtain ⟨-, -, ⟨e, he, helt⟩⟩ := (hi.allocated d o hd).2
    refine ⟨fun name => by simp [hheap, Heap.virtualFieldsOf], fun type version => ?_⟩
    simp only [hheap, Heap.segmentPluginOf, he, Option.some_bind,
      Heap.segmentPlugins_setPluginVersions, Heap.segmentPlugins_setSegmentPlugins,
      Heap.segmentPlugins_alloc, Heap.pluginVersions_setPluginVersions,
      Heap.pluginVersions_setSegmentPlugins, Heap.pluginVersions_alloc]
    rw [if_neg (by omega)]
    cases hq : s.heap.segmentPlugins e type with
    | none => rfl
    | some q =>
      have := (hi.owned e type q hq).1
      simp [show q ≠ s.heap.next + 3 by omega]
  rcases ha with rfl | ⟨path, rfl⟩
  · let c : Config := { rv with directory := some .inMemory }
    obtain ⟨hv, hsp, hown⟩ := hnew c ⟨rfl, rfl, rfl⟩ h4 h5
    exact ⟨{ s.hold heap c s.made with made := s.made + 1 }, c,
      by simp only [Session.step, InMemoryOnlyConfig, hdef, Option.map_some'], rfl, hv, hsp, hown, hold⟩
  · let c : Config := { rv with directory := some (.fileSystem path) }
    obtain ⟨hv, hsp, hown⟩ := hnew c ⟨rfl, rfl, rfl⟩ h4 h5
    exact ⟨{ s.hold heap c s.made with made := s.made + 1 }, c,
      by simp only [Session.step, DefaultConfig, hdef, Option.map_some'], rfl, hv, hsp, hown, hold⟩

theorem copiedConfig_inMemory_registers_ice :
    ∃ s' c, copiedConfigSession.step icePlugin .inMemoryOnlyConfig = some s' ∧
      s'.held = copiedConfigSession.held ++ [(c, copiedConfigSession.made)] ∧
      (∀ name, s'.heap.virtualFieldsOf c name = []) ∧
      (∀ type version, s'.heap.segmentPluginOf c type version =
        if type = icePlugin.type ∧ version = icePlugin.version then some icePlugin else none) ∧
      s'.heap.segmentPluginOf c c.segmentType c.segmentVersion = some icePlugin ∧
      ∀ d o, (d, o) ∈ copiedConfigSession.held →
        (∀ name, s'.heap.virtualFieldsOf d name = copiedConfigSession.heap.virtualFieldsOf d name) ∧
        ∀ type version, s'.heap.segmentPluginOf d type version =
          copiedConfigSession.heap.segmentPluginOf d type version :=
  copiedConfigSession_reachable.defaultConfig_registers_ice (.inl rfl)

end Bluge.Index
