import RuleArena.Evaluation.Refunds
import RuleArena.Foundation.Table
import RuleArena.Runtime.Log

/-!
# The search benchmark

A benchmark runs every case so many times, and keeps each fact in the store as
soon as it has it. A call that is killed leaves its run `RUNNING` there, and a
later call can resume it: then only the cells without a fact are executed. Which
run is resumed depends on the versions, the baseline and the suite, and not on the
seed, the budget and the repetitions. The calls go one after the other, and each
can be killed after any number of facts.

When a cell raises, the call does. But cells that are executed at the same time are
left running: they go on after the call has ended, between and during later calls,
and append their facts to a run that may have been finished meanwhile.

If the runs that calls resume were started with the same seed, budget and
repetitions, and no cell raises that is executed with others, then every run that a
call returns measures one configuration (`BenchmarkWorld.returns_faithful`).

What is executed is arbitrary. With every fact the model keeps the seed and the
budget that it was executed with, which no call reads.
-/

namespace RuleArena

inductive BaselineType
  | random
  | bfs
  | singleAgent
  | multiStrategy
  deriving DecidableEq, Repr

inductive FailureKind
  | none
  | infraFailed
  | cancelled
  | evaluationFailed
  deriving DecidableEq, Repr

structure BenchmarkCase where
  caseId : String
  benchmarkVersion : String
  visibility : Visibility
  scenarioType : ScenarioType
  budget : Budget
  ruleVersionId : String
  scenarioVersionId : String
  oracleVersion : String

structure RawCaseRun where
  caseId : String
  visibility : Visibility
  baseline : BaselineType
  repetition : Nat
  outcome : AttackOutcome
  failureKind : FailureKind := .none
  confirmedInvariantIds : List InvariantId := []
  usage : BudgetUsage := {}
  deriving DecidableEq

/-- A fact, with the seed and the budget that it was executed with. -/
structure ExecutedFact where
  fact : RawCaseRun
  seed : Int
  budget : Budget
  deriving DecidableEq

/-- The case and the repetition of a fact. -/
def ExecutedFact.cell (executed : ExecutedFact) : String × Nat :=
  (executed.fact.caseId, executed.fact.repetition)

structure BenchmarkRun where
  benchmarkRunId : String
  versions : VersionTuple
  baseline : BaselineType
  randomSeed : Int
  budget : Budget
  repetitions : Nat
  suite : Visibility
  status : BenchmarkStatus
  rawRuns : List ExecutedFact
  metrics : Json
  startedAt : Nat
  finishedAt : Option Nat
  deriving DecidableEq

/-! ## The store -/

/-- `InMemoryBenchmarkStore`: the runs in the order in which they were started. -/
structure BenchmarkStore where
  runs : List BenchmarkRun := []

/-- The first of the runs that were started last. -/
def latestStarted : List BenchmarkRun → Option BenchmarkRun
  | [] => none
  | run :: runs =>
    match latestStarted runs with
    | none => some run
    | some later => if run.startedAt < later.startedAt then some later else some run

namespace BenchmarkStore

variable (store : BenchmarkStore)

/-- `get` -/
def get (benchmarkRunId : String) : Option BenchmarkRun :=
  Table.find? BenchmarkRun.benchmarkRunId store.runs benchmarkRunId

/-- `start_run` -/
def startRun (run : BenchmarkRun) : Except StoreError BenchmarkStore := do
  ensure (store.get run.benchmarkRunId = none) .valueError
  let started := { run with status := .running, rawRuns := [], metrics := .obj [] }
  return { runs := store.runs ++ [started] }

/-- `append_case` -/
def appendCase (benchmarkRunId : String) (raw : ExecutedFact) :
    Except StoreError BenchmarkStore := do
  let run ← InMemoryRuntimeStore.entry (store.get benchmarkRunId)
  ensure (raw.cell ∉ run.rawRuns.map ExecutedFact.cell) .valueError
  let extended := { run with rawRuns := run.rawRuns ++ [raw] }
  return { runs := Table.update BenchmarkRun.benchmarkRunId store.runs extended }

/-- `finalize_run` -/
def finalizeRun (benchmarkRunId : String) (status : BenchmarkStatus) (rawRuns : List ExecutedFact)
    (metrics : Json) (finishedAt : Nat) : Except StoreError BenchmarkStore := do
  let run ← InMemoryRuntimeStore.entry (store.get benchmarkRunId)
  ensure (run.status = .running) .valueError
  let finished := { run with status, rawRuns, metrics, finishedAt := some finishedAt }
  return { runs := Table.update BenchmarkRun.benchmarkRunId store.runs finished }

/-- `append_case`, by a cell whose call has ended: nobody sees it raise. -/
def appendLate (entry : String × ExecutedFact) : BenchmarkStore :=
  match store.appendCase entry.1 entry.2 with
  | .ok store => store
  | .error _ => store

/-- `running` -/
def running (versions : VersionTuple) (baseline : BaselineType) (suite : Visibility) :
    Option BenchmarkRun :=
  latestStarted (store.runs.filter fun run => run.versions = versions ∧ run.baseline = baseline ∧
    run.suite = suite ∧ run.status = .running)

end BenchmarkStore

/-! ## Calls -/

/-- What happens while the cells of a call are executed: one of them is finished, or one that an
    earlier call has left running, with the fact that it has for its run. -/
inductive CellStep
  | cell (cell : BenchmarkCase × Nat)
  | late (entry : String × ExecutedFact)

/-- A cell of the call itself. -/
def CellStep.own? : CellStep → Option (BenchmarkCase × Nat)
  | .cell own => some own
  | .late _ => none

/-- A call of `BenchmarkRunner.run`, with what the executor, the metrics and the search for
    leaks come to, the order in which cells are finished, and after how many facts it is
    killed, if it is. -/
structure BenchmarkCall where
  cases : List BenchmarkCase
  versions : VersionTuple
  baseline : BaselineType
  repetitions : Nat
  randomSeed : Int
  concurrency : Nat := 1
  resume : Bool := false
  execute : BenchmarkCase → Nat → Int → Option RawCaseRun
  leaks : RawCaseRun → List BenchmarkCase → Bool := fun _ _ => false
  metrics : List BenchmarkCase → List RawCaseRun → Nat → Json
  uuid : String
  startedAt : Nat
  finishedAt : Nat
  arrange : List (BenchmarkCase × Nat) → List CellStep := List.map .cell
  arrange_perm : ∀ cells, ((arrange cells).filterMap CellStep.own?).Perm cells
  killedAfter : Option Nat := none

/-- The cells of a call, when none of another call is among them. -/
theorem filterMap_own_map (cells : List (BenchmarkCase × Nat)) :
    ((cells.map CellStep.cell).filterMap CellStep.own?).Perm cells := by
  rw [List.filterMap_map]
  exact .of_eq (List.filterMap_some (l := cells))

namespace BenchmarkCall

variable (call : BenchmarkCall)

/-- The cases fit together and to the versions. -/
def Coherent (first : BenchmarkCase) : Prop :=
  ∀ case ∈ call.cases, case.visibility = first.visibility ∧
    case.benchmarkVersion = call.versions.benchmarkVersion ∧ case.budget = first.budget ∧
    case.oracleVersion = call.versions.oracleVersion ∧
    ∀ other ∈ call.cases, other.scenarioType = case.scenarioType →
      (other.ruleVersionId, other.scenarioVersionId) = (case.ruleVersionId, case.scenarioVersionId)

instance (first : BenchmarkCase) : Decidable (call.Coherent first) :=
  inferInstanceAs (Decidable (∀ _ ∈ _, _))

/-- The cells of a call. -/
def cells : List (BenchmarkCase × Nat) :=
  call.cases.flatMap fun case =>
    (List.range' 1 call.repetitions).map fun repetition => (case, repetition)

/-- `execute_cell`: the fact, unless it is one of another cell. -/
def executeCell (suite : Visibility) (cell : BenchmarkCase × Nat) : Option ExecutedFact :=
  let seed := call.randomSeed + cell.2 - 1
  let fact := (call.execute cell.1 cell.2 seed).getD {
    caseId := cell.1.caseId, visibility := suite, baseline := call.baseline, repetition := cell.2
    outcome := .infraFailed, failureKind := .infraFailed }
  if fact.caseId = cell.1.caseId ∧ fact.visibility = suite ∧ fact.baseline = call.baseline ∧
      fact.repetition = cell.2 then
    some { fact, seed, budget := cell.1.budget }
  else none

/-- The run of a call that resumes none. -/
def newRun (first : BenchmarkCase) : BenchmarkRun where
  benchmarkRunId := call.uuid
  versions := call.versions
  baseline := call.baseline
  randomSeed := call.randomSeed
  budget := first.budget
  repetitions := call.repetitions
  suite := first.visibility
  status := .running
  rawRuns := []
  metrics := .obj []
  startedAt := call.startedAt
  finishedAt := none

/-- The run that a call resumes. -/
def resumed (store : BenchmarkStore) (first : BenchmarkCase) : Option BenchmarkRun :=
  if call.resume then store.running call.versions call.baseline first.visibility else none

/-- The run that a call goes on with. -/
def openRun (store : BenchmarkStore) (first : BenchmarkCase) :
    Except StoreError (BenchmarkStore × BenchmarkRun) :=
  match call.resumed store first with
  | some run => .ok (store, run)
  | none => do return (← store.startRun (call.newRun first), call.newRun first)

end BenchmarkCall

/-- The fact of a cell among those that were collected. -/
def collectedFact (collected : List ExecutedFact) (cell : BenchmarkCase × Nat) :
    Option ExecutedFact :=
  Table.find? ExecutedFact.cell collected (cell.1.caseId, cell.2)

/-- How the cells of a call end: all are collected, an exception is raised and some cells are
    left running, or the call is killed. -/
inductive CellsEnd
  | collected (facts : List ExecutedFact)
  | raised (left : List (BenchmarkCase × Nat))
  | killed

/-- How a call ends. A cell that is left running has a fact for its run in the end. -/
inductive CallEnd
  | returned (run : BenchmarkRun)
  | raised (left : List (String × ExecutedFact))
  | killed

namespace BenchmarkCall

variable (call : BenchmarkCall)

/-- `persist`: the fact of a cell is stored, unless it is one of another cell or has a leak. -/
def persist (suite : Visibility) (runId : String) (cell : BenchmarkCase × Nat)
    (store : BenchmarkStore) : Option (BenchmarkStore × ExecutedFact) :=
  match call.executeCell suite cell with
  | none => none
  | some fact =>
    if call.leaks fact.fact call.cases then none
    else
      match store.appendCase runId fact with
      | .error _ => none
      | .ok store => some (store, fact)

/-- The cells that are left running when one of them raises: `gather` cancels none of the others.
    One at a time, there are no others. -/
def leftRunning (steps : List CellStep) : List (BenchmarkCase × Nat) :=
  if call.concurrency ≤ 1 then [] else steps.filterMap CellStep.own?

/-- The cells, as they are finished: each is executed, and its fact is stored. One at a time, a
    cell that was collected meanwhile is left out. -/
def persistAll (suite : Visibility) (runId : String) :
    List CellStep → Option Nat → BenchmarkStore → List ExecutedFact → BenchmarkStore × CellsEnd
  | [], none, store, collected => (store, .collected collected)
  | [], some _, store, _ => (store, .killed)
  | .late entry :: steps, limit, store, collected =>
    persistAll suite runId steps limit (store.appendLate entry) collected
  | .cell cell :: steps, limit, store, collected =>
    if limit = some 0 then (store, .killed)
    else if call.concurrency ≤ 1 ∧ (collectedFact collected cell).isSome then
      persistAll suite runId steps limit store collected
    else
      match call.persist suite runId cell store with
      | none => (store, .raised (call.leftRunning steps))
      | some (store, fact) =>
        persistAll suite runId steps (limit.map (· - 1)) store (collected ++ [fact])

/-- The facts that cells come to which are left running, but for those that raise. -/
def lateFacts (suite : Visibility) (runId : String) (cells : List (BenchmarkCase × Nat)) :
    List (String × ExecutedFact) :=
  cells.filterMap fun cell =>
    ((call.executeCell suite cell).filter fun fact => ¬ call.leaks fact.fact call.cases).map
      fun fact => (runId, fact)

/-- The facts of a call in the order of its cells. -/
def rawRuns (collected : List ExecutedFact) : List ExecutedFact :=
  call.cells.filterMap (collectedFact collected)

/-- After the cells: the run is finished, unless the metrics find a case twice. -/
def finish (first : BenchmarkCase) (opened : BenchmarkRun) (store : BenchmarkStore)
    (collected : List ExecutedFact) : BenchmarkStore × CallEnd :=
  if (call.cases.map BenchmarkCase.caseId).Nodup then
    let raw := call.rawRuns collected
    let metrics := call.metrics call.cases (raw.map ExecutedFact.fact) call.repetitions
    match store.finalizeRun opened.benchmarkRunId .completed raw metrics call.finishedAt with
    | .error _ => (store, .raised [])
    | .ok store => (store, .returned { call.newRun first with
        benchmarkRunId := opened.benchmarkRunId, status := .completed, rawRuns := raw, metrics
        startedAt := opened.startedAt, finishedAt := some call.finishedAt })
  else (store, .raised [])

/-- The cells of a call that have no fact yet. -/
def pending (collected : List ExecutedFact) : List (BenchmarkCase × Nat) :=
  call.cells.filter fun cell => (collectedFact collected cell).isNone

/-- `BenchmarkRunner.run` -/
def run (store : BenchmarkStore) : BenchmarkStore × CallEnd :=
  match call.cases with
  | [] => (store, .raised [])
  | first :: _ =>
    if 1 ≤ call.repetitions ∧ 1 ≤ call.concurrency ∧ call.Coherent first then
      match call.openRun store first with
      | .error _ => (store, .raised [])
      | .ok (store, opened) =>
        match call.persistAll first.visibility opened.benchmarkRunId
          (call.arrange (call.pending opened.rawRuns)) call.killedAfter store opened.rawRuns with
        | (store, .collected collected) => call.finish first opened store collected
        | (store, .raised left) =>
          (store, .raised (call.lateFacts first.visibility opened.benchmarkRunId left))
        | (store, .killed) => (store, .killed)
    else (store, .raised [])

end BenchmarkCall

/-- The store, and the facts of the cells that are left running. -/
structure BenchmarkWorld where
  store : BenchmarkStore := {}
  left : List (String × ExecutedFact) := []

/-- What happens next: a call, or a cell is finished that was left running. -/
inductive BenchmarkMove
  | call (call : BenchmarkCall)
  | late (entry : String × ExecutedFact)

namespace BenchmarkWorld

variable (world : BenchmarkWorld)

/-- What a move does. When a call is killed no cell goes on. -/
def step : BenchmarkMove → BenchmarkWorld
  | .call call =>
    { store := (call.run world.store).1
      left := match (call.run world.store).2 with
        | .returned _ => world.left
        | .raised left => world.left ++ left
        | .killed => [] }
  | .late entry => { world with store := world.store.appendLate entry }

/-- The world after moves. -/
def after (moves : List BenchmarkMove) : BenchmarkWorld := moves.foldl step world

/-- Only cells that were left running are finished late. -/
def Possible : BenchmarkMove → Prop
  | .call call => ∀ cells entry, .late entry ∈ call.arrange cells → entry ∈ world.left
  | .late entry => entry ∈ world.left

/-- Something holds before each of the moves. -/
def All (P : BenchmarkWorld → BenchmarkMove → Prop) : BenchmarkWorld → List BenchmarkMove → Prop
  | _, [] => True
  | world, move :: moves => P world move ∧ All P (world.step move) moves

end BenchmarkWorld

/-! ## One configuration -/

/-- A run with more facts. -/
def BenchmarkRun.extended (run : BenchmarkRun) (facts : List ExecutedFact) : BenchmarkRun :=
  { run with rawRuns := run.rawRuns ++ facts }

theorem BenchmarkRun.extended_nil (run : BenchmarkRun) : run.extended [] = run := by
  rw [extended, List.append_nil]

theorem BenchmarkRun.extended_extended (run : BenchmarkRun) (facts facts' : List ExecutedFact) :
    (run.extended facts).extended facts' = run.extended (facts ++ facts') := by
  rw [extended, extended, extended, List.append_assoc]

namespace BenchmarkStore

/-- A fact was executed under the seed and the budget of a run. -/
def ExecutedUnder (run : BenchmarkRun) (executed : ExecutedFact) : Prop :=
  executed.seed = run.randomSeed + executed.fact.repetition - 1 ∧ executed.budget = run.budget

/-- The runs have names of their own, and those that are not finished have facts of their own
    configuration. -/
def Sound (store : BenchmarkStore) : Prop :=
  Table.Fits (fun run => run.status = .running → ∀ executed ∈ run.rawRuns,
    ExecutedUnder run executed) BenchmarkRun.benchmarkRunId store.runs

/-- The run that a call resumes, if it resumes one, has its seed, budget and repetitions. -/
def Matches (store : BenchmarkStore) (call : BenchmarkCall) : Prop :=
  ∀ first ∈ call.cases.head?, ∀ run, call.resumed store first = some run →
    run.randomSeed = call.randomSeed ∧ run.budget = first.budget ∧
      run.repetitions = call.repetitions

/-- No cell raises that is executed with others: every fact is one of its cell and without a
    leak, and no cell is there twice. -/
def Calm (store : BenchmarkStore) (call : BenchmarkCall) : Prop :=
  call.concurrency ≤ 1 ∨ (call.cases.map BenchmarkCase.caseId).Nodup ∧
    ∀ first ∈ call.cases.head?,
      ∀ cell ∈ call.pending (((call.resumed store first).map BenchmarkRun.rawRuns).getD []),
        ∃ fact, call.executeCell first.visibility cell = some fact ∧
          ¬ call.leaks fact.fact call.cases

end BenchmarkStore

/-- The condition under which a call measures one configuration. -/
def BenchmarkWorld.Meets (world : BenchmarkWorld) : BenchmarkMove → Prop
  | .call call => world.store.Matches call ∧ world.store.Calm call
  | .late _ => True

namespace BenchmarkStore

/-- A run that is returned is the one in the store, has every cell of the call once, and was
    measured under its own configuration. -/
structure Faithful (store : BenchmarkStore) (call : BenchmarkCall) (run : BenchmarkRun) :
    Prop where
  completed : run.status = .completed
  stored : store.get run.benchmarkRunId = some run
  cells : run.rawRuns.map ExecutedFact.cell = call.cells.map fun cell => (cell.1.caseId, cell.2)
  once : (call.cells.map fun cell => (cell.1.caseId, cell.2)).Nodup
  executed : ∀ executed ∈ run.rawRuns, ExecutedUnder run executed

/-! ## What the store keeps -/

variable {store store' : BenchmarkStore}

theorem mem_latestStarted {runs : List BenchmarkRun} {run : BenchmarkRun}
    (h : latestStarted runs = some run) : run ∈ runs := by
  induction runs with
  | nil => cases h
  | cons other runs ih =>
    rw [latestStarted] at h
    cases found : latestStarted runs with
    | none =>
      rw [found] at h
      exact Option.some.inj h ▸ List.mem_cons_self
    | some later =>
      rw [found] at h
      dsimp only at h
      split_ifs at h
      · exact List.mem_cons_of_mem _ (ih (found.trans h))
      · exact Option.some.inj h ▸ List.mem_cons_self

/-- What is known of a run that is resumed. -/
theorem running_spec {versions : VersionTuple} {baseline : BaselineType} {suite : Visibility}
    {run : BenchmarkRun} (h : store.running versions baseline suite = some run) :
    run ∈ store.runs ∧ run.versions = versions ∧ run.baseline = baseline ∧ run.suite = suite ∧
      run.status = .running := by
  have mem := List.mem_filter.1 (mem_latestStarted h)
  exact ⟨mem.1, of_decide_eq_true mem.2⟩

theorem startRun_spec {run : BenchmarkRun} (h : store.startRun run = .ok store') :
    store.get run.benchmarkRunId = none ∧
      store'.runs = store.runs ++
        [{ run with status := .running, rawRuns := [], metrics := .obj [] }] := by
  simp only [startRun, Checked.bind_eq_ok, Checked.ensure_eq_ok, Checked.pure_eq_ok] at h
  obtain ⟨_, new, rfl⟩ := h
  exact ⟨new, rfl⟩

theorem appendCase_spec {runId : String} {raw : ExecutedFact} {run : BenchmarkRun}
    (found : store.get runId = some run) (h : store.appendCase runId raw = .ok store') :
    store'.runs = Table.update BenchmarkRun.benchmarkRunId store.runs
      (run.extended [raw]) := by
  simp only [appendCase, found, InMemoryRuntimeStore.entry_eq_ok, Checked.bind_eq_ok,
    Checked.ensure_eq_ok, Checked.pure_eq_ok, Option.some_inj] at h
  obtain ⟨_, rfl, _, -, rfl⟩ := h
  rfl

theorem finalizeRun_spec {runId : String} {status : BenchmarkStatus}
    {rawRuns : List ExecutedFact} {metrics : Json} {finishedAt : Nat} {run : BenchmarkRun}
    (found : store.get runId = some run)
    (h : store.finalizeRun runId status rawRuns metrics finishedAt = .ok store') :
    store'.runs = Table.update BenchmarkRun.benchmarkRunId store.runs
      { run with status, rawRuns, metrics, finishedAt := some finishedAt } := by
  simp only [finalizeRun, found, InMemoryRuntimeStore.entry_eq_ok, Checked.bind_eq_ok,
    Checked.ensure_eq_ok, Checked.pure_eq_ok, Option.some_inj] at h
  obtain ⟨_, rfl, _, -, rfl⟩ := h
  rfl

end BenchmarkStore

/-! ## What a call does -/

namespace BenchmarkCall

variable {call : BenchmarkCall} {store store' : BenchmarkStore}

theorem isSome_collectedFact {collected : List ExecutedFact} {cell : BenchmarkCase × Nat} :
    (collectedFact collected cell).isSome ↔
      (cell.1.caseId, cell.2) ∈ collected.map ExecutedFact.cell := by
  rw [← not_iff_not, Bool.not_eq_true, Option.isSome_eq_false_iff, Option.isNone_iff_eq_none]
  exact Table.find?_eq_none

/-- A fact is executed under the seed of the call and the budget of its case. -/
theorem executeCell_spec {suite : Visibility} {cell : BenchmarkCase × Nat}
    {executed : ExecutedFact} (h : call.executeCell suite cell = some executed) :
    executed.cell = (cell.1.caseId, cell.2) ∧
      executed.seed = call.randomSeed + executed.fact.repetition - 1 ∧
      executed.budget = cell.1.budget := by
  unfold executeCell at h
  dsimp only at h
  split_ifs at h with same
  obtain rfl := Option.some.inj h
  obtain ⟨caseId, -, -, repetition⟩ := same
  exact ⟨Prod.ext caseId repetition, by rw [repetition], rfl⟩

/-- What becomes of a run when cells are executed: it is extended by their facts. Unless the call
    ends there, all cells have a fact then. -/
def Persisted (call : BenchmarkCall) (suite : Visibility) (cells : List (BenchmarkCase × Nat))
    (run : BenchmarkRun) (store store' : BenchmarkStore) (cellsEnd : CellsEnd) : Prop :=
  ∃ facts, store'.runs = Table.update BenchmarkRun.benchmarkRunId store.runs
      (run.extended facts) ∧
    (∀ executed ∈ facts, ∃ cell ∈ cells, call.executeCell suite cell = some executed) ∧
    ∀ collected, cellsEnd = .collected collected → collected = run.rawRuns ++ facts ∧
      ∀ cell ∈ cells, (cell.1.caseId, cell.2) ∈ collected.map ExecutedFact.cell

/-- Nothing is executed, and the call ends. -/
theorem Persisted.stopped {suite : Visibility} {cells : List (BenchmarkCase × Nat)}
    {run : BenchmarkRun} {cellsEnd cellsEnd' : CellsEnd}
    (keyed : Table.Keyed BenchmarkRun.benchmarkRunId store.runs)
    (found : store.get run.benchmarkRunId = some run)
    (h : (store, cellsEnd) = (store', cellsEnd')) (ends : ∀ facts, cellsEnd ≠ .collected facts) :
    Persisted call suite cells run store store' cellsEnd' := by
  obtain ⟨rfl, rfl⟩ := Prod.mk.inj h
  refine ⟨[], ?_, List.forall_mem_nil _, fun facts h => absurd h (ends facts)⟩
  rw [BenchmarkRun.extended_nil]
  exact (Table.update_self keyed found).symm

/-- The first cell has a fact already. -/
theorem Persisted.skip {suite : Visibility} {cell : BenchmarkCase × Nat}
    {cells : List (BenchmarkCase × Nat)} {run : BenchmarkRun} {cellsEnd : CellsEnd}
    (known : (collectedFact run.rawRuns cell).isSome)
    (h : Persisted call suite cells run store store' cellsEnd) :
    Persisted call suite (cell :: cells) run store store' cellsEnd := by
  obtain ⟨facts, extended, executed, all⟩ := h
  refine ⟨facts, extended, fun f mem => ?_, fun collected h => ?_⟩
  · obtain ⟨cell', mem', h⟩ := executed f mem
    exact ⟨cell', List.mem_cons_of_mem _ mem', h⟩
  · obtain ⟨rfl, rest⟩ := all collected h
    refine ⟨rfl, List.forall_mem_cons.2 ⟨?_, rest⟩⟩
    rw [List.map_append]
    exact List.mem_append_left _ (isSome_collectedFact.1 known)

/-- The first cell is executed, and its fact is stored. -/
theorem Persisted.extend {suite : Visibility} {cell : BenchmarkCase × Nat}
    {cells : List (BenchmarkCase × Nat)} {run : BenchmarkRun} {cellsEnd : CellsEnd}
    {fact : ExecutedFact} {store₁ : BenchmarkStore}
    (executed : call.executeCell suite cell = some fact)
    (appended : store₁.runs = Table.update BenchmarkRun.benchmarkRunId store.runs
      (run.extended [fact]))
    (h : Persisted call suite cells (run.extended [fact]) store₁ store'
      cellsEnd) :
    Persisted call suite (cell :: cells) run store store' cellsEnd := by
  obtain ⟨facts, extended, later, all⟩ := h
  refine ⟨fact :: facts, ?_, ?_, ?_⟩
  -- two extensions of a run are one
  · have same : (run.extended [fact]).benchmarkRunId =
        ((run.extended [fact]).extended facts).benchmarkRunId := rfl
    rw [extended, appended, Table.update_update same, BenchmarkRun.extended_extended]
    rfl
  · rw [List.forall_mem_cons]
    refine ⟨⟨cell, List.mem_cons_self, executed⟩, fun f mem => ?_⟩
    obtain ⟨cell', mem', h⟩ := later f mem
    exact ⟨cell', List.mem_cons_of_mem _ mem', h⟩
  -- the first cell has the fact that was appended
  · intro collected ended
    obtain ⟨same, rest⟩ := all collected ended
    rw [BenchmarkRun.extended, List.append_assoc] at same
    refine ⟨same, List.forall_mem_cons.2 ⟨?_, rest⟩⟩
    rw [same, ← (executeCell_spec executed).1]
    exact List.mem_map_of_mem (List.mem_append_right _ List.mem_cons_self)

theorem get_extended {run : BenchmarkRun} {facts : List ExecutedFact}
    (found : store.get run.benchmarkRunId = some run)
    (extended : store'.runs = Table.update BenchmarkRun.benchmarkRunId store.runs
      (run.extended facts)) :
    store'.get run.benchmarkRunId = some (run.extended facts) := by
  have same : run.benchmarkRunId = (run.extended facts).benchmarkRunId := rfl
  rw [BenchmarkStore.get, extended, Table.find?_update, if_pos same]
  exact congrArg (Option.map _) found

/-- When the fact of a cell is stored. -/
theorem persist_spec {suite : Visibility} {runId : String} {cell : BenchmarkCase × Nat}
    {fact : ExecutedFact} (h : call.persist suite runId cell store = some (store', fact)) :
    call.executeCell suite cell = some fact ∧ store.appendCase runId fact = .ok store' := by
  unfold persist at h
  split at h
  · cases h
  · rename_i executed found
    split_ifs at h
    split at h
    · cases h
    · rename_i appended appends
      obtain ⟨rfl, rfl⟩ := Prod.mk.inj (Option.some.inj h)
      exact ⟨found, appends⟩

/-- A fact without a leak of a cell that the run has no fact of is stored. -/
theorem exists_persist {suite : Visibility} {cell : BenchmarkCase × Nat} {fact : ExecutedFact}
    {run : BenchmarkRun} (executed : call.executeCell suite cell = some fact)
    (clean : ¬ call.leaks fact.fact call.cases) (found : store.get run.benchmarkRunId = some run)
    (new : (cell.1.caseId, cell.2) ∉ run.rawRuns.map ExecutedFact.cell) :
    ∃ store', call.persist suite run.benchmarkRunId cell store = some (store', fact) := by
  rw [← (executeCell_spec executed).1] at new
  rw [persist, executed]
  dsimp only
  rw [if_neg clean, BenchmarkStore.appendCase, InMemoryRuntimeStore.entry_eq_ok.2 found,
    Checked.ok_bind, Checked.ensure_of_pos new]
  exact ⟨_, rfl⟩

theorem persisted_persistAll {suite : Visibility} {run : BenchmarkRun}
    {cells : List (BenchmarkCase × Nat)} {limit : Option Nat} {cellsEnd : CellsEnd}
    (keyed : Table.Keyed BenchmarkRun.benchmarkRunId store.runs)
    (found : store.get run.benchmarkRunId = some run)
    (h : call.persistAll suite run.benchmarkRunId (cells.map .cell) limit store run.rawRuns =
      (store', cellsEnd)) :
    Persisted call suite cells run store store' cellsEnd := by
  induction cells generalizing limit store run with
  | nil =>
    cases limit with
    | none =>
      obtain ⟨rfl, rfl⟩ := Prod.mk.inj h
      refine ⟨[], ?_, List.forall_mem_nil _, ?_⟩
      · rw [BenchmarkRun.extended_nil]
        exact (Table.update_self keyed found).symm
      · rintro _ ⟨⟩
        exact ⟨(List.append_nil _).symm, List.forall_mem_nil _⟩
    | some limit => exact .stopped keyed found h fun _ other => by cases other
  | cons cell cells ih =>
    rw [List.map_cons, persistAll] at h
    -- the call is killed, the cell has a fact, or it is executed
    split_ifs at h with killed known
    · exact .stopped keyed found h fun _ other => by cases other
    · exact (ih keyed found h).skip known.2
    · cases persists : call.persist suite run.benchmarkRunId cell store with
      | none =>
        rw [persists] at h
        exact .stopped keyed found h fun _ other => by cases other
      | some stored =>
        obtain ⟨store₁, fact⟩ := stored
        rw [persists] at h
        obtain ⟨executed, appending⟩ := persist_spec persists
        have appended := BenchmarkStore.appendCase_spec found appending
        -- the rest of the cells goes on from the store with the fact
        have keyed₁ : Table.Keyed BenchmarkRun.benchmarkRunId store₁.runs := by
          rw [Table.Keyed, appended, Table.map_key_update]
          exact keyed
        have rest : Persisted call suite cells (run.extended [fact])
            store₁ store' cellsEnd := ih keyed₁ (get_extended found appended) h
        exact rest.extend executed appended

/-- One at a time, no cell is left running. -/
theorem left_of_alone {suite : Visibility} {runId : String} {steps : List CellStep}
    {collected : List ExecutedFact} {left : List (BenchmarkCase × Nat)} {limit : Option Nat}
    (alone : call.concurrency ≤ 1)
    (h : call.persistAll suite runId steps limit store collected = (store', .raised left)) :
    left = [] := by
  induction steps generalizing limit store collected with
  | nil => cases limit <;> cases h
  | cons step steps ih =>
    cases step with
    | late entry =>
      rw [persistAll] at h
      exact ih h
    | cell cell =>
      rw [persistAll] at h
      split_ifs at h
      · cases h
      · exact ih h
      · split at h
        · cases h
          exact if_pos alone
        · exact ih h

/-- Cells that do not raise are left running by no exception. -/
theorem not_raised {suite : Visibility} {run : BenchmarkRun}
    {cells left : List (BenchmarkCase × Nat)} {limit : Option Nat}
    (found : store.get run.benchmarkRunId = some run)
    (distinct : (cells.map fun cell => (cell.1.caseId, cell.2)).Nodup)
    (new : ∀ cell ∈ cells, (cell.1.caseId, cell.2) ∉ run.rawRuns.map ExecutedFact.cell)
    (fine : ∀ cell ∈ cells, ∃ fact,
      call.executeCell suite cell = some fact ∧ ¬ call.leaks fact.fact call.cases) :
    call.persistAll suite run.benchmarkRunId (cells.map .cell) limit store run.rawRuns ≠
      (store', .raised left) := by
  intro h
  induction cells generalizing limit store run with
  | nil => cases limit <;> cases h
  | cons cell cells ih =>
    rw [List.map_cons, List.nodup_cons] at distinct
    rw [List.forall_mem_cons] at new fine
    rw [List.map_cons, persistAll] at h
    split_ifs at h
    · cases h
    · exact ih found distinct.2 new.2 fine.2 h
    -- the cell is executed and its fact stored, so the exception comes from the rest
    · obtain ⟨fact, executed, clean⟩ := fine.1
      obtain ⟨store₁, persists⟩ := exists_persist executed clean found new.1
      rw [persists] at h
      have appended := BenchmarkStore.appendCase_spec found (persist_spec persists).2
      have extended := get_extended found appended
      refine @ih _ (run.extended [fact]) _ extended distinct.2 (fun other mem => ?_) fine.2 h
      rw [BenchmarkRun.extended, List.map_append, List.mem_append, not_or]
      refine ⟨new.2 other mem, fun same => distinct.1 ?_⟩
      rw [List.map_singleton, List.mem_singleton, (executeCell_spec executed).1] at same
      exact same ▸ List.mem_map_of_mem mem

/-- What is known of the run that a call goes on with. -/
structure Opened (call : BenchmarkCall) (first : BenchmarkCase) (store : BenchmarkStore)
    (run : BenchmarkRun) : Prop where
  sound : store.Sound
  found : store.get run.benchmarkRunId = some run
  running : run.status = .running
  configured : run.versions = call.versions ∧ run.baseline = call.baseline ∧
    run.suite = first.visibility
  same : run.randomSeed = call.randomSeed ∧ run.budget = first.budget ∧
    run.repetitions = call.repetitions

theorem opened_openRun {first : BenchmarkCase} {run : BenchmarkRun} (sound : store.Sound)
    (matching : ∀ run, call.resumed store first = some run → run.randomSeed = call.randomSeed ∧
      run.budget = first.budget ∧ run.repetitions = call.repetitions)
    (h : call.openRun store first = .ok (store', run)) : Opened call first store' run := by
  unfold openRun at h
  cases resumes : call.resumed store first with
  -- the run that is resumed is one of the configuration
  | some resumed =>
    rw [resumes] at h
    obtain ⟨rfl, rfl⟩ := Prod.mk.inj (Except.ok.inj h)
    have same := matching resumed resumes
    unfold BenchmarkCall.resumed at resumes
    split_ifs at resumes
    obtain ⟨mem, versions, baseline, suite, running⟩ := BenchmarkStore.running_spec resumes
    exact ⟨sound, Table.find?_of_mem sound.2 mem, running, ⟨versions, baseline, suite⟩, same⟩
  -- a run that is started has no facts
  | none =>
    rw [resumes] at h
    obtain ⟨started, starts, h⟩ := Checked.bind_eq_ok.1 h
    obtain ⟨rfl, rfl⟩ := Prod.mk.inj (Checked.pure_eq_ok.1 h)
    obtain ⟨new, runs⟩ := BenchmarkStore.startRun_spec starts
    have runs : started.runs = store.runs ++ [call.newRun first] := runs
    refine ⟨?_, ?_, rfl, ⟨rfl, rfl, rfl⟩, ⟨rfl, rfl, rfl⟩⟩
    · rw [BenchmarkStore.Sound, runs, Table.fits_append sound (Table.find?_eq_none.1 new)]
      exact fun _ => List.forall_mem_nil _
    · rw [BenchmarkStore.get, runs, Table.find?_append, show Table.find? _ _ _ = none from new,
        if_pos rfl]
      rfl

/-- The facts of a call are of the configuration of its run. -/
theorem Opened.executedUnder {first : BenchmarkCase} {run : BenchmarkRun}
    (opened : Opened call first store run) (coherent : call.Coherent first)
    {cell : BenchmarkCase × Nat} (mem : cell ∈ call.cells) {suite : Visibility}
    {executed : ExecutedFact} (h : call.executeCell suite cell = some executed) :
    BenchmarkStore.ExecutedUnder run executed := by
  obtain ⟨case, listed, mem⟩ := List.mem_flatMap.1 mem
  obtain ⟨repetition, -, rfl⟩ := List.mem_map.1 mem
  obtain ⟨-, seed, budget⟩ := executeCell_spec h
  obtain ⟨sameSeed, sameBudget, -⟩ := opened.same
  exact ⟨by rw [seed, sameSeed], by rw [budget, sameBudget, (coherent case listed).2.2.1]⟩

/-- The store stays sound while cells are executed. -/
theorem Opened.sound_persisted {first : BenchmarkCase} {run : BenchmarkRun}
    (opened : Opened call first store run) (coherent : call.Coherent first)
    {cells : List (BenchmarkCase × Nat)} (listed : ∀ cell ∈ cells, cell ∈ call.cells)
    {suite : Visibility} {cellsEnd : CellsEnd}
    (h : Persisted call suite cells run store store' cellsEnd) : store'.Sound := by
  obtain ⟨facts, extended, executed, -⟩ := h
  have found : Table.find? BenchmarkRun.benchmarkRunId store.runs
      (run.extended facts).benchmarkRunId = some run := opened.found
  rw [BenchmarkStore.Sound, extended, Table.fits_update opened.sound found]
  intro _ fact mem
  rcases List.mem_append.1 mem with mem | mem
  · exact opened.sound.1 run (Table.mem_of_find? opened.found) opened.running fact mem
  · obtain ⟨cell, mem, h⟩ := executed fact mem
    exact opened.executedUnder coherent (listed cell mem) h

/-- A run with more facts is gone on with the same way. -/
theorem Opened.extend {first : BenchmarkCase} {run : BenchmarkRun}
    (opened : Opened call first store run) (sound : store'.Sound) {facts : List ExecutedFact}
    (extended : store'.runs = Table.update BenchmarkRun.benchmarkRunId store.runs
      (run.extended facts)) : Opened call first store' (run.extended facts) where
  sound := sound
  found := get_extended opened.found extended
  running := opened.running
  configured := opened.configured
  same := opened.same

/-- What a call returns is what it stores. -/
theorem Opened.returned_eq {first : BenchmarkCase} {run : BenchmarkRun}
    (opened : Opened call first store run) (raw : List ExecutedFact) (metrics : Json)
    (finishedAt : Nat) :
    { call.newRun first with
      benchmarkRunId := run.benchmarkRunId, status := .completed, rawRuns := raw, metrics
      startedAt := run.startedAt, finishedAt := some finishedAt } =
      { run with
        status := .completed, rawRuns := raw, metrics, finishedAt := some finishedAt } := by
  obtain ⟨versions, baseline, suite⟩ := opened.configured
  obtain ⟨randomSeed, budget, repetitions⟩ := opened.same
  simp only [newRun, versions, baseline, suite, randomSeed, budget, repetitions]

theorem map_cell_collectedFact {collected : List ExecutedFact}
    {cells : List (BenchmarkCase × Nat)}
    (all : ∀ cell ∈ cells, (cell.1.caseId, cell.2) ∈ collected.map ExecutedFact.cell) :
    (cells.filterMap (collectedFact collected)).map ExecutedFact.cell =
      cells.map fun cell => (cell.1.caseId, cell.2) := by
  induction cells with
  | nil => rfl
  | cons cell cells ih =>
    rw [List.forall_mem_cons] at all
    obtain ⟨fact, found⟩ := Option.isSome_iff_exists.1 (isSome_collectedFact.2 all.1)
    rw [List.filterMap_cons_some found, List.map_cons, List.map_cons, ih all.2,
      Table.key_of_find? found]

/-- The cells of a call differ when its cases do. -/
theorem nodup_cells (h : (call.cases.map BenchmarkCase.caseId).Nodup) :
    (call.cells.map fun cell => (cell.1.caseId, cell.2)).Nodup := by
  have product : (call.cells.map fun cell => (cell.1.caseId, cell.2)) =
      (call.cases.map BenchmarkCase.caseId).product (List.range' 1 call.repetitions) := by
    rw [cells, List.map_flatMap, List.product, List.flatMap_map]
    exact List.flatMap_congr fun case _ => by rw [List.map_map]; rfl
  rw [product]
  exact h.product List.nodup_range'

/-- A store in which a run that was not finished has changed at most. -/
def KeepsFinished (store store' : BenchmarkStore) : Prop :=
  ∀ run, run.status ≠ .running → store.get run.benchmarkRunId = some run →
    store'.get run.benchmarkRunId = some run

theorem keepsFinished_update {old changed : BenchmarkRun}
    (updated : store'.runs = Table.update BenchmarkRun.benchmarkRunId store.runs changed)
    (found : store.get changed.benchmarkRunId = some old) (running : old.status = .running) :
    KeepsFinished store store' := by
  intro run finished stored
  rw [BenchmarkStore.get, updated, Table.find?_update, if_neg]
  · exact stored
  · intro same
    rw [same, found] at stored
    exact finished (Option.some.inj stored ▸ running)

/-- At the end of a call its run is finished, with all its cells. -/
theorem Opened.finish_spec {first : BenchmarkCase} {run : BenchmarkRun} {ends : CallEnd}
    (opened : Opened call first store run)
    (all : ∀ cell ∈ call.cells, (cell.1.caseId, cell.2) ∈ run.rawRuns.map ExecutedFact.cell)
    (h : call.finish first run store run.rawRuns = (store', ends)) :
    store'.Sound ∧ KeepsFinished store store' ∧ (∀ left, ends = .raised left → left = []) ∧
      ∀ returned, ends = .returned returned → store'.Faithful call returned := by
  unfold finish at h
  split_ifs at h with nodup
  · dsimp only at h
    split at h
    · obtain ⟨rfl, rfl⟩ := Prod.mk.inj h
      refine ⟨opened.sound, fun _ _ => id, ?_, fun _ other => by cases other⟩
      rintro _ ⟨⟩
      rfl
    -- the run that is returned is the one that was finalized
    · rename_i finished finalizes
      obtain ⟨rfl, rfl⟩ := Prod.mk.inj h
      have runs := BenchmarkStore.finalizeRun_spec opened.found finalizes
      refine ⟨?_, keepsFinished_update runs opened.found opened.running,
        fun _ other => (by cases other), ?_⟩
      · rw [BenchmarkStore.Sound, runs]
        refine (Table.fits_update opened.sound (by exact opened.found)).2 ?_
        rintro ⟨⟩
      · rintro _ ⟨⟩
        rw [opened.returned_eq]
        refine ⟨rfl, ?_, map_cell_collectedFact all, nodup_cells nodup, fun executed mem => ?_⟩
        · rw [BenchmarkStore.get, runs, Table.find?_update, if_pos rfl]
          exact congrArg (Option.map _) opened.found
        · obtain ⟨cell, -, found⟩ := List.mem_filterMap.1 mem
          exact opened.sound.1 run (Table.mem_of_find? opened.found) opened.running executed
            (Table.mem_of_find? found)
  · obtain ⟨rfl, rfl⟩ := Prod.mk.inj h
    refine ⟨opened.sound, fun _ _ => id, ?_, fun _ other => by cases other⟩
    rintro _ ⟨⟩
    rfl

/-- The facts of the run that a call goes on with are those of the run that it resumes. -/
theorem rawRuns_openRun {first : BenchmarkCase} {run : BenchmarkRun}
    (h : call.openRun store first = .ok (store', run)) :
    ((call.resumed store first).map BenchmarkRun.rawRuns).getD [] = run.rawRuns := by
  unfold openRun at h
  split at h
  · rename_i resumed resumes
    obtain ⟨rfl, rfl⟩ := Prod.mk.inj (Except.ok.inj h)
    rw [resumes]
    rfl
  · rename_i resumes
    obtain ⟨started, starts, h⟩ := Checked.bind_eq_ok.1 h
    obtain ⟨rfl, rfl⟩ := Prod.mk.inj (Checked.pure_eq_ok.1 h)
    rw [resumes]
    rfl

theorem keepsFinished_openRun {first : BenchmarkCase} {run : BenchmarkRun}
    (h : call.openRun store first = .ok (store', run)) : KeepsFinished store store' := by
  unfold openRun at h
  split at h
  · obtain ⟨rfl, rfl⟩ := Prod.mk.inj (Except.ok.inj h)
    exact fun _ _ => id
  · obtain ⟨started, starts, h⟩ := Checked.bind_eq_ok.1 h
    obtain ⟨rfl, rfl⟩ := Prod.mk.inj (Checked.pure_eq_ok.1 h)
    intro run finished stored
    rw [BenchmarkStore.get, (BenchmarkStore.startRun_spec starts).2, Table.find?_append,
      show Table.find? _ _ _ = some run from stored]
    rfl

/-- After the cells, every cell of the call has a fact. -/
theorem Persisted.all {suite : Visibility} {cells : List (BenchmarkCase × Nat)}
    {run : BenchmarkRun} {collected : List ExecutedFact}
    (h : Persisted call suite cells run store store' (.collected collected))
    (arranged : cells.Perm (call.pending run.rawRuns)) :
    ∀ cell ∈ call.cells, (cell.1.caseId, cell.2) ∈ collected.map ExecutedFact.cell := by
  obtain ⟨facts, -, -, ends⟩ := h
  obtain ⟨rfl, rest⟩ := ends collected rfl
  intro cell mem
  by_cases known : (collectedFact run.rawRuns cell).isSome
  · rw [List.map_append]
    exact List.mem_append_left _ (isSome_collectedFact.1 known)
  · refine rest cell (arranged.mem_iff.2 (List.mem_filter.2 ⟨mem, ?_⟩))
    rw [← Option.not_isSome, Bool.eq_false_iff.2 known]
    rfl

/-- No cell of an earlier call is among the cells of a call. -/
theorem map_cell_own {steps : List CellStep} (h : ∀ entry, .late entry ∉ steps) :
    (steps.filterMap CellStep.own?).map .cell = steps := by
  induction steps with
  | nil => rfl
  | cons step steps ih =>
    cases step with
    | cell cell =>
      exact congrArg _ (ih fun entry mem => h entry (List.mem_cons_of_mem _ mem))
    | late entry => exact absurd List.mem_cons_self (h entry)

/-- The cells of a call that have no fact are left running by no exception, if it is calm. -/
theorem left_of_calm {suite : Visibility} {run : BenchmarkRun}
    {cells left : List (BenchmarkCase × Nat)} {limit : Option Nat}
    (found : store.get run.benchmarkRunId = some run)
    (arranged : cells.Perm (call.pending run.rawRuns))
    (calm : call.concurrency ≤ 1 ∨ (call.cases.map BenchmarkCase.caseId).Nodup ∧
      ∀ cell ∈ call.pending run.rawRuns, ∃ fact,
        call.executeCell suite cell = some fact ∧ ¬ call.leaks fact.fact call.cases)
    (h : call.persistAll suite run.benchmarkRunId (cells.map .cell) limit store run.rawRuns =
      (store', .raised left)) : left = [] := by
  rcases calm with alone | ⟨nodup, fine⟩
  · exact left_of_alone alone h
  -- no cell raises, so that none is left
  · refine absurd h (not_raised found ?_ ?_ fun cell mem => fine cell (arranged.mem_iff.1 mem))
    · exact (arranged.map _).nodup_iff.2 ((nodup_cells nodup).sublist (List.filter_sublist.map _))
    · intro cell mem known
      have unknown := (List.mem_filter.1 (arranged.mem_iff.1 mem)).2
      rw [← Option.not_isSome, isSome_collectedFact.2 known] at unknown
      cases unknown

/-- What a call does to the store, and how it ends, when the run that it resumes is one of its
    configuration and no cell is or will be left running. -/
theorem run_spec (sound : store.Sound) (matching : store.Matches call) (calm : store.Calm call)
    (alone : ∀ cells entry, .late entry ∉ call.arrange cells) :
    (call.run store).1.Sound ∧ KeepsFinished store (call.run store).1 ∧
      (∀ left, (call.run store).2 = .raised left → left = []) ∧
      ∀ returned, (call.run store).2 = .returned returned →
        (call.run store).1.Faithful call returned := by
  have stopped : ∀ left, CallEnd.raised [] = .raised left → left = [] := by
    rintro _ ⟨⟩
    rfl
  unfold run
  split
  · exact ⟨sound, fun _ _ => id, stopped, fun _ other => by cases other⟩
  · rename_i first rest cases
    have head : first ∈ call.cases.head? := by
      rw [cases]
      rfl
    split_ifs with valid
    · split
      · exact ⟨sound, fun _ _ => id, stopped, fun _ other => by cases other⟩
      · rename_i store₁ run opens
        have opened := opened_openRun sound (matching first head) opens
        have kept₁ := keepsFinished_openRun opens
        have coherent := valid.2.2
        have calm := calm.imp_right fun fine =>
          And.intro fine.1 (rawRuns_openRun opens ▸ fine.2 first head)
        -- only cells of this call are executed, in the order in which they end
        have arranged := call.arrange_perm (call.pending run.rawRuns)
        rw [← map_cell_own (alone (call.pending run.rawRuns))]
        generalize (call.arrange (call.pending run.rawRuns)).filterMap CellStep.own? = cells
          at arranged
        generalize persists : call.persistAll first.visibility run.benchmarkRunId
          (cells.map .cell) call.killedAfter store₁ run.rawRuns = ended
        obtain ⟨store₂, cellsEnd⟩ := ended
        have persisted := persisted_persistAll opened.sound.2 opened.found persists
        have listed : ∀ cell ∈ cells, cell ∈ call.cells :=
          fun cell mem => List.mem_of_mem_filter (arranged.mem_iff.1 mem)
        -- the facts that are stored are those of cells of the call
        have sound₂ := opened.sound_persisted coherent listed persisted
        obtain ⟨facts, extended, -, ends⟩ := id persisted
        have found : store₁.get (run.extended facts).benchmarkRunId = some run := opened.found
        have kept₂ : KeepsFinished store store₂ := fun finished status stored =>
          keepsFinished_update extended found opened.running finished status
            (kept₁ finished status stored)
        cases cellsEnd with
        | collected collected =>
          have all := persisted.all arranged
          obtain ⟨rfl, -⟩ := ends collected rfl
          obtain ⟨sound₃, kept₃, left, faithful⟩ :=
            (opened.extend sound₂ extended).finish_spec all Prod.mk.eta.symm
          exact ⟨sound₃, fun run status stored => kept₃ run status (kept₂ run status stored),
            left, faithful⟩
        | raised left =>
          obtain rfl := left_of_calm opened.found arranged calm persists
          exact ⟨sound₂, kept₂, stopped, fun _ other => by cases other⟩
        | killed => exact ⟨sound₂, kept₂, fun _ other => (by cases other), fun _ other => by cases other⟩
    · exact ⟨sound, fun _ _ => id, stopped, fun _ other => by cases other⟩

end BenchmarkCall

/-! ## Runs of calls -/

namespace BenchmarkStore

theorem sound_empty : Sound {} := ⟨List.forall_mem_nil _, List.nodup_nil⟩

end BenchmarkStore

namespace BenchmarkWorld

theorem after_append (world : BenchmarkWorld) (moves moves' : List BenchmarkMove) :
    world.after (moves ++ moves') = (world.after moves).after moves' := List.foldl_append

theorem all_append {P : BenchmarkWorld → BenchmarkMove → Prop} {world : BenchmarkWorld}
    {moves moves' : List BenchmarkMove} :
    world.All P (moves ++ moves') ↔ world.All P moves ∧ (world.after moves).All P moves' := by
  induction moves generalizing world with
  | nil => exact (iff_of_eq (true_and _)).symm
  | cons move moves ih => exact (and_congr_right fun _ => ih).trans and_assoc.symm

/-- What is kept by moves that meet the condition: the store is sound, and no cell is left
    running. -/
structure Settled (world : BenchmarkWorld) : Prop where
  sound : world.store.Sound
  left : world.left = []

theorem settled_empty : Settled {} := ⟨BenchmarkStore.sound_empty, rfl⟩

/-- No cell is finished late where none is left running. -/
theorem Settled.alone {world : BenchmarkWorld} (settled : world.Settled) {call : BenchmarkCall}
    (possible : world.Possible (.call call)) : ∀ cells entry, .late entry ∉ call.arrange cells :=
  fun cells entry mem =>
    absurd (possible cells entry mem) (settled.left ▸ List.not_mem_nil)

/-- One move keeps that, and the runs that are finished. -/
theorem Settled.step {world : BenchmarkWorld} {move : BenchmarkMove} (settled : world.Settled)
    (possible : world.Possible move) (meets : world.Meets move) :
    (world.step move).Settled ∧
      BenchmarkCall.KeepsFinished world.store (world.step move).store := by
  cases move with
  | late entry =>
    have left : entry ∈ world.left := possible
    exact absurd (settled.left ▸ left) List.not_mem_nil
  | call call =>
    obtain ⟨sound, kept, left, -⟩ :=
      BenchmarkCall.run_spec settled.sound meets.1 meets.2 (settled.alone possible)
    refine ⟨⟨sound, ?_⟩, kept⟩
    cases ends : (call.run world.store).2 with
    | returned run =>
      simp only [BenchmarkWorld.step, ends]
      exact settled.left
    | raised facts =>
      simp only [BenchmarkWorld.step, ends, left facts ends, settled.left]
      rfl
    | killed => simp only [BenchmarkWorld.step, ends]

theorem Settled.after {world : BenchmarkWorld} {moves : List BenchmarkMove}
    (settled : world.Settled) (possible : world.All Possible moves)
    (meets : world.All Meets moves) :
    (world.after moves).Settled ∧
      BenchmarkCall.KeepsFinished world.store (world.after moves).store := by
  induction moves generalizing world with
  | nil => exact ⟨settled, fun _ _ => id⟩
  | cons move moves ih =>
    obtain ⟨settled₁, kept⟩ := settled.step possible.1 meets.1
    obtain ⟨settled₂, kept'⟩ := ih settled₁ possible.2 meets.2
    exact ⟨settled₂, fun run finished stored => kept' run finished (kept run finished stored)⟩

/-- Where every resumed run has the seed, the budget and the repetitions of the call that resumes
    it, and no cell raises that is executed with others, what a call returns measures one
    configuration. The store has it from then on. -/
theorem returns_faithful {before later : List BenchmarkMove} {call : BenchmarkCall}
    {run : BenchmarkRun} (possible : All Possible {} (before ++ .call call :: later))
    (meets : All Meets {} (before ++ .call call :: later))
    (returned : (call.run (after {} before).store).2 = .returned run) :
    (after {} (before ++ .call call :: later)).store.Faithful call run := by
  obtain ⟨possibleBefore, possible', possibleLater⟩ := all_append.1 possible
  obtain ⟨meetsBefore, meets', meetsLater⟩ := all_append.1 meets
  obtain ⟨settled, -⟩ := settled_empty.after possibleBefore meetsBefore
  obtain ⟨-, -, -, faithful⟩ :=
    BenchmarkCall.run_spec settled.sound meets'.1 meets'.2 (settled.alone possible')
  obtain ⟨settledCall, -⟩ := settled.step possible' meets'
  obtain ⟨-, kept⟩ := settledCall.after possibleLater meetsLater
  obtain ⟨completed, stored, cells, once, executed⟩ := faithful run returned
  have finished : run.status ≠ .running := by
    rw [completed]
    exact fun other => by cases other
  refine ⟨completed, ?_, cells, once, executed⟩
  rw [after_append]
  exact kept run finished stored

def suiteBudget : Budget where
  maxSteps := 1
  maxTokens := 0
  maxCost := 0
  maxTimeSeconds := 1
  steps_pos := Nat.one_pos
  time_pos := zero_lt_one

/-- The case of a suite with one case. -/
def suiteCase : BenchmarkCase where
  caseId := "case-1"
  benchmarkVersion := suiteVersions.benchmarkVersion
  visibility := .development
  scenarioType := .promotion
  budget := suiteBudget
  ruleVersionId := "rule-1"
  scenarioVersionId := "scenario-1"
  oracleVersion := suiteVersions.oracleVersion

/-- A benchmark of that suite. Its only fact is that the infrastructure failed. -/
def suiteCall (randomSeed : Int) : BenchmarkCall where
  cases := [suiteCase]
  versions := suiteVersions
  baseline := .random
  repetitions := 1
  randomSeed
  resume := true
  execute := fun _ _ _ => none
  metrics := fun _ _ _ => .obj []
  uuid := "benchmark-1"
  startedAt := 0
  finishedAt := 1
  arrange_perm := filterMap_own_map

/-- It is killed after that fact. -/
def killedCall (randomSeed : Int) : BenchmarkCall :=
  { suiteCall randomSeed with killedAfter := some 1 }

/-- The killed benchmark is resumed. -/
theorem resumed_killed :
    (suiteCall 1).resumed (after {} [.call (killedCall 1)]).store suiteCase =
      some (((suiteCall 1).newRun suiteCase).extended
        ((suiteCall 1).executeCell .development (suiteCase, 1)).toList) := rfl

theorem returns_faithful_resumed :
    ∃ run, ((suiteCall 1).run (after {} [.call (killedCall 1)]).store).2 = .returned run ∧
      (after {} [.call (killedCall 1), .call (suiteCall 1)]).store.Faithful (suiteCall 1) run := by
  have cells : ∀ cells entry, .late entry ∉ (suiteCall 1).arrange cells := by
    intro cells entry mem
    obtain ⟨_, -, ⟨⟩⟩ := List.mem_map.1 mem
  have possible :
      All Possible {} ([.call (killedCall 1)] ++ .call (suiteCall 1) :: []) :=
    ⟨fun _ _ mem => absurd mem (cells _ _), fun _ _ mem => absurd mem (cells _ _), trivial⟩
  have first : Meets {} (.call (killedCall 1)) := by
    refine ⟨?_, .inl le_rfl⟩
    rintro _ ⟨⟩ _ ⟨⟩
  have second : Meets (after {} [.call (killedCall 1)]) (.call (suiteCall 1)) := by
    refine ⟨?_, .inl le_rfl⟩
    rintro _ ⟨⟩ run resumes
    obtain rfl := Option.some.inj (resumed_killed.symm.trans resumes)
    exact ⟨rfl, rfl, rfl⟩
  have meets : All Meets {} ([.call (killedCall 1)] ++ .call (suiteCall 1) :: []) :=
    ⟨first, second, trivial⟩
  exact ⟨_, rfl, returns_faithful possible meets rfl⟩

/-- A benchmark that is resumed with another seed has a fact of the old one. -/
theorem not_returns_faithful : ¬ ∀ before call run,
    All Possible {} (before ++ [.call call]) →
    (BenchmarkCall.run call (after {} before).store).2 = .returned run →
      (after {} (before ++ [.call call])).store.Faithful call run := by
  intro h
  have cells : ∀ cells entry, .late entry ∉ (suiteCall 2).arrange cells := by
    intro cells entry mem
    obtain ⟨_, -, ⟨⟩⟩ := List.mem_map.1 mem
  have possible : All Possible {} [.call (killedCall 1), .call (suiteCall 2)] :=
    ⟨fun _ _ mem => absurd mem (cells _ _), fun _ _ mem => absurd mem (cells _ _), trivial⟩
  have faithful := h [.call (killedCall 1)] (suiteCall 2) _ possible rfl
  have executed := (faithful.executed _ List.mem_cons_self).1
  exact absurd executed (by decide)

end BenchmarkWorld

end RuleArena
