import RuleArena.Refund.Agent
import RuleArena.Oracle.Evaluator

/-!
# The benchmark of the refund agent

A suite of tickets is run under one mode: every ticket so many times, each time
measured on its own. The metrics of a run are computed from its facts, and the
release gate reads nothing but two runs, one of each mode, with their metrics.
What is measured of a ticket is arbitrary. Rates are exact here, and amounts of
money and times are left out of the metrics: the gate does not read them.
-/

namespace RuleArena

/-! ## Tickets and facts -/

inductive AgentMode
  | bare
  | gated
  deriving DecidableEq, Repr

def AgentMode.value : AgentMode → String
  | bare => "BARE"
  | gated => "GATED"

inductive BenchmarkStatus
  | running
  | completed
  | failed
  deriving DecidableEq, Repr

inductive Visibility
  | development
  | hidden
  deriving DecidableEq, Repr

structure VersionTuple where
  benchmarkVersion : String
  runtimeVersion : String
  ruleSetVersion : String
  scenarioSetVersion : String
  sandboxVersion : String
  oracleVersion : String
  modelConfigHash : String
  promptVersion : String
  deriving DecidableEq

structure RefundTicketCase where
  caseId : String
  benchmarkVersion : String
  userId : String := "user-1"
  ticketText : String
  expectsEscalation : Bool := false

/-- What is measured of a ticket that was handled. -/
structure MeasuredTicket where
  report : AgentReport
  calls : List ToolCallRecord
  finalStateSatisfied : Bool
  invariantsSatisfied : Bool
  violatedInvariants : List InvariantId
  lossOrderIds : List String
  lossAmount : String

/-- What comes of a ticket: a measurement, or the reason why there is none. -/
inductive Measurement
  | measured (ticket : MeasuredTicket)
  | broken (failureReason : String)

structure RefundCaseRun where
  runId : String
  caseId : String
  mode : AgentMode
  repetition : Nat
  agentOutcome : Option AgentOutcome
  claimedComplete : Bool
  escalated : Bool
  escalationReason : Option String := none
  finalStateSatisfied : Bool := false
  invariantsSatisfied : Bool := false
  violatedInvariants : List InvariantId := []
  lossOrderIds : List String := []
  lossAmount : String := "0"
  toolCalls : Nat := 0
  refusedWrites : Nat := 0
  gateChecks : Nat := 0
  status : BenchmarkStatus := .completed
  failureReason : Option String := none
  deriving DecidableEq

/-- `validate_coherence` -/
def RefundCaseRun.validated (run : RefundCaseRun) : Except PyException RefundCaseRun := do
  ensure (¬ (run.claimedComplete ∧ run.escalated)) .valueError
  ensure (¬ run.toolCalls < run.refusedWrites) .valueError
  return run

/-- The fact of a cell, from what was measured: `RefundCaseExecutor.execute`. -/
def RefundCaseRun.ofMeasurement (runId : String) (case : RefundTicketCase) (mode : AgentMode)
    (repetition : Nat) : Measurement → Except PyException RefundCaseRun
  | .broken failureReason => validated {
      runId, caseId := case.caseId, mode, repetition
      agentOutcome := none, claimedComplete := false, escalated := false
      status := .failed, failureReason := some failureReason }
  | .measured ticket => validated {
      runId, caseId := case.caseId, mode, repetition
      agentOutcome := some ticket.report.outcome
      claimedComplete := ticket.report.claimedComplete
      escalated := ticket.report.outcome = .escalated
      escalationReason := ticket.report.escalationReason
      finalStateSatisfied := ticket.finalStateSatisfied
      invariantsSatisfied := ticket.invariantsSatisfied
      violatedInvariants := ticket.violatedInvariants
      lossOrderIds := ticket.lossOrderIds
      lossAmount := ticket.lossAmount
      toolCalls := ticket.calls.length
      refusedWrites := ticket.calls.countP fun call => call.outcome = .refused
      gateChecks := (ticket.calls.map ToolCallRecord.guardChecks).sum }

/-! ## Metrics -/

structure MetricValue where
  value : Option ℚ
  numerator : Nat
  denominator : Nat
  sourceRunIds : List String := []
  deriving DecidableEq

/-- `ratio` -/
def ratio (numerator denominator : Nat) (runIds : List String) : MetricValue where
  value := if denominator = 0 then none else some (numerator / denominator)
  numerator
  denominator
  sourceRunIds := runIds

/-- A number of cases, with the cases. -/
structure CaseCount where
  value : Nat
  denominator : Nat
  caseIds : List String
  deriving DecidableEq

structure RefundMetrics where
  finalStateCorrectRate : MetricValue
  unexpectedLossCases : CaseCount
  falseSuccessRate : MetricValue
  falseSuccessCaseIds : List String
  necessaryEscalationRate : MetricValue
  falseBlockCases : CaseCount
  guardChecks : Nat
  toolCalls : Nat
  evaluableRunIds : List String
  ticketCount : Nat
  failedCells : Nat
  deriving DecidableEq

/-- `sorted` of a set -/
def sortedSet (names : List String) : List String := names.dedup.insertionSort (· ≤ ·)

/-- The facts that count. -/
def evaluable (rawRuns : List RefundCaseRun) : List RefundCaseRun :=
  rawRuns.filter fun run => run.status = .completed

/-- The facts of a ticket that count. -/
def evaluableOf (rawRuns : List RefundCaseRun) (case : RefundTicketCase) : List RefundCaseRun :=
  (evaluable rawRuns).filter fun run => run.caseId = case.caseId

/-- The tickets with a fact that counts. -/
def measurable (cases : List RefundTicketCase) (rawRuns : List RefundCaseRun) :
    List RefundTicketCase :=
  cases.filter fun case => evaluableOf rawRuns case ≠ []

/-- A count of the tickets with these names. -/
def caseCount (measured : Nat) (caseIds : List String) : CaseCount where
  value := caseIds.length
  denominator := measured
  caseIds

/-- `compute_refund_metrics` -/
def computeRefundMetrics (cases : List RefundTicketCase) (rawRuns : List RefundCaseRun) :
    RefundMetrics :=
  let measured := measurable cases rawRuns
  let correct := measured.filter fun case => (evaluableOf rawRuns case).all fun run =>
    run.finalStateSatisfied && run.invariantsSatisfied
  let lostCases := sortedSet (((evaluable rawRuns).filter fun run =>
    run.lossOrderIds ≠ []).map RefundCaseRun.caseId)
  let falseSuccess := sortedSet (((evaluable rawRuns).filter fun run =>
    run.claimedComplete && !run.finalStateSatisfied).map RefundCaseRun.caseId)
  let mustEscalate := measured.filter RefundTicketCase.expectsEscalation
  let escalated := mustEscalate.filter fun case =>
    (evaluableOf rawRuns case).all RefundCaseRun.escalated
  let falseBlocks := sortedSet ((measured.filter fun case => !case.expectsEscalation &&
    (evaluableOf rawRuns case).any fun run => 0 < run.refusedWrites).map RefundTicketCase.caseId)
  let runIds := (evaluable rawRuns).map RefundCaseRun.runId
  { finalStateCorrectRate := ratio correct.length measured.length runIds
    unexpectedLossCases := caseCount measured.length lostCases
    falseSuccessRate := ratio falseSuccess.length measured.length runIds
    falseSuccessCaseIds := falseSuccess
    necessaryEscalationRate := ratio escalated.length mustEscalate.length runIds
    falseBlockCases := caseCount measured.length falseBlocks
    guardChecks := ((evaluable rawRuns).map RefundCaseRun.gateChecks).sum
    toolCalls := ((evaluable rawRuns).map RefundCaseRun.toolCalls).sum
    evaluableRunIds := runIds
    ticketCount := (cases.map RefundTicketCase.caseId).dedup.length
    failedCells := rawRuns.countP fun run => run.status ≠ .completed }

/-! ## Runs -/

structure RefundBenchmarkRun where
  benchmarkRunId : String
  versions : VersionTuple
  mode : AgentMode
  randomSeed : Int
  repetitions : Nat
  suite : Visibility
  status : BenchmarkStatus
  rawRuns : List RefundCaseRun
  metrics : RefundMetrics
  deriving DecidableEq

/-- The tickets, each so many times. -/
def suiteCells (cases : List RefundTicketCase) (repetitions : Nat) :
    List (RefundTicketCase × Nat) :=
  cases.flatMap fun case => (List.range' 1 repetitions).map fun repetition => (case, repetition)

/-- What comes of the executor: the measurement of the cell at a position, under a seed, or an
    exception that ends the run. -/
abbrev RefundExecutor := Nat → RefundTicketCase → AgentMode → Nat → Int →
  Except PyException (String × Measurement)

/-- The fact of a cell. -/
def RefundExecutor.fact (execute : RefundExecutor) (mode : AgentMode) (randomSeed : Int)
    (cell : (RefundTicketCase × Nat) × Nat) : Except PyException RefundCaseRun := do
  let measured ← execute cell.2 cell.1.1 mode cell.1.2 (randomSeed + cell.1.2 - 1)
  RefundCaseRun.ofMeasurement measured.1 cell.1.1 mode cell.1.2 measured.2

/-- `RefundBenchmarkRunner.run` -/
def RefundBenchmarkRunner.run (execute : RefundExecutor) (benchmarkRunId : String)
    (cases : List RefundTicketCase) (versions : VersionTuple) (mode : AgentMode)
    (repetitions : Nat) (randomSeed : Int) (concurrency : Nat := 1) :
    Except PyException RefundBenchmarkRun := do
  ensure (cases ≠ []) .valueError
  ensure (1 ≤ repetitions) .valueError
  ensure (1 ≤ concurrency) .valueError
  ensure (∀ case ∈ cases, case.benchmarkVersion = versions.benchmarkVersion) .valueError
  let raw ← (suiteCells cases repetitions).zipIdx.mapM (execute.fact mode randomSeed)
  return {
    benchmarkRunId, versions, mode, randomSeed, repetitions
    suite := .development
    status := .completed
    rawRuns := raw
    metrics := computeRefundMetrics cases raw }

/-! ## The gate -/

structure GateResult where
  passed : Bool
  benchmarkRunId : Option String
  checks : List (String × Bool)
  reasons : List String
  deriving DecidableEq

/-- `_rate` -/
def MetricValue.rate (metric : MetricValue) : Option ℚ :=
  if metric.denominator = 0 then none else metric.value

/-- Whether a rate is no less than another one. -/
def rateAtLeast : Option ℚ → Option ℚ → Bool
  | some bare, some gated => bare ≤ gated
  | _, _ => false

/-- The checks of `RefundReleaseGate.evaluate` on two runs. -/
def RefundReleaseGate.checks (bare gated : RefundBenchmarkRun) : List (String × Bool) :=
  [("matching_configuration",
      bare.versions = gated.versions ∧ bare.randomSeed = gated.randomSeed ∧
        bare.repetitions = gated.repetitions ∧ bare.rawRuns.length = gated.rawRuns.length),
    ("both_arms_completed",
      bare.status = .completed ∧ gated.status = .completed ∧
        bare.metrics.failedCells = 0 ∧ gated.metrics.failedCells = 0),
    ("no_duplicate_refund_in_gated", gated.metrics.unexpectedLossCases.value = 0),
    ("no_false_block_on_normal", gated.metrics.falseBlockCases.value = 0),
    ("gated_not_worse_than_bare", rateAtLeast bare.metrics.finalStateCorrectRate.rate
      gated.metrics.finalStateCorrectRate.rate)]

/-- `RefundReleaseGate.evaluate` -/
def RefundReleaseGate.evaluate (runs : AgentMode → Option RefundBenchmarkRun) : GateResult :=
  match runs .bare, runs .gated with
  | some bare, some gated =>
    let checks := RefundReleaseGate.checks bare gated
    let reasons := (checks.filter fun check => !check.2).map Prod.fst
    { passed := reasons = [], benchmarkRunId := some gated.benchmarkRunId, checks, reasons }
  | bare, gated =>
    let missing := (if bare.isNone then ["BARE"] else []) ++ if gated.isNone then ["GATED"] else []
    { passed := false
      benchmarkRunId := none
      checks := [("matching_modes", false)]
      reasons := ["no completed run for: " ++ ", ".intercalate missing] }

/-! ## What the gate compares -/

/-- The ticket and the repetition of a fact. -/
def RefundCaseRun.cell (run : RefundCaseRun) : String × Nat := (run.caseId, run.repetition)

/-- Two runs measured the same cells, each as often, all of them, and without a loss in the
    gated one. -/
structure Comparable (bare gated : RefundBenchmarkRun) : Prop where
  cells : (bare.rawRuns.map RefundCaseRun.cell).Perm (gated.rawRuns.map RefundCaseRun.cell)
  completed : ∀ run ∈ bare.rawRuns ++ gated.rawRuns, run.status = .completed
  lossless : ∀ run ∈ gated.rawRuns, run.lossOrderIds = []

/-- The tickets of a suite by their names. -/
def caseIds (cases : List RefundTicketCase) : List String := cases.map RefundTicketCase.caseId

/-- Every value of a list comes to one of the other list. -/
theorem forall₂_of_mapM {ε α β : Type} {f : α → Except ε β} {xs : List α} {ys : List β}
    (h : xs.mapM f = .ok ys) : List.Forall₂ (fun x y => f x = .ok y) xs ys := by
  induction xs generalizing ys with
  | nil =>
    cases h
    exact .nil
  | cons x xs ih =>
    rw [List.mapM_cons] at h
    obtain ⟨y, first, h⟩ := Checked.bind_eq_ok.1 h
    obtain ⟨ys', rest, h⟩ := Checked.bind_eq_ok.1 h
    obtain rfl := Checked.pure_eq_ok.1 h
    exact .cons first (ih rest)

theorem RefundCaseRun.cell_ofMeasurement {runId : String} {case : RefundTicketCase}
    {mode : AgentMode} {repetition : Nat} {measurement : Measurement} {fact : RefundCaseRun}
    (h : ofMeasurement runId case mode repetition measurement = .ok fact) :
    fact.cell = (case.caseId, repetition) := by
  have keeps : ∀ {run fact : RefundCaseRun}, run.validated = .ok fact → fact = run := by
    intro run fact h
    obtain ⟨_, -, h⟩ := Checked.bind_eq_ok.1 h
    obtain ⟨_, -, h⟩ := Checked.bind_eq_ok.1 h
    exact (Checked.pure_eq_ok.1 h).symm
  cases measurement <;> (obtain rfl := keeps h; rfl)

/-- What a run consists of. -/
theorem RefundBenchmarkRunner.run_spec {execute : RefundExecutor} {benchmarkRunId : String}
    {cases : List RefundTicketCase} {versions : VersionTuple} {mode : AgentMode}
    {repetitions : Nat} {randomSeed : Int} {concurrency : Nat} {run : RefundBenchmarkRun}
    (h : RefundBenchmarkRunner.run execute benchmarkRunId cases versions mode repetitions
      randomSeed concurrency = .ok run) :
    1 ≤ run.repetitions ∧ run.metrics = computeRefundMetrics cases run.rawRuns ∧
      run.rawRuns.map RefundCaseRun.cell =
        (suiteCells cases run.repetitions).map fun cell => (cell.1.caseId, cell.2) := by
  simp only [RefundBenchmarkRunner.run, Checked.bind_eq_ok, Checked.ensure_eq_ok,
    Checked.pure_eq_ok] at h
  obtain ⟨-, -, -, positive, -, -, -, -, raw, measured, rfl⟩ := h
  refine ⟨positive, rfl, ?_⟩
  have cells : List.Forall₂ (fun cell fact => (cell.1.1.caseId, cell.1.2) = RefundCaseRun.cell fact)
      (suiteCells cases repetitions).zipIdx raw := by
    refine (forall₂_of_mapM measured).imp fun cell fact h => ?_
    obtain ⟨_, -, h⟩ := Checked.bind_eq_ok.1 h
    exact (RefundCaseRun.cell_ofMeasurement h).symm
  have same := List.forall₂_map_right_iff.2 (List.forall₂_map_left_iff.2 cells)
  rw [List.forall₂_eq_eq_eq] at same
  rw [← same]
  conv_rhs => rw [← List.zipIdx_map_fst 0 (suiteCells cases repetitions), List.map_map]
  rfl

theorem perm_cells_iff {cases cases' : List RefundTicketCase} {repetitions : Nat}
    (pos : 1 ≤ repetitions) :
    ((suiteCells cases repetitions).map fun cell => (cell.1.caseId, cell.2)).Perm
        ((suiteCells cases' repetitions).map fun cell => (cell.1.caseId, cell.2)) ↔
      (caseIds cases).Perm (caseIds cases') := by
  have cells : ∀ cases : List RefundTicketCase,
      ((suiteCells cases repetitions).map fun cell => (cell.1.caseId, cell.2)) =
        (caseIds cases).flatMap fun id => (List.range' 1 repetitions).map (Prod.mk id) := by
    intro cases
    rw [suiteCells, List.map_flatMap, caseIds, List.flatMap_map]
    exact List.flatMap_congr fun case _ => List.map_map
  have first : ∀ ids : List String,
      (((ids.flatMap fun id => (List.range' 1 repetitions).map (Prod.mk id)).filter
        fun cell => cell.2 = 1).map Prod.fst) = ids := by
    have once : ∀ id : String, ((List.range' 1 repetitions).map (Prod.mk id)).filter
        (fun cell => cell.2 = 1) = [(id, 1)] := by
      intro id
      obtain ⟨n, rfl⟩ := Nat.exists_eq_add_of_le' pos
      rw [List.range'_succ, List.map_cons, List.filter_cons, if_pos (decide_eq_true rfl)]
      refine congrArg ((id, 1) :: ·) (List.filter_eq_nil_iff.2 fun cell mem => ?_)
      obtain ⟨repetition, later, rfl⟩ := List.mem_map.1 mem
      have := (List.mem_range'_1.1 later).1
      simp only [decide_eq_true_eq]
      omega
    intro ids
    induction ids with
    | nil => rfl
    | cons id ids ih =>
      rw [List.flatMap_cons, List.filter_append, List.map_append, once, ih]
      rfl
  rw [cells, cells]
  constructor
  · intro h
    rw [← first (caseIds cases), ← first (caseIds cases')]
    exact (h.filter _).map _
  · exact fun h => h.flatMap_right _

/-- If no ticket is counted as lost then no fact that counts has a loss. -/
theorem lossless_of_count {cases : List RefundTicketCase} {rawRuns : List RefundCaseRun}
    (none : (computeRefundMetrics cases rawRuns).unexpectedLossCases.value = 0)
    {run : RefundCaseRun} (mem : run ∈ evaluable rawRuns) : run.lossOrderIds = [] := by
  by_contra lost
  have listed : run.caseId ∈ sortedSet (((evaluable rawRuns).filter fun run =>
      run.lossOrderIds ≠ []).map RefundCaseRun.caseId) := by
    rw [sortedSet, List.mem_insertionSort, List.mem_dedup]
    exact List.mem_map_of_mem (List.mem_filter.2 ⟨mem, decide_eq_true lost⟩)
  exact absurd (List.length_eq_zero_iff.1 none) (List.ne_nil_of_mem listed)

/-- Without failed cells every fact is completed. -/
theorem completed_of_count {cases : List RefundTicketCase} {rawRuns : List RefundCaseRun}
    (none : (computeRefundMetrics cases rawRuns).failedCells = 0) {run : RefundCaseRun}
    (mem : run ∈ rawRuns) : run.status = .completed := by
  have := List.countP_eq_zero.1 none run mem
  simpa using this

/-- The runs of both modes. -/
def bothArms (bare gated : RefundBenchmarkRun) : AgentMode → Option RefundBenchmarkRun
  | .bare => some bare
  | .gated => some gated

/-- What two runs that pass have in common, by their metrics. -/
theorem RefundReleaseGate.passed_spec {bare gated : RefundBenchmarkRun}
    (passed : (evaluate (bothArms bare gated)).passed) :
    bare.repetitions = gated.repetitions ∧ bare.metrics.failedCells = 0 ∧
      gated.metrics.failedCells = 0 ∧ gated.metrics.unexpectedLossCases.value = 0 := by
  have all : ∀ check ∈ checks bare gated, check.2 = true := by
    have none := List.map_eq_nil_iff.1 (of_decide_eq_true passed)
    intro check mem
    simpa using List.filter_eq_nil_iff.1 none check mem
  simp only [checks, List.forall_mem_cons, decide_eq_true_eq] at all
  obtain ⟨⟨-, -, repetitions, -⟩, ⟨-, -, bareCells, gatedCells⟩, lossless, -⟩ := all
  exact ⟨repetitions, bareCells, gatedCells, lossless⟩

/-- Two runs that pass the gate are comparable exactly if their suites consist of the same
    tickets: the gate compares no more than the numbers of their facts. -/
theorem RefundReleaseGate.comparable_iff {execute execute' : RefundExecutor}
    {benchmarkRunId benchmarkRunId' : String} {cases cases' : List RefundTicketCase}
    {versions versions' : VersionTuple} {repetitions repetitions' concurrency concurrency' : Nat}
    {randomSeed randomSeed' : Int} {bare gated : RefundBenchmarkRun}
    (hb : RefundBenchmarkRunner.run execute benchmarkRunId cases versions .bare repetitions
      randomSeed concurrency = .ok bare)
    (hg : RefundBenchmarkRunner.run execute' benchmarkRunId' cases' versions' .gated repetitions'
      randomSeed' concurrency' = .ok gated)
    (passed : (evaluate (bothArms bare gated)).passed) :
    Comparable bare gated ↔ (caseIds cases).Perm (caseIds cases') := by
  obtain ⟨positive, bareMetrics, bareCells⟩ := RefundBenchmarkRunner.run_spec hb
  obtain ⟨-, gatedMetrics, gatedCells⟩ := RefundBenchmarkRunner.run_spec hg
  obtain ⟨same, bareCompleted, gatedCompleted, lossless⟩ := passed_spec passed
  rw [bareMetrics] at bareCompleted
  rw [gatedMetrics] at gatedCompleted lossless
  have cells : (bare.rawRuns.map RefundCaseRun.cell).Perm (gated.rawRuns.map RefundCaseRun.cell) ↔
      (caseIds cases).Perm (caseIds cases') := by
    rw [bareCells, gatedCells, ← same]
    exact perm_cells_iff positive
  refine ⟨fun h => cells.1 h.cells, fun h => ⟨cells.2 h, ?_, ?_⟩⟩
  · intro run mem
    rcases List.mem_append.1 mem with mem | mem
    · exact completed_of_count bareCompleted mem
    · exact completed_of_count gatedCompleted mem
  · intro run mem
    refine lossless_of_count lossless (List.mem_filter.2 ⟨mem, ?_⟩)
    exact decide_eq_true (completed_of_count gatedCompleted mem)

/-! ## Other tickets -/

/-- The versions of a suite. -/
def suiteVersions : VersionTuple :=
  ⟨"refund-v1", "runtime-v1", "rules-v1", "scenarios-v1", "sandbox-v1", "1.0", "0", "agent-v1"⟩

/-- A ticket of the suite. -/
def suiteTicket (caseId : String) : RefundTicketCase where
  caseId
  benchmarkVersion := "refund-v1"
  ticketText := "订单 order-1 全额退款"

/-- An executor that finds every ticket handled as it should be. -/
def flawless : RefundExecutor := fun _ case _ _ _ =>
  .ok ("case-run", .measured {
    report := completed ⟨case.caseId, case.userId, case.ticketText⟩ []
    calls := []
    finalStateSatisfied := true
    invariantsSatisfied := true
    violatedInvariants := []
    lossOrderIds := []
    lossAmount := "0" })

/-- Its fact about a repetition of a ticket. -/
def flawlessFact (mode : AgentMode) (cell : String × Nat) : RefundCaseRun where
  runId := "case-run"
  caseId := cell.1
  mode
  repetition := cell.2
  agentOutcome := some .completed
  claimedComplete := true
  escalated := false
  finalStateSatisfied := true
  invariantsSatisfied := true

/-- The run of a suite of tickets. -/
def flawlessRun (mode : AgentMode) (repetitions : Nat) (ids : List String)
    (cells : List (String × Nat)) : RefundBenchmarkRun where
  benchmarkRunId := "run"
  versions := suiteVersions
  mode
  randomSeed := 7
  repetitions
  suite := .development
  status := .completed
  rawRuns := cells.map (flawlessFact mode)
  metrics := computeRefundMetrics (ids.map suiteTicket) (cells.map (flawlessFact mode))

/-- Two tickets, each handled twice, in the one order by one arm and in the other by the other. -/
theorem RefundReleaseGate.comparable_iff_same :
    ∃ bare gated,
      RefundBenchmarkRunner.run flawless "run" [suiteTicket "ticket-1", suiteTicket "ticket-2"]
        suiteVersions .bare 2 7 1 = .ok bare ∧
      RefundBenchmarkRunner.run flawless "run" [suiteTicket "ticket-2", suiteTicket "ticket-1"]
        suiteVersions .gated 2 7 2 = .ok gated ∧ Comparable bare gated := by
  have bare : RefundBenchmarkRunner.run flawless "run"
      [suiteTicket "ticket-1", suiteTicket "ticket-2"] suiteVersions .bare 2 7 1 =
        .ok (flawlessRun .bare 2 ["ticket-1", "ticket-2"]
          [("ticket-1", 1), ("ticket-1", 2), ("ticket-2", 1), ("ticket-2", 2)]) := rfl
  have gated : RefundBenchmarkRunner.run flawless "run"
      [suiteTicket "ticket-2", suiteTicket "ticket-1"] suiteVersions .gated 2 7 2 =
        .ok (flawlessRun .gated 2 ["ticket-2", "ticket-1"]
          [("ticket-2", 1), ("ticket-2", 2), ("ticket-1", 1), ("ticket-1", 2)]) := rfl
  exact ⟨_, _, bare, gated, (RefundReleaseGate.comparable_iff bare gated (by decide +kernel)).2
    (by decide)⟩

/-- The gate passes two runs that did not handle the same ticket. -/
theorem RefundReleaseGate.passes_other_tickets :
    ∃ bare gated,
      RefundBenchmarkRunner.run flawless "run" [suiteTicket "ticket-1"] suiteVersions .bare 1 7 1 =
        .ok bare ∧
      RefundBenchmarkRunner.run flawless "run" [suiteTicket "ticket-2"] suiteVersions .gated 1 7 1 =
        .ok gated ∧
      (evaluate (bothArms bare gated)).passed ∧ ¬ Comparable bare gated := by
  refine ⟨flawlessRun .bare 1 ["ticket-1"] [("ticket-1", 1)],
    flawlessRun .gated 1 ["ticket-2"] [("ticket-2", 1)], rfl, rfl, by decide +kernel, fun h => ?_⟩
  exact absurd h.cells (by decide +kernel)

end RuleArena
