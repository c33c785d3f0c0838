import RuleArena.Oracle.Evaluator

/-!
# The statuses of a report

The findings of a report without their evidence: each check ends with a status, or
raises (`Oracle.statusOf`), and the report has the statuses of its checks
(`Oracle.statuses_eq`). The check of the histories ends with the status that the
histories of the orders give it (`Oracle.terminalMonotonicity_status`).
-/

namespace RuleArena

namespace Oracle

/-! ## Statuses -/

/-- The status a check ends with. -/
def statusOf : Except Exit Verdict → Except PyException OracleStatus
  | .ok verdict => .ok verdict.status
  | .error (.verdict verdict) => .ok verdict.status
  | .error (.raised exception) => .error exception

/-- The statuses of a report, each with its invariant. -/
def statuses [Python] (spec : RuleSpec) (snapshots receipts events : List Json) :
    Except PyException (List (InvariantId × OracleStatus)) :=
  (fun findings => findings.map fun finding => (finding.invariantId, finding.status)) <$>
    evaluate spec snapshots receipts events

theorem mapM_settle [Python] {snapshots : List Json}
    {checks : List (InvariantId × Except Exit Verdict)} {found : List OracleStatus}
    (h : List.Forall₂ (fun check status => statusOf check.2 = .ok status) checks found) :
    ∃ findings, checks.mapM (fun check => settle check.1 snapshots check.2) = .ok findings ∧
      findings.map (fun finding => (finding.invariantId, finding.status)) =
        (checks.map Prod.fst).zip found := by
  induction h with
  | nil => exact ⟨[], rfl, rfl⟩
  | @cons check status checks found hc _ ih =>
    obtain ⟨findings, hm, hf⟩ := ih
    obtain ⟨one, hs, ho⟩ : ∃ one, settle check.1 snapshots check.2 = .ok one ∧
        (one.invariantId, one.status) = (check.1, status) := by
      obtain ⟨id, result⟩ := check
      match result, hc with
      | .ok verdict, hc => exact ⟨_, rfl, by cases hc; rfl⟩
      | .error (.verdict verdict), hc => exact ⟨_, rfl, by cases hc; rfl⟩
    exact ⟨one :: findings, by rw [List.mapM_cons, hs, hm]; rfl, by simp [hf, ho]⟩

theorem statuses_eq [Python] {spec : RuleSpec} {snapshots receipts events : List Json}
    {found : List OracleStatus}
    (h : List.Forall₂ (fun check status => statusOf check.2 = .ok status)
      (checks spec snapshots receipts events) found) :
    statuses spec snapshots receipts events =
      .ok (((checks spec snapshots receipts events).map Prod.fst).zip found) := by
  obtain ⟨findings, hm, hf⟩ := mapM_settle h
  rw [statuses, evaluate, hm, ← hf]
  rfl

theorem conclude_status (bad : List Json) (violated satisfied : String)
    (evidence : List (String × Json)) (actions events : List Json) :
    (conclude bad violated satisfied evidence actions events).status =
      if bad = [] then .satisfied else .violated := by
  unfold conclude
  split <;> rfl

/-! ## The histories -/

/-- How the check of the histories ends. -/
theorem terminalMonotonicity_status [Python] {snapshots : List Json}
    {states : List (String × String)} (two : ¬ snapshots.length < 2)
    (h : orderStates snapshots = .ok states) :
    (states = [] → statusOf (terminalMonotonicity snapshots) = .ok .notApplicable) ∧
    (states ≠ [] → (∀ id, leavesTerminal (historyOf states id) = false) →
      statusOf (terminalMonotonicity snapshots) = .ok .satisfied) ∧
    (∀ id, leavesTerminal (historyOf states id) = true →
      statusOf (terminalMonotonicity snapshots) = .ok .violated) := by
  have mem : ∀ id, id ∈ distinct (states.map Prod.fst) ↔ id ∈ states.map Prod.fst := by
    simp [distinct]
  rw [terminalMonotonicity, Checked.ensure_of_pos two, Checked.ok_bind, h, Checked.ok_bind]
  refine ⟨?_, fun some sound => ?_, fun id bad => ?_⟩
  · rintro rfl
    rfl
  · have any : (distinct (states.map Prod.fst)).map (fun id => (id, historyOf states id)) ≠ [] := by
      obtain ⟨state, hm⟩ := List.exists_mem_of_ne_nil _ some
      have := (mem state.1).2 (List.mem_map_of_mem hm)
      simpa using List.ne_nil_of_mem this
    dsimp only
    rw [Checked.ensure_of_pos any, Checked.ok_bind]
    simp only [List.filter_map, Function.comp_def, sound, List.filter_false, List.map_nil]
    rfl
  · -- The order has a history, which is not empty.
    have hm : id ∈ distinct (states.map Prod.fst) := by
      rw [mem]
      by_contra absent
      have none : historyOf states id = [] := by
        rw [historyOf, List.map_eq_nil_iff, List.filter_eq_nil_iff]
        intro state hs same
        exact absent (by simpa using ⟨state.2, by simpa [← of_decide_eq_true same] using hs⟩)
      rw [none] at bad
      cases bad
    have any : (distinct (states.map Prod.fst)).map (fun id => (id, historyOf states id)) ≠ [] := by
      simpa using List.ne_nil_of_mem hm
    dsimp only
    rw [Checked.ensure_of_pos any, Checked.ok_bind]
    refine congrArg Except.ok ((conclude_status ..).trans (if_neg ?_))
    refine List.ne_nil_of_mem (a := Json.arr ((historyOf states id).map .str)) ?_
    simp only [List.map_map, List.mem_map, List.mem_filter]
    exact ⟨(id, historyOf states id), ⟨⟨id, hm, rfl⟩, bad⟩, rfl⟩

end Oracle

end RuleArena
