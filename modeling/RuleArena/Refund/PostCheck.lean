import RuleArena.Refund.Gate
import RuleArena.Sandbox.Observed

/-!
# The check after a write

The gate reads the snapshot of the run again and compares hashes: with the snapshot
that the caller took after the write, which must show the same, and with the one
before, which must not. As every effect is shown by snapshots, the gate allows what
comes after a write under a new key exactly if the write took effect
(`RuntimeGate.write_observed`).
-/

namespace RuleArena

namespace RuntimeGate

/-- `_state_hash` -/
def stateHash (snapshot : Json) : Option String :=
  match snapshot.get "state_hash" with
  | .str hash => if hash = "" then none else some hash
  | _ => none

/-- The part of `post_check` with three hashes that can be read. -/
def compareHashes (runId authoritative before after : String) : GateDecision :=
  if authoritative ≠ after then
    ⟨.unknown, .staleView, [("run_id", .str runId), ("observed_state_hash", .str after),
      ("authoritative_state_hash", .str authoritative)]⟩
  else if authoritative = before then
    ⟨.block, .effectNotObserved, [("run_id", .str runId), ("state_hash", .str authoritative)]⟩
  else
    ⟨.allow, .effectObserved, [("run_id", .str runId), ("before_state_hash", .str before),
      ("after_state_hash", .str authoritative)]⟩

/-- `post_check`, with what the snapshot of the run comes to. -/
def postCheck (snapshot : Option Json) (runId : String) (before after : Json) : GateDecision :=
  match snapshot with
  | none => ⟨.unknown, .snapshotUnavailable, [("run_id", .str runId)]⟩
  | some authoritative =>
    match stateHash authoritative, stateHash after, stateHash before with
    | some authoritative, some after, some before =>
      compareHashes runId authoritative before after
    | _, _, _ => ⟨.unknown, .snapshotUnreadable, [("run_id", .str runId)]⟩

theorem compareHashes_allow {runId authoritative before after : String} :
    (compareHashes runId authoritative before after).decision = .allow ↔
      authoritative = after ∧ authoritative ≠ before := by
  unfold compareHashes
  split_ifs with stale same <;> simp_all

section

variable [Python] (filled : ∀ text, Python.sha256 text ≠ "")

include filled in
/-- The hash of a snapshot can be read. -/
theorem stateHash_snapshot (run : RunSpace) (now : Nat) :
    stateHash (run.snapshot now) = some run.stateHash := by
  have get : (run.snapshot now).get "state_hash" = .str run.stateHash := by
    simp [RunSpace.snapshot, Json.get, Json.get?, List.lookup]
  rw [stateHash, get]
  exact if_neg (filled _)

include filled in
/-- Between two snapshots of its own and one of the same state as the second the gate finds an
    effect if the hashes differ. -/
theorem postCheck_allow (runId : String) (run run' : RunSpace) (first second third : Nat) :
    (postCheck (some (run'.snapshot third)) runId (run.snapshot first)
        (run'.snapshot second)).decision = .allow ↔ run'.stateHash ≠ run.stateHash := by
  rw [postCheck]
  simp only [stateHash_snapshot filled]
  rw [compareHashes_allow]
  exact ⟨fun h => h.2, fun h => ⟨rfl, h⟩⟩

end

/-- A write under a new key, in whatever scenario and with whatever defects, changes the state of
    the snapshots exactly if its receipt tells of success. With an injective digest, no other
    writer and snapshots that can be read the gate allows what comes after it exactly then. -/
theorem write_observed [Python] (request : CreateRunRequest) (id : String) (history : List Op)
    (command : ActionCommand) (key : String) (write : command.action ≠ .inspectState)
    (keyed : command.idempotencyKey = some key) (now : Nat) (uuid : String)
    (new : ((createRun request id).after history).existing command.action key = none) :
    let run := (createRun request id).after history
    let run' := (run.execute command now uuid).1
    (run'.stateJson ≠ run.stateJson ↔ run.TookEffect command key now uuid) ∧
      (Function.Injective Python.sha256 → (∀ text, Python.sha256 text ≠ "") →
        ∀ first second third : Nat,
          ((postCheck (some (run'.snapshot third)) id (run.snapshot first)
            (run'.snapshot second)).decision = .allow ↔ run.TookEffect command key now uuid)) := by
  intro run run'
  have reachable : run.Reachable := ⟨request, id, history, rfl⟩
  rcases reachable.observed write keyed new now uuid with ⟨effect, seen⟩ | ⟨effect, same⟩
  · refine ⟨iff_of_true (fun e => seen ?_) effect, fun injective filled first second third => ?_⟩
    · exact RunSpace.unseen_of_state (congrArg Json.sortKeys e.symm)
    · rw [postCheck_allow filled]
      exact iff_of_true (fun e => seen (RunSpace.unseen_of_hash injective e.symm)) effect
  · refine ⟨iff_of_false (fun differ => differ same) effect,
      fun _ filled first second third => ?_⟩
    rw [postCheck_allow filled]
    exact iff_of_false
      (fun differ => differ (congrArg (fun state => Python.sha256 state.canonical) same)) effect

/-- A refund of an order that was paid for is observed. -/
theorem write_observed_refund :
    let _ := Python.transparent
    let run := (createRun { scenarioType := .promotion } "run").after paidHistory
    let run' := (run.execute refundOrderCommand 4 "").1
    (postCheck (some (run'.snapshot 7)) "run" (run.snapshot 3) (run'.snapshot 5)).decision = .allow ↔
      run.TookEffect refundOrderCommand "refund" 4 "" := by
  intro _
  refine (write_observed { scenarioType := .promotion } "run" paidHistory refundOrderCommand
    "refund" (by decide) rfl 4 "" (by decide +kernel)).2 (fun a b h => ?_) (fun text h => ?_) 3 5 7
  · exact String.append_right_inj _ |>.1 h
  · have length := congrArg String.length (show "sha256:" ++ text = "" from h)
    rw [String.length_append] at length
    exact absurd (Nat.eq_zero_of_add_eq_zero_right length) (by decide)

end RuntimeGate

end RuleArena
