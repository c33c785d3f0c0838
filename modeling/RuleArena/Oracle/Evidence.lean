import RuleArena.Oracle.Evaluator
import RuleArena.Sandbox.Service

/-!
# Evidence

What the oracle is given: the snapshot of a run before a sequence of commands
and after each of them, the receipts the service answered with, and the event
log in the end. Reading the evidence of a run gives its rows back.
-/

namespace RuleArena

/-- The rules are those the sandbox keeps in a scenario: a point for each full unit
    paid, revoked on a refund, and refunds of unused memberships only. -/
structure RuleSpec.Describes (spec : RuleSpec) (scenario : ScenarioType) : Prop where
  scenarioType : spec.scenarioType = scenario
  points : ∀ rule ∈ spec.pointsRule,
    rule.spendAmount = 1 ∧ rule.pointsGranted = 1 ∧ rule.revokeOnRefund = true
  refundPolicy : ∀ policy ∈ spec.refundPolicy, policy = .unusedOnly

/-- A command as it is executed, and the time its snapshot is taken. -/
structure Call where
  command : ActionCommand
  uuid : String
  now : Nat
  capturedAt : Nat

def Call.op (call : Call) : Op := .execute call.command call.uuid call.now

/-- The receipt a command is answered with, if it is. -/
def Reply.receipt? : Reply → Option ActionReceipt
  | .receipt answer => some answer
  | _ => none

namespace RunSpace

variable [Python]

/-- The runs a sequence of commands goes through, each with the time its snapshot
    is taken. -/
def stages (run : RunSpace) : List Call → List (RunSpace × Nat)
  | [] => []
  | call :: calls =>
    let run' := (run.execute call.command call.now call.uuid).1
    (run', call.capturedAt) :: run'.stages calls

/-- The receipts the commands are answered with. -/
def answers (run : RunSpace) : List Call → List ActionReceipt
  | [] => []
  | call :: calls =>
    let (run', reply) := run.execute call.command call.now call.uuid
    reply.receipt?.toList ++ run'.answers calls

/-- The run after the commands. -/
def final (run : RunSpace) (calls : List Call) : RunSpace := run.after (calls.map Call.op)

/-- The findings of the oracle on the evidence of a sequence of commands. -/
def judge (run : RunSpace) (spec : RuleSpec) (startedAt : Nat) (calls : List Call) :
    Except PyException (List OracleFinding) :=
  Oracle.evaluate spec (((run, startedAt) :: run.stages calls).map fun stage =>
    stage.1.snapshot stage.2) ((run.answers calls).map ActionReceipt.toJson)
    (run.final calls).getEvents

end RunSpace

end RuleArena
