import Scout.Proofs.Run.Stillness
import Scout.Proofs.Run.Traced

/-!
# The attempts of a run

A run is followed with the list of the attempts that it dispatches: each one is the
action as it is written and the world in which its templates are filled in.  What the
traced run does is what the run does (`Traced.run_visit`), so that its list is that of
the run.
-/

namespace Scout

open Exec

/-- An attempt at an action: the action as it is written, and the world in which its templates are
filled in. -/
structure Trial where
  step : Step
  world : World

namespace Traced

/-- The templates of an action are filled in once in each attempt, at its beginning. -/
def resolve (s : Step) : Traced Trial Step :=
  ⟨s.resolve, fun w => [⟨s, w⟩]⟩

theorem run_resolve (s : Step) : (resolve s).run = s.resolve := rfl

/-! ## Executions -/

mutual

def execute (g : Setting) : Action → Int → Traced Trial ActionResult
  | ⟨s, none⟩, depth => executeStep resolve g s 0 (pure ()) depth
  | ⟨s, some program⟩, depth =>
    executeStep resolve g s program.length (executeProgram g program (depth + 1)) depth

def executeProgram (g : Setting) : List Action → Int → Traced Trial Unit
  | [], _ => pure ()
  | a :: rest, depth => do
    let _ ← execute g a depth
    executeProgram g rest depth

end

mutual

/-- What a traced execution does is what the execution does. -/
theorem run_execute : ∀ (a : Action) (depth : Int),
    (execute g a depth).run = Scout.execute g a depth
  | ⟨s, none⟩, depth => by rw [execute, run_executeStep _ _ run_resolve]; rfl
  | ⟨s, some program⟩, depth => by
    rw [execute, run_executeStep _ _ run_resolve, run_executeProgram program (depth + 1),
      Scout.execute]

theorem run_executeProgram : ∀ (program : List Action) (depth : Int),
    (executeProgram g program depth).run = Scout.executeProgram g program depth
  | [], _ => rfl
  | a :: rest, depth => by
    rw [executeProgram, run_bind, run_execute a depth, Scout.executeProgram]
    simp only [run_executeProgram rest depth]

end

/-! ## Runs -/

def runActions (g : Setting) : List Action → Traced Trial (Option String)
  | [] => pure none
  | a :: rest => do
    match ← attempt (execute g a 1) with
    | .ok r =>
      if r.success then onContext fun c => { c with actionsExecuted := c.actionsExecuted + 1 }
      runActions g rest
    | .error e =>
      if e.isOfAction then
        Run.addError (Run.describeFailure a.id e)
        if g.policy.continueOnError then
          log .warn s!"Action {a.id} failed, continuing: {e.message}"
          runActions g rest
        else pure (some s!"Action {a.id} failed")
      else fail e

def body (g : Setting) (p : Playbook) (now : Moment) : Traced Trial Run.Ending := do
  match ← runActions g p.actions with
  | some message => pure (.aborted message)
  | none => pure (.finished (← Harvest.run p now))

def underDeadline (budget : Float) (x : Traced Trial Run.Ending) : Traced Trial Run.Ending where
  run := Run.underDeadline budget x.run
  trials w := x.trials (Run.underLimit budget w)

def visit (g : Setting) (p : Playbook) (now : Moment) : Traced Trial (List Opportunity) := do
  match ← Exec.attempt Browse.openPage with
  | .error e =>
    Run.reportFault p g.options.budget e
    pure []
  | .ok _ =>
    let ending ← underDeadline g.options.budget (body g p now)
    let found ← Run.reportEnding p g.options.budget ending
    Run.close
    pure found

theorem run_runActions (g : Setting) (actions : List Action) :
    (runActions g actions).run = Run.runActions g actions := by
  induction actions with
  | nil => rfl
  | cons a rest ih =>
    unfold runActions Run.runActions
    rw [run_bind, run_attempt, run_execute]
    refine bind_congr fun ended => ?_
    cases ended with
    | ok r => cases r.success <;> simp [ih]
    | error e => simp [ih]

theorem run_body (g : Setting) (p : Playbook) (now : Moment) :
    (body g p now).run = Run.body g p now := by
  unfold body Run.body
  rw [run_bind, run_runActions]
  refine bind_congr fun aborted => ?_
  cases aborted <;> rfl

/-- What a traced visit does is what the visit does. -/
theorem run_visit (g : Setting) (p : Playbook) (now : Moment) :
    (visit g p now).run = Run.visit g p now := by
  unfold visit Run.visit
  rw [run_bind, run_lift]
  refine bind_congr fun opened => ?_
  cases opened with
  | error e => rfl
  | ok _ => simp [underDeadline, run_body]

end Traced

/-- The attempts that a run dispatches, in their order. -/
def Run.trials (o : RunOptions) (at_ : Stamp) (p : Playbook) (vars : Members Value) (w : World) :
    List Trial :=
  (Traced.visit (settingOf o at_ p) p at_.moment).trials (outset p vars w)

end Scout
