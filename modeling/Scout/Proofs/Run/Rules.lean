import Scout.Proofs.Run.Executions

/-!
# Applying rules

The rules of a playbook and the assembling of what they found make ordinary changes
alone, and are cut by the deadline as actions are.
-/

namespace Scout.Harvest

open Exec

theorem ordinary_setField (name : String) (v : Value) :
    (setField name v).Follows World.Ordinary :=
  follows_update fun _ => .timely (.field name v)

theorem ordinary_applyRule (r : ExtractionRule) : (applyRule r).Follows World.Ordinary := by
  have asking := (timely_queryAll r.selector).mono timely_le_ordinary
  have logging (level : LogLevel) (message : String) :=
    (timely_log level message).mono timely_le_ordinary
  refine Follows.bind asking.attempt fun asked => ?_
  cases asked with
  | error e =>
    refine (follows_fail _).ite ?_
    refine (logging _ _).bind fun _ => Follows.bind ?_ fun _ => ordinary_setField _ _
    exact follows_update fun _ => .unfilled r.field e.message
  | ok found =>
    refine (ordinary_setField _ _).ite ((follows_fail _).ite ?_)
    cases r.fallback with
    | null => exact ordinary_setField _ _
    | _ => exact (logging _ _).bind fun _ => ordinary_setField _ _

theorem ordinary_applyRules (rules : List ExtractionRule) :
    (applyRules rules).Follows World.Ordinary := by
  induction rules with
  | nil => exact follows_pure _
  | cons r rest ih => exact (ordinary_applyRule r).bind fun _ => ih

theorem failsOnly_applyRule (r : ExtractionRule) :
    (applyRule r).FailsOnly fun e => e.kind = .extraction := by
  have missing (reason : String) : (fail (requiredFault r.field reason) : Exec Unit).FailsOnly
      fun e => e.kind = .extraction := failsOnly_fail rfl
  have filling (v : Value) : (setField r.field v).FailsOnly fun e => e.kind = .extraction :=
    failsOnly_update _
  refine (failsOnly_attempt _).bind fun asked => ?_
  cases asked with
  | error e =>
    refine (missing _).ite ((failsOnly_update _).bind fun _ => ?_)
    exact (failsOnly_update _).bind fun _ => filling _
  | ok found =>
    refine (filling _).ite ((missing _).ite ?_)
    cases r.fallback with
    | null => exact filling _
    | _ => exact (failsOnly_update _).bind fun _ => filling _

theorem failsOnly_applyRules (rules : List ExtractionRule) :
    (applyRules rules).FailsOnly fun e => e.kind = .extraction := by
  induction rules with
  | nil => exact failsOnly_pure _
  | cons r rest ih => exact (failsOnly_applyRule r).bind fun _ => ih

theorem timely_sourceUrl : sourceUrl.IsTimely := by
  refine timely_address.bind fun url => Follows.ite ?_ (follows_pure _)
  refine (follows_read _).bind fun found => ?_
  cases found with
  | ok address => exact follows_pure address
  | error e => exact follows_fail e

theorem timely_assemble (p : Playbook) (now : Moment) : (assemble p now).IsTimely := by
  refine timely_sourceUrl.bind fun url => (follows_read _).bind fun fields => ?_
  exact ((timely_log _ _).bind fun _ => follows_pure _).ite (follows_pure _)

theorem lastAddress_failed {v : Value} {e : Fault} (h : lastAddress v = .error e) :
    e.kind = .kind := by
  unfold lastAddress at h
  split at h <;> cases h <;> rfl

/-- Assembling fails when the address of the page cannot be read, or with an address that cannot
be looked up. -/
theorem assemble_failed {p : Playbook} {now : Moment} {w w' : World} {e : Fault}
    (h : assemble p now w = (.failed e, w')) :
    Browse.address w = (.failed e, w') ∨ e.kind = .kind := by
  rcases bind_eq_failed_iff.mp h with unplaced | ⟨url, u, -, h⟩
  · rcases bind_eq_failed_iff.mp unplaced with unread | ⟨url, u, -, h⟩
    · exact .inl unread
    · refine .inr ?_
      split at h
      · rw [bind_done (read_apply _ _)] at h
        rcases last : lastAddress (.ofOption (u.context.vars.find? "currentUrl"))
          with e' | found <;>
          rw [last] at h <;> cases h
        exact lastAddress_failed last
      · cases h
  · refine (FailsOnly.bind (P := fun _ => False) (failsOnly_read _) (fun fields => ?_) u e
      (congrArg Prod.fst h)).elim
    exact ((failsOnly_update _).bind fun _ => failsOnly_pure _).ite (failsOnly_pure _)

theorem ordinary_run (p : Playbook) (now : Moment) : (run p now).Follows World.Ordinary :=
  (ordinary_applyRules p.rules).bind fun _ => (timely_assemble p now).mono timely_le_ordinary

end Scout.Harvest
