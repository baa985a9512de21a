import Scout.Proofs.Run.Deadline
import Scout.Proofs.Run.Trials
import Scout.Proofs.Templates

/-!
# Warnings of names without a value

An attempt warns of each token of its action whose name has no value, unless the run has
been warned of it before; nothing else in a run warns so, and no warning is taken away.
`Told` says this of the warnings between two worlds and of the attempts between them, one
constructor for each way in which a warning can come, and every traced program tells in
that way.
-/

namespace Scout

open Exec

/-! ## What an attempt warns of -/

theorem unresolvedWarning_inj {id id' name name' : String} (h : Template.IsName name.toList)
    (h' : Template.IsName name'.toList) :
    unresolvedWarning id name = unresolvedWarning id' name' ↔ id = id' ∧ name = name' := by
  refine ⟨fun same => ?_, fun ⟨ids, names⟩ => by rw [ids, names]⟩
  -- the name ends with the first character that no name holds
  have texts : name.toList ++ '\x7d' :: (" in action ".toList ++ id.toList) =
      name'.toList ++ '\x7d' :: (" in action ".toList ++ id'.toList) := by
    have lists := congrArg String.toList same
    have brace : "\x7d in action ".toList = '\x7d' :: " in action ".toList := by decide
    unfold unresolvedWarning at lists
    simp only [String.toList_append, List.append_assoc, brace, List.cons_append] at lists
    exact List.append_cancel_left lists
  have names : name.toList = name'.toList := by
    rw [← Template.takeWhile_isWord h, texts, Template.takeWhile_isWord h']
  rw [names] at texts
  have ids : id.toList = id'.toList :=
    List.append_cancel_left (List.cons.inj (List.append_cancel_left texts)).2
  exact ⟨String.toList_injective ids, String.toList_injective names⟩

section WarnAll

variable (messages : List String) (w : World)

theorem prefix_warnAll : w.context.warnings <+: (warnAll messages w).2.context.warnings := by
  induction messages generalizing w with
  | nil => exact List.prefix_rfl
  | cons m rest ih =>
    rw [warnAll, bind_done (warnOnce_apply m w)]
    refine List.IsPrefix.trans ?_ (ih _)
    split
    · exact List.prefix_rfl
    · exact List.prefix_append _ _

theorem mem_warnAll_iff {m : String} :
    m ∈ (warnAll messages w).2.context.warnings ↔ m ∈ w.context.warnings ∨ m ∈ messages := by
  induction messages generalizing w with
  | nil => simp [warnAll]
  | cons m' rest ih =>
    rw [warnAll, bind_done (warnOnce_apply m' w), ih, List.mem_cons]
    split
    · next known =>
      constructor
      · rintro (old | new)
        · exact .inl old
        · exact .inr (.inr new)
      · rintro (old | rfl | new)
        · exact .inl old
        · exact .inl known
        · exact .inr new
    · simp [World.warned, or_assoc]

theorem count_warnAll_le {m : String} (once : w.context.warnings.count m ≤ 1) :
    (warnAll messages w).2.context.warnings.count m ≤ 1 := by
  induction messages generalizing w with
  | nil => exact once
  | cons m' rest ih =>
    rw [warnAll, bind_done (warnOnce_apply m' w)]
    refine ih _ ?_
    split
    · exact once
    · next unknown =>
      show (w.context.warnings ++ [m']).count m ≤ 1
      by_cases same : m' = m
      · subst same
        simp [List.count_eq_zero_of_not_mem unknown]
      · simpa [same] using once

end WarnAll

theorem Step.mem_templates_iff {s : Step} {text : String} :
    text ∈ s.templates ↔
      s.selector = some text ∧ text ≠ "" ∨ s.value = some (.text text) := by
  unfold templates
  rw [List.mem_append, Option.mem_toList]
  refine or_congr ?_ ?_
  · rcases s.selector with _ | selector
    · simp [Condition.named?]
    · by_cases empty : selector = ""
      · simp [Condition.named?, empty, eq_comm]
      · have named : Condition.named? (some selector) = some selector := by
          simp [Condition.named?, empty]
        rw [named, Option.some.injEq]
        exact ⟨fun same => ⟨same, same ▸ empty⟩, And.left⟩
  · split
    · next t h => simp [h, eq_comm]
    · next other => exact ⟨fun mem => (List.not_mem_nil mem).elim, fun h => (other _ h).elim⟩

namespace Trial

/-- A name has no value in the world where an attempt begins, and stands in a token of the
action. -/
def Lacks (t : Trial) (name : String) : Prop :=
  (t.world.context.vars.find? name = none ∨ t.world.context.vars.find? name = some .null) ∧
    ∃ text, (t.step.selector = some text ∨ t.step.value = some (.text text)) ∧
      Template.HasToken text name

/-- What the attempt warns of, unless it is known already. -/
def messages (t : Trial) : List String :=
  (t.step.templates.flatMap (Template.unresolved t.world.context.vars)).map
    (unresolvedWarning t.step.id)

/-- The warnings of the run once the templates of the attempt are filled in. -/
def warnings (t : Trial) : List String :=
  (t.step.resolve t.world).2.context.warnings

variable {t : Trial}

theorem Lacks.isName {name : String} (h : t.Lacks name) : Template.IsName name.toList := by
  obtain ⟨-, _, -, valid, -⟩ := h
  exact valid

variable (t)

theorem mem_messages_iff {m : String} :
    m ∈ t.messages ↔ ∃ name, t.Lacks name ∧ m = unresolvedWarning t.step.id name := by
  have lacks (name : String) :
      (∃ text ∈ t.step.templates, name ∈ Template.unresolved t.world.context.vars text) ↔
        t.Lacks name := by
    unfold Lacks
    rw [← Template.bound?_eq_none_iff]
    constructor
    · rintro ⟨text, held, missing⟩
      obtain ⟨unbound, token⟩ := Template.mem_unresolved_iff.mp missing
      exact ⟨unbound, text, (Step.mem_templates_iff.mp held).imp_left And.left, token⟩
    · rintro ⟨unbound, text, held, token⟩
      refine ⟨text, Step.mem_templates_iff.mpr (held.imp_left fun same => ⟨same, ?_⟩),
        Template.mem_unresolved_iff.mpr ⟨unbound, token⟩⟩
      rintro rfl
      exact Template.not_hasToken_empty name token
  rw [messages, List.mem_map]
  refine exists_congr fun name => ?_
  rw [List.mem_flatMap, lacks, eq_comm]

theorem warnings_eq : t.warnings = (warnAll t.messages t.world).2.context.warnings := by
  obtain ⟨u, all, -⟩ := warnAll_done t.messages t.world
  unfold warnings Step.resolve
  rw [bind_done (read_apply _ _)]
  show ((warnAll t.messages >>= fun _ => _) t.world).2.context.warnings = _
  rw [bind_done all, all, pure_apply]

theorem prefix_warnings : t.world.context.warnings <+: t.warnings := by
  rw [warnings_eq]
  exact prefix_warnAll _ _

theorem mem_warnings_iff {m : String} : m ∈ t.warnings ↔
    m ∈ t.world.context.warnings ∨ ∃ name, t.Lacks name ∧ m = unresolvedWarning t.step.id name := by
  rw [warnings_eq, mem_warnAll_iff, mem_messages_iff]

theorem count_warnings_le {m : String} (once : t.world.context.warnings.count m ≤ 1) :
    t.warnings.count m ≤ 1 := by
  rw [warnings_eq]
  exact count_warnAll_le _ _ once

end Trial

/-! ## What a run warns of -/

/-- What stands among the warnings after some attempts: each of them warns of the names that it
lacks, and all else that is warned of is of another form. -/
inductive Told (before : List String) : List Trial → List String → Prop
  | begun : Told before [] before
  | other {trials : List Trial} {now : List String} {message : String}
      (told : Told before trials now) (foreign : ∀ id name, message ≠ unresolvedWarning id name) :
      Told before trials (now ++ [message])
  | trial {trials : List Trial} {t : Trial} (told : Told before trials t.world.context.warnings) :
      Told before (trials ++ [t]) t.warnings

namespace Told

variable {before now later : List String} {trials others : List Trial}

theorem trans (first : Told before trials now) (second : Told now others later) :
    Told before (trials ++ others) later := by
  induction second with
  | begun => simpa using first
  | other _ foreign ih => exact ih.other foreign
  | trial _ ih =>
    rw [← List.append_assoc]
    exact ih.trial

theorem of_eq (same : now = before) : Told before [] now :=
  same ▸ .begun

theorem isPrefix_of_mem (h : Told before trials now) {t : Trial} (mem : t ∈ trials) :
    t.warnings <+: now := by
  induction h with
  | begun => cases mem
  | other _ _ ih => exact (ih mem).trans (List.prefix_append _ _)
  | @trial _ t' _ ih =>
    obtain earlier | last := List.mem_append.mp mem
    · exact (ih earlier).trans t'.prefix_warnings
    · cases List.mem_singleton.mp last
      exact List.prefix_rfl

theorem count_le (h : Told before trials now) {id name : String}
    (once : before.count (unresolvedWarning id name) ≤ 1) :
    now.count (unresolvedWarning id name) ≤ 1 := by
  induction h with
  | begun => exact once
  | other _ foreign ih => simpa [foreign id name] using ih
  | trial _ ih => exact Trial.count_warnings_le _ ih

/-- Such a warning comes from the first attempt that lacks a value for the name. -/
theorem of_mem (h : Told before trials now) {id name : String}
    (valid : Template.IsName name.toList) (mem : unresolvedWarning id name ∈ now) :
    unresolvedWarning id name ∈ before ∨ ∃ t ∈ trials, t.step.id = id ∧ t.Lacks name ∧
      unresolvedWarning id name ∉ t.world.context.warnings := by
  induction h with
  | begun => exact .inl mem
  | other _ foreign ih =>
    obtain old | new := List.mem_append.mp mem
    · exact ih old
    · exact absurd (List.mem_singleton.mp new).symm (foreign id name)
  | @trial _ t _ ih =>
    by_cases old : unresolvedWarning id name ∈ t.world.context.warnings
    · refine (ih old).imp_right ?_
      rintro ⟨t', earlier, found⟩
      exact ⟨t', List.mem_append_left _ earlier, found⟩
    · obtain ⟨name', lacks, same⟩ := (t.mem_warnings_iff.mp mem).resolve_left old
      obtain ⟨ids, rfl⟩ := (unresolvedWarning_inj valid lacks.isName).mp same
      exact .inr ⟨t, by simp, ids.symm, lacks, old⟩

end Told

/-- Between the worlds nothing is warned of but in another form. -/
def World.WarnsElse (w w' : World) : Prop :=
  Told w.context.warnings [] w'.context.warnings

namespace World

theorem Calm.warnsElse {w w' : World} (h : w.Calm w') : w.WarnsElse w' :=
  .of_eq h.warnings

instance : IsTrans World WarnsElse :=
  ⟨fun _ _ _ first second => Told.trans first second⟩

end World

namespace Exec

variable {α : Type}

/-- No attempt is dispatched, and nothing is warned of but in another form. -/
abbrev WarnsElse (x : Exec α) : Prop :=
  x.Relates World.WarnsElse

theorem Relates.warnsElse {x : Exec α} (hx : x.IsCalm) : x.WarnsElse :=
  fun w => (hx w).warnsElse

theorem warnsElse_warn {message : String}
    (foreign : ∀ id name, message ≠ unresolvedWarning id name) : (warn message).WarnsElse :=
  fun _ => .other .begun foreign

end Exec

namespace Traced

variable {α β : Type}

/-- The warnings that a program leaves are told by the attempts that it dispatches. -/
def Tells (x : Traced Trial α) : Prop :=
  ∀ w, Told w.context.warnings (x.trials w) (x.run w).2.context.warnings

theorem tells_lift {x : Exec α} (hx : x.WarnsElse) : (liftM x : Traced Trial α).Tells :=
  hx

theorem tells_calm {x : Exec α} (hx : x.IsCalm) : (liftM x : Traced Trial α).Tells :=
  hx.warnsElse

theorem tells_mild {x : Exec α} (hx : x.IsMild) : (liftM x : Traced Trial α).Tells :=
  tells_calm hx.calm

theorem tells_pure (a : α) : (pure a : Traced Trial α).Tells :=
  tells_mild (mild_pure a)

theorem tells_resolve (s : Step) : (resolve s).Tells :=
  fun w => Told.trial (t := ⟨s, w⟩) .begun

theorem Tells.bind {x : Traced Trial α} {f : α → Traced Trial β} (hx : x.Tells)
    (hf : ∀ a, (f a).Tells) :
    (x >>= f).Tells := by
  intro w
  have first := hx w
  refine bind_ends
    (P := fun trials ended => Told w.context.warnings trials ended.2.context.warnings)
    x f w (fun a u h => ?_) (fun e u h => ?_) fun u h => ?_ <;> rw [h] at first
  · exact first.trans (hf a u)
  · exact first
  · exact first

theorem Tells.attempt {x : Traced Trial α} (hx : x.Tells) : x.attempt.Tells := by
  intro w
  show Told _ (x.trials w) (Exec.attempt x.run w).2.context.warnings
  rw [attempt_world]
  exact hx w

theorem Tells.ensuring {x : Traced Trial α} (hx : x.Tells) (f : World → World)
    (same : ∀ w, (f w).context = w.context) : (x.ensuring f).Tells := by
  intro w
  show Told _ (x.trials w) (f (x.run w).2).context.warnings
  rw [same]
  exact hx w

theorem Tells.ite {c : Prop} [Decidable c] {x y : Traced Trial α} (hx : x.Tells) (hy : y.Tells) :
    (if c then x else y).Tells := by
  split
  · exact hx
  · exact hy

/-! ### Composite actions -/

section Composite

variable (s : Step) {body : Traced Trial Unit} (hb : body.Tells)
include hb

theorem tells_loopRounds (bound left : Nat) : (loopRounds s body bound left).Tells := by
  induction left with
  | zero => exact tells_pure _
  | succ left ih =>
    refine (tells_mild s.mild_isAdmitted).bind fun admitted => Tells.ite ?_ ?_
    · exact (tells_mild (mild_log _ _)).bind fun _ => hb.bind fun _ => ih
    · exact (tells_mild (mild_log _ _)).bind fun _ => tells_pure _

theorem tells_retryRounds (delay : Int) (bound left : Nat) :
    (retryRounds s body delay bound left).Tells := by
  induction left with
  | zero => exact tells_mild (mild_fail _)
  | succ left ih =>
    have entered : (update enterRetry).WarnsElse := fun _ => .begun
    refine (tells_mild (mild_log _ _)).bind fun _ => (tells_lift entered).bind fun _ => ?_
    refine (hb.ensuring leaveRetry fun _ => rfl).attempt.bind fun tried => ?_
    cases tried with
    | ok _ => exact tells_pure _
    | error e =>
      refine Tells.ite ?_ (tells_mild (mild_fail e))
      exact (tells_mild (mild_log _ _)).bind fun _ =>
        (tells_mild (mild_pauseMillis delay)).bind fun _ => ih

theorem tells_runConditional (size : Nat) : (runConditional s size body).Tells := by
  unfold runConditional
  split
  · refine (tells_mild (mild_fail _)).ite ((tells_mild s.mild_isAdmitted).bind fun admitted => ?_)
    refine Tells.ite ?_ ?_
    · exact (tells_mild (mild_log _ _)).bind fun _ => hb.bind fun _ => tells_pure _
    · exact (tells_mild (mild_log _ _)).bind fun _ => tells_pure _
  · exact tells_mild (mild_fail _)

theorem tells_dispatch (g : Setting) (size : Nat) : (dispatch s g size body).Tells := by
  unfold dispatch
  cases hk : s.kind
  case conditional => exact tells_runConditional s hb size
  case loop =>
    refine (tells_mild (mild_fail _)).ite ((tells_mild (mild_lift _)).bind fun bound => ?_)
    exact (tells_loopRounds s hb bound bound).bind fun _ => tells_pure _
  case retry =>
    refine (tells_mild (mild_fail _)).ite ((tells_mild (mild_lift _)).bind fun bound => ?_)
    exact (tells_retryRounds s hb _ bound bound).bind fun _ => tells_pure _
  all_goals
    exact tells_calm (Step.calm_dispatch (by rw [hk]; rfl) g size _)

end Composite

/-! ### Executions -/

section Executions

variable (g : Setting) (s : Step) (start : Float)

theorem optionalWarning_ne (id message id' name : String) :
    optionalWarning id message ≠ unresolvedWarning id' name := by
  unfold optionalWarning unresolvedWarning
  simp only [String.append_assoc]
  exact Run.append_ne_append 0 (by decide) (by decide) (by decide) _ _

theorem warnsElse_settleFailure (n : Nat) (shot : Option String) (e : Fault) :
    (settleFailure s start n shot e).WarnsElse := by
  intro w
  rw [settleFailure_apply]
  cases s.optional
  · exact .begun
  · exact .other .begun (optionalWarning_ne s.id e.message)

theorem warnsElse_record (r : ActionResult) : (record r).WarnsElse :=
  fun _ => .begun

theorem tells_attemptOnce {work : Traced Trial Yield} (hw : work.Tells) (k budget : Nat) :
    (attemptOnce g s start work k budget).Tells := by
  refine (tells_mild (mild_log _ _)).bind fun _ => hw.attempt.bind fun tried => ?_
  cases tried with
  | ok y =>
    exact (tells_mild (mild_read _)).bind fun _ =>
      (tells_lift (warnsElse_record _)).bind fun _ => tells_pure _
  | error e =>
    exact Tells.ite ((tells_mild (mild_errorScreenshot g s.id)).bind fun _ => tells_pure _)
      ((tells_pure none).bind fun _ => tells_pure _)

theorem tells_attempts {work : Traced Trial Yield} (hw : work.Tells) (budget left : Nat) :
    (attempts g s start work budget left).Tells := by
  induction left with
  | zero =>
    refine (tells_attemptOnce g s start hw _ budget).bind fun tried => ?_
    cases tried with
    | ok r => exact tells_pure r
    | error failure => exact tells_lift (warnsElse_settleFailure s start _ _ _)
  | succ left ih =>
    refine (tells_attemptOnce g s start hw _ budget).bind fun tried => ?_
    cases tried with
    | ok r => exact tells_pure r
    | error failure =>
      exact (tells_mild (mild_log _ _)).bind fun _ =>
        (tells_mild (mild_pauseMillis _)).bind fun _ => ih

theorem tells_executeStep (size : Nat) {body : Traced Trial Unit} (hb : body.Tells) (depth : Int) :
    (executeStep resolve g s size body depth).Tells := by
  refine (tells_mild (mild_read _)).bind fun start => ?_
  refine (tells_mild (mild_fail _)).ite ((tells_mild s.mild_isAdmitted).bind fun admitted => ?_)
  refine Tells.ite ((tells_mild (mild_read _)).bind fun scope => ?_) ?_
  · refine tells_attempts g s start ?_ _ _
    exact (tells_resolve s).bind fun resolved => tells_dispatch resolved hb g size
  · exact (tells_mild (mild_log _ _)).bind fun _ => tells_lift (warnsElse_record _)

mutual

/-- However an action is executed, its warnings are told by its attempts and those inside. -/
theorem tells_execute : ∀ (a : Action) (depth : Int), (execute g a depth).Tells
  | ⟨s, none⟩, depth => by
    rw [execute]
    exact tells_executeStep g s 0 (tells_pure ()) depth
  | ⟨s, some program⟩, depth => by
    rw [execute]
    exact tells_executeStep g s program.length (tells_executeProgram program (depth + 1)) depth

theorem tells_executeProgram : ∀ (program : List Action) (depth : Int),
    (executeProgram g program depth).Tells
  | [], _ => tells_pure ()
  | a :: rest, depth => by
    rw [executeProgram]
    exact (tells_execute a depth).bind fun _ => tells_executeProgram rest depth

end

end Executions

end Traced

/-! ### Rules -/

namespace Harvest

theorem ruleWarning_ne (field message id name : String) :
    ruleWarning field message ≠ unresolvedWarning id name := by
  unfold ruleWarning unresolvedWarning
  simp only [String.append_assoc]
  exact Run.append_ne_append 0 (by decide) (by decide) (by decide) _ _

theorem warnsElse_applyRule (r : ExtractionRule) : (applyRule r).WarnsElse := by
  have asked : (Browse.queryAll r.selector).IsCalm := (mild_queryAll _).calm
  have filled (v : Value) : (setField r.field v).IsCalm := calm_onContext fun _ => ⟨rfl, rfl⟩
  refine asked.attempt.warnsElse.bind fun answer => ?_
  cases answer with
  | error e =>
    refine (mild_fail _).calm.warnsElse.ite ((mild_log _ _).calm.warnsElse.bind fun _ => ?_)
    exact (warnsElse_warn (ruleWarning_ne r.field e.message)).bind fun _ => (filled _).warnsElse
  | ok found =>
    refine (filled _).warnsElse.ite ((mild_fail _).calm.warnsElse.ite ?_)
    split
    · exact (filled _).warnsElse
    · exact (mild_log _ _).calm.warnsElse.bind fun _ => (filled _).warnsElse

theorem warnsElse_applyRules (rules : List ExtractionRule) : (applyRules rules).WarnsElse := by
  induction rules with
  | nil => exact (mild_pure _).calm.warnsElse
  | cons r rest ih => exact (warnsElse_applyRule r).bind fun _ => ih

theorem warnsElse_run (p : Playbook) (now : Moment) : (run p now).WarnsElse :=
  (warnsElse_applyRules p.rules).bind fun _ => (mild_assemble p now).calm.warnsElse

end Harvest

/-! ### Runs -/

namespace Run

theorem warnsElse_close : close.WarnsElse := by
  have closing (message id name : String) :
      "Failed to close page: " ++ message ≠ unresolvedWarning id name := by
    unfold unresolvedWarning
    simp only [String.append_assoc]
    exact append_ne_append 0 (by decide) (by decide) (by decide) _ _
  have asked : Browse.closePage.IsCalm := (mild_perform _).calm
  refine asked.attempt.warnsElse.bind fun closed => ?_
  cases closed with
  | ok _ => exact (mild_pure _).calm.warnsElse
  | error e => exact (mild_log _ _).calm.warnsElse.bind fun _ => warnsElse_warn (closing e.message)

end Run

namespace Traced

theorem tells_runActions (g : Setting) (actions : List Action) : (runActions g actions).Tells := by
  induction actions with
  | nil => exact tells_pure none
  | cons a rest ih =>
    refine (tells_execute g a 1).attempt.bind fun ended => ?_
    cases ended with
    | ok r =>
      have counted : (onContext fun c =>
          { c with actionsExecuted := c.actionsExecuted + 1 }).IsCalm :=
        calm_onContext fun _ => ⟨rfl, rfl⟩
      exact Tells.ite ((tells_calm counted).bind fun _ => ih) ((tells_pure ()).bind fun _ => ih)
    | error e =>
      refine Tells.ite ((tells_mild (Run.mild_addError _)).bind fun _ => ?_)
        (tells_mild (mild_fail e))
      exact Tells.ite ((tells_mild (mild_log _ _)).bind fun _ => ih) (tells_pure _)

theorem tells_body (g : Setting) (p : Playbook) (now : Moment) : (body g p now).Tells := by
  refine (tells_runActions g p.actions).bind fun aborted => ?_
  cases aborted with
  | some message => exact tells_pure _
  | none => exact (tells_lift (Harvest.warnsElse_run p now)).bind fun _ => tells_pure _

theorem Tells.underDeadline {x : Traced Trial Run.Ending} (hx : x.Tells) (budget : Float) :
    (underDeadline budget x).Tells := by
  intro w
  show Told _ (x.trials (Run.underLimit budget w))
    (Run.underDeadline budget x.run w).2.context.warnings
  rw [Run.underDeadline_apply]
  exact hx (Run.underLimit budget w)

theorem tells_visit (g : Setting) (p : Playbook) (now : Moment) : (visit g p now).Tells := by
  have opens : Browse.openPage.IsMild := (mild_read _).bind fun _ => mild_perform _
  refine (tells_mild opens.attempt).bind fun opened => ?_
  cases opened with
  | error e => exact (tells_mild (Run.mild_reportFault p _ e)).bind fun _ => tells_pure _
  | ok _ =>
    refine ((tells_body g p now).underDeadline _).bind fun ending => ?_
    exact (tells_mild (Run.mild_reportEnding p _ ending)).bind fun _ =>
      (tells_lift Run.warnsElse_close).bind fun _ => tells_pure _

end Traced

/-- The warnings at the end of a run are told by the attempts that it has dispatched. -/
theorem Run.told_start (o : RunOptions) (at_ : Stamp) (p : Playbook) (vars : Members Value)
    (w : World) :
    Told [] (trials o at_ p vars w) (start o at_ p vars w).2.context.warnings := by
  obtain ⟨found, w', visited⟩ := visit_outset (settingOf o at_ p) p at_.moment vars w
  obtain ⟨_, _, -, started⟩ := start_of_visit visited
  have told := Traced.tells_visit (settingOf o at_ p) p at_.moment (outset p vars w)
  rw [Traced.run_visit, visited] at told
  rw [started]
  exact told

/-- A run warns at most once of a name in an action.  Each time an attempt begins, all the names
that it lacks have been warned of, and the warnings stay; and what it adds to them, it lacks.  So
that a name is warned of in an action only when some attempt at it has lacked the name. -/
theorem Run.start_warns_of_names (o : RunOptions) (at_ : Stamp) (p : Playbook)
    (vars : Members Value) (w : World) :
    (∀ id name, (start o at_ p vars w).2.context.warnings.count (unresolvedWarning id name) ≤ 1) ∧
    (∀ t ∈ trials o at_ p vars w,
      (∀ name, t.Lacks name → unresolvedWarning t.step.id name ∈ t.warnings) ∧
      t.warnings <+: (start o at_ p vars w).2.context.warnings) ∧
    (∀ id name, Template.IsName name.toList →
      unresolvedWarning id name ∈ (start o at_ p vars w).2.context.warnings →
      ∃ t ∈ trials o at_ p vars w, t.step.id = id ∧ t.Lacks name ∧
        unresolvedWarning id name ∉ t.world.context.warnings) := by
  have told := told_start o at_ p vars w
  refine ⟨fun id name => told.count_le (by simp), fun t mem => ⟨fun name lacks => ?_, ?_⟩, ?_⟩
  · exact t.mem_warnings_iff.mpr (.inr ⟨name, lacks, rfl⟩)
  · exact told.isPrefix_of_mem mem
  · intro id name valid mem
    exact (told.of_mem valid mem).resolve_left List.not_mem_nil

/-- A loop of two rounds around an optional action whose selector names a variable that nothing
sets. -/
def asking : Playbook :=
  ⟨"p", "P", "", "1.0.0", "b", [], [],
    [⟨⟨"again", .loop, "", none, some (.int 2), none, none, none, none, false⟩,
      some [⟨⟨"ask", .click, "", some "$\x7bq\x7d", none, none, none, none, none, true⟩, none⟩]⟩],
    [], .standard, .standard⟩

/-- The action is attempted in both rounds, and the name is warned of in the first. -/
example :
    (Run.trials .standard Run.newYear asking [] (.opening .blank [])).map (fun t => t.step.id) =
      ["again", "ask", "ask"] ∧
    ((Run.start .standard Run.newYear asking [] (.opening .blank [])).2.context.warnings.filter
      (· == unresolvedWarning "ask" "q")).length = 1 := by
  decide +kernel

end Scout
