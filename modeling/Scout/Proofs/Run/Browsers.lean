import Scout.Proofs.Run.Blindness

/-!
# Runs behind a browser

The rules of a playbook are as blind to a browser as its actions, so that only the
opening of the page and the taking of pictures can tell a run behind a browser from one
without: the browser asks for a user agent, and it makes a directory for the pictures.
-/

namespace Scout

open Exec

variable {g : Setting}

/-! ## Rules -/

namespace Harvest

theorem blind_setField (name : String) (v : Value) : (setField name v).IsBlind g :=
  blind_onContext _

theorem blind_applyRule (r : ExtractionRule) : (applyRule r).IsBlind g := by
  refine (blind_queryAll r.selector).attempt.bind fun asked => ?_
  cases asked with
  | error e =>
    refine (blind_fail _).ite ((blind_log _ _).bind fun _ => ?_)
    exact (blind_onContext _).bind fun _ => blind_setField _ _
  | ok found =>
    refine (blind_setField _ _).ite ((blind_fail _).ite ?_)
    cases r.fallback with
    | null => exact blind_setField _ _
    | _ => exact (blind_log _ _).bind fun _ => blind_setField _ _

theorem blind_applyRules (rules : List ExtractionRule) : (applyRules rules).IsBlind g := by
  induction rules with
  | nil => exact blind_pure _
  | cons r rest ih => exact (blind_applyRule r).bind fun _ => ih

theorem blind_sourceUrl : sourceUrl.IsBlind g := by
  refine blind_address.bind fun url => IsBlind.ite ?_ (blind_pure _)
  refine (blind_read fun _ _ _ _ => rfl).bind fun found => ?_
  cases found with
  | ok address => exact blind_pure address
  | error e => exact blind_fail e

theorem blind_assemble (p : Playbook) (now : Moment) : (assemble p now).IsBlind g := by
  refine blind_sourceUrl.bind fun url => (blind_read fun _ _ _ _ => rfl).bind fun fields => ?_
  exact ((blind_log _ _).bind fun _ => blind_pure _).ite (blind_pure _)

theorem blind_run (p : Playbook) (now : Moment) : (run p now).IsBlind g :=
  (blind_applyRules p.rules).bind fun _ => blind_assemble p now

end Harvest

/-! ## Runs -/

namespace Run

theorem blind_runActions (g : Setting) (actions : List Action) :
    (runActions g actions).IsBlind g := by
  induction actions with
  | nil => exact blind_pure _
  | cons a rest ih =>
    refine (blind_execute g a 1).attempt.bind fun tried => ?_
    cases tried with
    | ok r => exact ((blind_onContext _).bind fun _ => ih).ite ih
    | error e =>
      refine IsBlind.ite ((blind_onContext _).bind fun _ => ?_) (blind_fail e)
      exact ((blind_log _ _).bind fun _ => ih).ite (blind_pure _)

theorem blind_body (g : Setting) (p : Playbook) (now : Moment) : (body g p now).IsBlind g := by
  refine (blind_runActions g p.actions).bind fun aborted => ?_
  cases aborted with
  | some m => exact blind_pure _
  | none => exact (Harvest.blind_run p now).bind fun _ => blind_pure _

theorem blind_underDeadline (budget : Float) {x : Exec Ending} (hx : x.IsBlind g) :
    (underDeadline budget x).IsBlind g where
  keeps w := by
    rw [underDeadline_apply]
    exact ⟨(hx.keeps (underLimit budget w)).page, (hx.keeps (underLimit budget w)).pictured⟩
  same agent w plain calls files := by
    have limited : underLimit budget (w.behind agent calls files) =
        (underLimit budget w).behind agent calls files := rfl
    rw [underDeadline_apply, underDeadline_apply, limited]
    refine (hx.same agent (underLimit budget w) plain calls files).map ?_ id
    intro calls' files' same
    rw [same]
    rfl

theorem blind_reportFault (p : Playbook) (budget : Float) (e : Fault) :
    (reportFault p budget e).IsBlind g := by
  unfold reportFault
  split
  · exact (blind_onContext _).bind fun _ => blind_log _ _
  · exact ((blind_onContext _).bind fun _ => blind_log _ _).ite (blind_onContext _)
  · exact (blind_onContext _).bind fun _ => blind_log _ _

theorem blind_reportEnding (p : Playbook) (budget : Float) (ending : Ending) :
    (reportEnding p budget ending).IsBlind g := by
  cases ending with
  | finished found => exact blind_pure found
  | aborted m => exact (blind_log _ _).bind fun _ => blind_pure _
  | failed e => exact (blind_reportFault p budget e).bind fun _ => blind_pure _
  | expired =>
    exact ((blind_onContext _).bind fun _ => blind_log _ _).bind fun _ => blind_pure _

theorem blind_close : close.IsBlind g := by
  refine (blind_perform .closePage).attempt.bind fun closed => ?_
  cases closed with
  | ok _ => exact blind_pure _
  | error e => exact (blind_log _ _).bind fun _ => blind_onContext _

/-- A page is asked for with the user agent of its browser: that shows only where a failure of
this call is aimed at its argument. -/
theorem openPage_behind {w : World} {agent : String} (direct : w.page.throughBrowser = false)
    (alike : agent = "" ∨ ∀ r ∈ w.page.failures, r.operation = "new_page" → r.target = none) :
    Browse.openPage.SameBehind g agent w := by
  intro calls files
  have plainly : Browse.openPage w = perform (.openPage none) w := by
    unfold Browse.openPage
    rw [bind_done (read_apply _ _), direct]
    rfl
  rw [plainly]
  rcases alike with rfl | unaimed
  · exact .of_eq _ (perform_behind (.openPage none) (.openPage none) rfl rfl "" calls files)
  · refine .of_eq _ (perform_behind (.openPage none)
      (.openPage (if agent != "" then some agent else none)) rfl ?_ agent calls files)
    exact (Page.nextFailure_congr (.openPage none)
      (.openPage (if agent != "" then some agent else none)) rfl unaimed).symm

theorem keeps_openPage : Browse.openPage.KeepsSetting :=
  (show (read _).KeepsSetting from keeps_refl).bind fun _ => keeps_perform _

variable {agent : String} {w : World}

theorem blind_afterOpening (g : Setting) (p : Playbook) (now : Moment) :
    ∀ opened : Except Fault Unit, (match opened with
      | .error e => do
        reportFault p g.options.budget e
        pure []
      | .ok _ => do
        let ending ← underDeadline g.options.budget (body g p now)
        let found ← reportEnding p g.options.budget ending
        close
        pure found : Exec (List Opportunity)).IsBlind g
  | .error e => (blind_reportFault p _ e).bind fun _ => blind_pure _
  | .ok _ => (blind_underDeadline _ (blind_body g p now)).bind fun ending =>
      (blind_reportEnding p _ ending).bind fun found => blind_close.bind fun _ => blind_pure found

theorem keeps_visit (g : Setting) (p : Playbook) (now : Moment) : (visit g p now).KeepsSetting :=
  keeps_openPage.attempt.bind fun opened => (blind_afterOpening g p now opened).keeps

theorem visit_behind (g : Setting) (p : Playbook) (now : Moment) (plain : w.page.IsPlain)
    (opens : Browse.openPage.SameBehind g agent w) :
    (visit g p now).SameBehind g agent w := by
  refine opens.attempt.bind (fun opened => (blind_afterOpening g p now opened).keeps)
    fun opened u h => ?_
  have kept := keeps_openPage.attempt w
  rw [h] at kept
  exact (blind_afterOpening g p now opened).same agent u (plain.of_sameSetting kept.page)

theorem blind_afterVisit (p : Playbook) (start : Float) (found : List Opportunity) :
    (do let time ← elapsed start
        onContext fun c => { c with executionTime := time }
        let c ← read World.context
        Exec.log .info (closingLine p c found.length)
        pure (report c found) : Exec RunReport).IsBlind g :=
  (blind_elapsed _).bind fun _ => (blind_onContext _).bind fun _ =>
    (blind_read (f := World.context) fun _ _ _ _ => rfl).bind fun _ =>
      (blind_log _ _).bind fun _ => blind_pure _

theorem session_behind (g : Setting) (p : Playbook) (now : Moment) (plain : w.page.IsPlain)
    (opens : Browse.openPage.SameBehind g agent
      (w.logged .info s!"Executing playbook: {p.name} ({p.id})")) :
    (session g p now).SameBehind g agent w := by
  intro calls files
  have visited := visit_behind g p now (w := w.logged .info _) plain opens
  refine (visited.bind (fun found => (blind_afterVisit (g := g) p w.clock found).keeps)
    fun found u h => ?_) calls files
  have kept := keeps_visit g p now (w.logged .info s!"Executing playbook: {p.name} ({p.id})")
  rw [h] at kept
  exact (blind_afterVisit p w.clock found).same agent u (plain.of_sameSetting kept.page)

theorem start_behind (o : RunOptions) (at_ : Stamp) (p : Playbook) (vars : Members Value)
    (plain : w.page.IsPlain)
    (opens : Browse.openPage.SameBehind (settingOf o at_ p) agent (outset p vars w))
    (calls : Array Call) (files : Files.Tree)
    (pictures : files.canMake o.screenshotDir = true ∨ ¬ (start o at_ p vars w).2.IsPictured) :
    (start o at_ p vars (w.behind agent calls files)).1 = (start o at_ p vars w).1 := by
  have behind := session_behind (settingOf o at_ p) p at_.moment
    (w := { w with context := RunContext.starting (p.vars.overlay vars), deadline := none })
    plain opens calls files
  obtain ⟨found, w', visited⟩ := visit_outset (settingOf o at_ p) p at_.moment vars w
  obtain ⟨t, log, held, -⟩ := start_of_visit visited
  rw [held] at behind
  generalize ended : session (settingOf o at_ p) p at_.moment (World.behind _ agent calls files) =
    other at behind
  cases behind with
  | same => rw [start_of_session (w := w.behind agent calls files) ended]
  | beyond fails pictured =>
    rcases pictures with makes | unpictured
    · exact absurd (makes.symm.trans fails) (by simp)
    · exact absurd pictured unpictured

end Run

/-- The same world with a browser before its page. -/
def World.throughBrowser (w : World) (agent : String) : World :=
  { w with page := w.page.behind agent }

namespace Run

/-- Where looking up an element and reading its text take no time and are set to show no failure,
a browser changes nothing in the report of a run, unless the run pictures its page and the directory
of the pictures cannot be made.  Neither does the user agent that the browser asks for, unless a
failure to open the page is aimed at it. -/
theorem start_throughBrowser_eq (o : RunOptions) (at_ : Stamp) (p : Playbook)
    (vars : Members Value) {w : World} (plain : w.page.IsPlain)
    (pictures : w.files.canMake o.screenshotDir = true ∨
      ¬ (start o at_ p vars w).2.IsPictured) :
    (start o at_ p vars (w.throughBrowser "")).1 = (start o at_ p vars w).1 ∧
    ∀ agent, (∀ r ∈ w.page.failures, r.operation = "new_page" → r.target = none) →
      (start o at_ p vars (w.throughBrowser agent)).1 = (start o at_ p vars w).1 := by
  refine ⟨?_, fun agent unaimed => ?_⟩
  · have opens : Browse.openPage.SameBehind (settingOf o at_ p) "" (outset p vars w) :=
      openPage_behind plain.direct (.inl rfl)
    exact start_behind o at_ p vars plain opens w.calls w.files pictures
  · have opens : Browse.openPage.SameBehind (settingOf o at_ p) agent (outset p vars w) :=
      openPage_behind plain.direct (.inr unaimed)
    exact start_behind o at_ p vars plain opens w.calls w.files pictures

/-- Goes on as long as a note that is not there does not say so, and pictures the page. -/
def curious : Playbook :=
  ⟨"p", "P", "", "1.0.0", "b", [], [],
    [⟨⟨"unless", .conditional, "", none, none, none, none,
        some [⟨.lacks, some ".note", none, some (.text "done")⟩], none, false⟩,
      some [⟨⟨"next", .click, "", some ".next", none, none, none, none, none, false⟩, none⟩,
        ⟨⟨"look", .screenshot, "", none, none, none, none, none, none, false⟩, none⟩]⟩],
    [⟨"title", ".next", none, none, false, .null⟩], .standard, .standard⟩

def plainPage : Page :=
  { Page.blank with elements := [(".next", [⟨"Next", "", [("href", "/2")]⟩])] }

def firstOfMay : Stamp :=
  ⟨⟨2024, 5, 1, 0, 0, 0, 0, some 0⟩, 1714521600000⟩

theorem isPlain_plainPage : plainPage.IsPlain :=
  { quickLookup := by decide +kernel
    quickText := by decide +kernel
    soundLookup := List.forall_mem_nil _
    soundText := List.forall_mem_nil _
    direct := rfl }

/-- The directory of the pictures can be made. -/
theorem start_throughBrowser_curious :
    let w : World := .opening plainPage []
    w.page.IsPlain ∧ w.files.canMake RunOptions.standard.screenshotDir = true ∧
    (start .standard firstOfMay curious [] (w.throughBrowser "")).1 =
      (start .standard firstOfMay curious [] w).1 ∧
    (start .standard firstOfMay curious [] (w.throughBrowser "Scout")).1 =
      (start .standard firstOfMay curious [] w).1 := by
  intro w
  have makes : w.files.canMake RunOptions.standard.screenshotDir = true := by decide +kernel
  obtain ⟨unnamed, named⟩ :=
    start_throughBrowser_eq .standard firstOfMay curious [] isPlain_plainPage (.inl makes)
  exact ⟨isPlain_plainPage, makes, unnamed, named "Scout" (List.forall_mem_nil _)⟩

/-- A file stands where the directory of the pictures would. -/
def crowded : World :=
  { World.opening plainPage [] with
    files := Files.Tree.empty.put ["srv", "home", "screenshots"] (.file (.text "")) }

/-- Not every run is the same behind a browser: one fails for the directory of its pictures. -/
theorem start_throughBrowser_ne :
    ¬ ∀ (o : RunOptions) (at_ : Stamp) (p : Playbook) (vars : Members Value) (w : World),
      w.page.IsPlain →
      (start o at_ p vars (w.throughBrowser "")).1 = (start o at_ p vars w).1 := by
  intro claim
  have same := congrArg RunReport.success
    (claim .standard firstOfMay curious [] crowded isPlain_plainPage)
  have fails : (start .standard firstOfMay curious [] (crowded.throughBrowser "")).1.success =
      false := by
    decide +kernel
  have succeeds : (start .standard firstOfMay curious [] crowded).1.success = true := by
    decide +kernel
  exact absurd (fails.symm.trans (same.trans succeeds)) (by decide)

end Run

end Scout
