import Scout.Proofs.Registry.Chronology
import Scout.Proofs.Registry.Exchange
import Scout.Proofs.Registry.Faults
import Scout.Proofs.Registry.Labels

/-!
# Runs that are recorded

A run of a registered playbook leaves one execution in memory and one file, whatever
happens on the page.  The execution is kept before it is counted, so it stays when the
average of what was found is beyond the doubles; the report is then lost.
-/

namespace Scout

open Files (Location Tree)
open Library (fileName stored)

/-- A file stands where nothing stood, and everything else is as it was. -/
structure Files.Tree.Gains (t t' : Tree) (l : Location) (x : Files.Entry) : Prop where
  vacant : t.at? l = none
  entry : t'.at? l = some x
  others : ∀ k, k ≠ l → t'.at? k = t.at? k

theorem Files.Tree.gains_put {t : Tree} {l : Location} (vacant : t.at? l = none)
    (x : Files.Entry) : t.Gains (t.put l x) l x where
  vacant := vacant
  entry := t.at?_put_self x (Tree.ne_nil_of_free vacant)
  others := fun _ ne => t.at?_put_of_ne x ne

/-- An execution tells of a run: whose it was, when it began, how it ended, and what the caller
gave, which need not be what the variables were in the end. -/
structure HistoryEntry.Tells (e : HistoryEntry) (id : String) (v : Registry.Visit) (r : RunReport) :
    Prop where
  historyId : e.id = v.historyId
  playbookId : e.playbookId = id
  executedAt : e.executedAt = v.stamp.moment
  success : e.success = r.success
  found : e.opportunitiesFound = r.opportunities.length
  executionTime : e.executionTime = r.executionTime
  errors : e.errors = r.errors
  warnings : e.warnings = r.warnings
  vars : e.vars = v.vars

namespace Registry

variable {d d₀ : Desk} {r : Registry} {e : HistoryEntry} {id : String} {p : Playbook} {v : Visit}
variable {H : Location}

theorem tells_entry (v : Visit) (id : String) (report : RunReport) :
    (v.entry id report).Tells id v report :=
  ⟨rfl, rfl, rfl, rfl, rfl, rfl, rfl, rfl, rfl⟩

/-! ## The run of a playbook -/

/-- The run of a playbook on a visit, with the options of the registry. -/
def runOf (r : Registry) (p : Playbook) (v : Visit) : RunReport × World :=
  Run.start (r.optionsOf v) v.stamp p v.vars v.world

/-- Executing a playbook runs it and then keeps the execution. -/
theorem finish_execute_run (id : String) (v : Visit) (d : Desk) :
    finish (execute id v) d = match d.registry.playbooks.find? id with
      | none => (.error (.unknown id), d)
      | some p =>
        ((finish (record (v.entry p.id (d.registry.runOf p v).1)) d).1.map fun _ =>
            d.registry.runOf p v,
          (finish (record (v.entry p.id (d.registry.runOf p v).1)) d).2) := by
  rw [execute, finish_bind]
  cases hp : d.registry.playbooks.find? id with
  | none => simp [require, get?, hp, finish_bind]
  | some p =>
    simp only [require, get?, hp, finish_bind, finish_registry, finish_pure, runOf, optionsOf]
    rcases finish (record _) d with ⟨f | a, d'⟩ <;> rfl

/-! ## Keeping an execution -/

/-- The history has room for a file: its name can be used, and nothing stands there yet. -/
structure HasRoom (d : Desk) (name : String) : Prop where
  noSlash : '/' ∉ name.toList
  fits : Tree.FitsIn d.registry.library.history (fileName name)
  vacant : ∀ H, d.files.locate d.registry.library.history = .ok H →
    d.files.at? (H ++ [fileName name]) = none

/-- An execution of a playbook with statistics is counted exactly when the average over all of them
is a double. -/
theorem isCountable_keep_iff (known : r.stats.contains e.playbookId = true) :
    (r.keep e).isCountable e.playbookId = true ↔
      HaveAverage (r.historyOf e.playbookId ++ [e]) := by
  have averaged := isAveraged_iff (r := r.keep e) known
  rw [IsAveraged, historyOf_keep, if_pos rfl] at averaged
  rw [← averaged]
  exact ⟨fun countable _ => countable, fun countable => countable (by simp)⟩

theorem Reached.registered (loaded : Loaded d₀) (normal : d₀.registry.library.IsNormal)
    (reached : Reached d₀ d) (found : d.registry.playbooks.find? id = some p) :
    p.id = id ∧ d.registry.stats.contains id = true := by
  obtain ⟨order, -, -⟩ := reached.inOrder (loaded.inOrder normal)
  refine ⟨(order.isKeyed _ (Members.mem_of_find? found)).symm, ?_⟩
  rw [(reached.tended loaded.tended).paired id, Members.contains, found]
  rfl

/-- Running a playbook that is not registered does nothing.  Running one that is registered
leaves its execution at the end of the history and as one more file, and nothing else: neither
playbooks nor other files change.  It gives the report of the run exactly when the average of
what the executions of the playbook found is a double. -/
theorem execute_records (loaded : Loaded d₀) (normal : d₀.registry.library.IsNormal)
    (reached : Reached d₀ d) (id : String) (v : Visit) :
    (d.registry.playbooks.find? id = none →
      finish (execute id v) d = (.error (.unknown id), d)) ∧
    ∀ p, d.registry.playbooks.find? id = some p → HasRoom d v.historyId →
      ∃ e outcome d', finish (execute id v) d = (outcome, d') ∧
        e.Tells id v (d.registry.runOf p v).1 ∧
        (HaveAverage (d.registry.historyOf id ++ [e]) → outcome = .ok (d.registry.runOf p v)) ∧
        (¬ HaveAverage (d.registry.historyOf id ++ [e]) → outcome = .error .averageTooLarge) ∧
        d'.registry.history = d.registry.history ++ [e] ∧
        d'.registry.playbooks = d.registry.playbooks ∧
        (∃ H, d.files.Opens d.registry.library.history H ∧
          d.files.Gains d'.files (H ++ [fileName e.id]) (stored e.encode)) ∧
        (e.IsStorable → Library.loadExecution d'.files
          (Library.documentPath d.registry.library.history e.id) = .ok e) := by
  refine ⟨fun unknown => by rw [finish_execute_run, unknown], fun p found room => ?_⟩
  obtain ⟨rfl, known⟩ := reached.registered loaded normal found
  obtain ⟨H, opens⟩ := (reached.inOrder (loaded.inOrder normal)).1.isOpen.history
  have ran := finish_execute_run p.id v d
  rw [found] at ran
  dsimp only at ran
  -- of the execution it matters only what it tells of the run
  have tells := tells_entry v p.id (d.registry.runOf p v).1
  generalize v.entry p.id (d.registry.runOf p v).1 = e at ran tells
  rw [← tells.historyId] at room
  have vacant := room.vacant H opens.place
  have countable := isCountable_keep_iff (r := d.registry) (e := e) (by rwa [tells.playbookId])
  rw [finish_record_saved opens room.noSlash room.fits vacant] at ran
  rw [tells.playbookId] at ran countable
  refine ⟨e, _, _, ran, tells, fun averaged => ?_, fun unaveraged => ?_, history_enter _ e,
    playbooks_enter _ e, ⟨H, opens, Tree.gains_put vacant _⟩, fun storable => ?_⟩
  · rw [if_pos (countable.2 averaged)]
    rfl
  · rw [if_neg (mt countable.1 unaveraged)]
    rfl
  · have saved : finish (d.registry.library.saveExecution e) d.files = _ :=
      Library.finish_save opens room.noSlash room.fits (by simp [vacant])
    exact loadExecution_of_saving storable saved

theorem HasRoom.of_place {name : String} (noSlash : '/' ∉ name.toList)
    (fits : Tree.FitsIn d.registry.library.history (fileName name))
    (place : d.files.locate d.registry.library.history = .ok H)
    (vacant : d.files.at? (H ++ [fileName name]) = none) : HasRoom d name := by
  refine ⟨noSlash, fits, fun H' place' => ?_⟩
  cases place.symm.trans place'
  exact vacant

theorem execute_records_waiting :
    ∃ p e d', (firstDay.afterAll [.create waiting]).registry.playbooks.find? "a" = some p ∧
      HasRoom (firstDay.afterAll [.create waiting]) "h" ∧
      finish (execute "a" morningVisit) (firstDay.afterAll [.create waiting]) =
        (.ok ((firstDay.afterAll [.create waiting]).registry.runOf p morningVisit), d') ∧
      e.Tells "a" morningVisit
        ((firstDay.afterAll [.create waiting]).registry.runOf p morningVisit).1 ∧
      d'.registry.history = (firstDay.afterAll [.create waiting]).registry.history ++ [e] := by
  have room : HasRoom (firstDay.afterAll [.create waiting]) "h" :=
    .of_place (H := ["srv", "home", "history"]) (by decide)
      ⟨by decide +kernel, by decide +kernel, by decide +kernel⟩ (by decide +kernel)
      (by decide +kernel)
  obtain ⟨p, found⟩ := Option.isSome_iff_exists.1
    (show ((firstDay.afterAll [.create waiting]).registry.playbooks.find? "a").isSome = true by
      decide +kernel)
  obtain ⟨e, outcome, d', ran, tells, averaged, unaveraged, history, -⟩ :=
    (execute_records loaded_firstDay isNormal_firstDay (Reached.afterAll firstDay [.create waiting])
      "a" morningVisit).2 p found room
  have succeeds : outcome.isOk = true := by
    have ok : (finish (execute "a" morningVisit)
        (firstDay.afterAll [.create waiting])).1.isOk = true := by
      decide +kernel
    rwa [ran] at ok
  have average :
      HaveAverage ((firstDay.afterAll [.create waiting]).registry.historyOf "a" ++ [e]) := by
    by_contra none
    rw [unaveraged none] at succeeds
    cases succeeds
  rw [averaged average] at ran
  exact ⟨p, e, d', found, room, ran, tells, history⟩

/-- Not every run of a registered playbook gives its report: an execution that was recorded before
can make the average of what was found too large. -/
theorem overflow_loses_report :
    ¬ ∀ d₀ d, Loaded d₀ → d₀.registry.library.IsNormal → Reached d₀ d →
      ∀ id p v, d.registry.playbooks.find? id = some p → HasRoom d v.historyId →
      (finish (execute id v) d).1 = .ok (d.registry.runOf p v) := by
  intro claim
  have room : HasRoom (firstDay.afterAll flood) "g" :=
    .of_place (H := ["srv", "home", "history"]) (by decide)
      ⟨by decide +kernel, by decide +kernel, by decide +kernel⟩ (by decide +kernel)
      (by decide +kernel)
  obtain ⟨p, found⟩ := Option.isSome_iff_exists.1
    (show ((firstDay.afterAll flood).registry.playbooks.find? "a").isSome = true by decide +kernel)
  have succeeds := claim firstDay (firstDay.afterAll flood) loaded_firstDay isNormal_firstDay
    (Reached.afterAll firstDay flood) "a" p { morningVisit with historyId := "g" } found room
  have fails : (finish (execute "a" { morningVisit with historyId := "g" })
      (firstDay.afterAll flood)).1.isOk = false := by
    decide +kernel
  rw [succeeds] at fails
  cases fails

end Registry

end Scout
