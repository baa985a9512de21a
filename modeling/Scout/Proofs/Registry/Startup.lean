import Scout.Proofs.Registry.Chronology
import Scout.Proofs.Registry.Labels

/-!
# Loading whatever is there

Loading passes over the files that cannot be read, one at a time.  What it does with those
that can be read is not guarded: executions are put in order only when all of their moments
name a zone or none does, and are counted only when the averages are doubles.
-/

namespace Scout

open Files (Location Tree)
open Library (Attests Restores)

/-- Moments can be compared: either none names its zone, or all do. -/
def Comparable (es : List HistoryEntry) : Prop :=
  (∀ e ∈ es, e.executedAt.isNaive = true) ∨ ∀ e ∈ es, e.executedAt.isNaive = false

namespace Library

variable {es : List HistoryEntry}

theorem inTimeOrder_of_comparable (h : Comparable es) :
    ∃ history, inTimeOrder es = .ok history := by
  unfold inTimeOrder
  refine ⟨_, if_pos ?_⟩
  simpa [Comparable] using h

theorem inTimeOrder_of_not_comparable (h : ¬ Comparable es) :
    inTimeOrder es = .error .incomparable := by
  unfold inTimeOrder
  refine if_neg ?_
  simpa [Comparable] using h

end Library

namespace Registry

variable {d : Desk} {t : Tree} {id : String} {p : Playbook} {es : List HistoryEntry}

/-! ## Loading from open directories -/

/-- Loading makes the directories and goes on as if they had been there. -/
theorem load_of_made (isOpen : d.registry.library.IsOpen t)
    (made : finish d.registry.library.ensureDirectories d.files = (.ok (), t)) :
    finish load d = finish load ⟨d.registry, t⟩ := by
  have ensured := isOpen.finish_ensureDirectories
  rw [finish_load, finish_load, made]
  dsimp only
  rw [ensured]

/-- From open directories, loading fails at the order of the executions or at counting them, or not
at all. -/
theorem finish_load_open (isOpen : d.registry.library.IsOpen d.files) :
    finish load d = match Library.inTimeOrder
        (Library.executions d.files d.registry.library.history) with
      | .error e => (.error (.library e), ⟨(Library.loaded d.files
          d.registry.library.definitions).foldl adopt d.registry.emptied, d.files⟩)
      | .ok history =>
        finish (countAll (d.registry.holding
            (Library.loaded d.files d.registry.library.definitions) history).stats.names)
          ⟨d.registry.holding (Library.loaded d.files d.registry.library.definitions) history,
            d.files⟩ := by
  obtain ⟨D, definitions⟩ := isOpen.definitions
  obtain ⟨H, history⟩ := isOpen.history
  have playbooks := Library.loadPlaybooks_eq definitions
  have executions := Library.loadHistory_eq history
  rw [finish_load, isOpen.finish_ensureDirectories]
  cases ordered : Library.inTimeOrder (Library.executions d.files d.registry.library.history) <;>
    simp only [playbooks, executions, ordered]

/-- Counting all that is held succeeds when the averages of every playbook that is held are
doubles. -/
theorem countAll_holding_iff (r : Registry) (playbooks : List Playbook)
    (history : List HistoryEntry) (t : Tree) :
    (finish (countAll (r.holding playbooks history).stats.names)
        ⟨r.holding playbooks history, t⟩).1 = .ok () ↔
      ∀ id, (r.holding playbooks history).playbooks.contains id = true →
        HaveAverage (entriesOf history id) := by
  have tended := tended_holding r playbooks history
  rw [countAll_ok_iff]
  refine forall_congr' fun id => ?_
  rw [← Members.contains_eq_true_iff, tended.paired id]
  refine imp_congr_right fun known => isAveraged_iff ?_
  rw [tended.paired id, known]

theorem haveAverage_iff_of_perm {es es' : List HistoryEntry} (same : es.Perm es') (id : String) :
    HaveAverage (entriesOf es id) ↔ HaveAverage (entriesOf es' id) :=
  ⟨fun h => h.of_perm (perm_entriesOf same.symm id), fun h => h.of_perm (perm_entriesOf same id)⟩

/-- What loading ends with, and what it leaves as the history, for the executions that it reads. -/
theorem load_history (isOpen : d.registry.library.IsOpen d.files)
    (read : es = Library.executions d.files d.registry.library.history) :
    ∃ outcome r, finish load d = (outcome, ⟨r, d.files⟩) ∧
      (Comparable es → Chronological r.history ∧ r.history.Perm es) ∧
      (outcome = .ok () ↔ Comparable es ∧
        ∀ id, r.playbooks.contains id = true → HaveAverage (entriesOf es id)) ∧
      (¬ Comparable es → outcome = .error (.library .incomparable)) ∧
      (Comparable es → outcome = .ok () ∨ outcome = .error .averageTooLarge) := by
  rw [finish_load_open isOpen, ← read]
  by_cases comparable : Comparable es
  · obtain ⟨history, ordered⟩ := Library.inTimeOrder_of_comparable comparable
    obtain ⟨chronological, same⟩ := chronological_inTimeOrder ordered
    rw [ordered]
    have counts := countAll_holding_iff d.registry
      (Library.loaded d.files d.registry.library.definitions) history d.files
    obtain ⟨outcome, r, counted, ends, held⟩ := finish_countAll_holds
      (d.registry.holding (Library.loaded d.files d.registry.library.definitions)
        history).stats.names
      ⟨d.registry.holding (Library.loaded d.files d.registry.library.definitions) history, d.files⟩
    rw [counted] at counts
    have kept : r.history = history := held.history
    refine ⟨outcome, r, counted, fun _ => kept ▸ ⟨chronological, same⟩, ?_,
      fun h => absurd comparable h, fun _ => ends.imp_right And.left⟩
    rw [counts, held.playbooks]
    simp only [haveAverage_iff_of_perm same, comparable, true_and]
  · rw [Library.inTimeOrder_of_not_comparable comparable]
    exact ⟨_, _, rfl, fun h => absurd h comparable, by simp [comparable], fun _ => rfl,
      fun h => absurd h comparable⟩

/-- Once its directories are there, loading registers under an id what the last file says that
carries it, whatever the other files hold, and changes no file.  If the moments of the
executions that can be read are comparable, these are the history, in the order of their
moments.  Loading succeeds exactly when they are and the average of what the executions of each
registered playbook found is a double. -/
theorem startup_outcome (normal : d.registry.library.IsNormal) (named : d.files.IsNamed)
    (made : finish d.registry.library.ensureDirectories d.files = (.ok (), t))
    (read : es = Library.executions t d.registry.library.history) :
    d.files.SameFiles t ∧ (∀ e, e ∈ es ↔ ∃ name, Attests t d.registry.library.history name e) ∧
    ∃ outcome r, finish load d = (outcome, ⟨r, t⟩) ∧
      (∀ id p, r.playbooks.find? id = some p ↔
        Restores t d.registry.library.definitions (fun _ => True) id p) ∧
      (Comparable es → Chronological r.history ∧ r.history.Perm es) ∧
      (outcome = .ok () ↔ Comparable es ∧
        ∀ id, r.playbooks.contains id = true → HaveAverage (entriesOf es id)) ∧
      (¬ Comparable es → outcome = .error (.library .incomparable)) ∧
      (Comparable es → outcome = .ok () ∨ outcome = .error .averageTooLarge) := by
  have grown := Library.grows_ensureDirectories normal made
  have isOpen := Library.isOpen_of_ensureDirectories normal made
  have named := grown.isNamed named
  obtain ⟨H, opens⟩ := isOpen.history
  obtain ⟨outcome, r, load, ends⟩ := load_history (d := ⟨d.registry, t⟩) isOpen read
  refine ⟨grown.sameFiles, fun e => read ▸ Library.mem_executions opens named, outcome, r,
    (load_of_made isOpen made).trans load, fun id p => ?_, ends⟩
  have found : (finish Registry.load ⟨d.registry, t⟩).2.registry.playbooks.find? id = some p ↔
      Restores t d.registry.library.definitions (fun _ => True) id p :=
    find?_load (d := ⟨d.registry, t⟩) isOpen named
  rwa [load] at found

/-! ## Mornings with executions -/

/-- The document of an execution of the playbook that waits. -/
def executionText (id moment : String) : String :=
  "\x7b\"id\": \"" ++ id ++ "\", \"playbookId\": \"a\", \"executedAt\": \"" ++ moment ++
    "\", \"success\": true\x7d"

/-- A registry that was not loaded yet, over a home that has some files of executions. -/
def earlyDay (files : List (String × String)) : Desk :=
  ⟨fresh ⟨"definitions", "templates", "history"⟩ .standard 8,
    (homeOf (files.map fun m => (["history", m.1], m.2))).put ["srv", "home", "history"]
      .directory⟩

/-- The files of that home once all directories of the library are there. -/
def earlyFiles (files : List (String × String)) : Tree :=
  (finish (earlyDay files).registry.library.ensureDirectories (earlyDay files).files).2

theorem isNormal_earlyDay (files : List (String × String)) :
    (earlyDay files).registry.library.IsNormal := by
  change (⟨"definitions", "templates", "history"⟩ : Library).IsNormal
  exact ⟨by decide +kernel, by decide +kernel, by decide +kernel⟩

theorem made_earlyDay (files : List (String × String))
    (h : (finish (earlyDay files).registry.library.ensureDirectories
      (earlyDay files).files).1.isOk = true) :
    finish (earlyDay files).registry.library.ensureDirectories (earlyDay files).files =
      (.ok (), earlyFiles files) := by
  unfold earlyFiles
  rcases hf : finish (earlyDay files).registry.library.ensureDirectories
      (earlyDay files).files with ⟨f | a, t⟩
  · rw [hf] at h
    cases h
  · rfl

def zonedMorning : List (String × String) :=
  [("a.json", executionText "g" "2024-03-01T10:20:30Z")]

theorem startup_outcome_zoned :
    ∃ r, finish (earlyDay zonedMorning).registry.library.ensureDirectories
        (earlyDay zonedMorning).files = (.ok (), earlyFiles zonedMorning) ∧
      finish load (earlyDay zonedMorning) = (.ok (), ⟨r, earlyFiles zonedMorning⟩) ∧
      r.history.Perm (Library.executions (earlyFiles zonedMorning) "history") ∧
      r.history.length = 1 := by
  have made := made_earlyDay zonedMorning (by decide +kernel)
  obtain ⟨-, -, outcome, r, load, -, history, succeeds, -⟩ :=
    startup_outcome (isNormal_earlyDay zonedMorning) (isNamed_of_all (by decide +kernel)) made rfl
  have ok : (finish Registry.load (earlyDay zonedMorning)).1.isOk = true := by decide +kernel
  have kept : (finish Registry.load (earlyDay zonedMorning)).2.registry.history.length = 1 := by
    decide +kernel
  rw [load] at ok kept
  cases outcome with
  | error f => cases ok
  | ok a => exact ⟨r, made, load, (history (succeeds.1 rfl).1).2, kept⟩

def mixedMorning : List (String × String) :=
  [("a.json", executionText "g" "2023-03-01T10:20:30"),
    ("b.json", executionText "h" "2024-03-01T10:20:30Z")]

theorem mem_executions_mixedMorning (name : String) (isNaive : Bool)
    (isDocument : Tree.isDocumentName name = true) (isFileName : Files.IsFileName name)
    (reads : (Library.loadExecution (earlyFiles mixedMorning)
      (Files.join "history" name)).toOption.map (fun e => e.executedAt.isNaive) = some isNaive) :
    ∃ e ∈ Library.executions (earlyFiles mixedMorning) "history",
      e.executedAt.isNaive = isNaive := by
  have made := made_earlyDay mixedMorning (by decide +kernel)
  have isOpen := Library.isOpen_of_ensureDirectories (isNormal_earlyDay mixedMorning) made
  have named : (earlyFiles mixedMorning).IsNamed := isNamed_of_all (by decide +kernel)
  obtain ⟨e, read, naive⟩ := Option.map_eq_some_iff.1 reads
  obtain ⟨H, opens⟩ := isOpen.history
  exact ⟨e, (Library.mem_executions opens named).2
    ⟨name, isDocument, isFileName, Library.toOption_eq_some.1 read⟩, naive⟩

/-- Not every directory is loaded: a moment with a zone and one without have no order. -/
theorem mixed_zones_fail :
    ¬ ∀ d t, d.registry.library.IsNormal → d.files.IsNamed →
      finish d.registry.library.ensureDirectories d.files = (.ok (), t) →
      (finish load d).1 = .ok () := by
  intro claim
  have made := made_earlyDay mixedMorning (by decide +kernel)
  have isOpen := Library.isOpen_of_ensureDirectories (isNormal_earlyDay mixedMorning) made
  have succeeds := claim _ _ (isNormal_earlyDay mixedMorning)
    (isNamed_of_all (by decide +kernel)) made
  obtain ⟨outcome, r, load, -, ends, -⟩ :=
    load_history (d := ⟨(earlyDay mixedMorning).registry, earlyFiles mixedMorning⟩) isOpen rfl
  rw [load_of_made isOpen made, load] at succeeds
  obtain ⟨e, he, naive⟩ := mem_executions_mixedMorning "a.json" true
    (by decide) ⟨⟨by decide, by decide, by decide⟩, by decide⟩ (by decide +kernel)
  obtain ⟨e', he', aware⟩ := mem_executions_mixedMorning "b.json" false
    (by decide) ⟨⟨by decide, by decide, by decide⟩, by decide⟩ (by decide +kernel)
  rcases (ends.1 succeeds).1 with all | all
  · cases aware.symm.trans (all e' he')
  · cases naive.symm.trans (all e he)

end Registry

end Scout
