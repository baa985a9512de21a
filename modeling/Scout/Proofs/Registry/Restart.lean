import Scout.Proofs.Registry.Mirror

/-!
# Restarting a registry

A registry that is loaded anew from the files of another one has its playbooks
and its executions, whatever requests came in between.
-/

namespace Scout.Registry

open Files (Location Tree)
open Library (fileName stored shelfOf)

variable {D H : Location} {d : Desk} {q : Request} {r r' : Registry}

/-! ## Runs of requests -/

theorem library_after (q : Request) (d : Desk) :
    (q.after d).registry.library = d.registry.library := by
  have effect := q.effect d
  generalize q.after d = d' at effect
  cases effect with
  | refused | unsaved | undeleted | unrecorded | replaced | deleted => rfl
  | created => exact library_adopt _ _
  | recorded => exact library_enter _ _

theorem history_after (q : Request) (d : Desk) :
    (q.after d).registry.history = d.registry.history ∨
      ∃ e, q.kept? d = some e ∧ (q.after d).registry.history = d.registry.history ++ [e] := by
  have effect := q.effect d
  generalize q.after d = d' at effect
  cases effect with
  | refused | unsaved | undeleted | unrecorded | replaced | deleted => exact .inl rfl
  | created => exact .inl (history_adopt _ _)
  | recorded asked => exact .inr ⟨_, asked, history_enter _ _⟩

/-- The id of an execution is that of a request or of an execution from before. -/
theorem historyId_after {id : String}
    (h : id ∈ (q.after d).registry.history.map HistoryEntry.id) :
    id ∈ d.registry.history.map HistoryEntry.id ∨ q.historyId? = some id := by
  rcases history_after q d with same | ⟨e, asked, more⟩
  · rw [same] at h
    exact .inl h
  · rw [more, List.map_append, List.mem_append] at h
    rcases h with h | h
    · exact .inl h
    · obtain rfl : id = e.id := by simpa using h
      exact .inr (historyId?_of_kept? asked)

theorem Mirrors.afterAll {qs : List Request} (h : Mirrors D H d)
    (sound : ∀ q ∈ qs, q.IsSound d.registry.library)
    (distinct : (qs.filterMap Request.historyId?).Nodup)
    (fresh : ∀ id ∈ d.registry.history.map HistoryEntry.id,
      id ∉ qs.filterMap Request.historyId?) :
    Mirrors D H (d.afterAll qs) := by
  -- the ids to come differ from those in the history and from one another
  induction qs generalizing d with
  | nil => exact h
  | cons q rest ih =>
    obtain ⟨hq, hrest⟩ := List.forall_mem_cons.1 sound
    have isNew (id : String) (hid : q.historyId? = some id) :
        id ∉ d.registry.history.map HistoryEntry.id :=
      fun hmem => fresh id hmem (List.mem_filterMap.2 ⟨q, List.mem_cons_self, hid⟩)
    have others (id : String) (hid : q.historyId? = some id) :
        id ∉ rest.filterMap Request.historyId? := by
      rw [List.filterMap_cons_some hid] at distinct
      exact (List.nodup_cons.1 distinct).1
    refine ih (h.after hq isNew) ?_ ?_ ?_
    · rwa [library_after]
    · exact distinct.sublist (List.Sublist.filterMap _ (List.sublist_cons_self q rest))
    · intro id hid hmem
      rcases historyId_after hid with hold | hnew
      · exact fresh id hold (List.Sublist.subset
          (List.Sublist.filterMap _ (List.sublist_cons_self q rest)) hmem)
      · exact others id hnew hmem

/-! ## Loading -/

/-- What loading can end with: only an average beyond the doubles makes it fail. -/
def Counted (r : Registry) (outcome : Except Fault Unit) : Prop :=
  outcome = .ok () ∨ outcome = .error .averageTooLarge ∧ ∃ id, r.isCountable id = false

theorem isCountable_recount (r : Registry) (id : String) :
    (r.recount id).isCountable id = r.isCountable id := by
  rw [isCountable, isCountable, find?_stats_recount_self, historyOf_recount]
  cases r.stats.find? id <;> rfl

theorem finish_countAll_holds (ids : List String) (d : Desk) :
    ∃ outcome r, finish (countAll ids) d = (outcome, { d with registry := r }) ∧
      Counted r outcome ∧ d.registry.HoldsAs r := by
  induction ids generalizing d with
  | nil => exact ⟨_, _, rfl, .inl rfl, ⟨rfl, rfl, rfl⟩⟩
  | cons id rest ih =>
    rw [countAll, finish_bind, finish_registry]
    dsimp only
    cases he : (d.registry.historyOf id).isEmpty
    · simp only [Bool.not_false, if_true, finish_bind, finish_count]
      cases hc : d.registry.isCountable id
      · exact ⟨_, _, rfl, .inr ⟨rfl, id, (isCountable_recount _ id).trans hc⟩, ⟨rfl, rfl, rfl⟩⟩
      · obtain ⟨outcome, r, hfinish, houtcome, hr⟩ :=
          ih { d with registry := d.registry.recount id }
        exact ⟨outcome, r, hfinish, houtcome, ⟨hr.library, hr.playbooks, hr.history⟩⟩
    · simpa [finish_bind] using ih d

theorem finish_ensureDirectory {t : Tree} {dir : String} {l : Location} (h : t.Opens dir l) :
    finish (Library.ensureDirectory dir) t = (.ok (), t) := by
  rw [Library.ensureDirectory, finish_bind, finish_get]
  simp [finish_bind, h.isDirectory_eq]

theorem finish_ensureDirectories {l : Library} {t : Tree} {T : Location}
    (definitions : t.Opens l.definitions D) (templates : t.Opens l.templates T)
    (history : t.Opens l.history H) : finish l.ensureDirectories t = (.ok (), t) := by
  rw [Library.ensureDirectories, finish_bind_ok (finish_ensureDirectory definitions),
    finish_bind_ok (finish_ensureDirectory templates)]
  exact finish_ensureDirectory history

theorem finish_load_stands {d : Desk} (stands : StandsAt d.registry.library d.files D H)
    {playbooks : List Playbook} {history : List HistoryEntry}
    (definitions : Library.loadPlaybooks d.files d.registry.library.definitions = .ok playbooks)
    (executions : d.registry.library.loadHistory d.files = .ok history) :
    ∃ outcome r, finish load d = (outcome, ⟨r, d.files⟩) ∧
      Counted r outcome ∧
      (d.registry.holding playbooks history).HoldsAs r := by
  obtain ⟨T, templates⟩ := stands.templates
  simp only [finish_load, finish_ensureDirectories stands.definitions templates stands.history,
    definitions, executions]
  exact finish_countAll_holds _ ⟨d.registry.holding playbooks history, d.files⟩

theorem playbooks_foldl_adopt (playbooks : List Playbook) (r : Registry)
    (h : (r.playbooks.names ++ playbooks.map Playbook.id).Nodup) :
    (playbooks.foldl adopt r).playbooks = r.playbooks ++ playbooks.map fun p => (p.id, p) := by
  induction playbooks generalizing r with
  | nil => simp
  | cons p rest ih =>
    have isNew : p.id ∉ r.playbooks.names := by
      intro hmem
      rw [List.nodup_append] at h
      exact h.2.2 p.id hmem p.id (by simp) rfl
    have hput : (r.adopt p).playbooks = r.playbooks ++ [(p.id, p)] := by
      rw [playbooks_adopt, Members.put_of_not_mem p isNew]
    rw [List.foldl_cons, ih (r.adopt p), hput]
    · simp
    · rw [hput]
      simpa [Members.names] using h

/-- Loading the executions of a mirrored history gives them in the order of time. -/
theorem Mirrors.loadHistory (h : Mirrors D H d) :
    ∃ history, d.registry.library.loadHistory d.files = .ok history ∧
      history.Perm d.registry.history := by
  have hread (e : HistoryEntry) (he : e ∈ d.registry.history) :
      Library.loadExecution d.files (Library.documentPath d.registry.library.history e.id) =
        .ok e :=
    Library.read_shelf h.history h.ids he (h.execution e he).2.2
      (HistoryEntry.keeps (h.execution e he).1)
  obtain ⟨loaded, hload, hperm⟩ := Library.loadAll_shelf h.library.history h.history hread
  have haware : loaded.all (fun e => !e.executedAt.isNaive) = true := by
    rw [List.all_eq_true]
    intro e he
    rw [(h.execution e (hperm.mem_iff.1 he)).2.1]
    rfl
  refine ⟨loaded.mergeSort fun a b => a.executedAt.epochMicros ≤ b.executedAt.epochMicros, ?_, ?_⟩
  · rw [Library.loadHistory, hload]
    simp [bind, Except.bind, Library.inTimeOrder, haware]
  · exact (List.mergeSort_perm _ _).trans hperm

theorem Mirrors.playbooks_eq (h : Mirrors D H d) :
    (d.registry.playbooks.values.map fun p => (p.id, p)) = d.registry.playbooks := by
  rw [Members.values, List.map_map]
  refine (List.map_congr_left fun m hm => ?_).trans (List.map_id _)
  exact Prod.ext (h.playbook m hm).1.symm rfl

theorem Mirrors.loadPlaybooks (h : Mirrors D H d) :
    ∃ playbooks, Library.loadPlaybooks d.files d.registry.library.definitions = .ok playbooks ∧
      (playbooks.map fun p => (p.id, p)).Perm d.registry.playbooks := by
  have hshelf : d.files.shelf D =
      shelfOf Playbook.id Playbook.encode d.registry.playbooks.values := by
    rw [h.definitions, ← h.playbooks_eq]
    simp [shelfOf, Members.values, Function.comp_def]
  have hnames : (d.registry.playbooks.values.map Playbook.id).Nodup := by
    have hnodup := h.names
    rw [← h.playbooks_eq] at hnodup
    simpa [Members.names, Function.comp_def] using hnodup
  have hread (p : Playbook) (hp : p ∈ d.registry.playbooks.values) :
      Library.loadPlaybook d.files (d.registry.library.definitionPath p.id) = .ok p := by
    obtain ⟨m, hm, rfl⟩ := List.mem_map.1 hp
    obtain ⟨hid, hstorable, hplace⟩ := h.playbook m hm
    rw [hid] at hplace
    exact Library.read_shelf hshelf hnames hp hplace (Playbook.keeps hstorable)
  obtain ⟨loaded, hload, hperm⟩ := Library.loadAll_shelf h.library.definitions hshelf hread
  refine ⟨loaded, hload, ?_⟩
  have hpairs := hperm.map fun p => (p.id, p)
  rwa [h.playbooks_eq] at hpairs

/-- Loading a registry from mirroring files gives what the mirrored one holds. -/
theorem Mirrors.reload (h : Mirrors D H d) (options : RunOptions) (maxDepth : Int) :
    ∃ outcome r, finish load ⟨fresh d.registry.library options maxDepth, d.files⟩ =
        (outcome, ⟨r, d.files⟩) ∧
      Counted r outcome ∧
      (∀ id, r.playbooks.find? id = d.registry.playbooks.find? id) ∧
      r.history.Perm d.registry.history := by
  obtain ⟨playbooks, hplaybooks, hsame⟩ := h.loadPlaybooks
  obtain ⟨history, hhistory, hperm⟩ := h.loadHistory
  obtain ⟨outcome, r, hload, houtcome, hr⟩ := finish_load_stands
    (d := ⟨fresh d.registry.library options maxDepth, d.files⟩) h.library hplaybooks hhistory
  -- the files come in the order of their names, so only look-ups give the same as before
  have hids : (playbooks.map Playbook.id).Nodup := by
    have hnodup := (hsame.map Prod.fst).nodup_iff.2 h.names
    simpa [Function.comp_def] using hnodup
  have hadopted := playbooks_foldl_adopt playbooks
    (fresh d.registry.library options maxDepth).emptied
    (by simpa [emptied, Members.names] using hids)
  refine ⟨outcome, r, hload, houtcome, fun id => ?_, ?_⟩
  · have hheld : r.playbooks = playbooks.map fun p => (p.id, p) := by
      rw [hr.playbooks]
      exact hadopted
    rw [hheld]
    exact Members.find?_of_perm hsame h.names id
  · rw [hr.history]
    exact hperm

/-! ## From empty directories -/

/-- The directories of a library are there, and those of the definitions and of the history
hold no documents. -/
def StandsEmpty (l : Library) (t : Tree) : Prop :=
  ∃ D H, StandsAt l t D H ∧ t.shelf D = [] ∧ t.shelf H = []

/-- What a loaded registry holds is what its files gave, once its directories were there. -/
theorem holds_of_load {d₀ : Desk} (h : finish load d₀ = (.ok (), d)) :
    finish d.registry.library.ensureDirectories d₀.files = (.ok (), d.files) ∧
    ∃ playbooks history,
      Library.loadPlaybooks d.files d.registry.library.definitions = .ok playbooks ∧
      d.registry.library.loadHistory d.files = .ok history ∧
      (d₀.registry.holding playbooks history).HoldsAs d.registry := by
  rw [finish_load] at h
  split at h
  · cases h
  · next t hensure =>
    split at h
    · cases h
    · next playbooks hplaybooks =>
      split at h
      · cases h
      · next history hhistory =>
        obtain ⟨outcome, r, hcount, -, hr⟩ := finish_countAll_holds
          (d₀.registry.holding playbooks history).stats.names
          ⟨d₀.registry.holding playbooks history, t⟩
        rw [hcount] at h
        cases h
        have hlibrary : r.library = d₀.registry.library :=
          hr.library.trans (library_foldl_adopt playbooks _)
        rw [hlibrary]
        exact ⟨hensure, playbooks, history, hplaybooks, hhistory, hr⟩

/-- A registry that is loaded from a library without documents holds nothing, and its files
mirror that. -/
theorem mirrors_of_loaded (loaded : Loaded d) (stands : StandsAt d.registry.library d.files D H)
    (definitions : d.files.shelf D = []) (executions : d.files.shelf H = []) : Mirrors D H d := by
  obtain ⟨d₀, hload⟩ := loaded
  obtain ⟨-, playbooks, history, hplaybooks, hhistory, hr⟩ := holds_of_load hload
  have noPlaybooks : playbooks = [] := by
    rw [Library.loadPlaybooks, Library.loadAll_empty stands.definitions definitions] at hplaybooks
    exact (Except.ok.inj hplaybooks).symm
  have noExecutions : history = [] := by
    rw [Library.loadHistory, Library.loadAll_empty stands.history executions] at hhistory
    simpa [bind, Except.bind, Library.inTimeOrder] using hhistory.symm
  subst noPlaybooks noExecutions
  have emptyPlaybooks : d.registry.playbooks = [] := hr.playbooks
  have emptyHistory : d.registry.history = [] := hr.history
  exact {
    library := stands
    definitions := by rw [definitions, emptyPlaybooks]; rfl
    history := by rw [executions, emptyHistory]; rfl
    names := by simp [emptyPlaybooks, Members.names]
    playbook := by simp [emptyPlaybooks]
    ids := by simp [emptyHistory]
    execution := by simp [emptyHistory] }

theorem library_afterAll (d : Desk) (qs : List Request) :
    (d.afterAll qs).registry.library = d.registry.library := by
  induction qs generalizing d with
  | nil => rfl
  | cons q rest ih => exact (ih (q.after d)).trans (library_after q d)

/-- After any requests, a registry that is loaded anew from the same files holds the same: a
playbook under each id as before, and the same executions. -/
theorem reload_afterAll {d : Desk} (loaded : Loaded d)
    (empty : StandsEmpty d.registry.library d.files) (qs : List Request)
    (sound : ∀ q ∈ qs, q.IsSound d.registry.library)
    (distinct : (qs.filterMap Request.historyId?).Nodup) (options : RunOptions) (maxDepth : Int) :
    ∃ outcome r,
      finish load ⟨fresh d.registry.library options maxDepth, (d.afterAll qs).files⟩ =
        (outcome, ⟨r, (d.afterAll qs).files⟩) ∧
      Counted r outcome ∧
      (∀ id, r.playbooks.find? id = (d.afterAll qs).registry.playbooks.find? id) ∧
      r.history.Perm (d.afterAll qs).registry.history := by
  obtain ⟨D, H, stands, definitions, executions⟩ := empty
  have start := mirrors_of_loaded loaded stands definitions executions
  have noExecutions : d.registry.history = [] := by
    have hshelf := start.history
    rw [executions] at hshelf
    exact List.map_eq_nil_iff.1 hshelf.symm
  have mirrored := start.afterAll sound distinct (by simp [noExecutions])
  have reloaded := mirrored.reload options maxDepth
  rwa [library_afterAll] at reloaded

/-- A visit to a blank page, at twenty past ten on the first of March. -/
def morningVisit : Visit :=
  ⟨.opening .blank [], [], ⟨⟨2024, 3, 1, 10, 20, 30, 0, some 0⟩, 1709288430000⟩, none, "h"⟩

/-- A day on which a playbook is made, changed, executed and deleted. -/
def busyDay : List Request :=
  [.create waiting, .update waiting, .execute "a" morningVisit, .importFrom "b.json", .delete "a",
    .fromTemplate "t" "c" []]

theorem standsEmpty_firstDay : StandsEmpty firstDay.registry.library firstDay.files := by
  refine ⟨["srv", "home", "definitions"], ["srv", "home", "history"], ⟨⟨?_, ?_, ?_⟩,
    ⟨["srv", "home", "templates"], ⟨?_, ?_, ?_⟩⟩, ⟨?_, ?_, ?_⟩, ?_⟩, ?_, ?_⟩
  all_goals decide +kernel

theorem reload_busyDay :
    ∃ outcome r,
      finish load ⟨fresh firstDay.registry.library .standard 8, (firstDay.afterAll busyDay).files⟩ =
        (outcome, ⟨r, (firstDay.afterAll busyDay).files⟩) ∧
      Counted r outcome ∧
      (∀ id, r.playbooks.find? id = (firstDay.afterAll busyDay).registry.playbooks.find? id) ∧
      r.history.Perm (firstDay.afterAll busyDay).registry.history := by
  have dated : morningVisit.stamp.moment.IsDated := {
    year := by decide
    date := by decide
    hour := by decide
    minute := by decide
    second := by decide
    micro := by decide
    offset := fun s hs => by cases hs; decide }
  have noSlash : '/' ∉ morningVisit.historyId.toList := by decide
  have fits : Tree.FitsIn firstDay.registry.library.history (fileName morningVisit.historyId) :=
    ⟨by decide +kernel, by decide +kernel, by decide +kernel⟩
  have kept (id : String) (report : RunReport) :
      CanKeep firstDay.registry.library (morningVisit.entry id report) :=
    ⟨⟨dated, .nil⟩, rfl, noSlash, fits⟩
  have sound : ∀ q ∈ busyDay, q.IsSound firstDay.registry.library := by
    simp only [busyDay, List.forall_mem_cons]
    exact ⟨rfl, rfl, kept, trivial, trivial, by simp [Request.IsSound], by simp⟩
  exact reload_afterAll loaded_firstDay standsEmpty_firstDay busyDay sound (by decide) .standard 8

end Scout.Registry
