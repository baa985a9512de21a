import Scout.Proofs.Registry.Restored

/-!
# The order of executions

A registry keeps executions in the order in which they are recorded, and its statistics
name the moment of the one that was recorded last.  Loading puts executions in the order
of their moments.  The two show the same of a playbook exactly when none of its executions
was recorded after one that began later.
-/

namespace Scout

open Files (Location Tree)
open Library (fileName stored)

/-! ## The order of moments -/

/-- The moment of an execution, in microseconds. -/
def HistoryEntry.instant (e : HistoryEntry) : Int :=
  e.executedAt.epochMicros

/-- Executions come in the order of their moments, the oldest first. -/
def Chronological (es : List HistoryEntry) : Prop :=
  es.Pairwise fun a b => a.instant ≤ b.instant

/-- A moment is the latest one of some executions; there is none without executions. -/
def IsLatest (m : Option Moment) (es : List HistoryEntry) : Prop :=
  match m with
  | none => es = []
  | some m => (∃ e ∈ es, e.executedAt = m) ∧ ∀ e ∈ es, e.instant ≤ m.epochMicros

/-- The average of what executions found is a double, if there are any. -/
def HaveAverage (es : List HistoryEntry) : Prop :=
  es ≠ [] → Decimal.isFinite (Decimal.ofRatio
    ((es.map HistoryEntry.opportunitiesFound).foldl (· + ·) 0) es.length) = true

variable {es es' : List HistoryEntry}

theorem HaveAverage.of_perm (h : HaveAverage es) (same : es'.Perm es) : HaveAverage es' := by
  intro executed
  have found := (same.map HistoryEntry.opportunitiesFound).sum_eq
  rw [List.sum_eq_foldl, List.sum_eq_foldl] at found
  rw [found, same.length_eq]
  exact h fun none => executed (same.trans (none ▸ .refl _)).eq_nil

theorem chronological_iff_instants :
    Chronological es ↔ (es.map HistoryEntry.instant).Pairwise (· ≤ ·) :=
  List.pairwise_map.symm

theorem chronological_append : Chronological (es ++ es') ↔
    Chronological es ∧ Chronological es' ∧ ∀ a ∈ es, ∀ b ∈ es', a.instant ≤ b.instant :=
  List.pairwise_append

theorem Chronological.isLatest (h : Chronological es) :
    IsLatest (es.getLast?.map HistoryEntry.executedAt) es := by
  rcases List.eq_nil_or_concat es with rfl | ⟨before, last, rfl⟩
  · rfl
  · rw [List.concat_eq_append] at h ⊢
    obtain ⟨-, -, below⟩ := chronological_append.1 h
    rw [List.getLast?_concat]
    refine ⟨⟨last, by simp, rfl⟩, fun e he => ?_⟩
    rcases List.mem_append.1 he with he | he
    · exact below e he last (List.mem_singleton_self last)
    · rw [List.mem_singleton.1 he]
      rfl

/-- The latest of the same executions is the same moment, though it may be written in another
zone. -/
theorem IsLatest.unique {m m' : Option Moment} (h : IsLatest m es) (h' : IsLatest m' es')
    (same : es.Perm es') : m.map Moment.epochMicros = m'.map Moment.epochMicros := by
  rcases m with _ | m <;> rcases m' with _ | m'
  · rfl
  · obtain ⟨⟨e, he, -⟩, -⟩ := h'
    rw [show es = [] from h] at same
    simp [same.symm.eq_nil] at he
  · obtain ⟨⟨e, he, -⟩, -⟩ := h
    rw [show es' = [] from h'] at same
    simp [same.eq_nil] at he
  · obtain ⟨⟨e, he, rfl⟩, above⟩ := h
    obtain ⟨⟨e', he', rfl⟩, above'⟩ := h'
    exact congrArg some (le_antisymm (above' e (same.mem_iff.1 he)) (above e' (same.mem_iff.2 he')))

theorem Chronological.instants_eq (h : Chronological es) (h' : Chronological es')
    (same : es.Perm es') : es.map HistoryEntry.instant = es'.map HistoryEntry.instant :=
  (same.map _).eq_of_pairwise' (chronological_iff_instants.1 h) (chronological_iff_instants.1 h')

theorem Chronological.eq_of_perm (h : Chronological es) (h' : Chronological es')
    (same : es.Perm es') (distinct : (es.map HistoryEntry.instant).Nodup) : es = es' := by
  refine same.eq_of_pairwise (fun a b ha hb below above => ?_) h h'
  exact List.inj_on_of_nodup_map distinct ha (same.mem_iff.2 hb) (le_antisymm below above)

namespace Registry

variable {d d' : Desk} {q : Request} {r r' : Registry} {id : String} {H : Location}

/-! ## The moment that statistics name -/

/-- Whether the averages over the executions of a playbook are doubles, if it has any. -/
def IsAveraged (r : Registry) (id : String) : Prop :=
  r.historyOf id ≠ [] → r.isCountable id = true

/-- Statistics that count all executions name the moment of the last one. -/
def Dated (r : Registry) (id : String) : Prop :=
  r.IsAveraged id → ∀ s, r.stats.find? id = some s → s.total = (r.historyOf id).length →
    s.lastExecuted = (r.historyOf id).getLast?.map HistoryEntry.executedAt

theorem isCountable_congr (stats : r'.stats.contains id = r.stats.contains id)
    (history : r'.historyOf id = r.historyOf id) : r'.isCountable id = r.isCountable id := by
  unfold isCountable
  unfold Members.contains at stats
  rw [history]
  -- the average is one of the executions, whatever the statistics were before
  cases hs : r.stats.find? id <;> cases hs' : r'.stats.find? id <;> simp [hs, hs'] at stats ⊢
  rfl

theorem HaveAverage.isAveraged (h : HaveAverage (r.historyOf id)) : r.IsAveraged id := by
  intro executed
  unfold isCountable
  cases r.stats.find? id with
  | none => rfl
  | some s => exact h executed

theorem isAveraged_iff (known : r.stats.contains id = true) :
    r.IsAveraged id ↔ HaveAverage (r.historyOf id) := by
  refine ⟨fun averaged executed => ?_, HaveAverage.isAveraged⟩
  obtain ⟨s, hs⟩ := Option.isSome_iff_exists.1 known
  have countable := averaged executed
  rw [isCountable, hs] at countable
  exact countable

theorem Dated.congr (h : r.Dated id) (stats : r'.stats.find? id = r.stats.find? id)
    (history : r'.historyOf id = r.historyOf id) : r'.Dated id := by
  have countable : r'.isCountable id = r.isCountable id := by
    unfold isCountable
    rw [stats, history]
  unfold Dated IsAveraged
  rw [stats, history, countable]
  exact h

theorem dated_of_no_stats (h : r.stats.find? id = none) : r.Dated id := by
  intro _ s hs
  rw [h] at hs
  cases hs

theorem dated_recount (executed : r.historyOf id ≠ []) : (r.recount id).Dated id := by
  intro averaged s hs _
  rw [find?_stats_recount_self] at hs
  obtain ⟨s₀, hs₀, rfl⟩ := Option.map_eq_some_iff.1 hs
  have finite : Decimal.isFinite (s₀.ofEntries (r.historyOf id)).averageFound = true := by
    have countable := averaged executed
    rw [isCountable_recount] at countable
    simpa [isCountable, hs₀] using countable
  rw [Stats.recount, if_pos finite]
  rfl

theorem Dated.tally (h : r.Dated id) (i : String) : (r.tally i).Dated id := by
  unfold Registry.tally
  split
  · exact h
  · next executed =>
    by_cases hi : id = i
    · subst hi
      exact dated_recount (by simpa using executed)
    · exact h.congr (find?_stats_recount_of_ne r hi) rfl

theorem Dated.foldl_tally (h : r.Dated id) (ids : List String) :
    (ids.foldl Registry.tally r).Dated id := by
  induction ids generalizing r with
  | nil => exact h
  | cons i rest ih => exact ih (h.tally i)

theorem Dated.adopt (h : r.Dated id) (p : Playbook) : (r.adopt p).Dated id := by
  by_cases hid : id = p.id
  · subst hid
    by_cases known : r.stats.contains p.id = true
    · refine h.congr ?_ (historyOf_adopt r p p.id)
      simp [Registry.adopt, withStats, withPlaybook, known]
    · intro _ s hs total
      have fresh : s = Stats.starting p := by
        simpa [Registry.adopt, withStats, withPlaybook, known, Members.find?_put_self, eq_comm]
          using hs
      subst fresh
      have none : (r.adopt p).historyOf p.id = [] := by
        rw [← List.length_eq_zero_iff, ← Int.natCast_eq_zero, ← total]
        rfl
      rw [none]
      rfl
  · exact h.congr (find?_stats_adopt_of_ne r hid) (historyOf_adopt r p id)

theorem Dated.foldl_adopt (h : r.Dated id) (playbooks : List Playbook) :
    (playbooks.foldl Registry.adopt r).Dated id := by
  induction playbooks generalizing r with
  | nil => exact h
  | cons p rest ih => exact ih (h.adopt p)

theorem dated_enter (r : Registry) (e : HistoryEntry) : (r.enter e).Dated e.playbookId := by
  have history : (r.keep e).historyOf e.playbookId = r.historyOf e.playbookId ++ [e] := by
    rw [historyOf_keep, if_pos rfl]
  unfold enter
  split
  · intro _ s hs _
    rw [date, Members.find?_modify, if_pos rfl] at hs
    obtain ⟨s₀, -, rfl⟩ := Option.map_eq_some_iff.1 hs
    change _ = ((r.keep e).historyOf e.playbookId).getLast?.map HistoryEntry.executedAt
    rw [history, List.getLast?_concat]
    rfl
  · exact dated_recount (by simp [history])

theorem Dated.enter (h : r.Dated id) (e : HistoryEntry) : (r.enter e).Dated id := by
  by_cases hid : id = e.playbookId
  · subst hid
    exact dated_enter r e
  · refine h.congr (find?_stats_enter_of_ne r hid) ?_
    rw [historyOf_enter, if_neg (Ne.symm hid)]

/-- An update renames the statistics, which have no other moment for it. -/
theorem Dated.replace (h : r.Dated id) (p : Playbook) : (r.replace p).Dated id := by
  intro averaged s hs total
  have known : (r.replace p).stats.contains id = r.stats.contains id := by
    simp only [Registry.replace, Members.contains_modify]
  have countable : (r.replace p).isCountable id = r.isCountable id := isCountable_congr known rfl
  have before : r.IsAveraged id := fun executed => countable.symm.trans (averaged executed)
  rw [find?_stats_replace] at hs
  split at hs
  · obtain ⟨s₀, hs₀, rfl⟩ := Option.map_eq_some_iff.1 hs
    exact h before s₀ hs₀ total
  · exact h before s hs total

theorem Dated.forget (h : r.Dated id) (i : String) : (r.forget i).Dated id := by
  by_cases hid : id = i
  · subst hid
    exact dated_of_no_stats (Members.find?_erase_self _ _)
  · exact h.congr (Members.find?_erase_of_ne _ hid) rfl

theorem Effect.dated (effect : Effect q d d') (h : d.registry.Dated id) :
    d'.registry.Dated id := by
  cases effect with
  | refused | unsaved | undeleted | unrecorded => exact h
  | created => exact h.adopt _
  | replaced => exact h.replace _
  | deleted => exact h.forget _
  | recorded => exact h.enter _

/-! ## What loading gives -/

theorem foldl_adopt_history (playbooks : List Playbook) (r : Registry)
    (history : List HistoryEntry) :
    { playbooks.foldl adopt r with history } = playbooks.foldl adopt { r with history } := by
  have step (r : Registry) (p : Playbook) :
      { r.adopt p with history } = adopt { r with history } p := by
    unfold adopt withStats withPlaybook
    dsimp only
    split <;> rfl
  induction playbooks generalizing r with
  | nil => rfl
  | cons p rest ih => rw [List.foldl_cons, List.foldl_cons, ih, step]

theorem Loaded.dated (loaded : Loaded d) (id : String) : d.registry.Dated id := by
  obtain ⟨d₀, h⟩ := loaded
  obtain ⟨playbooks, history, t, -, -, counted⟩ := of_load h
  rw [finish_countAll counted, holding, foldl_adopt_history]
  exact ((dated_of_no_stats rfl).foldl_adopt playbooks).foldl_tally _

/-- Counting some playbooks succeeds when the averages of each of them are doubles. -/
theorem countAll_ok_iff {ids : List String} {d : Desk} :
    (finish (countAll ids) d).1 = .ok () ↔ ∀ id ∈ ids, d.registry.IsAveraged id := by
  induction ids generalizing d with
  | nil => simp [countAll]
  | cons i rest ih =>
    have recounted (id : String) :
        (d.registry.recount i).IsAveraged id ↔ d.registry.IsAveraged id := by
      unfold IsAveraged
      rw [isCountable_congr (contains_stats_recount d.registry i id) (historyOf_recount _ _ _),
        historyOf_recount]
    rw [countAll, finish_bind, finish_registry, List.forall_mem_cons]
    dsimp only
    cases he : (d.registry.historyOf i).isEmpty
    · -- counting one playbook leaves the averages of the others as they were
      have executed : d.registry.historyOf i ≠ [] := by simpa using he
      simp only [Bool.not_false, if_true, finish_bind, finish_count]
      cases hc : d.registry.isCountable i
      · simp [IsAveraged, executed, hc]
      · have first : d.registry.IsAveraged i := fun _ => hc
        simp only [if_true, ih, recounted, first, true_and]
    · have first : d.registry.IsAveraged i := fun executed =>
        absurd (List.isEmpty_iff.1 he) executed
      simp only [Bool.not_true, Bool.false_eq_true, if_false, ih, first, true_and]

theorem Loaded.isAveraged (loaded : Loaded d) (id : String) : d.registry.IsAveraged id := by
  obtain ⟨d₀, h⟩ := loaded
  obtain ⟨playbooks, history, t, -, -, counted⟩ := of_load h
  rw [finish_countAll counted]
  obtain ⟨kept, -, contained⟩ := foldl_tally (d₀.registry.holding playbooks history).stats.names
    (d₀.registry.holding playbooks history) id
  intro executed
  refine (isCountable_congr contained kept).trans ?_
  by_cases known : (d₀.registry.holding playbooks history).stats.contains id = true
  · have listed := Members.contains_eq_true_iff.1 known
    have averaged := countAll_ok_iff.1 (congrArg Prod.fst counted) id listed
    exact averaged (by rwa [← kept])
  · have none : (d₀.registry.holding playbooks history).stats.find? id = none := by
      simpa [Members.contains] using known
    simp [isCountable, none]

theorem chronological_inTimeOrder {loaded history : List HistoryEntry}
    (h : Library.inTimeOrder loaded = .ok history) :
    Chronological history ∧ history.Perm loaded := by
  unfold Library.inTimeOrder at h
  split at h
  · cases h
    refine ⟨?_, List.mergeSort_perm _ _⟩
    have trans (a b c : HistoryEntry) (hab : decide (a.instant ≤ b.instant) = true)
        (hbc : decide (b.instant ≤ c.instant) = true) : decide (a.instant ≤ c.instant) = true := by
      simp only [decide_eq_true_eq] at *
      exact hab.trans hbc
    have total (a b : HistoryEntry) :
        (decide (a.instant ≤ b.instant) || decide (b.instant ≤ a.instant)) = true := by
      simpa using le_total a.instant b.instant
    exact (List.pairwise_mergeSort trans total loaded).imp fun h => by simpa using h
  · cases h

theorem perm_entriesOf (same : es.Perm es') (id : String) :
    (entriesOf es id).Perm (entriesOf es' id) :=
  same.filter _

theorem chronological_historyOf (h : Chronological r.history) (id : String) :
    Chronological (r.historyOf id) :=
  h.sublist List.filter_sublist

theorem Loaded.chronological (loaded : Loaded d) : Chronological d.registry.history := by
  obtain ⟨d₀, h⟩ := loaded
  obtain ⟨-, playbooks, history, -, executions, hr⟩ := holds_of_load h
  rw [hr.history]
  change Chronological history
  unfold Library.loadHistory at executions
  cases hl : Library.loadAll d.files d.registry.library.history
      (Library.loadExecution d.files) with
  | error e => simp [hl, bind, Except.bind] at executions
  | ok loaded =>
    simp only [hl, bind, Except.bind] at executions
    exact (chronological_inTimeOrder executions).1

/-! ## What is shown of a playbook -/

/-- What a registry shows of the executions of a playbook is in order: they come from the oldest
to the newest, and the statistics name the moment of the newest. -/
structure Shows (r : Registry) (id : String) : Prop where
  chronological : Chronological (r.historyOf id)
  latest : ∀ s, r.stats.find? id = some s → IsLatest s.lastExecuted (r.historyOf id)

/-- Two registries show the same of the executions of a playbook: the same moments in the same
order, the same executions if no two began at one moment, and the same moment as the last. -/
structure ShowSame (r r' : Registry) (id : String) : Prop where
  instants : (r.historyOf id).map HistoryEntry.instant = (r'.historyOf id).map HistoryEntry.instant
  executions : ((r.historyOf id).map HistoryEntry.instant).Nodup → r.historyOf id = r'.historyOf id
  latest : ∀ s s', r.stats.find? id = some s → r'.stats.find? id = some s' →
    s.lastExecuted.map Moment.epochMicros = s'.lastExecuted.map Moment.epochMicros

theorem shows_iff (dated : ∀ s, r.stats.find? id = some s →
      s.lastExecuted = (r.historyOf id).getLast?.map HistoryEntry.executedAt) :
    r.Shows id ↔ Chronological (r.historyOf id) := by
  refine ⟨Shows.chronological, fun h => ⟨h, fun s hs => ?_⟩⟩
  rw [dated s hs]
  exact h.isLatest

theorem showSame_iff (same : (r.historyOf id).Perm (r'.historyOf id)) (shows : r'.Shows id)
    (dated : ∀ s, r.stats.find? id = some s →
      s.lastExecuted = (r.historyOf id).getLast?.map HistoryEntry.executedAt) :
    r.ShowSame r' id ↔ Chronological (r.historyOf id) := by
  constructor
  · intro h
    rw [chronological_iff_instants, h.instants, ← chronological_iff_instants]
    exact shows.chronological
  · intro h
    exact {
      instants := h.instants_eq shows.chronological same
      executions := h.eq_of_perm shows.chronological same
      latest := fun s s' hs hs' =>
        (((shows_iff dated).2 h).latest s hs).unique (shows.latest s' hs') same }

theorem Loaded.shows (loaded : Loaded d) (id : String) : d.registry.Shows id := by
  refine (shows_iff fun s hs => ?_).2 (chronological_historyOf loaded.chronological id)
  exact loaded.dated id (loaded.isAveraged id) s hs (loaded.counted.2 id s hs).total

/-! ## Recording -/

theorem dated_afterAll (loaded : Loaded d) (qs : List Request) (id : String) :
    (d.afterAll qs).registry.Dated id := by
  induction qs using List.reverseRecOn with
  | nil => exact loaded.dated id
  | append_singleton rest q ih =>
    rw [Desk.afterAll_append]
    exact (q.effect _).dated ih

theorem lastExecuted_afterAll (loaded : Loaded d) {qs : List Request}
    (unresumed : ¬ Resumed d qs id) (averaged : (d.afterAll qs).registry.IsAveraged id) :
    ∀ s, (d.afterAll qs).registry.stats.find? id = some s → s.lastExecuted =
      ((d.afterAll qs).registry.historyOf id).getLast?.map HistoryEntry.executedAt :=
  fun s hs => dated_afterAll loaded qs id averaged s hs
    ((tallied_afterAll loaded qs id).2 unresumed s hs).total

/-- Executions are appended as they are recorded; one whose id cannot be in a path is not taken
up. -/
theorem history_recorded (es : List HistoryEntry) (d : Desk) :
    ∃ noted, noted.Sublist es ∧
      (d.afterAll (es.map .record)).registry.history = d.registry.history ++ noted := by
  induction es generalizing d with
  | nil => exact ⟨[], .slnil, (List.append_nil _).symm⟩
  | cons e rest ih =>
    obtain ⟨noted, within, history⟩ := ih ((Request.record e).after d)
    rw [List.map_cons, Desk.afterAll_cons]
    rcases history_after (.record e) d with same | ⟨e', asked, more⟩
    · exact ⟨noted, within.cons e, history.trans (by rw [same])⟩
    · cases asked
      refine ⟨e :: noted, within.cons_cons e, history.trans ?_⟩
      rw [more, List.append_assoc]
      rfl

theorem historyOf_append {noted : List HistoryEntry}
    (h : r'.history = r.history ++ noted) (id : String) :
    r'.historyOf id = r.historyOf id ++ entriesOf noted id := by
  unfold historyOf
  rw [h]
  exact List.filter_append _ _

/-! ## Executions in files -/

variable {e : HistoryEntry}

/-- The files hold the executions that a registry keeps. -/
def IsStored (d : Desk) : Prop :=
  (Library.executions d.files d.registry.library.history).Perm d.registry.history

theorem Loaded.isStored (loaded : Loaded d) (isOpen : d.registry.library.IsOpen d.files) :
    IsStored d := by
  obtain ⟨H, opens⟩ := isOpen.history
  obtain ⟨d₀, h⟩ := loaded
  obtain ⟨-, playbooks, history, -, executions, hr⟩ := holds_of_load h
  rw [Library.loadHistory_eq opens] at executions
  have same : history = d.registry.history := hr.history.symm
  rw [IsStored, ← same]
  exact (chronological_inTimeOrder executions).2.symm

/-- Executions can be added to a registry whose files hold those that it keeps: all moments can be
compared, and each of the new ones has a file of its own that is not there yet. -/
structure CanAdd (d : Desk) (es : List HistoryEntry) : Prop where
  isStored : IsStored d
  aware : ∀ e ∈ d.registry.history, e.executedAt.isNaive = false
  keeps : ∀ e ∈ es, CanKeep d.registry.library e
  distinct : (es.map HistoryEntry.id).Nodup
  vacant : ∀ e ∈ es, ∀ l,
    d.files.locate (Library.documentPath d.registry.library.history e.id) = .ok l →
      d.files.at? l = none

theorem CanKeep.place {t : Tree} {l : Library} (keep : CanKeep l e) (opens : t.Opens l.history H) :
    t.locate (Library.documentPath l.history e.id) = .ok (H ++ [fileName e.id]) :=
  opens.locate_of_fitsIn (Library.isFileName_fileName keep.noSlash) keep.fits

/-- An execution is saved and kept, whether or not it can be counted, when its path can be used and
nothing stands there. -/
theorem finish_record_saved (opens : d.files.Opens d.registry.library.history H)
    (noSlash : '/' ∉ e.id.toList)
    (fits : Tree.FitsIn d.registry.library.history (fileName e.id))
    (vacant : d.files.at? (H ++ [fileName e.id]) = none) :
    finish (record e) d =
      (if (d.registry.keep e).isCountable e.playbookId then .ok () else .error .averageTooLarge,
        ⟨d.registry.enter e, d.files.put (H ++ [fileName e.id]) (stored e.encode)⟩) := by
  have saved : finish (d.registry.library.saveExecution e) d.files =
      (.ok (Library.documentPath d.registry.library.history e.id),
        d.files.put (H ++ [fileName e.id]) (stored e.encode)) :=
    Library.finish_save opens noSlash fits (by simp [vacant])
  rw [finish_record, saved]
  exact if_neg Bool.false_ne_true

theorem after_record (opens : d.files.Opens d.registry.library.history H)
    (keep : CanKeep d.registry.library e) (free : d.files.at? (H ++ [fileName e.id]) = none) :
    (Request.record e).after d =
      ⟨d.registry.enter e, d.files.put (H ++ [fileName e.id]) (stored e.encode)⟩ := by
  rw [Request.after, Request.act, finish_record_saved opens keep.noSlash keep.fits free]

theorem CanAdd.after (h : CanAdd d (e :: es)) (opens : d.files.Opens d.registry.library.history H)
    (named : d.files.IsNamed) :
    ((Request.record e).after d).registry.history = d.registry.history ++ [e] ∧
      CanAdd ((Request.record e).after d) es := by
  obtain ⟨keep, keeps⟩ := List.forall_mem_cons.1 h.keeps
  obtain ⟨other, distinct⟩ := List.nodup_cons.1 h.distinct
  have place := keep.place opens
  have free := h.vacant e List.mem_cons_self _ place
  have keepsDirectories :
      d.files.KeepsDirectories (d.files.put (H ++ [fileName e.id]) (stored e.encode)) :=
    Tree.keepsDirectories_put (by simp [free]) _
  have opens' := opens.of_keeps keepsDirectories
  rw [after_record opens keep free]
  refine ⟨history_enter _ _, ?_, ?_, ?_, distinct, ?_⟩
  · rw [IsStored, library_enter, history_enter]
    exact (Library.executions_put opens named keep.isStorable place free).trans
      (h.isStored.append_right [e])
  · simp only [history_enter, List.mem_append, List.mem_singleton]
    rintro e' (he | rfl)
    · exact h.aware e' he
    · exact keep.isAware
  · rwa [library_enter]
  · rw [library_enter]
    -- the file that was written is none of those that the other executions will have
    intro e' he l hl
    have apart : H ++ [fileName e'.id] ≠ H ++ [fileName e.id] := by
      intro same
      have sameId : e'.id = e.id := Library.fileName_injective (by simpa using same)
      exact other (sameId ▸ List.mem_map_of_mem he)
    cases hl.symm.trans ((keeps e' he).place opens')
    rw [Tree.at?_put_of_ne _ _ apart]
    exact h.vacant e' (List.mem_cons_of_mem e he) _ ((keeps e' he).place opens)

theorem CanAdd.afterAll (h : CanAdd d es) (order : d.InOrder) (named : d.files.IsNamed) :
    (d.afterAll (es.map .record)).registry.history = d.registry.history ++ es ∧
      CanAdd (d.afterAll (es.map .record)) [] := by
  induction es generalizing d with
  | nil => exact ⟨(List.append_nil _).symm, h⟩
  | cons e rest ih =>
    obtain ⟨H, opens⟩ := order.isOpen.history
    have use := (Request.record e).use d
    obtain ⟨first, h⟩ := h.after opens named
    obtain ⟨later, h⟩ := ih h (use.inOrder order) (use.changes.isNamed named)
    rw [List.map_cons, Desk.afterAll_cons]
    refine ⟨later.trans ?_, h⟩
    rw [first, List.append_assoc]
    rfl

/-! ## Restarting -/

/-- The executions of a registry that more can be added to are loaded in the order of their
moments. -/
theorem CanAdd.loadHistory (h : CanAdd d es) (opens : d.files.Opens d.registry.library.history H) :
    ∃ history, d.registry.library.loadHistory d.files = .ok history ∧ Chronological history ∧
      history.Perm d.registry.history := by
  have aware : (Library.executions d.files d.registry.library.history).all
      (fun e => !e.executedAt.isNaive) = true := by
    rw [List.all_eq_true]
    intro e he
    rw [h.aware e (h.isStored.mem_iff.1 he)]
    rfl
  obtain ⟨history, ordered⟩ : ∃ history, Library.inTimeOrder
      (Library.executions d.files d.registry.library.history) = .ok history := by
    rw [Library.inTimeOrder, aware, Bool.or_true, if_pos rfl]
    exact ⟨_, rfl⟩
  obtain ⟨chronological, same⟩ := chronological_inTimeOrder ordered
  exact ⟨history, (Library.loadHistory_eq opens).trans ordered, chronological,
    same.trans h.isStored⟩

/-- A registry that is loaded from files that hold the executions of another one has them in the
order of their moments. -/
theorem restart_shows (isOpen : d.registry.library.IsOpen d.files) (h : CanAdd d [])
    (options : RunOptions) (maxDepth : Int) (id : String) :
    ∃ outcome r, finish load ⟨fresh d.registry.library options maxDepth, d.files⟩ =
        (outcome, ⟨r, d.files⟩) ∧
      ((∀ i, HaveAverage (d.registry.historyOf i)) → outcome = .ok ()) ∧
      (r.historyOf id).Perm (d.registry.historyOf id) ∧ Chronological (r.historyOf id) ∧
      (outcome = .ok () → r.Shows id) := by
  obtain ⟨D, definitions⟩ := isOpen.definitions
  obtain ⟨H, opens⟩ := isOpen.history
  obtain ⟨history, executions, ordered⟩ := h.loadHistory opens
  obtain ⟨outcome, r, counted, -, hr⟩ := finish_countAll_holds
    ((fresh d.registry.library options maxDepth).holding
      (Library.loaded d.files d.registry.library.definitions) history).stats.names
    ⟨(fresh d.registry.library options maxDepth).holding
      (Library.loaded d.files d.registry.library.definitions) history, d.files⟩
  have load : finish load ⟨fresh d.registry.library options maxDepth, d.files⟩ =
      (outcome, ⟨r, d.files⟩) := by
    have ensured : finish (fresh d.registry.library options maxDepth).library.ensureDirectories
        d.files = (.ok (), d.files) := isOpen.finish_ensureDirectories
    rw [finish_load, ensured]
    dsimp only [fresh]
    rw [Library.loadPlaybooks_eq definitions, executions]
    exact counted
  have same : r.history = history := hr.history
  refine ⟨outcome, r, load, fun averages => ?_, ?_, ?_, ?_⟩
  · refine (congrArg Prod.fst counted).symm.trans (countAll_ok_iff.2 fun i _ => ?_)
    have kept : (entriesOf history i).Perm (d.registry.historyOf i) := perm_entriesOf ordered.2 i
    exact HaveAverage.isAveraged ((averages i).of_perm kept)
  · have kept : (entriesOf history id).Perm (d.registry.historyOf id) :=
      perm_entriesOf ordered.2 id
    rwa [← same] at kept
  · have chronological := ordered.1
    rw [← same] at chronological
    exact chronological_historyOf chronological id
  · rintro rfl
    exact Loaded.shows ⟨_, load⟩ id

/-- Recording executions appends them, so those of a playbook stay in the order of their moments
exactly when none is recorded after one that began later; its statistics name the moment of the one
recorded last.  A registry that is loaded anew shows them in order, and so shows the same exactly
then. -/
theorem shows_iff_recorded_in_order {d₀ d d' : Desk} (loaded : Loaded d₀) {qs : List Request}
    {es : List HistoryEntry} (reached : d = d₀.afterAll qs)
    (recorded : d' = d.afterAll (es.map .record)) (id : String) :
    (∃ noted, noted.Sublist es ∧
      d'.registry.historyOf id = d.registry.historyOf id ++ entriesOf noted id ∧
      (Chronological (d'.registry.historyOf id) ↔
        Chronological (d.registry.historyOf id) ∧ Chronological (entriesOf noted id) ∧
          ∀ a ∈ d.registry.historyOf id, ∀ b ∈ entriesOf noted id, a.instant ≤ b.instant)) ∧
    (qs = [] → d.registry.Shows id) ∧
    (¬ Resumed d₀ (qs ++ es.map .record) id → d'.registry.IsAveraged id →
      (d'.registry.Shows id ↔ Chronological (d'.registry.historyOf id)) ∧
      ∀ s, d'.registry.stats.find? id = some s →
        s.lastExecuted = (d'.registry.historyOf id).getLast?.map HistoryEntry.executedAt) ∧
    (d₀.registry.library.IsNormal → d₀.files.IsNamed → CanAdd d es →
      d'.registry.historyOf id = d.registry.historyOf id ++ entriesOf es id ∧
      ∀ options maxDepth, ∃ outcome r,
        finish load ⟨fresh d₀.registry.library options maxDepth, d'.files⟩ =
          (outcome, ⟨r, d'.files⟩) ∧
        ((∀ i, HaveAverage (d'.registry.historyOf i)) → outcome = .ok ()) ∧
        (r.historyOf id).Perm (d'.registry.historyOf id) ∧ Chronological (r.historyOf id) ∧
        (outcome = .ok () → r.Shows id ∧
          (¬ Resumed d₀ (qs ++ es.map .record) id → d'.registry.IsAveraged id →
            (d'.registry.ShowSame r id ↔ Chronological (d'.registry.historyOf id))))) := by
  have whole : d' = d₀.afterAll (qs ++ es.map .record) := by
    rw [recorded, reached, Desk.afterAll, Desk.afterAll, Desk.afterAll, List.foldl_append]
  have dated (unresumed : ¬ Resumed d₀ (qs ++ es.map .record) id)
      (averaged : d'.registry.IsAveraged id) : ∀ s, d'.registry.stats.find? id = some s →
        s.lastExecuted = (d'.registry.historyOf id).getLast?.map HistoryEntry.executedAt := by
    rw [whole] at averaged ⊢
    exact lastExecuted_afterAll loaded unresumed averaged
  refine ⟨?_, ?_, ?_, ?_⟩
  · obtain ⟨noted, within, history⟩ := history_recorded es d
    rw [← recorded] at history
    have appended := historyOf_append history id
    refine ⟨noted, within, appended, ?_⟩
    rw [appended, chronological_append]
  · rintro rfl
    rw [reached]
    exact loaded.shows id
  · intro unresumed averaged
    exact ⟨shows_iff (dated unresumed averaged), dated unresumed averaged⟩
  · intro normal named canAdd
    obtain ⟨order, library, keepsNames⟩ :=
      (Reached.afterAll d₀ qs).inOrder (loaded.inOrder normal)
    rw [← reached] at order library keepsNames
    obtain ⟨history, stored⟩ := canAdd.afterAll order (keepsNames named)
    obtain ⟨order', library', -⟩ := (Reached.afterAll d (es.map .record)).inOrder order
    rw [← recorded] at history stored order' library'
    refine ⟨historyOf_append history id, fun options maxDepth => ?_⟩
    rw [← library, ← library']
    obtain ⟨outcome, r, load, ends, same, chronological, shows⟩ :=
      restart_shows order'.isOpen stored options maxDepth id
    refine ⟨outcome, r, load, ends, same, chronological, fun ok => ⟨shows ok, ?_⟩⟩
    intro unresumed averaged
    exact showSame_iff same.symm (shows ok) (dated unresumed averaged)

/-! ## Two executions of one playbook -/

def waitedLater : HistoryEntry :=
  ⟨"g", "a", ⟨2024, 3, 2, 10, 20, 30, 0, some 0⟩, true, 0, 0.0, [], [], []⟩

/-- A playbook was created, and two executions of it were recorded in order. -/
def waitedDay : Desk :=
  (firstDay.afterAll [.create waiting]).afterAll ([waited, waitedLater].map .record)

theorem isDated_morning {day : Nat} (h : Calendar.isDate 2024 3 day = true) :
    Moment.IsDated ⟨2024, 3, day, 10, 20, 30, 0, some 0⟩ where
  year := by norm_num
  date := h
  hour := by norm_num
  minute := by norm_num
  second := by norm_num
  micro := by norm_num
  offset := fun s hs => by cases hs; decide

theorem history_created : (firstDay.afterAll [.create waiting]).registry.history = [] :=
  List.length_eq_zero_iff.1 (by decide +kernel)

theorem canAdd_waited : CanAdd (firstDay.afterAll [.create waiting]) [waited, waitedLater] where
  isStored := by
    have noFiles : Library.executions (firstDay.afterAll [.create waiting]).files
        (firstDay.afterAll [.create waiting]).registry.library.history = [] :=
      List.length_eq_zero_iff.1 (by decide +kernel)
    rw [IsStored, history_created, noFiles]
  aware := by simp [history_created]
  keeps := by
    simp only [List.forall_mem_cons]
    refine ⟨⟨⟨isDated_morning (by decide), .nil⟩, rfl, by decide, ?_⟩,
      ⟨⟨isDated_morning (by decide), .nil⟩, rfl, by decide, ?_⟩, by simp⟩
    all_goals exact ⟨by decide +kernel, by decide +kernel, by decide +kernel⟩
  distinct := by decide
  vacant := by
    simp only [List.forall_mem_cons]
    refine ⟨fun l hl => ?_, fun l hl => ?_, by simp⟩
    · have place : (firstDay.afterAll [.create waiting]).files.locate
          (Library.documentPath
            (firstDay.afterAll [.create waiting]).registry.library.history "h") =
            .ok ["srv", "home", "history", "h.json"] := by decide +kernel
      cases place.symm.trans hl
      decide +kernel
    · have place : (firstDay.afterAll [.create waiting]).files.locate
          (Library.documentPath
            (firstDay.afterAll [.create waiting]).registry.library.history "g") =
            .ok ["srv", "home", "history", "g.json"] := by decide +kernel
      cases place.symm.trans hl
      decide +kernel

theorem not_resumed_waited :
    ¬ Resumed firstDay ([.create waiting] ++ [waited, waitedLater].map .record) "a" := by
  intro resumed
  -- the last request made the history longer
  have same := ((resumed_append loaded_firstDay.counted.1 [.create waiting, .record waited]
    (.record waitedLater) "a").1 resumed).1
  have longer : ((firstDay.afterAll
      ([.create waiting, .record waited] ++ [.record waitedLater])).registry.historyOf "a").length ≠
      ((firstDay.afterAll [.create waiting, .record waited]).registry.historyOf "a").length := by
    decide +kernel
  exact longer (congrArg List.length same)

theorem chronological_waitedDay : Chronological (waitedDay.registry.historyOf "a") := by
  have instants : (waitedDay.registry.historyOf "a").map HistoryEntry.instant =
      [1709288430000000, 1709374830000000] := by decide +kernel
  rw [chronological_iff_instants, instants]
  decide

theorem haveAverage_waitedDay (id : String) : HaveAverage (waitedDay.registry.historyOf id) := by
  by_cases hid : id = "a"
  · subst hid
    exact fun _ => by decide +kernel
  · obtain ⟨order, -, keepsNames⟩ := (Reached.afterAll firstDay [.create waiting]).inOrder
      (loaded_firstDay.inOrder isNormal_firstDay)
    obtain ⟨history, -⟩ := canAdd_waited.afterAll order (keepsNames isNamed_firstDay)
    have none : waitedDay.registry.historyOf id = [] := by
      rw [waitedDay, historyOf_append history id, historyOf, history_created]
      simp [entriesOf, waited, waitedLater, Ne.symm hid]
    exact fun executed => absurd none executed

theorem shows_iff_recorded_in_order_waiting :
    ∃ r, finish load ⟨fresh firstDay.registry.library .standard 8, waitedDay.files⟩ =
        (.ok (), ⟨r, waitedDay.files⟩) ∧
      waitedDay.registry.Shows "a" ∧ r.Shows "a" ∧ waitedDay.registry.ShowSame r "a" := by
  have averaged : waitedDay.registry.IsAveraged "a" :=
    HaveAverage.isAveraged (haveAverage_waitedDay "a")
  have recorded : waitedDay = (firstDay.afterAll [.create waiting]).afterAll
      ([waited, waitedLater].map .record) := rfl
  obtain ⟨-, -, shows, restart⟩ := shows_iff_recorded_in_order loaded_firstDay rfl recorded "a"
  obtain ⟨-, restarted⟩ := restart isNormal_firstDay isNamed_firstDay canAdd_waited
  obtain ⟨outcome, r, load, ends, -, -, same⟩ := restarted .standard 8
  obtain rfl := ends haveAverage_waitedDay
  exact ⟨r, load, (shows not_resumed_waited averaged).1.2 chronological_waitedDay, (same rfl).1,
    ((same rfl).2 not_resumed_waited averaged).2 chronological_waitedDay⟩

/-- Not every playbook shows its executions in order: one that ended after another one that began
later is kept behind it, and the statistics name its moment. -/
theorem recorded_out_of_order :
    ¬ ∀ d, Loaded d → ∀ es : List HistoryEntry, (∀ e ∈ es, e.executedAt.isNaive = false) →
      ∀ id, (d.afterAll (es.map .record)).registry.Shows id := by
  intro claim
  have shows := claim (fileDay "a.json" "a") (loaded_dayOf (by decide +kernel))
    [waitedLater, waited] (by decide) "a"
  have instants : (((fileDay "a.json" "a").afterAll
      ([waitedLater, waited].map .record)).registry.historyOf "a").map HistoryEntry.instant =
        [1709374830000000, 1709288430000000] := by decide +kernel
  have chronological := chronological_iff_instants.1 shows.chronological
  rw [instants] at chronological
  revert chronological
  decide

end Registry

end Scout
