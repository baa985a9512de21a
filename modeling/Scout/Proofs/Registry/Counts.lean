import Scout.Proofs.Registry.Loading

/-!
# Counts of executions

Statistics are kept beside the history and each request touches them in its own
way.  Loading counts every playbook; a request counts the executions of the one
playbook it records.  A playbook that comes new to the registry starts from zero,
also when executions under its id are kept already: until the next one is
recorded, its counts are those of no executions.
-/

namespace Scout

namespace Stats

/-- The counts are those of the executions. -/
structure Tallies (s : Stats) (entries : List HistoryEntry) : Prop where
  total : s.total = entries.length
  successful : s.successful = (entries.filter HistoryEntry.success).length
  failed : s.failed = (entries.filter fun e => !e.success).length

theorem length_failures (entries : List HistoryEntry) :
    (entries.filter HistoryEntry.success).length +
      (entries.filter fun e => !e.success).length = entries.length := by
  induction entries with
  | nil => rfl
  | cons e rest ih =>
    cases he : e.success <;> simp [he] <;> omega

theorem Tallies.sum {s : Stats} {entries : List HistoryEntry} (h : s.Tallies entries) :
    s.successful + s.failed = s.total := by
  have hlen := length_failures entries
  rw [h.total, h.successful, h.failed]
  omega

theorem tallies_starting (p : Playbook) : (starting p).Tallies [] :=
  ⟨rfl, rfl, rfl⟩

theorem tallies_recount (s : Stats) (entries : List HistoryEntry) :
    (s.recount entries).Tallies entries where
  total := recount_total s entries
  successful := recount_successful s entries
  failed := by
    have h := length_failures entries
    rw [recount_failed]
    omega

end Stats

namespace Registry

/-- Statistics of a playbook, if there are any, count the given executions. -/
def Tallied (r : Registry) (id : String) (entries : List HistoryEntry) : Prop :=
  ∀ s, r.stats.find? id = some s → s.Tallies entries

/-! ## Counting -/

@[simp] theorem historyOf_recount (r : Registry) (i id : String) :
    (r.recount i).historyOf id = r.historyOf id := rfl

theorem find?_stats_recount_of_ne (r : Registry) {i id : String} (h : id ≠ i) :
    (r.recount i).stats.find? id = r.stats.find? id := by
  unfold recount
  cases r.stats.find? i with
  | none => rfl
  | some s => exact Members.find?_put_of_ne _ _ h

theorem find?_stats_recount_self (r : Registry) (id : String) :
    (r.recount id).stats.find? id =
      (r.stats.find? id).map fun s => s.recount (r.historyOf id) := by
  unfold recount
  cases hs : r.stats.find? id with
  | none => simp [hs]
  | some s => exact Members.find?_put_self _ _ _

theorem contains_stats_recount (r : Registry) (i id : String) :
    (r.recount i).stats.contains id = r.stats.contains id := by
  by_cases h : id = i
  · subst h
    simp [Members.contains, find?_stats_recount_self]
  · rw [Members.contains, Members.contains, find?_stats_recount_of_ne r h]

theorem tallied_recount (r : Registry) (id : String) :
    (r.recount id).Tallied id (r.historyOf id) := by
  intro s hs
  rw [find?_stats_recount_self] at hs
  obtain ⟨s₀, -, rfl⟩ := Option.map_eq_some_iff.mp hs
  exact s₀.tallies_recount _

theorem Tallied.recount {r : Registry} {id : String} (h : r.Tallied id (r.historyOf id))
    (i : String) : (r.recount i).Tallied id (r.historyOf id) := by
  by_cases hi : id = i
  · subst hi
    exact r.tallied_recount id
  · intro s hs
    rw [find?_stats_recount_of_ne r hi] at hs
    exact h s hs

/-! ## Loading -/

theorem historyOf_tally (r : Registry) (i id : String) :
    (r.tally i).historyOf id = r.historyOf id := by
  unfold tally
  split <;> rfl

theorem playbooks_tally (r : Registry) (i : String) :
    (r.tally i).playbooks = r.playbooks := by
  unfold tally
  split <;> rfl

theorem find?_stats_tally_of_ne (r : Registry) {i id : String} (h : id ≠ i) :
    (r.tally i).stats.find? id = r.stats.find? id := by
  unfold tally
  split
  · rfl
  · exact find?_stats_recount_of_ne r h

theorem contains_stats_tally (r : Registry) (i id : String) :
    (r.tally i).stats.contains id = r.stats.contains id := by
  unfold tally
  split
  · rfl
  · exact contains_stats_recount r i id

theorem Tallied.tally {r : Registry} {id : String} (h : r.Tallied id (r.historyOf id))
    (i : String) : (r.tally i).Tallied id (r.historyOf id) := by
  unfold Registry.tally
  split
  · exact h
  · exact h.recount i

theorem tallied_tally {r : Registry} {id : String} (h : r.Tallied id []) :
    (r.tally id).Tallied id (r.historyOf id) := by
  unfold tally
  split
  · next he => rwa [List.isEmpty_iff.mp he]
  · exact r.tallied_recount id

/-- Counting all of some playbooks keeps what is kept, and counts each of them. -/
theorem foldl_tally (ids : List String) (r : Registry) (id : String) :
    (ids.foldl tally r).historyOf id = r.historyOf id ∧
      (ids.foldl tally r).playbooks = r.playbooks ∧
      (ids.foldl tally r).stats.contains id = r.stats.contains id := by
  induction ids generalizing r with
  | nil => exact ⟨rfl, rfl, rfl⟩
  | cons i rest ih =>
    obtain ⟨history, playbooks, stats⟩ := ih (r.tally i)
    exact ⟨history.trans (historyOf_tally r i id), playbooks.trans (playbooks_tally r i),
      stats.trans (contains_stats_tally r i id)⟩

theorem Tallied.foldl_tally {ids : List String} {r : Registry} {id : String}
    (h : r.Tallied id (r.historyOf id)) :
    (ids.foldl Registry.tally r).Tallied id (r.historyOf id) := by
  induction ids generalizing r with
  | nil => exact h
  | cons i rest ih =>
    have step := h.tally i
    rw [← historyOf_tally r i id] at step ⊢
    exact ih step

/-- A counted playbook has the counts of its executions, whatever it had before. -/
theorem tallied_foldl_tally {ids : List String} {r : Registry} {id : String}
    (h : r.Tallied id []) (listed : id ∈ ids) :
    (ids.foldl Registry.tally r).Tallied id (r.historyOf id) := by
  induction ids generalizing r with
  | nil => simp at listed
  | cons i rest ih =>
    rw [List.foldl_cons]
    by_cases hi : i = id
    · subst hi
      have step := tallied_tally h
      rw [← historyOf_tally r i i] at step ⊢
      exact step.foldl_tally
    · have step : (r.tally i).Tallied id [] := by
        intro s hs
        rw [find?_stats_tally_of_ne r (Ne.symm hi)] at hs
        exact h s hs
      have inRest : id ∈ rest := (List.mem_cons.mp listed).resolve_left (Ne.symm hi)
      rw [← historyOf_tally r i id]
      exact ih step inRest

/-! ## Playbooks that come and go -/

theorem find?_stats_adopt_of_ne (r : Registry) {p : Playbook} {id : String} (h : id ≠ p.id) :
    (r.adopt p).stats.find? id = r.stats.find? id := by
  unfold adopt withStats
  split
  · rfl
  · exact Members.find?_put_of_ne _ _ h

theorem contains_stats_adopt (r : Registry) (p : Playbook) (id : String) :
    (r.adopt p).stats.contains id = (decide (id = p.id) || r.stats.contains id) := by
  unfold adopt withStats
  split
  · next h =>
    by_cases hid : id = p.id
    · simpa [hid] using h
    · simp [hid, withPlaybook]
  · exact Members.contains_put _ _ _ _

theorem contains_playbooks_adopt (r : Registry) (p : Playbook) (id : String) :
    (r.adopt p).playbooks.contains id = (decide (id = p.id) || r.playbooks.contains id) := by
  have h : (r.adopt p).playbooks = r.playbooks.put p.id p := by
    unfold adopt withStats
    split <;> rfl
  rw [h]
  exact Members.contains_put _ _ _ _

@[simp] theorem historyOf_adopt (r : Registry) (p : Playbook) (id : String) :
    (r.adopt p).historyOf id = r.historyOf id := by
  unfold adopt withStats
  split <;> rfl

theorem Tallied.adopt {r : Registry} {id : String} (h : r.Tallied id []) (p : Playbook) :
    (r.adopt p).Tallied id [] := by
  by_cases hid : id = p.id
  · subst hid
    intro s hs
    unfold Registry.adopt withStats at hs
    split at hs
    · exact h s hs
    · rw [Members.find?_put_self] at hs
      cases hs
      exact Stats.tallies_starting p
  · intro s hs
    rw [find?_stats_adopt_of_ne r hid] at hs
    exact h s hs

/-- The playbooks are those that have statistics. -/
def Paired (r : Registry) : Prop :=
  ∀ id, r.stats.contains id = r.playbooks.contains id

theorem Paired.adopt {r : Registry} (h : r.Paired) (p : Playbook) : (r.adopt p).Paired := by
  intro id
  rw [contains_stats_adopt, contains_playbooks_adopt, h id]

theorem foldl_adopt (playbooks : List Playbook) {r : Registry} (paired : r.Paired)
    (blank : ∀ id, r.Tallied id []) :
    (playbooks.foldl adopt r).Paired ∧ ∀ id, (playbooks.foldl adopt r).Tallied id [] := by
  induction playbooks generalizing r with
  | nil => exact ⟨paired, blank⟩
  | cons p rest ih => exact ih (paired.adopt p) fun id => (blank id).adopt p

/-- A registry is in use from the moment that loading it succeeded. -/
def Loaded (d : Desk) : Prop :=
  ∃ d₀, finish load d₀ = (.ok (), d)

theorem Loaded.counted {d : Desk} (h : Loaded d) :
    d.registry.Paired ∧ ∀ id, d.registry.Tallied id (d.registry.historyOf id) := by
  obtain ⟨d₀, h⟩ := h
  obtain ⟨playbooks, history, t, h⟩ := countAll_of_load h
  obtain ⟨paired, blank⟩ : (d₀.registry.holding playbooks history).Paired ∧
      ∀ id, (d₀.registry.holding playbooks history).Tallied id [] :=
    foldl_adopt playbooks (fun id => rfl) (fun id s hs => by cases hs)
  subst h
  constructor
  · intro id
    obtain ⟨-, hp, hs⟩ := foldl_tally (d₀.registry.holding playbooks history).stats.names
      (d₀.registry.holding playbooks history) id
    exact hs.trans ((paired id).trans (by rw [hp]))
  · intro id s hs
    obtain ⟨hh, -, hc⟩ := foldl_tally (d₀.registry.holding playbooks history).stats.names
      (d₀.registry.holding playbooks history) id
    have listed : id ∈ (d₀.registry.holding playbooks history).stats.names := by
      rw [← Members.contains_eq_true_iff, ← hc, Members.contains, hs]
      rfl
    rw [hh]
    exact tallied_foldl_tally (blank id) listed s hs

/-! ## What a request means for one playbook -/

theorem tallied_of_not_contains {r : Registry} {id : String}
    (h : r.stats.contains id = false) (entries : List HistoryEntry) :
    r.Tallied id entries := by
  intro s hs
  rw [Members.contains, hs] at h
  cases h

theorem contains_replace {r : Registry} {p : Playbook}
    (isKnown : r.playbooks.contains p.id = true) (id : String) :
    (r.replace p).playbooks.contains id = r.playbooks.contains id := by
  refine (Members.contains_put _ _ _ _).trans ?_
  by_cases h : id = p.id
  · simp [h, isKnown]
  · simp [h]

theorem find?_stats_replace (r : Registry) (p : Playbook) (id : String) :
    (r.replace p).stats.find? id = if id = p.id then
      (r.stats.find? id).map fun s => { s with name := p.name } else r.stats.find? id := by
  simp only [replace, Members.find?_modify]

theorem Tallied.replace {r : Registry} {id : String} {entries : List HistoryEntry}
    (h : r.Tallied id entries) (p : Playbook) : (r.replace p).Tallied id entries := by
  intro s hs
  rw [find?_stats_replace] at hs
  split at hs
  · obtain ⟨s₀, hs₀, rfl⟩ := Option.map_eq_some_iff.mp hs
    exact ⟨(h s₀ hs₀).total, (h s₀ hs₀).successful, (h s₀ hs₀).failed⟩
  · exact h s hs

theorem historyOf_keep (r : Registry) (e : HistoryEntry) (id : String) :
    (r.keep e).historyOf id =
      if e.playbookId = id then r.historyOf id ++ [e] else r.historyOf id := by
  unfold keep historyOf entriesOf
  by_cases h : e.playbookId = id <;> simp [List.filter_append, h]

theorem historyOf_enter (r : Registry) (e : HistoryEntry) (id : String) :
    (r.enter e).historyOf id =
      if e.playbookId = id then r.historyOf id ++ [e] else r.historyOf id := by
  rw [← historyOf_keep]
  unfold enter
  split <;> rfl

theorem playbooks_enter (r : Registry) (e : HistoryEntry) :
    (r.enter e).playbooks = r.playbooks := by
  unfold enter
  split <;> rfl

theorem contains_stats_enter (r : Registry) (e : HistoryEntry) (id : String) :
    (r.enter e).stats.contains id = r.stats.contains id := by
  refine Eq.trans ?_ (contains_stats_recount (r.keep e) e.playbookId id)
  unfold enter
  split
  · rw [date, Members.contains_modify]
  · rfl

theorem find?_stats_enter_of_ne (r : Registry) {e : HistoryEntry} {id : String}
    (h : id ≠ e.playbookId) : (r.enter e).stats.find? id = r.stats.find? id := by
  refine Eq.trans ?_ (find?_stats_recount_of_ne (r.keep e) h)
  unfold enter
  split
  · rw [date, Members.find?_modify, if_neg h]
  · rfl

theorem tallied_enter (r : Registry) (e : HistoryEntry) :
    (r.enter e).Tallied e.playbookId (r.historyOf e.playbookId ++ [e]) := by
  have counted := tallied_recount (r.keep e) e.playbookId
  rw [historyOf_keep, if_pos rfl] at counted
  intro s hs
  unfold enter at hs
  split at hs
  · rw [date, Members.find?_modify, if_pos rfl] at hs
    obtain ⟨s₀, hs₀, rfl⟩ := Option.map_eq_some_iff.mp hs
    exact ⟨(counted s₀ hs₀).total, (counted s₀ hs₀).successful, (counted s₀ hs₀).failed⟩
  · exact counted s hs

/-- What a request can mean for one playbook, its statistics and its history. -/
inductive Change (id : String) (r r' : Registry) : Prop
  | kept (registered : r'.playbooks.contains id = r.playbooks.contains id)
      (history : r'.historyOf id = r.historyOf id)
      (stats : ∀ entries, r.Tallied id entries → r'.Tallied id entries)
  | begun (before : r.playbooks.contains id = false)
      (registered : r'.playbooks.contains id = true)
      (history : r'.historyOf id = r.historyOf id)
      (stats : r'.Tallied id [])
  | ended (registered : r'.playbooks.contains id = false)
      (history : r'.historyOf id = r.historyOf id)
  | extended (e : HistoryEntry)
      (history : r'.historyOf id = r.historyOf id ++ [e])
      (stats : r'.Tallied id (r'.historyOf id))

theorem Change.same (id : String) (r : Registry) : Change id r r :=
  .kept rfl rfl fun _ h => h

theorem change_adopt {r : Registry} (paired : r.Paired) {p : Playbook}
    (isNew : r.playbooks.contains p.id = false) (id : String) :
    Change id r (r.adopt p) := by
  by_cases h : id = p.id
  · subst h
    refine .begun isNew ?_ (historyOf_adopt r p _) ?_
    · simp [contains_playbooks_adopt]
    · apply Tallied.adopt
      exact tallied_of_not_contains ((paired _).trans isNew) []
  · refine .kept ?_ (historyOf_adopt r p _) ?_
    · simp [contains_playbooks_adopt, h]
    · intro entries ht s hs
      rw [find?_stats_adopt_of_ne r h] at hs
      exact ht s hs

theorem change_forget (r : Registry) (i id : String) : Change id r (r.forget i) := by
  by_cases h : id = i
  · subst h
    refine .ended ?_ rfl
    simp [forget, Members.contains_erase]
  · refine .kept ?_ rfl ?_
    · simp [forget, Members.contains_erase, h]
    · intro entries ht s hs
      rw [forget, Members.find?_erase_of_ne _ h] at hs
      exact ht s hs

theorem change_enter (r : Registry) (e : HistoryEntry) (id : String) :
    Change id r (r.enter e) := by
  by_cases h : e.playbookId = id
  · subst h
    have history := historyOf_enter r e e.playbookId
    rw [if_pos rfl] at history
    refine .extended e history ?_
    rw [history]
    exact tallied_enter r e
  · refine .kept (by rw [playbooks_enter]) ?_ ?_
    · rw [historyOf_enter, if_neg h]
    · intro entries ht s hs
      rw [find?_stats_enter_of_ne r (Ne.symm h)] at hs
      exact ht s hs

theorem Effect.change {q : Request} {d d' : Desk} (effect : Effect q d d')
    (paired : d.registry.Paired) (id : String) : Change id d.registry d'.registry := by
  cases effect with
  | refused | unsaved | undeleted | unrecorded => exact .same id _
  | created _ _ isNew _ => exact change_adopt paired isNew id
  | @replaced document p path t _ _ isKnown _ =>
    exact .kept (contains_replace isKnown id) rfl fun _ h => h.replace p
  | deleted _ _ _ _ => exact change_forget _ _ id
  | recorded _ _ _ => exact change_enter _ _ id

theorem Effect.paired {q : Request} {d d' : Desk} (effect : Effect q d d')
    (paired : d.registry.Paired) : d'.registry.Paired := by
  cases effect with
  | refused | unsaved | undeleted | unrecorded => exact paired
  | created _ _ _ _ => exact paired.adopt _
  | replaced _ _ isKnown _ =>
    intro id
    rw [contains_replace isKnown, ← paired id]
    simp only [replace, Members.contains_modify]
  | deleted _ _ _ _ =>
    intro id
    simp only [forget, Members.contains_erase, paired id]
  | recorded _ _ _ =>
    intro id
    rw [contains_stats_enter, playbooks_enter]
    exact paired id

theorem Change.history_grows {id : String} {r r' : Registry} (h : Change id r r') :
    r.historyOf id <+: r'.historyOf id := by
  cases h with
  | kept _ history _ | begun _ _ history _ | ended _ history =>
    exact ⟨[], by rw [List.append_nil, history]⟩
  | extended e history _ => exact ⟨[e], history.symm⟩

/-! ## Runs of requests -/

/-- A playbook came new to the registry while executions under its id were kept, and none has
been recorded since. -/
def Resumed (d : Desk) (qs : List Request) (id : String) : Prop :=
  ∃ before q later, qs = before ++ q :: later ∧
    (d.afterAll before).registry.playbooks.contains id = false ∧
    (d.afterAll (before ++ [q])).registry.playbooks.contains id = true ∧
    (d.afterAll before).registry.historyOf id ≠ [] ∧
    (d.afterAll qs).registry.historyOf id = (d.afterAll before).registry.historyOf id

theorem Resumed.history_ne_nil {d : Desk} {qs : List Request} {id : String}
    (h : Resumed d qs id) : (d.afterAll qs).registry.historyOf id ≠ [] := by
  obtain ⟨before, q, later, -, -, -, kept, same⟩ := h
  rw [same]
  exact kept

theorem paired_afterAll {d : Desk} (paired : d.registry.Paired) (qs : List Request) :
    (d.afterAll qs).registry.Paired := by
  induction qs using List.reverseRecOn with
  | nil => exact paired
  | append_singleton qs q ih =>
    rw [Desk.afterAll_append]
    exact (q.effect _).paired ih

theorem change_afterAll {d : Desk} (paired : d.registry.Paired) (qs : List Request)
    (q : Request) (id : String) :
    Change id (d.afterAll qs).registry (d.afterAll (qs ++ [q])).registry := by
  rw [Desk.afterAll_append]
  exact (q.effect _).change (paired_afterAll paired qs) id

theorem history_grows_afterAll {d : Desk} (paired : d.registry.Paired)
    (qs later : List Request) (id : String) :
    (d.afterAll qs).registry.historyOf id <+:
      (d.afterAll (qs ++ later)).registry.historyOf id := by
  induction later using List.reverseRecOn with
  | nil => simp
  | append_singleton later q ih =>
    rw [← List.append_assoc]
    exact ih.trans (change_afterAll paired (qs ++ later) q id).history_grows

/-- A run has resumed a playbook when it had done so before its last request, or does so with
it; recording an execution ends it. -/
theorem resumed_append {d : Desk} (paired : d.registry.Paired) (qs : List Request)
    (q : Request) (id : String) :
    Resumed d (qs ++ [q]) id ↔
      (d.afterAll (qs ++ [q])).registry.historyOf id = (d.afterAll qs).registry.historyOf id ∧
      (Resumed d qs id ∨
        (d.afterAll qs).registry.playbooks.contains id = false ∧
        (d.afterAll (qs ++ [q])).registry.playbooks.contains id = true ∧
        (d.afterAll qs).registry.historyOf id ≠ []) := by
  constructor
  · rintro ⟨before, q', later, split, unknown, known, kept, same⟩
    rcases List.eq_nil_or_concat later with rfl | ⟨later, last, rfl⟩
    · obtain ⟨rfl, hq⟩ := List.append_inj' split rfl
      cases hq
      exact ⟨same, .inr ⟨unknown, known, kept⟩⟩
    · rw [List.concat_eq_append, ← List.cons_append, ← List.append_assoc] at split
      obtain ⟨rfl, hq⟩ := List.append_inj' split rfl
      -- the history ends as it was and only grows, so it is the same in between
      have first := history_grows_afterAll paired before (q' :: later) id
      have second := history_grows_afterAll paired (before ++ q' :: later) [q] id
      rw [same] at second
      have equal := second.eq_of_length_le first.length_le
      exact ⟨same.trans equal.symm, .inl ⟨before, q', later, rfl, unknown, known, kept, equal⟩⟩
  · rintro ⟨same, ⟨before, q', later, rfl, unknown, known, kept, equal⟩ | ⟨unknown, known, kept⟩⟩
    · exact ⟨before, q', later ++ [q], by simp, unknown, known, kept, same.trans equal⟩
    · exact ⟨qs, q, [], rfl, unknown, known, kept, same⟩

/-- After every run the statistics of a playbook count its history, or nothing when the
playbook was resumed. -/
theorem tallied_afterAll {d : Desk} (loaded : Loaded d) (qs : List Request) (id : String) :
    (Resumed d qs id → (d.afterAll qs).registry.Tallied id []) ∧
      (¬ Resumed d qs id →
        (d.afterAll qs).registry.Tallied id ((d.afterAll qs).registry.historyOf id)) := by
  obtain ⟨paired, counted⟩ := loaded.counted
  -- from the end, since the last request is what `resumed_append` speaks of
  induction qs using List.reverseRecOn with
  | nil =>
    refine ⟨?_, fun _ => counted id⟩
    rintro ⟨before, q, later, split, -⟩
    simp at split
  | append_singleton qs q ih =>
    obtain ⟨resumed, unresumed⟩ := ih
    rw [resumed_append paired]
    cases change_afterAll paired qs q id with
    | kept registered history stats =>
      constructor
      · rintro ⟨-, before | ⟨unknown, known, -⟩⟩
        · exact stats _ (resumed before)
        · rw [registered, unknown] at known
          cases known
      · intro h
        rw [history]
        exact stats _ (unresumed fun before => h ⟨history, .inl before⟩)
    | begun before registered history stats =>
      refine ⟨fun _ => stats, ?_⟩
      intro h
      have none : (d.afterAll qs).registry.historyOf id = [] := by
        by_contra kept
        exact h ⟨history, .inr ⟨before, registered, kept⟩⟩
      rwa [history, none]
    | ended registered history =>
      have gone := (paired_afterAll paired (qs ++ [q]) id).trans registered
      exact ⟨fun _ => tallied_of_not_contains gone _, fun _ => tallied_of_not_contains gone _⟩
    | extended e history stats =>
      refine ⟨?_, fun _ => stats⟩
      rintro ⟨same, -⟩
      rw [history] at same
      simp at same

/-- After every run of requests each registered playbook has statistics whose successes and
failures add up to the total.  They are the counts of its history exactly when the
playbook was not resumed; a resumed one counts from zero. -/
theorem tallies_iff_not_resumed {d : Desk} (loaded : Loaded d) (qs : List Request)
    {id : String} (registered : (d.afterAll qs).registry.playbooks.contains id = true) :
    ∃ s, (d.afterAll qs).registry.stats.find? id = some s ∧
      s.successful + s.failed = s.total ∧
      (s.Tallies ((d.afterAll qs).registry.historyOf id) ↔ ¬ Resumed d qs id) ∧
      (Resumed d qs id → s.Tallies []) := by
  have paired := paired_afterAll loaded.counted.1 qs id
  rw [registered] at paired
  obtain ⟨s, hs⟩ := Option.isSome_iff_exists.mp paired
  obtain ⟨resumed, unresumed⟩ := tallied_afterAll loaded qs id
  refine ⟨s, hs, ?_, ⟨?_, fun h => unresumed h s hs⟩, fun h => resumed h s hs⟩
  · by_cases h : Resumed d qs id
    · exact (resumed h s hs).sum
    · exact (unresumed h s hs).sum
  · intro tallies h
    have total := tallies.total
    rw [(resumed h s hs).total] at total
    have positive := List.length_pos_iff.mpr h.history_ne_nil
    rw [List.length_nil] at total
    omega

/-! ## A playbook that is deleted and created again -/

theorem loaded_of_isOk {d : Desk} (h : (finish load d).1.isOk = true) :
    Loaded (finish load d).2 := by
  refine ⟨d, ?_⟩
  rcases hl : finish load d with ⟨e | a, d'⟩
  · simp [hl, Except.isOk, Except.toBool] at h
  · rfl

def firstDay : Desk :=
  (finish load ⟨fresh ⟨"definitions", "templates", "history"⟩ .standard 8, .empty⟩).2

theorem loaded_firstDay : Loaded firstDay :=
  loaded_of_isOk (by decide +kernel)

def waiting : Value :=
  .record [("id", .text "a"), ("name", .text "A"), ("version", .text "1.0.0"),
    ("author", .text "b"),
    ("actions", .list [.record [("id", .text "w"), ("type", .text "wait"), ("value", .int 1)]])]

def waited : HistoryEntry :=
  ⟨"h", "a", ⟨2024, 3, 1, 10, 20, 30, 0, some 0⟩, true, 0, 0.0, [], [], []⟩

def comeback : List Request :=
  [.create waiting, .record waited, .delete "a", .create waiting]

theorem tallies_iff_not_resumed_created :
    (firstDay.afterAll [.create waiting]).registry.playbooks.contains "a" = true ∧
    ∃ s, (firstDay.afterAll [.create waiting]).registry.stats.find? "a" = some s ∧
      s.successful + s.failed = s.total ∧
      (s.Tallies ((firstDay.afterAll [.create waiting]).registry.historyOf "a") ↔
        ¬ Resumed firstDay [.create waiting] "a") ∧
      (Resumed firstDay [.create waiting] "a" → s.Tallies []) := by
  have registered :
      (firstDay.afterAll [.create waiting]).registry.playbooks.contains "a" = true := by
    decide +kernel
  exact ⟨registered, tallies_iff_not_resumed loaded_firstDay _ registered⟩

/-- Not every run leaves counts of the history: a playbook that comes back has an execution
and counts none. -/
theorem comeback_counts_nothing :
    ¬ ∀ d, Loaded d → ∀ (qs : List Request) (id : String),
      (d.afterAll qs).registry.playbooks.contains id = true →
      ∃ s, (d.afterAll qs).registry.stats.find? id = some s ∧
        s.Tallies ((d.afterAll qs).registry.historyOf id) := by
  intro claim
  obtain ⟨s, hs, tallies⟩ := claim firstDay loaded_firstDay comeback "a" (by decide +kernel)
  have counted :
      ((firstDay.afterAll comeback).registry.stats.find? "a").map Stats.total = some 0 := by
    decide +kernel
  have kept : ((firstDay.afterAll comeback).registry.historyOf "a").length = 1 := by
    decide +kernel
  rw [hs] at counted
  have total := tallies.total
  rw [kept, Option.some.inj counted] at total
  cases total

end Registry

end Scout
