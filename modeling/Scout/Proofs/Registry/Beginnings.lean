import Scout.Proofs.Registry.Restored

/-!
# Where statistics begin

The statistics of a playbook begin when its id comes to the registry: at loading with the
first file that has the id, later with the playbook that is created.  The playbook itself
is the one that came last.  An update takes over the name and leaves the success rate, so
until an execution is recorded the rate is the one that the first playbook stated.
-/

namespace Scout

namespace Registry

variable {d : Desk} {q : Request} {r r' : Registry} {id : String} {p : Playbook}

/-! ## Playbooks that requests register -/

/-- The playbook that a request registers, new or in the place of another one. -/
def Request.registers? (q : Request) (d : Desk) : Option Playbook :=
  match q with
  | create document => (finish (Registry.create document) d).1.toOption
  | update document => (finish (Registry.update document) d).1.toOption
  | fromTemplate template id given =>
    (finish (Registry.fromTemplate template id given) d).1.toOption
  | importFrom path => (finish (Registry.importFrom path) d).1.toOption
  | delete _ | execute _ _ | record _ => none

/-- The playbook that a request registers under an id that is new. -/
def Request.begins? (q : Request) (d : Desk) : Option Playbook :=
  (q.registers? d).filter fun p => !d.registry.playbooks.contains p.id

/-- The playbooks that requests give, one after another. -/
def gathered (give : Request → Desk → Option Playbook) (d : Desk) : List Request → List Playbook
  | [] => []
  | q :: rest => (give q d).toList ++ gathered give (q.after d) rest

theorem gathered_append (give : Request → Desk → Option Playbook) (d : Desk) (qs : List Request)
    (q : Request) :
    gathered give d (qs ++ [q]) = gathered give d qs ++ (give q (d.afterAll qs)).toList := by
  induction qs generalizing d with
  | nil => simp [gathered]
  | cons q' rest ih =>
    rw [List.cons_append, gathered, ih, gathered, List.append_assoc]
    rfl

def firstOf (id : String) (ps : List Playbook) : Option Playbook :=
  (ps.filter fun p => p.id == id).head?

def lastOf (id : String) (ps : List Playbook) : Option Playbook :=
  (ps.filter fun p => p.id == id).getLast?

theorem lastOf_append (id : String) (ps : List Playbook) (o : Option Playbook) :
    lastOf id (ps ++ o.toList) = (o.filter fun p => p.id == id).or (lastOf id ps) := by
  cases o with
  | none => simp [lastOf]
  | some p =>
    by_cases hid : p.id = id <;> simp [lastOf, List.filter_append, Option.filter_some, hid]

theorem id_of_lastOf {ps : List Playbook} (h : lastOf id ps = some p) : p.id = id := by
  have found := (List.mem_filter.1 (List.mem_of_getLast? h)).2
  simpa using found

/-! ## How a registry moves -/

/-- What one request makes of a registry, with the playbook that it registers. -/
inductive Moves (r : Registry) : Option Playbook → Registry → Prop
  | stays : Moves r none r
  | forgets (id : String) : Moves r none (r.forget id)
  | enters (e : HistoryEntry) : Moves r none (r.enter e)
  | adopts {p : Playbook} (isNew : r.playbooks.contains p.id = false) :
      Moves r (some p) (r.adopt p)
  | replaces {p : Playbook} (isKnown : r.playbooks.contains p.id = true) :
      Moves r (some p) (r.replace p)

theorem moves_create (document : Value) (d : Desk) :
    Moves d.registry (finish (create document) d).1.toOption
      (finish (create document) d).2.registry := by
  rw [finish_create]
  cases d.registry.accepted document with
  | error e => exact .stays
  | ok p =>
    dsimp only
    split
    · exact .stays
    · next isNew =>
      rcases finish (d.registry.library.savePlaybook p) d.files with ⟨e | path, t⟩
      · exact .stays
      · exact .adopts (by simpa using isNew)

theorem moves_update (document : Value) (d : Desk) :
    Moves d.registry (finish (Registry.update document) d).1.toOption
      (finish (Registry.update document) d).2.registry := by
  rw [finish_update_playbook]
  cases d.registry.accepted document with
  | error e => exact .stays
  | ok p =>
    dsimp only
    split
    · next isKnown =>
      rcases finish (d.registry.library.savePlaybook p) d.files with ⟨e | path, t⟩
      · exact .stays
      · exact .replaces isKnown
    · exact .stays

theorem moves_record (e : HistoryEntry) (d : Desk) :
    Moves d.registry none ((Request.record e).after d).registry := by
  rw [Request.after, Request.act, finish_record]
  dsimp only
  split
  · exact .stays
  · exact .enters e

/-- Every request moves the registry in one of these ways. -/
theorem Request.moves (q : Request) (d : Desk) :
    Moves d.registry (q.registers? d) (q.after d).registry := by
  cases q with
  | create document =>
    rw [after, act, finish_discard]
    exact moves_create document d
  | update document =>
    rw [after, act, finish_discard]
    exact moves_update document d
  | delete id =>
    rw [after, act, finish_delete]
    split
    · dsimp only
      split
      · exact .stays
      · exact .forgets id
    · exact .stays
  | fromTemplate template id given =>
    rw [after, act, finish_discard, registers?, finish_fromTemplate]
    cases d.registry.library.loadTemplate d.files template with
    | error e => exact .stays
    | ok ms => exact moves_create _ d
  | importFrom path =>
    rw [after, act, finish_discard, registers?, finish_importFrom]
    rcases Library.readDocument d.files path with e | v
    · exact .stays
    · cases v with
      | record ms => exact moves_create _ d
      | _ => exact .stays
  | execute id visit =>
    have executed : (execute id visit).after d =
        (d.registry.performance? id visit).elim d fun e => (record e).after d := by
      rw [after, act, finish_execute]
      cases d.registry.performance? id visit <;> rfl
    rw [executed]
    cases d.registry.performance? id visit with
    | none => exact .stays
    | some e =>
      rw [Option.elim_some]
      exact moves_record e d
  | record entry => exact moves_record entry d

/-! ## Names and rates -/

/-- The playbook under an id is the given one, the name in its statistics is that of the second
playbook and, as long as nothing was executed, the rate that of the third. -/
structure StemsFrom (r : Registry) (id : String) (current named begun : Option Playbook) :
    Prop where
  current : ∀ p, r.playbooks.find? id = some p → current = some p
  name : ∀ s, r.stats.find? id = some s → named.map Playbook.name = some s.name
  rate : r.historyOf id = [] → ∀ s, r.stats.find? id = some s →
    begun.map (fun p => p.metadata.successRate) = some s.successRate

variable {current named begun : Option Playbook}

theorem StemsFrom.congr (h : StemsFrom r id current named begun)
    (playbooks : r'.playbooks.find? id = r.playbooks.find? id)
    (history : r'.historyOf id = r.historyOf id)
    (stats : r'.stats.find? id = r.stats.find? id) : StemsFrom r' id current named begun where
  current := by
    rw [playbooks]
    exact h.current
  name := by
    rw [stats]
    exact h.name
  rate := by
    rw [history, stats]
    exact h.rate

@[simp] theorem Stats.name_recount (s : Stats) (entries : List HistoryEntry) :
    (s.recount entries).name = s.name := by
  unfold Stats.recount
  split <;> rfl

theorem name_enter {s : Stats} {e : HistoryEntry}
    (h : (r.enter e).stats.find? e.playbookId = some s) :
    ∃ s₀, r.stats.find? e.playbookId = some s₀ ∧ s.name = s₀.name := by
  have counted : ((r.keep e).recount e.playbookId).stats.find? e.playbookId =
      (r.stats.find? e.playbookId).map fun s => s.recount ((r.keep e).historyOf e.playbookId) :=
    find?_stats_recount_self (r.keep e) e.playbookId
  unfold enter at h
  split at h
  · rw [date, Members.find?_modify, if_pos rfl, counted, Option.map_map] at h
    obtain ⟨s₀, hs₀, rfl⟩ := Option.map_eq_some_iff.1 h
    exact ⟨s₀, hs₀, Stats.name_recount _ _⟩
  · rw [counted] at h
    obtain ⟨s₀, hs₀, rfl⟩ := Option.map_eq_some_iff.1 h
    exact ⟨s₀, hs₀, Stats.name_recount _ _⟩

theorem find?_stats_adopt_self (isNew : r.stats.contains p.id = false) :
    (r.adopt p).stats.find? p.id = some (Stats.starting p) := by
  simp [adopt, withStats, withPlaybook, isNew, Members.find?_put_self]

theorem StemsFrom.forget (h : StemsFrom r id current named begun) (i : String) :
    StemsFrom (r.forget i) id current named begun := by
  by_cases hid : id = i
  · subst hid
    have noPlaybook : (r.forget id).playbooks.find? id = none := Members.find?_erase_self _ _
    have noStats : (r.forget id).stats.find? id = none := Members.find?_erase_self _ _
    exact ⟨by simp [noPlaybook], by simp [noStats], by simp [noStats]⟩
  · have playbook : (r.forget i).playbooks.find? id = r.playbooks.find? id :=
      Members.find?_erase_of_ne _ hid
    have stats : (r.forget i).stats.find? id = r.stats.find? id :=
      Members.find?_erase_of_ne _ hid
    exact h.congr playbook rfl stats

theorem StemsFrom.enter (h : StemsFrom r id current named begun) (e : HistoryEntry) :
    StemsFrom (r.enter e) id current named begun := by
  by_cases hid : id = e.playbookId
  · subst hid
    refine ⟨?_, fun s hs => ?_, fun none => ?_⟩
    · simpa [playbooks_enter] using h.current
    · obtain ⟨s₀, hs₀, same⟩ := name_enter hs
      rw [same]
      exact h.name s₀ hs₀
    · -- an execution is recorded now
      rw [historyOf_enter, if_pos rfl] at none
      simp at none
  · have history : (r.enter e).historyOf id = r.historyOf id := by
      rw [historyOf_enter, if_neg (Ne.symm hid)]
    exact h.congr (by rw [playbooks_enter]) history (find?_stats_enter_of_ne r hid)

theorem stemsFrom_adopt_self (isNew : r.stats.contains p.id = false) :
    StemsFrom (r.adopt p) p.id (some p) (some p) (some p) := by
  have stats := find?_stats_adopt_self isNew
  have playbook : (r.adopt p).playbooks.find? p.id = some p := by
    rw [playbooks_adopt, Members.find?_put_self]
  constructor
  · simp [playbook]
  · simp [stats, Stats.starting]
  · simp [stats, Stats.starting]

theorem StemsFrom.adopt_of_ne (h : StemsFrom r id current named begun) (hid : id ≠ p.id) :
    StemsFrom (r.adopt p) id current named begun := by
  have playbook : (r.adopt p).playbooks.find? id = r.playbooks.find? id := by
    rw [playbooks_adopt, Members.find?_put_of_ne _ _ hid]
  exact h.congr playbook (historyOf_adopt r p id) (find?_stats_adopt_of_ne r hid)

/-- An update brings a playbook and a name; the rate stays the one that the statistics began
with. -/
theorem StemsFrom.replace_self (h : StemsFrom r p.id current named begun) :
    StemsFrom (r.replace p) p.id (some p) (some p) begun := by
  have playbook : (r.replace p).playbooks.find? p.id = some p := Members.find?_put_self _ _ _
  refine ⟨by simp [playbook], fun s hs => ?_, fun none s hs => ?_⟩
  · rw [find?_stats_replace, if_pos rfl] at hs
    obtain ⟨s₀, -, rfl⟩ := Option.map_eq_some_iff.1 hs
    rfl
  · rw [find?_stats_replace, if_pos rfl] at hs
    obtain ⟨s₀, hs₀, rfl⟩ := Option.map_eq_some_iff.1 hs
    exact h.rate none s₀ hs₀

theorem StemsFrom.replace_of_ne (h : StemsFrom r id current named begun) (hid : id ≠ p.id) :
    StemsFrom (r.replace p) id current named begun := by
  have playbook : (r.replace p).playbooks.find? id = r.playbooks.find? id :=
    Members.find?_put_of_ne _ _ hid
  exact h.congr playbook rfl (by rw [find?_stats_replace, if_neg hid])

/-- The playbook that a move registers takes the place of the given ones, and what was begun only
if its id is new. -/
theorem StemsFrom.moves {o : Option Playbook} (h : StemsFrom r id current named begun)
    (paired : r.Paired) (moves : Moves r o r') :
    StemsFrom r' id ((o.filter fun p => p.id == id).or current)
      ((o.filter fun p => p.id == id).or named)
      (((o.filter fun p => !r.playbooks.contains p.id).filter fun p => p.id == id).or begun) := by
  cases moves with
  | stays => exact h
  | forgets i => exact h.forget i
  | enters e => exact h.enter e
  | @adopts p isNew =>
    by_cases hid : id = p.id
    · subst hid
      simpa [Option.filter_some, isNew] using stemsFrom_adopt_self ((paired p.id).trans isNew)
    · simpa [Option.filter_some, Ne.symm hid, isNew] using h.adopt_of_ne hid
  | @replaces p isKnown =>
    by_cases hid : id = p.id
    · subst hid
      simpa [Option.filter_some, isKnown] using h.replace_self
    · simpa [Option.filter_some, Ne.symm hid, isKnown] using h.replace_of_ne hid

/-! ## What loading begins with -/

theorem find?_stats_foldl_adopt (ps : List Playbook) (r : Registry) (id : String) :
    (ps.foldl adopt r).stats.find? id =
      (r.stats.find? id).or ((firstOf id ps).map Stats.starting) := by
  induction ps generalizing r with
  | nil => simp [firstOf]
  | cons p rest ih =>
    rw [List.foldl_cons, ih]
    by_cases hid : p.id = id
    · subst hid
      cases hs : r.stats.find? p.id with
      | none =>
        have isNew : r.stats.contains p.id = false := by simp [Members.contains, hs]
        simp [find?_stats_adopt_self isNew, firstOf]
      | some s =>
        have known : r.stats.contains p.id = true := by simp [Members.contains, hs]
        simp [adopt, withStats, withPlaybook, known, hs]
    · rw [find?_stats_adopt_of_ne r (Ne.symm hid)]
      simp [firstOf, hid]

theorem name_tally (r : Registry) (i id : String) :
    ((r.tally i).stats.find? id).map Stats.name = (r.stats.find? id).map Stats.name := by
  unfold tally
  split
  · rfl
  · by_cases hi : id = i
    · subst hi
      simp [find?_stats_recount_self, Function.comp_def]
    · rw [find?_stats_recount_of_ne r hi]

theorem find?_stats_tally_of_nil (r : Registry) (i : String) (none : r.historyOf id = []) :
    (r.tally i).stats.find? id = r.stats.find? id := by
  by_cases hi : id = i
  · subst hi
    rw [tally, none]
    rfl
  · exact find?_stats_tally_of_ne r hi

/-- Counting changes no name, and nothing of a playbook without executions. -/
theorem stats_foldl_tally (ids : List String) (r : Registry) (id : String) :
    ((ids.foldl tally r).stats.find? id).map Stats.name = (r.stats.find? id).map Stats.name ∧
      (r.historyOf id = [] → (ids.foldl tally r).stats.find? id = r.stats.find? id) := by
  induction ids generalizing r with
  | nil => exact ⟨rfl, fun _ => rfl⟩
  | cons i rest ih =>
    obtain ⟨name, rate⟩ := ih (r.tally i)
    refine ⟨name.trans (name_tally r i id), fun none => ?_⟩
    exact (rate (by rwa [historyOf_tally])).trans (find?_stats_tally_of_nil r i none)

theorem library_foldl_tally (ids : List String) (r : Registry) :
    (ids.foldl tally r).library = r.library := by
  induction ids generalizing r with
  | nil => rfl
  | cons i rest ih =>
    refine (ih (r.tally i)).trans ?_
    unfold tally
    split <;> rfl

/-- A loaded playbook is the last that the files have under its id; its statistics begin with the
first. -/
theorem Loaded.stemsFrom (loaded : Loaded d) :
    ∃ files, Library.loadPlaybooks d.files d.registry.library.definitions = .ok files ∧
      ∀ id, StemsFrom d.registry id (lastOf id files) (firstOf id files) (firstOf id files) := by
  obtain ⟨d₀, h⟩ := loaded
  obtain ⟨files, history, t, read, -, counted⟩ := of_load h
  rw [finish_countAll counted]
  have library : (d₀.registry.holding files history).library = d₀.registry.library :=
    library_foldl_adopt files d₀.registry.emptied
  refine ⟨files, ?_, fun id => ?_⟩
  · dsimp only
    rw [library_foldl_tally, library]
    exact read
  · have stats : (d₀.registry.holding files history).stats.find? id =
        (firstOf id files).map Stats.starting := by
      refine (find?_stats_foldl_adopt files d₀.registry.emptied id).trans ?_
      simp [emptied]
    have playbooks : (d₀.registry.holding files history).playbooks.find? id = lastOf id files := by
      refine (find?_foldl_adopt files d₀.registry.emptied id).trans ?_
      simp [emptied, lastOf]
    obtain ⟨kept, registered, -⟩ := foldl_tally (d₀.registry.holding files history).stats.names
      (d₀.registry.holding files history) id
    obtain ⟨name, rate⟩ := stats_foldl_tally (d₀.registry.holding files history).stats.names
      (d₀.registry.holding files history) id
    refine ⟨fun p hp => ?_, fun s hs => ?_, fun none s hs => ?_⟩
    · rwa [registered, playbooks] at hp
    · rw [hs, stats] at name
      simpa [Stats.starting, Function.comp_def] using name.symm
    · rw [rate (kept.symm.trans none), stats] at hs
      obtain ⟨f, hf, rfl⟩ := Option.map_eq_some_iff.1 hs
      simp [hf, Stats.starting]

/-! ## Runs -/

theorem stemsFrom_afterAll (paired : d.registry.Paired)
    (h : StemsFrom d.registry id current named begun) (qs : List Request) :
    StemsFrom (d.afterAll qs).registry id
      ((lastOf id (gathered Request.registers? d qs)).or current)
      ((lastOf id (gathered Request.registers? d qs)).or named)
      ((lastOf id (gathered Request.begins? d qs)).or begun) := by
  induction qs using List.reverseRecOn with
  | nil => exact h
  | append_singleton rest q ih =>
    have moved := ih.moves (paired_afterAll paired rest) (q.moves _)
    rw [Desk.afterAll_append]
    simpa only [gathered_append, lastOf_append, Option.or_assoc, Request.begins?] using moved

/-- A search judges a playbook by its success rate alone among its statistics. -/
theorem passes_congr (f : Filters) {s s' : Stats} (rate : s.successRate = s'.successRate)
    (p : Playbook) : passes f (some s) p = passes f (some s') p := by
  have same : passesRate (some s) f.minSuccessRate = passesRate (some s') f.minSuccessRate := by
    cases f.minSuccessRate <;> simp [passesRate, rate]
  rw [passes, passes, same]

theorem mem_search {f : Filters} {s : Stats} (playbook : r.playbooks.find? p.id = some p)
    (stats : r.stats.find? p.id = some s) : p ∈ r.search f ↔ passes f (some s) p = true := by
  have listed : p ∈ r.list := List.mem_map_of_mem (Members.mem_of_find? playbook)
  rw [search, List.mem_filter, stats]
  exact and_iff_right listed

/-- A loaded playbook that was never executed is searched by the rate of the first file that has its
id. -/
theorem mem_search_loaded {files : List Playbook} {b : Playbook} (loaded : Loaded d)
    (read : Library.loadPlaybooks d.files d.registry.library.definitions = .ok files)
    (playbook : d.registry.playbooks.find? p.id = some p)
    (unexecuted : d.registry.historyOf p.id = [])
    (rate : (firstOf p.id files).map (fun b => b.metadata.successRate) =
      some b.metadata.successRate) (f : Filters) :
    p ∈ d.registry.search f ↔ passes f (some (Stats.starting b)) p = true := by
  obtain ⟨files', read', stems⟩ := loaded.stemsFrom
  cases read.symm.trans read'
  have known := loaded.counted.1 p.id
  rw [Members.contains, Members.contains, playbook] at known
  obtain ⟨s, hs⟩ := Option.isSome_iff_exists.1 known
  have same : s.successRate = (Stats.starting b).successRate :=
    Option.some.inj (((stems p.id).rate unexecuted s hs).symm.trans rate)
  rw [mem_search playbook hs, passes_congr f same]

/-- After any requests the registered playbooks are those with statistics.  The name in them is that
of the playbook, unless it is still the one that was loaded and another file came first.  As long as
nothing was executed, the rate in them, by which it is searched, is the one of the playbook that
they began with: the one last created, or else the first file.  So a search finds it after a restart
as before when the first file then has that rate. -/
theorem statistics_stem_from (loaded : Loaded d) (qs : List Request) :
    (∀ id, (d.afterAll qs).registry.stats.contains id =
      (d.afterAll qs).registry.playbooks.contains id) ∧
    ∃ files, Library.loadPlaybooks d.files d.registry.library.definitions = .ok files ∧
      ∀ id p s, (d.afterAll qs).registry.playbooks.find? id = some p →
        (d.afterAll qs).registry.stats.find? id = some s →
        (lastOf id (gathered Request.registers? d qs)).or (lastOf id files) = some p ∧
        (s.name = p.name ↔ (lastOf id (gathered Request.registers? d qs)).isSome = true ∨
          (firstOf id files).map Playbook.name = some p.name) ∧
        ((d.afterAll qs).registry.historyOf id = [] →
          ∃ b, (lastOf id (gathered Request.begins? d qs)).or (firstOf id files) = some b ∧
            s.successRate = b.metadata.successRate ∧
            (∀ f, p ∈ (d.afterAll qs).registry.search f ↔
              passes f (some (Stats.starting b)) p = true) ∧
            ∀ d' files', Loaded d' →
              Library.loadPlaybooks d'.files d'.registry.library.definitions = .ok files' →
              d'.registry.playbooks.find? id = some p → d'.registry.historyOf id = [] →
              (firstOf id files').map (fun b => b.metadata.successRate) =
                some b.metadata.successRate →
              ∀ f, p ∈ d'.registry.search f ↔ p ∈ (d.afterAll qs).registry.search f) := by
  have paired := loaded.counted.1
  obtain ⟨files, read, stems⟩ := loaded.stemsFrom
  refine ⟨paired_afterAll paired qs, files, read, fun id p s hp hs => ?_⟩
  obtain ⟨current, name, rate⟩ := stemsFrom_afterAll paired (stems id) qs
  have playbook := current p hp
  have named := name s hs
  obtain rfl : p.id = id := by
    rcases Option.or_eq_some_iff.1 playbook with last | ⟨-, last⟩
    · exact id_of_lastOf last
    · exact id_of_lastOf last
  refine ⟨playbook, ?_, fun none => ?_⟩
  · cases hl : lastOf p.id (gathered Request.registers? d qs) with
    | none =>
      rw [hl, Option.none_or] at named
      simp [named]
    | some n =>
      rw [hl, Option.some_or] at playbook named
      cases playbook
      simpa using named.symm
  · obtain ⟨b, hb, same⟩ := Option.map_eq_some_iff.1 (rate none s hs)
    have searched (f : Filters) : p ∈ (d.afterAll qs).registry.search f ↔
        passes f (some (Stats.starting b)) p = true := by
      have starting : s.successRate = (Stats.starting b).successRate := same.symm
      rw [mem_search hp hs, passes_congr f starting]
    refine ⟨b, hb, same.symm, searched, ?_⟩
    intro d' files' loaded' read' playbook' unexecuted first f
    rw [searched f, mem_search_loaded loaded' read' playbook' unexecuted first f]

theorem statistics_stem_from_update :
    ∃ p s, Loaded (fileDay "a.json" "a") ∧
      ((fileDay "a.json" "a").afterAll [.update waiting]).registry.playbooks.find? "a" = some p ∧
      ((fileDay "a.json" "a").afterAll [.update waiting]).registry.stats.find? "a" = some s ∧
      s.name = p.name := by
  have loaded : Loaded (fileDay "a.json" "a") := loaded_dayOf (by decide +kernel)
  obtain ⟨paired, files, -, stems⟩ := statistics_stem_from loaded [.update waiting]
  have registered : ((fileDay "a.json" "a").afterAll
      [.update waiting]).registry.playbooks.contains "a" = true := by decide +kernel
  obtain ⟨p, hp⟩ := Option.isSome_iff_exists.1 registered
  obtain ⟨s, hs⟩ := Option.isSome_iff_exists.1 ((paired "a").trans registered)
  have updated : (lastOf "a" (gathered Request.registers? (fileDay "a.json" "a")
      [.update waiting])).isSome = true := by decide +kernel
  exact ⟨p, s, loaded, hp, hs, (stems "a" p s hp hs).2.1.2 (.inl updated)⟩

def rated (rate : Int) : Value :=
  .record [("id", .text "a"), ("name", .text "A"), ("version", .text "1.0.0"),
    ("author", .text "b"), ("metadata", .record [("successRate", .int rate)]),
    ("actions", .list [.record [("id", .text "w"), ("type", .text "wait"), ("value", .int 1)]])]

/-- A desk whose playbook was created with one rate and updated with another. -/
def ratedDay : Desk :=
  firstDay.afterAll [.create (rated 80), .update (rated 20)]

/-- The rate of a playbook that was never executed is not always the one that it states: an update
leaves the rate that its statistics began with. -/
theorem update_leaves_rate :
    ¬ ∀ d, Loaded d → ∀ (qs : List Request) (id : String) p s,
      (d.afterAll qs).registry.playbooks.find? id = some p →
      (d.afterAll qs).registry.stats.find? id = some s →
      s.name = p.name ∧
      ((d.afterAll qs).registry.historyOf id = [] → s.successRate = p.metadata.successRate) := by
  intro claim
  obtain ⟨p, hp, updated⟩ : ∃ p, ratedDay.registry.playbooks.find? "a" = some p ∧
      p.metadata.successRate.toBits = (20.0 : Float).toBits :=
    Option.map_eq_some_iff.1 (by decide +kernel)
  obtain ⟨s, hs, created⟩ : ∃ s, ratedDay.registry.stats.find? "a" = some s ∧
      s.successRate.toBits = (80.0 : Float).toBits :=
    Option.map_eq_some_iff.1 (by decide +kernel)
  have unexecuted : ratedDay.registry.historyOf "a" = [] :=
    List.length_eq_zero_iff.1 (by decide +kernel)
  have same := (claim firstDay loaded_firstDay _ "a" p s hp hs).2 unexecuted
  have differ : (80.0 : Float).toBits ≠ (20.0 : Float).toBits := by decide +kernel
  rw [← created, ← updated, same] at differ
  exact differ rfl

end Registry

end Scout
