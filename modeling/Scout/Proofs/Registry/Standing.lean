import Scout.Proofs.Library.Reading
import Scout.Proofs.Registry.Restart

/-!
# Registries in use

Loading a registry makes the directories of its library.  From then on they stay:
whatever the registry is used for writes or removes one file at a time, and never a
directory.
-/

namespace Scout

open Files (Location Tree)

/-! ## Open libraries -/

namespace Library

variable {l : Library} {t t' : Tree} {dir : String}

/-- Whether the paths of a library are written in their shortest form. -/
structure IsNormal (l : Library) : Prop where
  definitions : Files.normal l.definitions = l.definitions
  templates : Files.normal l.templates = l.templates
  history : Files.normal l.history = l.history

/-- Whether the directories of a library are there. -/
structure IsOpen (l : Library) (t : Tree) : Prop where
  definitions : ∃ D, t.Opens l.definitions D
  templates : ∃ T, t.Opens l.templates T
  history : ∃ H, t.Opens l.history H

theorem IsOpen.of_keeps (h : l.IsOpen t) (keeps : t.KeepsDirectories t') : l.IsOpen t' where
  definitions := h.definitions.imp fun _ hD => hD.of_keeps keeps
  templates := h.templates.imp fun _ hT => hT.of_keeps keeps
  history := h.history.imp fun _ hH => hH.of_keeps keeps

theorem IsOpen.finish_ensureDirectories (h : l.IsOpen t) :
    finish l.ensureDirectories t = (.ok (), t) := by
  obtain ⟨_, definitions⟩ := h.definitions
  obtain ⟨_, templates⟩ := h.templates
  obtain ⟨_, history⟩ := h.history
  exact Registry.finish_ensureDirectories definitions templates history

theorem opens_of_isDirectory (shortest : Files.normal dir = dir)
    (h : t.isDirectory dir = .ok true) : ∃ k, t.Opens dir k := by
  unfold Tree.isDirectory Tree.entry at h
  cases hl : t.locate dir with
  | error e =>
    obtain ⟨cause, path⟩ := e
    cases cause <;> simp [hl, bind, Except.bind] at h
  | ok k =>
    refine ⟨k, shortest, hl, ?_⟩
    cases hk : t.at? k with
    | none => simp [hl, hk, bind, Except.bind] at h
    | some e =>
      cases e with
      | directory => rfl
      | file c => simp [hl, hk, bind, Except.bind, pure, Except.pure] at h

theorem of_ensureDirectory (shortest : Files.normal dir = dir)
    (h : finish (ensureDirectory dir) t = (.ok (), t')) :
    t.GrowsTo t' ∧ ∃ k, t'.Opens dir k := by
  rw [ensureDirectory, finish_bind, finish_get] at h
  dsimp only at h
  rw [finish_bind, finish_lift] at h
  cases hd : t.isDirectory dir with
  | error e => simp [hd] at h
  | ok isThere =>
    rw [hd] at h
    cases isThere with
    | true =>
      cases h
      exact ⟨.refl, opens_of_isDirectory shortest hd⟩
    | false =>
      have grown := Files.Act.grows_makeDirectories dir t
      have made := Files.Act.isDirectory_of_makeDirectories h
      rw [shortest] at made
      rw [show (finish (Files.Act.makeDirectories dir) t).2 = t' from congrArg Prod.snd h] at grown
      exact ⟨grown, opens_of_isDirectory shortest made⟩

theorem of_ensureDirectories (h : finish l.ensureDirectories t = (.ok (), t')) :
    ∃ t₁ t₂, finish (ensureDirectory l.definitions) t = (.ok (), t₁) ∧
      finish (ensureDirectory l.templates) t₁ = (.ok (), t₂) ∧
      finish (ensureDirectory l.history) t₂ = (.ok (), t') := by
  rw [ensureDirectories, finish_bind] at h
  rcases hd : finish (ensureDirectory l.definitions) t with ⟨e | a, t₁⟩
  · simp [hd] at h
  rw [hd] at h
  dsimp only at h
  rw [finish_bind] at h
  rcases ht : finish (ensureDirectory l.templates) t₁ with ⟨e | b, t₂⟩
  · simp [ht] at h
  rw [ht] at h
  exact ⟨t₁, t₂, rfl, ht, h⟩

theorem grows_ensureDirectories (normal : l.IsNormal)
    (h : finish l.ensureDirectories t = (.ok (), t')) : t.GrowsTo t' := by
  obtain ⟨t₁, t₂, definitions, templates, history⟩ := of_ensureDirectories h
  have first := (of_ensureDirectory normal.definitions definitions).1
  have second := (of_ensureDirectory normal.templates templates).1
  have third := (of_ensureDirectory normal.history history).1
  exact first.trans (second.trans third)

theorem isOpen_of_ensureDirectories (normal : l.IsNormal)
    (h : finish l.ensureDirectories t = (.ok (), t')) : l.IsOpen t' := by
  obtain ⟨t₁, t₂, hd, ht, hh⟩ := of_ensureDirectories h
  -- each directory stays while the next ones are made
  obtain ⟨-, D, definitions⟩ := of_ensureDirectory normal.definitions hd
  obtain ⟨second, T, templates⟩ := of_ensureDirectory normal.templates ht
  obtain ⟨third, history⟩ := of_ensureDirectory normal.history hh
  have later := second.keepsDirectories.trans third.keepsDirectories
  exact ⟨⟨D, definitions.of_keeps later⟩, ⟨T, templates.of_keeps third.keepsDirectories⟩, history⟩

end Library

namespace Registry

variable {q : Request} {d d' : Desk}

theorem isNormal_ofSettings (s : Settings) : (ofSettings s).library.IsNormal :=
  ⟨Files.normal_normal _, Files.normal_normal _, Files.normal_normal _⟩

/-! ## Requests change one file at most -/

theorem changes_of_saving {t t' : Tree} {path written : String} {v : Value}
    {r : Except Files.Fault String}
    (saving : finish (do Library.writeDocument path v; pure written) t = (r, t')) :
    t.ChangesTo t' := by
  obtain ⟨t₁, grown, ⟨_, -, rfl⟩ | ⟨k, place, free, -, rfl⟩⟩ := Library.save_outcome saving
  · exact .grown grown
  · exact .written grown place free _

theorem changes_of_removal {t t' : Tree} {l : Library} {id : String} {r : Except Files.Fault Unit}
    (removal : finish (l.removePlaybook id) t = (r, t')) : t.ChangesTo t' := by
  rw [Library.removePlaybook] at removal
  rcases Files.Act.remove_outcome (l.definitionPath id) t with
    ⟨e, failed⟩ | ⟨k, c, place, file, done⟩
  · rw [failed] at removal
    cases removal
    exact .grown .refl
  · rw [done] at removal
    cases removal
    exact .removed place file

theorem Effect.changes (effect : Effect q d d') : d.files.ChangesTo d'.files := by
  cases effect with
  | refused => exact .grown .refl
  | unsaved _ saving | created _ _ _ saving | replaced _ _ _ saving | unrecorded _ saving _
  | recorded _ saving _ => exact changes_of_saving saving
  | undeleted removal _ | deleted _ _ removal _ => exact changes_of_removal removal

/-- Exporting a playbook saves it wherever the path leads, and leaves the registry as it is. -/
theorem exportTo_outcome (id path : String) (d : Desk) :
    (finish (exportTo id path) d).2 = d ∨
      ∃ p r t, d.registry.playbooks.find? id = some p ∧
        finish (do Library.writeDocument path p.encode; pure path) d.files = (r, t) ∧
        (finish (exportTo id path) d).2 = { d with files := t } := by
  rw [exportTo, finish_bind]
  cases hp : d.registry.playbooks.find? id with
  | none =>
    left
    simp [require, get?, hp, finish_bind]
  | some p =>
    right
    rcases saving : finish (do Library.writeDocument path p.encode; pure path) d.files with ⟨r, t⟩
    refine ⟨p, r, t, rfl, saving, ?_⟩
    rw [finish_bind] at saving
    rcases hw : finish (Library.writeDocument path p.encode) d.files with ⟨e | a, t'⟩
    all_goals
      rw [hw] at saving
      cases saving
      simp [require, get?, hp, finish_bind, hw, Except.mapError]

/-! ## Playbooks under their ids -/

/-- Whether the playbooks of a registry stand under their own ids. -/
def IsKeyed (r : Registry) : Prop :=
  ∀ m ∈ r.playbooks, m.1 = m.2.id

theorem IsKeyed.put {r r' : Registry} (h : r.IsKeyed) {p : Playbook}
    (put : r'.playbooks = r.playbooks.put p.id p) : r'.IsKeyed := by
  intro m hm
  rw [put] at hm
  rcases Members.mem_put hm with hm | rfl
  · exact h m hm
  · rfl

theorem IsKeyed.foldl_adopt {r : Registry} (h : r.IsKeyed) (playbooks : List Playbook) :
    (playbooks.foldl adopt r).IsKeyed := by
  induction playbooks generalizing r with
  | nil => exact h
  | cons p rest ih => exact ih (h.put (playbooks_adopt r p))

theorem isKeyed_emptied (r : Registry) : r.emptied.IsKeyed := by
  simp [IsKeyed, emptied]

theorem Effect.isKeyed (effect : Effect q d d') (h : d.registry.IsKeyed) : d'.registry.IsKeyed := by
  cases effect with
  | refused | unsaved | undeleted | unrecorded => exact h
  | created => exact h.put (playbooks_adopt _ _)
  | replaced => exact h.put rfl
  | deleted => exact fun m hm => h m (List.mem_filter.1 hm).1
  | recorded =>
    intro m hm
    dsimp only at hm
    rw [playbooks_enter] at hm
    exact h m hm

/-! ## Desks in order -/

/-- The directories of a desk are there, and its playbooks stand under their ids. -/
structure Desk.InOrder (d : Desk) : Prop where
  isOpen : d.registry.library.IsOpen d.files
  isKeyed : d.registry.IsKeyed

theorem Loaded.inOrder (loaded : Loaded d) (normal : d.registry.library.IsNormal) :
    d.InOrder := by
  obtain ⟨d₀, hload⟩ := loaded
  obtain ⟨ensured, playbooks, history, -, -, hr⟩ := holds_of_load hload
  refine ⟨Library.isOpen_of_ensureDirectories normal ensured, fun m hm => ?_⟩
  rw [hr.playbooks] at hm
  exact (isKeyed_emptied _).foldl_adopt playbooks m hm

/-- From open directories, loading takes over what can be read and changes no file, whether or not
it can read the history. -/
theorem load_outcome (h : d.registry.library.IsOpen d.files) :
    ∃ outcome r, finish load d = (outcome, ⟨r, d.files⟩) ∧
      r.library = d.registry.library ∧
      r.playbooks = ((Library.loaded d.files d.registry.library.definitions).foldl adopt
        d.registry.emptied).playbooks := by
  obtain ⟨D, definitions⟩ := h.definitions
  rw [finish_load, h.finish_ensureDirectories]
  dsimp only
  rw [Library.loadPlaybooks_eq definitions]
  dsimp only
  split
  · exact ⟨_, _, rfl, library_foldl_adopt _ _, rfl⟩
  · next history _ =>
    obtain ⟨outcome, r, hcount, -, hr⟩ := finish_countAll_holds _
      ⟨d.registry.holding (Library.loaded d.files d.registry.library.definitions) history, d.files⟩
    exact ⟨outcome, r, hcount, hr.library.trans (library_foldl_adopt _ _), hr.playbooks⟩

/-- What a registry comes to that is in use: it answers requests, exports playbooks and is loaded
again. -/
inductive Reached (d₀ : Desk) : Desk → Prop
  | start : Reached d₀ d₀
  | request {d : Desk} (before : Reached d₀ d) (q : Request) : Reached d₀ (q.after d)
  | exported {d : Desk} (before : Reached d₀ d) (id path : String) :
      Reached d₀ (finish (exportTo id path) d).2
  | reloaded {d : Desk} (before : Reached d₀ d) : Reached d₀ (finish load d).2

theorem Reached.afterAll (d : Desk) (qs : List Request) : Reached d (d.afterAll qs) := by
  induction qs using List.reverseRecOn with
  | nil => exact .start
  | append_singleton rest q ih =>
    rw [Desk.afterAll_append]
    exact ih.request q

/-- What one use of a registry keeps: its library stays, one file changes at most, and playbooks
that stood under their ids still do. -/
structure Use (d d' : Desk) : Prop where
  library : d'.registry.library = d.registry.library
  changes : d.files.ChangesTo d'.files
  isKeyed : d.registry.IsKeyed → d'.registry.IsKeyed

theorem Request.use (q : Request) (d : Desk) : Use d (q.after d) :=
  ⟨library_after q d, (q.effect d).changes, (q.effect d).isKeyed⟩

theorem use_exportTo (id path : String) (d : Desk) : Use d (finish (exportTo id path) d).2 := by
  rcases exportTo_outcome id path d with same | ⟨p, r, t, -, saving, left⟩
  · rw [same]
    exact ⟨rfl, .grown .refl, fun h => h⟩
  · rw [left]
    exact ⟨rfl, changes_of_saving saving, fun h => h⟩

theorem use_load (h : d.registry.library.IsOpen d.files) : Use d (finish load d).2 := by
  obtain ⟨outcome, r, hload, library, playbooks⟩ := load_outcome h
  rw [hload]
  refine ⟨library, .grown .refl, fun _ m hm => ?_⟩
  rw [playbooks] at hm
  exact (isKeyed_emptied _).foldl_adopt _ m hm

theorem Use.inOrder (use : Use d d') (h : d.InOrder) : d'.InOrder := by
  refine ⟨?_, use.isKeyed h.isKeyed⟩
  rw [use.library]
  exact h.isOpen.of_keeps use.changes.keepsDirectories

/-- A registry in use stays in order, its library stays the same, and no file gets a name that
files cannot have. -/
theorem Reached.inOrder (reached : Reached d d') (h : d.InOrder) :
    d'.InOrder ∧ d'.registry.library = d.registry.library ∧
      (d.files.IsNamed → d'.files.IsNamed) := by
  have step {d₁ d₂ : Desk} (use : Use d₁ d₂) (ih : d₁.InOrder ∧
      d₁.registry.library = d.registry.library ∧ (d.files.IsNamed → d₁.files.IsNamed)) :
      d₂.InOrder ∧ d₂.registry.library = d.registry.library ∧
        (d.files.IsNamed → d₂.files.IsNamed) :=
    ⟨use.inOrder ih.1, use.library.trans ih.2.1, fun named => use.changes.isNamed (ih.2.2 named)⟩
  induction reached with
  | start => exact ⟨h, rfl, fun named => named⟩
  | request _ q ih => exact step (q.use _) ih
  | exported _ id path ih => exact step (use_exportTo id path _) ih
  | reloaded _ ih => exact step (use_load ih.1.isOpen) ih

/-! ## Homes with files -/

theorem isNamed_of_all {t : Tree}
    (h : (t.home ++ t.entries.flatMap Prod.fst).all (fun n =>
      n != "" && n != "." && n != ".." && !n.toList.contains '/') = true) : t.IsNamed := by
  have hname (n : String) (hn : n ∈ t.home ++ t.entries.flatMap Prod.fst) :
      Files.IsFileName n := by
    have passes := List.all_eq_true.1 h n hn
    simp only [Bool.and_eq_true, bne_iff_ne, Bool.not_eq_true', List.contains_eq_mem,
      decide_eq_false_iff_not] at passes
    obtain ⟨⟨⟨nonempty, ne_dot⟩, ne_above⟩, noSlash⟩ := passes
    exact ⟨⟨nonempty, ne_dot, noSlash⟩, ne_above⟩
  refine ⟨fun n hn => hname n (by simp [hn]), fun m hm n hn => hname n ?_⟩
  exact List.mem_append_right _ (List.mem_flatMap.2 ⟨m, hm, hn⟩)

theorem isNormal_firstDay : firstDay.registry.library.IsNormal :=
  ⟨by decide +kernel, by decide +kernel, by decide +kernel⟩

theorem isNamed_firstDay : firstDay.files.IsNamed :=
  isNamed_of_all (by decide +kernel)

/-- A home with a directory for definitions and some files, each under its way from the home. -/
def homeOf (files : List (Location × String)) : Tree :=
  files.foldl (fun t m => t.put (t.home ++ m.1) (.file (.text m.2)))
    (Tree.empty.put ["srv", "home", "definitions"] .directory)

def dayOf (files : List (Location × String)) : Desk :=
  (finish load ⟨fresh ⟨"definitions", "templates", "history"⟩ .standard 8, homeOf files⟩).2

theorem loaded_dayOf {files : List (Location × String)}
    (h : (finish load ⟨fresh ⟨"definitions", "templates", "history"⟩ .standard 8,
      homeOf files⟩).1.isOk = true) : Loaded (dayOf files) :=
  loaded_of_isOk h

end Registry

end Scout
