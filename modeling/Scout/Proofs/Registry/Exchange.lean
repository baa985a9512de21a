import Scout.Proofs.Registry.Restored

/-!
# Documents that go out and come back

A playbook or an execution that was read from a document is read back from both of its
document forms, and from the file that it is saved in.  A playbook that was created
stays fit to be created again as long as it is registered: it can be exported, deleted
and imported, unless it was exported into the very file that deleting it removes.
-/

namespace Scout

open Files (Location Tree)
open Library (fileName stored)

/-! ## Files that stay files -/

namespace Files.Tree

variable {t t' : Tree} {l k : Location}

def HasFile (t : Tree) (l : Location) : Prop :=
  ∃ c, t.at? l = some (.file c)

theorem HasFile.of_grows (h : t.HasFile l) (grown : t.GrowsTo t') : t'.HasFile l :=
  h.imp fun c hc => (grown.sameFiles l c).2 hc

theorem hasFile_put_self (ne_nil : l ≠ []) (c : Content) : (t.put l (.file c)).HasFile l :=
  ⟨c, t.at?_put_self (.file c) ne_nil⟩

theorem HasFile.put (h : t.HasFile l) (k : Location) (c : Content) :
    (t.put k (.file c)).HasFile l := by
  by_cases hk : l = k
  · subst hk
    refine hasFile_put_self ?_ c
    rintro rfl
    obtain ⟨c', root⟩ := h
    cases root
  · exact h.imp fun c' hc => (t.at?_put_of_ne (.file c) hk).trans hc

theorem HasFile.erase (h : t.HasFile l) (other : l ≠ k) : (t.erase k).HasFile l :=
  h.imp fun _ hc => (t.at?_erase_of_ne other).trans hc

end Files.Tree

theorem hasFile_of_saving {t t' : Tree} {l : Location} {path written : String} {v : Value}
    {r : Except Files.Fault String} (h : t.HasFile l)
    (saving : finish (do Library.writeDocument path v; pure written) t = (r, t')) :
    t'.HasFile l := by
  obtain ⟨t₁, grown, ⟨_, -, rfl⟩ | ⟨k, -, -, -, rfl⟩⟩ := Library.save_outcome saving
  · exact h.of_grows grown
  · exact (h.of_grows grown).put k _

namespace Registry

variable {d d' : Desk} {D : Location} {id : String} {p : Playbook} {q : Request}

/-! ## Playbooks that can be created again -/

theorem maxDepth_adopt (r : Registry) (p : Playbook) : (r.adopt p).maxDepth = r.maxDepth := by
  unfold adopt withStats
  split <;> rfl

theorem maxDepth_enter (r : Registry) (e : HistoryEntry) : (r.enter e).maxDepth = r.maxDepth := by
  unfold enter
  split <;> rfl

/-- A playbook that passes the check and can be written, with a file in the place of its own. -/
structure Renewable (D : Location) (d : Desk) (p : Playbook) : Prop where
  isStorable : p.IsStorable
  passes : (p.check d.registry.maxDepth).isValid = true
  place : d.files.locate (d.registry.library.definitionPath p.id) = .ok (D ++ [fileName p.id])
  hasFile : d.files.HasFile (D ++ [fileName p.id])

theorem Renewable.noSlash (h : Renewable D d p) : '/' ∉ p.id.toList :=
  Check.noSlash_of_isId (Check.isId_of_check h.passes)

/-- What a desk has to keep for that. -/
theorem Renewable.of_keeps (h : Renewable D d p)
    (library : d'.registry.library = d.registry.library)
    (maxDepth : d'.registry.maxDepth = d.registry.maxDepth)
    (keeps : d.files.KeepsDirectories d'.files)
    (hasFile : d'.files.HasFile (D ++ [fileName p.id])) : Renewable D d' p where
  isStorable := h.isStorable
  passes := maxDepth ▸ h.passes
  place := library ▸ keeps.locate h.place
  hasFile := hasFile

theorem accepted_encode {r : Registry} (storable : p.IsStorable)
    (passes : (p.check r.maxDepth).isValid = true) : r.accepted p.encode = .ok p := by
  have decoded : Playbook.decode p.encode = .ok p := (Playbook.keeps storable).reads
  have examined : r.examine p.encode = .ok (p.check r.maxDepth, p.encode) := by
    rw [show p.encode = .record _ from rfl] at decoded ⊢
    simp [examine, checkDocument, decoded, bind, Except.bind, pure, Except.pure]
  simp [accepted, examined, passes, decoded]

theorem renewable_of_saved {document : Value} {path : String} {t : Tree}
    (opens : d.files.Opens d.registry.library.definitions D) (proper : document.isProper = true)
    (accepted : d.registry.accepted document = .ok p)
    (saving : finish (d.registry.library.savePlaybook p) d.files = (.ok path, t))
    {r : Registry} (library : r.library = d.registry.library)
    (maxDepth : r.maxDepth = d.registry.maxDepth) : Renewable D ⟨r, t⟩ p := by
  obtain ⟨place, free, rfl⟩ := files_of_saved opens (noSlash_of_accepted accepted) saving
  obtain ⟨ms, -, -, passes⟩ := of_accepted accepted
  exact {
    isStorable := isStorable_of_accepted proper accepted
    passes := maxDepth ▸ passes
    place := library ▸ (Tree.keepsDirectories_put free _).locate place
    hasFile := Tree.hasFile_put_self (by simp) _ }

/-- Whatever is registered under an id can be created again. -/
structure Renews (D : Location) (id : String) (d : Desk) : Prop where
  opens : d.files.Opens d.registry.library.definitions D
  playbook : ∀ p, d.registry.playbooks.find? id = some p → p.id = id ∧ Renewable D d p

theorem hasFile_of_savePlaybook {l : Library} {t t' : Tree} {r : Except Files.Fault String}
    {k : Location} (h : t.HasFile k) (saving : finish (l.savePlaybook p) t = (r, t')) :
    t'.HasFile k :=
  hasFile_of_saving h saving

/-- Deleting a playbook whose id has no slash leaves the files of the others where they are. -/
theorem hasFile_of_removal {l : Library} {t t' : Tree} {id other : String}
    {r : Except Files.Fault Unit} (opens : t.Opens l.definitions D) (noSlash : '/' ∉ id.toList)
    (ne : other ≠ id) (h : t.HasFile (D ++ [fileName other]))
    (removal : finish (l.removePlaybook id) t = (r, t')) :
    t'.HasFile (D ++ [fileName other]) := by
  rw [Library.removePlaybook] at removal
  rcases Files.Act.remove_outcome (l.definitionPath id) t with
    ⟨e, failed⟩ | ⟨k, c, place, -, done⟩
  · rw [failed] at removal
    cases removal
    exact h
  · rw [done] at removal
    cases removal
    have own : k = D ++ [fileName id] := by
      rcases opens.locate_join (Library.isFileName_fileName noSlash) with ⟨e, failed⟩ | found
      · cases place.symm.trans failed
      · exact Except.ok.inj (place.symm.trans found)
    refine h.erase ?_
    rw [own]
    simpa using fun e => ne (Library.fileName_injective e)

/-- What a desk has to keep for that, when it has the same playbook under the id. -/
theorem Renews.of_keeps (h : Renews D id d)
    (same : d'.registry.playbooks.find? id = d.registry.playbooks.find? id)
    (library : d'.registry.library = d.registry.library)
    (maxDepth : d'.registry.maxDepth = d.registry.maxDepth)
    (keeps : d.files.KeepsDirectories d'.files)
    (hasFile : d.files.HasFile (D ++ [fileName id]) → d'.files.HasFile (D ++ [fileName id])) :
    Renews D id d' where
  opens := library ▸ h.opens.of_keeps keeps
  playbook p hp := by
    rw [same] at hp
    obtain ⟨rfl, renewable⟩ := h.playbook p hp
    exact ⟨rfl, renewable.of_keeps library maxDepth keeps (hasFile renewable.hasFile)⟩

theorem renews_of_saved (opens : d.files.Opens d.registry.library.definitions D)
    {document : Value} {path : String} {t : Tree} {r : Registry}
    (proper : document.isProper = true) (accepted : d.registry.accepted document = .ok p)
    (saving : finish (d.registry.library.savePlaybook p) d.files = (.ok path, t))
    (registered : r.playbooks = d.registry.playbooks.put p.id p)
    (library : r.library = d.registry.library) (maxDepth : r.maxDepth = d.registry.maxDepth)
    (keeps : d.files.KeepsDirectories t) : Renews D p.id ⟨r, t⟩ := by
  refine ⟨library ▸ opens.of_keeps keeps, fun q hq => ?_⟩
  rw [registered, Members.find?_put_self, Option.some.injEq] at hq
  subst hq
  exact ⟨rfl, renewable_of_saved opens proper accepted saving library maxDepth⟩

theorem Renews.of_saved (h : Renews D id d) {document : Value} {path : String} {t : Tree}
    {r : Registry} (proper : document.isProper = true)
    (accepted : d.registry.accepted document = .ok p)
    (saving : finish (d.registry.library.savePlaybook p) d.files = (.ok path, t))
    (registered : r.playbooks = d.registry.playbooks.put p.id p)
    (library : r.library = d.registry.library) (maxDepth : r.maxDepth = d.registry.maxDepth)
    (keeps : d.files.KeepsDirectories t) : Renews D id ⟨r, t⟩ := by
  by_cases hid : id = p.id
  · subst hid
    exact renews_of_saved h.opens proper accepted saving registered library maxDepth keeps
  · have same : r.playbooks.find? id = d.registry.playbooks.find? id := by
      rw [registered, Members.find?_put_of_ne _ _ hid]
    exact h.of_keeps same library maxDepth keeps fun file => hasFile_of_savePlaybook file saving

/-- Every request keeps it, apart from deleting ids that lead out of the directory. -/
theorem Renews.after (h : Renews D id d) (proper : q.IsProper)
    (plain : ∀ id, q = .delete id → '/' ∉ id.toList) : Renews D id (q.after d) := by
  have keeps := (q.use d).changes.keepsDirectories
  have effect := q.effect d
  generalize q.after d = d' at effect keeps
  cases effect with
  | refused => exact h
  | unsaved accepted saving =>
    exact h.of_keeps rfl rfl rfl keeps fun file => hasFile_of_savePlaybook file saving
  | created asked accepted isNew saving =>
    exact h.of_saved (proper_submission? proper asked) accepted saving (playbooks_adopt _ _)
      (library_adopt _ _) (maxDepth_adopt _ _) keeps
  | replaced asked accepted isKnown saving =>
    subst asked
    exact h.of_saved proper accepted saving rfl rfl rfl keeps
  | undeleted removal unnameable =>
    obtain rfl := files_of_undeleted removal unnameable
    exact h
  | @deleted gone r t asked isKnown removal nameable =>
    by_cases hid : id = gone
    · subst hid
      refine ⟨h.opens.of_keeps keeps, fun p hp => ?_⟩
      exact absurd (hp.symm.trans (Members.find?_erase_self _ _)) (by simp)
    · exact h.of_keeps (Members.find?_erase_of_ne _ hid) rfl rfl keeps fun file =>
        hasFile_of_removal h.opens (plain gone asked) hid file removal
  | unrecorded asked saving unnameable =>
    exact h.of_keeps rfl rfl rfl keeps fun file => hasFile_of_saving file saving
  | recorded asked saving nameable =>
    exact h.of_keeps (congrArg (Members.find? · id) (playbooks_enter _ _)) (library_enter _ _)
      (maxDepth_enter _ _) keeps fun file => hasFile_of_saving file saving

theorem Renews.exported (h : Renews D id d) (other path : String) :
    Renews D id (finish (exportTo other path) d).2 := by
  have keeps := (use_exportTo other path d).changes.keepsDirectories
  rcases exportTo_outcome other path d with same | ⟨p, r, t, -, saving, left⟩
  · rw [same]
    exact h
  · rw [left] at keeps ⊢
    exact h.of_keeps rfl rfl rfl keeps fun file => hasFile_of_saving file saving

theorem renews_of_create {document : Value}
    (opens : d.files.Opens d.registry.library.definitions D) (proper : document.isProper = true)
    (created : finish (create document) d = (.ok p, d')) : Renews D p.id d' := by
  have keeps := ((Request.create document).use d).changes.keepsDirectories
  rw [Request.after, Request.act, finish_discard, created] at keeps
  rw [finish_create] at created
  cases accepted : d.registry.accepted document with
  | error e => simp [accepted] at created
  | ok saved =>
    simp only [accepted] at created
    split at created
    · cases created
    · rcases saving : finish (d.registry.library.savePlaybook saved) d.files with ⟨e | path, t⟩ <;>
        rw [saving] at created <;> cases created
      exact renews_of_saved opens proper accepted saving (playbooks_adopt _ _)
        (library_adopt _ _) (maxDepth_adopt _ _) keeps

/-- What a registry comes to that answers requests and exports playbooks: the data are documents,
and no id is deleted that leads out of the directory of the definitions. -/
inductive Served (d₀ : Desk) : Desk → Prop
  | start : Served d₀ d₀
  | request {d : Desk} (before : Served d₀ d) (q : Request) (proper : q.IsProper)
      (plain : ∀ id, q = .delete id → '/' ∉ id.toList) : Served d₀ (q.after d)
  | exported {d : Desk} (before : Served d₀ d) (id path : String) :
      Served d₀ (finish (exportTo id path) d).2

theorem Renews.served (h : Renews D id d) (served : Served d d') : Renews D id d' := by
  induction served with
  | start => exact h
  | request _ _ proper plain ih => exact ih.after proper plain
  | exported _ other path ih => exact ih.exported other path

/-! ## Exporting, deleting, importing -/

theorem finish_exportTo (id path : String) (d : Desk) :
    finish (exportTo id path) d = match d.registry.playbooks.find? id with
      | none => (.error (.unknown id), d)
      | some p => match finish (Library.writeDocument path p.encode) d.files with
        | (.ok _, t) => (.ok (Files.normal path), { d with files := t })
        | (.error e, t) => (.error (.library (.file e)), { d with files := t }) := by
  rw [exportTo, finish_bind]
  cases hp : d.registry.playbooks.find? id with
  | none => simp [require, get?, hp, finish_bind]
  | some p =>
    rcases hw : finish (Library.writeDocument path p.encode) d.files with ⟨e | a, t⟩ <;>
      simp [require, get?, hp, finish_bind, hw, Except.mapError, Except.map]

theorem of_exported {path name : String} (found : d.registry.playbooks.find? id = some p)
    (exported : finish (exportTo id path) d = (.ok name, d')) :
    d'.registry = d.registry ∧
      ∃ k, d'.files.locate path = .ok k ∧ d'.files.at? k = some (stored p.encode) := by
  rw [finish_exportTo, found] at exported
  obtain ⟨t₁, -, ⟨e, failed⟩ | ⟨k, place, free, done⟩⟩ :=
    Files.Act.writeFile_outcome path (.text (Json.document p.encode)) d.files
  · simp [Library.writeDocument, failed] at exported
  · simp only [Library.writeDocument, done] at exported
    cases exported
    have ne_nil : k ≠ [] := by
      rintro rfl
      exact free t₁.at?_nil
    exact ⟨rfl, k, (Tree.keepsDirectories_put free _).locate place, t₁.at?_put_self _ ne_nil⟩

theorem finish_delete_renewable (found : d.registry.playbooks.find? p.id = some p)
    (renewable : Renewable D d p) :
    finish (delete p.id) d =
      (.ok (), ⟨d.registry.forget p.id, d.files.erase (D ++ [fileName p.id])⟩) := by
  obtain ⟨c, file⟩ := renewable.hasFile
  have known : d.registry.playbooks.contains p.id = true := by
    rw [Members.contains, found]
    rfl
  have removed : finish (d.registry.library.removePlaybook p.id) d.files =
      (.ok (), d.files.erase (D ++ [fileName p.id])) :=
    Files.Act.finish_remove renewable.place file
  rw [finish_delete, if_pos known, removed]
  rfl

/-- A playbook that can be created again is created from its document once it is deleted. -/
theorem finish_create_renewable (opens : d.files.Opens d.registry.library.definitions D)
    (renewable : Renewable D d p) :
    ∃ d₁, finish (create p.encode)
        ⟨d.registry.forget p.id, d.files.erase (D ++ [fileName p.id])⟩ = (.ok p, d₁) ∧
      d₁.registry.playbooks.find? p.id = some p := by
  obtain ⟨c, file⟩ := renewable.hasFile
  have gone : (d.files.erase (D ++ [fileName p.id])).at? (D ++ [fileName p.id]) = none :=
    d.files.at?_erase_self (by simp)
  have keeps : d.files.KeepsDirectories (d.files.erase (D ++ [fileName p.id])) :=
    Tree.keepsDirectories_erase (by simp [file])
  have accepted : (d.registry.forget p.id).accepted p.encode = .ok p :=
    accepted_encode renewable.isStorable renewable.passes
  have isNew : (d.registry.forget p.id).playbooks.contains p.id = false := by
    change (d.registry.playbooks.erase p.id).contains p.id = false
    rw [Members.contains, Members.find?_erase_self]
    rfl
  have saved : finish ((d.registry.forget p.id).library.savePlaybook p)
      (d.files.erase (D ++ [fileName p.id])) =
        (.ok (d.registry.library.definitionPath p.id), _) :=
    Library.finish_save_at (opens.of_keeps keeps) renewable.noSlash (keeps.locate renewable.place)
      (by simp [gone])
  refine ⟨_, by rw [finish_create, accepted]; simp only [isNew, saved]; rfl, ?_⟩
  dsimp only
  rw [playbooks_adopt, Members.find?_put_self]

/-- A playbook that can be created again comes back after it was exported and deleted, unless it
was exported into its own file. -/
theorem finish_import_exported {path name : String} (renews : Renews D id d)
    (found : d.registry.playbooks.find? id = some p)
    (exported : finish (exportTo id path) d = (.ok name, d'))
    (elsewhere : d'.files.locate path ≠ d'.files.locate (d'.registry.library.definitionPath id)) :
    ∃ d₁ d₂, finish (delete id) d' = (.ok (), d₁) ∧
      finish (importFrom path) d₁ = (.ok p, d₂) ∧ d₂.registry.playbooks.find? id = some p := by
  have stays := renews.exported id path
  rw [exported] at stays
  obtain ⟨same, k, place, written⟩ := of_exported found exported
  have still : d'.registry.playbooks.find? id = some p := by rw [same, found]
  obtain ⟨rfl, renewable⟩ := stays.playbook p still
  obtain ⟨c, file⟩ := renewable.hasFile
  have outside : k ≠ D ++ [fileName p.id] := by
    rintro rfl
    exact elsewhere (place.trans renewable.place.symm)
  have read : Library.readDocument (d'.files.erase (D ++ [fileName p.id])) path = .ok p.encode := by
    have keeps : d'.files.KeepsDirectories (d'.files.erase (D ++ [fileName p.id])) :=
      Tree.keepsDirectories_erase (by simp [file])
    rw [Library.readDocument, Library.readValue_stored (keeps.locate place)
      ((Tree.at?_erase_of_ne _ outside).trans written) (Playbook.keeps renewable.isStorable).proper]
    rfl
  obtain ⟨d₂, created, registered⟩ := finish_create_renewable stays.opens renewable
  refine ⟨_, d₂, finish_delete_renewable still renewable, ?_, registered⟩
  rw [finish_importFrom, read]
  exact created

/-! ## Round trips -/

theorem loadPlaybook_of_saving {l : Library} {t t' : Tree} {path : String}
    (storable : p.IsStorable) (saving : finish (l.savePlaybook p) t = (.ok path, t')) :
    Library.loadPlaybook t' path = .ok p := by
  have keeps := Playbook.keeps storable
  rw [Library.savePlaybook] at saving
  obtain ⟨written, read⟩ := Library.readValue_of_saving keeps.proper saving
  rw [Library.loadPlaybook, written, read]
  simp [bind, Except.bind, Library.decodeAs, keeps.reads]

theorem loadExecution_of_saving {l : Library} {e : HistoryEntry} {t t' : Tree} {path : String}
    (storable : e.IsStorable) (saving : finish (l.saveExecution e) t = (.ok path, t')) :
    Library.loadExecution t' path = .ok e := by
  have keeps := HistoryEntry.keeps storable
  rw [Library.saveExecution] at saving
  obtain ⟨written, read⟩ := Library.readValue_of_saving keeps.proper saving
  rw [Library.loadExecution, written, read]
  simp [bind, Except.bind, Library.decodeAs, keeps.reads]

/-- What was read from a document is read back from both of its document forms and from the file
that it is saved in.  A playbook that was created is imported as it was from the file that it was
exported to, after it was deleted, unless that file is its own. -/
theorem document_roundtrip :
    (∀ v p, v.isProper = true → Playbook.decode v = .ok p →
      (∀ sp, Playbook.decode (p.encodeAs sp) = .ok p) ∧
      ∀ l t path t', finish (Library.savePlaybook l p) t = (.ok path, t') →
        Library.loadPlaybook t' path = .ok p) ∧
    (∀ v e, v.isProper = true → HistoryEntry.decode v = .ok e →
      (∀ sp, HistoryEntry.decode (e.encodeAs sp) = .ok e) ∧
      ∀ l t path t', finish (Library.saveExecution l e) t = (.ok path, t') →
        Library.loadExecution t' path = .ok e) ∧
    ∀ d₀ d, Loaded d₀ → d₀.registry.library.IsNormal → Reached d₀ d →
      ∀ document p d₁, document.isProper = true → finish (create document) d = (.ok p, d₁) →
      ∀ d₂, Served d₁ d₂ → ∀ q, d₂.registry.playbooks.find? p.id = some q →
      ∀ path name d₃, finish (exportTo p.id path) d₂ = (.ok name, d₃) →
      d₃.files.locate path ≠ d₃.files.locate (d₃.registry.library.definitionPath p.id) →
        ∃ d₄ d₅, finish (delete p.id) d₃ = (.ok (), d₄) ∧
          finish (importFrom path) d₄ = (.ok q, d₅) ∧
          d₅.registry.playbooks.find? p.id = some q := by
  refine ⟨fun v p proper decoded => ?_, fun v e proper decoded => ?_, ?_⟩
  · have storable := Playbook.isStorable_decode proper decoded
    exact ⟨fun sp => (Playbook.keeps_encodeAs sp storable).reads,
      fun _ _ _ _ => loadPlaybook_of_saving storable⟩
  · have storable := HistoryEntry.isStorable_decode proper decoded
    exact ⟨fun sp => (HistoryEntry.keeps_encodeAs sp storable).reads,
      fun _ _ _ _ => loadExecution_of_saving storable⟩
  · intro d₀ d loaded normal reached document p d₁ proper created d₂ served q found path name d₃
      exported elsewhere
    obtain ⟨order, -, -⟩ := reached.inOrder (loaded.inOrder normal)
    obtain ⟨D, opens⟩ := order.isOpen.definitions
    have renews := (renews_of_create opens proper created).served served
    exact finish_import_exported renews found exported elsewhere

theorem of_isOk {σ α ε : Type} {x : Except ε α × σ} (h : x.1.isOk = true) :
    ∃ a, x = (.ok a, x.2) := by
  obtain ⟨e | a, s⟩ := x
  · cases h
  · exact ⟨a, rfl⟩

theorem of_decoded {α : Type} {x : Decoded α} (f : α → Bool)
    (h : (match x with
      | .ok a => f a
      | _ => false) = true) : ∃ a, x = .ok a ∧ f a = true := by
  cases x with
  | ok a => exact ⟨a, rfl, h⟩
  | invalid _ => cases h

/-- The desk after a playbook was created on the first day. -/
def waitingDay : Desk :=
  (finish (create waiting) firstDay).2

def exportedDay (path : String) : Desk :=
  (finish (exportTo "a" path) waitingDay).2

/-- A playbook and an execution are dumped and saved, and the playbook is exchanged. -/
theorem document_roundtrip_waiting :
    (∃ p path t', Playbook.decode waiting = .ok p ∧
      Playbook.decode (p.encodeAs .camel) = .ok p ∧ Playbook.decode (p.encodeAs .snake) = .ok p ∧
      finish (Library.savePlaybook firstDay.registry.library p) firstDay.files = (.ok path, t') ∧
      Library.loadPlaybook t' path = .ok p) ∧
    (∃ e path t', HistoryEntry.decode (waited.encodeAs .camel) = .ok e ∧
      HistoryEntry.decode (e.encodeAs .camel) = .ok e ∧
      HistoryEntry.decode (e.encodeAs .snake) = .ok e ∧
      finish (Library.saveExecution firstDay.registry.library e) firstDay.files = (.ok path, t') ∧
      Library.loadExecution t' path = .ok e) ∧
    ∃ p name, finish (create waiting) firstDay = (.ok p, waitingDay) ∧
      finish (exportTo p.id "spare/a.json") waitingDay = (.ok name, exportedDay "spare/a.json") ∧
      (exportedDay "spare/a.json").files.locate "spare/a.json" ≠
        (exportedDay "spare/a.json").files.locate
          ((exportedDay "spare/a.json").registry.library.definitionPath p.id) ∧
      ∃ d₄ d₅, finish (delete p.id) (exportedDay "spare/a.json") = (.ok (), d₄) ∧
        finish (importFrom "spare/a.json") d₄ = (.ok p, d₅) ∧
        d₅.registry.playbooks.find? p.id = some p := by
  obtain ⟨playbooks, executions, exchanges⟩ := document_roundtrip
  refine ⟨?_, ?_, ?_⟩
  · obtain ⟨p, decoded, saves⟩ : ∃ p, Playbook.decode waiting = .ok p ∧
        (finish (Library.savePlaybook firstDay.registry.library p) firstDay.files).1.isOk = true :=
      of_decoded _ (by decide +kernel)
    obtain ⟨dumps, stores⟩ := playbooks waiting p rfl decoded
    obtain ⟨path, saved⟩ := of_isOk saves
    exact ⟨p, path, _, decoded, dumps _, dumps _, saved, stores _ _ _ _ saved⟩
  · obtain ⟨e, decoded, saves⟩ : ∃ e, HistoryEntry.decode (waited.encodeAs .camel) = .ok e ∧
        (finish (Library.saveExecution firstDay.registry.library e) firstDay.files).1.isOk = true :=
      of_decoded _ (by decide +kernel)
    obtain ⟨dumps, stores⟩ := executions (waited.encodeAs .camel) e (by decide +kernel) decoded
    obtain ⟨path, saved⟩ := of_isOk saves
    exact ⟨e, path, _, decoded, dumps _, dumps _, saved, stores _ _ _ _ saved⟩
  · obtain ⟨p, created, hid⟩ := of_creates waiting firstDay "a" (by decide +kernel)
    obtain ⟨name, exported⟩ : ∃ name, finish (exportTo "a" "spare/a.json") waitingDay =
        (.ok name, exportedDay "spare/a.json") := of_isOk (by decide +kernel)
    have elsewhere : (exportedDay "spare/a.json").files.locate "spare/a.json" ≠
        (exportedDay "spare/a.json").files.locate
          ((exportedDay "spare/a.json").registry.library.definitionPath "a") := by
      intro same
      have differ : ((exportedDay "spare/a.json").files.locate "spare/a.json").toOption ≠
          ((exportedDay "spare/a.json").files.locate
            ((exportedDay "spare/a.json").registry.library.definitionPath "a")).toOption := by
        decide +kernel
      exact differ (congrArg Except.toOption same)
    obtain ⟨D, opens⟩ := (loaded_firstDay.inOrder isNormal_firstDay).isOpen.definitions
    have found : waitingDay.registry.playbooks.find? p.id = some p := by
      rw [waitingDay, (of_defining opens (.inl created)).2.2.2, Members.find?_put_self]
    rw [← hid] at exported elsewhere
    refine ⟨p, name, created, exported, elsewhere, ?_⟩
    exact exchanges firstDay firstDay loaded_firstDay isNormal_firstDay .start waiting p
      waitingDay rfl created waitingDay .start p found "spare/a.json" name _ exported elsewhere

/-- A playbook does not come back from every file: deleting it removes its own one, also when it
was exported there. -/
theorem export_into_own_file :
    ¬ ∀ d₀ d, Loaded d₀ → d₀.registry.library.IsNormal → Reached d₀ d →
      ∀ document p d₁, document.isProper = true → finish (create document) d = (.ok p, d₁) →
      ∀ path name d₂, finish (exportTo p.id path) d₁ = (.ok name, d₂) →
        ∃ d₃ d₄, finish (delete p.id) d₂ = (.ok (), d₃) ∧
          finish (importFrom path) d₃ = (.ok p, d₄) := by
  intro claim
  obtain ⟨p, created, hid⟩ := of_creates waiting firstDay "a" (by decide +kernel)
  obtain ⟨name, exported⟩ : ∃ name, finish (exportTo "a" "definitions/a.json") waitingDay =
      (.ok name, exportedDay "definitions/a.json") := of_isOk (by decide +kernel)
  have refused : (finish (importFrom "definitions/a.json")
      (finish (delete "a") (exportedDay "definitions/a.json")).2).1.isOk = false := by
    decide +kernel
  rw [← hid] at exported
  obtain ⟨d₃, d₄, deleted, imported⟩ := claim firstDay firstDay loaded_firstDay isNormal_firstDay
    .start waiting p _ rfl created "definitions/a.json" name _ exported
  rw [hid] at deleted
  rw [deleted, imported] at refused
  cases refused

end Registry

end Scout
