import Scout.Library
import Scout.Proofs.Document.Playbooks
import Scout.Proofs.Files.Growth
import Scout.Proofs.Json.Reading
import Scout.Proofs.Json.Stored

/-!
# Stored collections

A collection is stored in a directory when the shelf of the directory holds the
document of each item under the name of the item, and nothing else.  Loading the
directory gives the items back, in the order of their names.
-/

namespace Scout

namespace Library

open Files (IsFileName Location Tree)

variable {t : Tree} {dir name path : String} {l : Location} {v : Value}

/-! ## One document -/

def stored (v : Value) : Files.Entry :=
  .file (.text (Json.document v))

def fileName (name : String) : String :=
  name ++ Tree.documentEnding

theorem fileName_toList (name : String) :
    (fileName name).toList = name.toList ++ ['.', 'j', 's', 'o', 'n'] := by
  simp [fileName, Tree.documentEnding]

theorem fileName_injective : Function.Injective fileName := by
  intro a b h
  have hchars := congrArg String.toList h
  rw [fileName_toList, fileName_toList] at hchars
  exact String.toList_injective (List.append_cancel_right hchars)

theorem isDocumentName_fileName (name : String) : Tree.isDocumentName (fileName name) = true := by
  rw [Tree.isDocumentName, fileName_toList, List.isSuffixOf_iff_suffix]
  exact List.suffix_append name.toList _

theorem isFileName_fileName (h : '/' ∉ name.toList) : IsFileName (fileName name) := by
  refine Files.isFileName_of_long ?_ ?_ <;> rw [fileName_toList]
  · simpa using h
  · rw [List.length_append]
    exact Nat.lt_of_lt_of_le (by decide) (Nat.le_add_left 5 _)

theorem readValue_stored (hl : t.locate path = .ok l) (he : t.at? l = some (stored v))
    (hv : v.isProper = true) : readValue t path = .ok v := by
  have hcontent : t.content path = .ok (.text (Json.document v)) := by
    simp [Tree.content, Tree.entry, hl, he, stored, bind, Except.bind, pure, Except.pure]
  rw [readValue, hcontent]
  simp [Except.mapError, bind, Except.bind, Json.read_document, Json.parse_document hv]

theorem proper_readValue (h : readValue t path = .ok v) : v.isProper = true := by
  unfold readValue at h
  cases hc : t.content path with
  | error e => simp [hc, Except.mapError, bind, Except.bind] at h
  | ok c =>
    cases hr : c.read with
    | error e => simp [hc, hr, Except.mapError, bind, Except.bind] at h
    | ok text =>
      cases hp : Json.parse text with
      | error e => simp [hc, hr, hp, Except.mapError, bind, Except.bind] at h
      | ok w =>
        simp only [hc, hr, hp, Except.mapError, bind, Except.bind] at h
        cases h
        exact Json.proper_parse hp

theorem proper_readDocument (h : readDocument t path = .ok v) : v.isProper = true := by
  unfold readDocument at h
  cases hr : readValue t path with
  | error e => simp [hr, Except.mapError] at h
  | ok w =>
    rw [hr] at h
    cases h
    exact proper_readValue hr

/-- Saving a document, wherever its path leads, lets the tree grow; then it puts the file
there, or fails. -/
theorem save_outcome {written : String} {r : Except Files.Fault String} {t' : Tree}
    (saving : finish (do writeDocument path v; pure written) t = (r, t')) :
    ∃ t₁, t.GrowsTo t₁ ∧
      ((∃ e, r = .error e ∧ t' = t₁) ∨
        ∃ l, t₁.locate path = .ok l ∧ t₁.at? l ≠ some .directory ∧ r = .ok written ∧
          t' = t₁.put l (stored v)) := by
  rw [finish_bind, writeDocument] at saving
  obtain ⟨t₁, grown, outcome⟩ := Files.Act.writeFile_outcome path (.text (Json.document v)) t
  refine ⟨t₁, grown, ?_⟩
  rcases outcome with ⟨e, failed⟩ | ⟨l, place, free, done⟩
  · rw [failed] at saving
    cases saving
    exact .inl ⟨e, rfl, rfl⟩
  · rw [done] at saving
    cases saving
    exact .inr ⟨l, place, free, rfl, rfl⟩

/-- Saving a document in an open directory puts its file there, or changes nothing. -/
theorem save_cases (h : t.Opens dir l) (hn : '/' ∉ name.toList) {r : Except Files.Fault String}
    {t' : Tree}
    (saving : finish (do writeDocument (documentPath dir name) v; pure path) t = (r, t')) :
    (∃ e, r = .error e ∧ t' = t) ∨
      r = .ok path ∧ t.locate (documentPath dir name) = .ok (l ++ [fileName name]) ∧
        t.at? (l ++ [fileName name]) ≠ some .directory ∧
        t' = t.put (l ++ [fileName name]) (stored v) := by
  rw [finish_bind, writeDocument] at saving
  rcases Files.Act.writeFile_cases h (isFileName_fileName hn) (.text (Json.document v)) with
    ⟨e, hfailed⟩ | ⟨place, free, hwritten⟩
  · rw [documentPath, ← fileName, hfailed] at saving
    cases saving
    exact .inl ⟨e, rfl, rfl⟩
  · rw [documentPath, ← fileName, hwritten] at saving
    cases saving
    exact .inr ⟨rfl, place, free, rfl⟩

/-- A document is saved when its path leads into its directory and no directory stands there. -/
theorem finish_save_at (h : t.Opens dir l) (hn : '/' ∉ name.toList)
    (place : t.locate (documentPath dir name) = .ok (l ++ [fileName name]))
    (free : t.at? (l ++ [fileName name]) ≠ some .directory) :
    finish (do writeDocument (documentPath dir name) v; pure path) t =
      (.ok path, t.put (l ++ [fileName name]) (stored v)) := by
  have written := Files.Act.finish_writeFile_put h (isFileName_fileName hn).isPart place free
    (.text (Json.document v))
  exact finish_bind_ok written fun _ => pure path

/-- A document is saved when its path can be used and no directory stands there. -/
theorem finish_save (h : t.Opens dir l) (hn : '/' ∉ name.toList)
    (fits : Tree.FitsIn dir (fileName name))
    (free : t.at? (l ++ [fileName name]) ≠ some .directory) :
    finish (do writeDocument (documentPath dir name) v; pure path) t =
      (.ok path, t.put (l ++ [fileName name]) (stored v)) :=
  finish_save_at h hn (h.locate_of_fitsIn (isFileName_fileName hn) fits) free

/-- A document that was saved stands where its path leads and reads as what was written. -/
theorem readValue_of_saving {written : String} {t' : Tree} (proper : v.isProper = true)
    (saving : finish (do writeDocument path v; pure written) t = (.ok name, t')) :
    name = written ∧ readValue t' path = .ok v := by
  obtain ⟨t₁, -, ⟨e, failed, -⟩ | ⟨k, place, free, done, rfl⟩⟩ := save_outcome saving
  · cases failed
  · have ne_nil : k ≠ [] := by
      rintro rfl
      exact free t₁.at?_nil
    cases done
    refine ⟨rfl, readValue_stored ?_ (t₁.at?_put_self (stored v) ne_nil) proper⟩
    exact (Tree.keepsDirectories_put free (stored v)).locate place

/-! ## Collections -/

section

variable {α : Type} {items : List α} {key : α → String} {write : α → Value} {d : Decoder α}

def shelfOf (key : α → String) (write : α → Value) (items : List α) : Members Files.Entry :=
  items.map fun a => (fileName (key a), stored (write a))

theorem find?_shelfOf (hkeys : (items.map key).Nodup) {a : α} (ha : a ∈ items) :
    (shelfOf key write items).find? (fileName (key a)) = some (stored (write a)) := by
  induction items with
  | nil => cases ha
  | cons b rest ih =>
    obtain ⟨hb, hrest⟩ := List.nodup_cons.1 hkeys
    rw [shelfOf, List.map_cons, Members.find?_cons]
    rcases List.mem_cons.1 ha with rfl | ha
    · rw [if_pos rfl]
    · have hne : fileName (key b) ≠ fileName (key a) := fun e =>
        hb (fileName_injective e ▸ List.mem_map_of_mem ha)
      rw [if_neg hne]
      exact ih hrest ha

theorem read_shelf (hshelf : t.shelf l = shelfOf key write items)
    (hkeys : (items.map key).Nodup) {a : α} (ha : a ∈ items)
    (hplace : t.locate (documentPath dir (key a)) = .ok (l ++ [fileName (key a)]))
    (hkeeps : d.Keeps write a) :
    (do decodeAs d (← readValue t (documentPath dir (key a)))) = .ok a := by
  have hentry : t.at? (l ++ [fileName (key a)]) = some (stored (write a)) :=
    (Tree.at?_document t l (isDocumentName_fileName _)).trans
      (by rw [hshelf, find?_shelfOf hkeys ha])
  rw [readValue_stored hplace hentry hkeeps.proper]
  simp [bind, Except.bind, decodeAs, hkeeps.reads]

theorem loadAll_shelf (h : t.Opens dir l) (hshelf : t.shelf l = shelfOf key write items)
    {read : String → Except Fault α}
    (hread : ∀ a ∈ items, read (documentPath dir (key a)) = .ok a) :
    ∃ loaded, loadAll t dir read = .ok loaded ∧ loaded.Perm items := by
  have hloaded : loadAll t dir read =
      .ok ((t.documents dir).filterMap fun path => (read path).toOption) := by
    rw [loadAll, h.isDirectory_eq]
    rfl
  have hnames : (t.shelf l).names.map (Files.join dir) =
      items.map fun a => documentPath dir (key a) := by
    simp [hshelf, shelfOf, Members.names, documentPath, fileName]
  have hitems : (items.map fun a => documentPath dir (key a)).filterMap
      (fun path => (read path).toOption) = items := by
    rw [List.filterMap_map, List.filterMap_congr (g := some), List.filterMap_some]
    intro a ha
    simp [hread a ha, Except.toOption]
  refine ⟨_, hloaded, ?_⟩
  rw [Tree.documents_eq h.place]
  have hsorted := ((List.mergeSort_perm (t.shelf l).names fun a b => !(b < a : Bool)).map
    (Files.join dir)).filterMap fun path => (read path).toOption
  rw [hnames, hitems] at hsorted
  exact hsorted

theorem loadAll_empty (h : t.Opens dir l) (hshelf : t.shelf l = [])
    (read : String → Except Fault α) : loadAll t dir read = .ok [] := by
  simp [loadAll, h.isDirectory_eq, Tree.documents_eq h.place, hshelf, Except.mapError, pure,
    Except.pure, bind, Except.bind, Members.names, Tree.inOrder]

end

end Library

end Scout
