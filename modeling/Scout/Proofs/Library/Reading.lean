import Scout.Proofs.Library.Stored

/-!
# Documents that are read

Loading a directory reads every document in it, in the order of their names.  Several
files may read as playbooks with one id; of these the one whose name comes last is kept.
What a file reads as depends on its contents alone, so a new file adds what it holds and
leaves what the others hold.
-/

namespace Scout

/-! ## The last of a sorted list -/

/-- In a list that is sorted, the last item is given by the greatest element that gives one. -/
theorem getLast?_filterMap_eq_some {α β : Type} [LinearOrder α] {f : α → Option β} {as : List α}
    (sorted : as.Pairwise (· ≤ ·)) {b : β} :
    (as.filterMap f).getLast? = some b ↔
      ∃ a ∈ as, f a = some b ∧ ∀ a' ∈ as, (f a').isSome → a' ≤ a := by
  induction as using List.reverseRecOn with
  | nil => simp
  | append_singleton as last ih =>
    obtain ⟨before, -, below⟩ := List.pairwise_append.1 sorted
    have greatest (a : α) (ha : a ∈ as ++ [last]) : a ≤ last := by
      rcases List.mem_append.1 ha with ha | ha
      · exact below a ha last List.mem_cons_self
      · exact (List.mem_singleton.1 ha).le
    rw [List.filterMap_append]
    cases hlast : f last with
    | none =>
      rw [List.filterMap_cons_none hlast, List.filterMap_nil, List.append_nil, ih before]
      simp [hlast, or_imp, forall_and]
    | some c =>
      rw [List.filterMap_cons_some hlast, List.filterMap_nil, List.getLast?_concat,
        Option.some.injEq]
      constructor
      · rintro rfl
        exact ⟨last, by simp, hlast, fun a ha _ => greatest a ha⟩
      · rintro ⟨a, ha, hb, above⟩
        -- nothing stands above the last element, so it is the one that gives the item
        have hsame : a = last :=
          le_antisymm (greatest a ha) (above last (by simp) (by simp [hlast]))
        rw [hsame, hlast] at hb
        exact Option.some.inj hb

namespace Files.Tree

variable {t t' : Tree} {D : Location} {dir name : String}

/-! ## Files in an open directory -/

theorem content_eq_ok {path : String} {c : Content} :
    t.content path = .ok c ↔ ∃ k, t.locate path = .ok k ∧ t.at? k = some (.file c) := by
  unfold content entry
  cases hk : t.locate path with
  | error e => simp [bind, Except.bind]
  | ok k =>
    rcases he : t.at? k with _ | c' | _ <;>
      simp [he, bind, Except.bind, pure, Except.pure]

/-- What a path gives depends on where it leads and on what stands there. -/
theorem content_congr {path : String} (place : t'.locate path = t.locate path)
    (kept : ∀ l, t.locate path = .ok l → t'.at? l = t.at? l) :
    t'.content path = t.content path := by
  unfold content entry
  rw [place]
  cases hl : t.locate path with
  | error e => rfl
  | ok l => simp [kept l hl, bind, Except.bind]

/-- Where the path of a file in a directory leads depends on the directory alone. -/
theorem Opens.locate_congr (h : t.Opens dir D) (h' : t'.Opens dir D) (hn : IsFileName name) :
    t'.locate (join dir name) = t.locate (join dir name) := by
  have hfollow {s : Tree} (hs : s.Opens dir D) :
      s.follow (s.start (join dir name)) (partsOf (join dir name)) =
        if nameLimit < name.utf8ByteSize then .error .nameTooLong else .ok (D ++ [name]) := by
    rw [start_join hn.isPart, partsOf_join hn.isPart, follow_append,
      (locate_eq_ok.1 hs.place).2.2]
    simp [follow, hs.isDirectory, hn.ne_above]
  have hstart := (hfollow h').trans (hfollow h).symm
  unfold start at hstart
  rw [locate, locate, hstart]

theorem inOrder_sorted (names : List String) : (inOrder names).Pairwise (· ≤ ·) := by
  have hle (a b : String) : (!(b < a : Bool)) = true ↔ a ≤ b := by
    rw [Bool.not_eq_true', decide_eq_false_iff_not, not_lt]
  have trans (a b c : String) (h : (!(b < a : Bool)) = true) (h' : (!(c < b : Bool)) = true) :
      (!(c < a : Bool)) = true :=
    (hle a c).2 (((hle a b).1 h).trans ((hle b c).1 h'))
  have total (a b : String) : ((!(b < a : Bool)) || !(a < b : Bool)) = true := by
    rw [Bool.or_eq_true, hle, hle]
    exact le_total a b
  exact (List.pairwise_mergeSort trans total names).imp fun h => (hle _ _).1 h

theorem mem_shelf (hd : isDocumentName name = true) {e : Entry} (h : t.at? (D ++ [name]) = some e) :
    name ∈ (t.shelf D).names := by
  rw [at?_document t D hd] at h
  exact List.mem_map_of_mem (Members.mem_of_find? h)

theorem names_shelf_put (hd : isDocumentName name = true) (free : t.at? (D ++ [name]) = none)
    (e : Entry) :
    name ∉ (t.shelf D).names ∧
      ((t.put (D ++ [name]) e).shelf D).names = (t.shelf D).names ++ [name] := by
  have isNew : name ∉ (t.shelf D).names := by
    rw [← Members.contains_eq_true_iff, Members.contains, ← at?_document t D hd, free]
    simp
  refine ⟨isNew, ?_⟩
  rw [shelf_put_self t D hd, Members.put_of_not_mem _ isNew]
  simp [Members.names]

theorem IsNamed.shelf (named : t.IsNamed) (h : name ∈ (t.shelf D).names) :
    isDocumentName name = true ∧ IsFileName name := by
  obtain ⟨⟨n, e⟩, hm, rfl⟩ := List.mem_map.1 h
  obtain ⟨m, hentry, hdocument⟩ := List.mem_filterMap.1 hm
  obtain ⟨rfl, hname⟩ := document?_eq_some hdocument
  exact ⟨hname, named.entry _ hentry n (by simp)⟩

/-- Of the names in an open directory under which something can be read, those of documents are
listed. -/
theorem listed_iff {c : Content} (opens : t.Opens dir D) (named : t.IsNamed)
    (readable : t.content (join dir name) = .ok c) :
    name ∈ inOrder (t.shelf D).names ↔ isDocumentName name = true ∧ IsFileName name := by
  have unsorted : name ∈ inOrder (t.shelf D).names ↔ name ∈ (t.shelf D).names := List.mem_mergeSort
  rw [unsorted]
  refine ⟨named.shelf, fun ⟨isDocument, isFileName⟩ => ?_⟩
  obtain ⟨k, place, file⟩ := content_eq_ok.1 readable
  rcases opens.locate_join isFileName with ⟨e, failed⟩ | found
  · cases failed.symm.trans place
  · cases found.symm.trans place
    exact mem_shelf isDocument file

end Files.Tree

namespace Library

open Files (IsFileName Location Tree)

variable {t t' : Tree} {D : Location} {dir name id : String} {p : Playbook}

/-! ## Files that read as playbooks -/

/-- Whether a file with these contents reads as a playbook. -/
def Holds (c : Files.Content) (p : Playbook) : Prop :=
  ∃ text v, c.read = .ok text ∧ Json.parse text = .ok v ∧ Playbook.decode v = .ok p

theorem loadPlaybook_eq_ok {path : String} :
    loadPlaybook t path = .ok p ↔ ∃ c, t.content path = .ok c ∧ Holds c p := by
  unfold loadPlaybook readValue Holds
  cases hc : t.content path with
  | error e => simp [Except.mapError, bind, Except.bind]
  | ok c =>
    cases hr : c.read with
    | error e => simp [hr, Except.mapError, bind, Except.bind]
    | ok text =>
      cases hp : Json.parse text with
      | error e => simp [hr, hp, Except.mapError, bind, Except.bind]
      | ok v =>
        cases hd : Playbook.decode v <;>
          simp [hr, hp, hd, Except.mapError, bind, Except.bind, decodeAs]

theorem holds_stored {v : Value} (hv : v.isProper = true) :
    Holds (.text (Json.document v)) p ↔ Playbook.decode v = .ok p := by
  simp [Holds, Json.read_document, Json.parse_document hv]

/-- Whether the document of a name in a directory reads as a playbook. -/
structure Defines (t : Tree) (dir name : String) (p : Playbook) : Prop where
  isDocument : Tree.isDocumentName name = true
  isFileName : IsFileName name
  reads : loadPlaybook t (Files.join dir name) = .ok p

theorem Defines.file (h : Defines t dir name p) (opens : t.Opens dir D) :
    t.locate (Files.join dir name) = .ok (D ++ [name]) ∧
      ∃ c, t.at? (D ++ [name]) = some (.file c) ∧ Holds c p := by
  obtain ⟨c, hcontent, hc⟩ := loadPlaybook_eq_ok.1 h.reads
  obtain ⟨k, hk, hfile⟩ := Tree.content_eq_ok.1 hcontent
  rcases opens.locate_join h.isFileName with ⟨e, failed⟩ | place
  · cases failed.symm.trans hk
  · cases place.symm.trans hk
    exact ⟨place, c, hfile, hc⟩

theorem Defines.congr (h : Defines t dir name p) (opens : t.Opens dir D) (opens' : t'.Opens dir D)
    (kept : ∀ c, t.at? (D ++ [name]) = some (.file c) → t'.at? (D ++ [name]) = some (.file c)) :
    Defines t' dir name p := by
  obtain ⟨place, c, hfile, hc⟩ := h.file opens
  have place' := (opens.locate_congr opens' h.isFileName).trans place
  exact ⟨h.isDocument, h.isFileName,
    loadPlaybook_eq_ok.2 ⟨c, Tree.content_eq_ok.2 ⟨_, place', kept c hfile⟩, hc⟩⟩

theorem defines_congr (opens : t.Opens dir D) (opens' : t'.Opens dir D)
    (same : ∀ c, t'.at? (D ++ [name]) = some (.file c) ↔ t.at? (D ++ [name]) = some (.file c)) :
    Defines t' dir name p ↔ Defines t dir name p :=
  ⟨fun h => h.congr opens' opens fun c => (same c).1,
    fun h => h.congr opens opens' fun c => (same c).2⟩

/-! ## Writing and removing -/

/-- Storing a document leaves what other files read as; its own file reads as what it decodes to. -/
theorem defines_put_iff {l : Location} {v : Value} (opens : t.Opens dir D)
    (free : t.at? l ≠ some .directory) (hv : v.isProper = true)
    (foreign : ∀ q, Playbook.decode v = .ok q → q.id ≠ p.id) :
    Defines (t.put l (stored v)) dir name p ↔ D ++ [name] ≠ l ∧ Defines t dir name p := by
  have opens' := opens.of_keeps (Tree.keepsDirectories_put free (stored v))
  have away (h : D ++ [name] ≠ l) :
      Defines (t.put l (stored v)) dir name p ↔ Defines t dir name p :=
    defines_congr opens opens' fun c => by rw [t.at?_put_of_ne (stored v) h]
  refine ⟨fun h => ?_, fun ⟨hne, h⟩ => (away hne).2 h⟩
  by_cases hne : D ++ [name] = l
  · -- a file in the place of the document holds the document, which reads as something else
    obtain ⟨-, c, hfile, hc⟩ := h.file opens'
    rw [hne, t.at?_put_self (stored v) (by simp [← hne])] at hfile
    cases hfile
    exact absurd rfl (foreign p ((holds_stored hv).1 hc))
  · exact ⟨hne, (away hne).1 h⟩

/-- Saving a document, wherever its path leads, brings back no playbook but what it decodes to. -/
theorem defines_of_saving {path written : String} {v : Value} {r : Except Files.Fault String}
    (opens : t.Opens dir D)
    (saving : finish (do writeDocument path v; pure written) t = (r, t')) (hv : v.isProper = true)
    (foreign : ∀ q, Playbook.decode v = .ok q → q.id ≠ p.id) (h : Defines t' dir name p) :
    Defines t dir name p := by
  obtain ⟨t₁, grown, outcome⟩ := save_outcome saving
  have opens₁ := opens.of_keeps grown.keepsDirectories
  have grew : Defines t₁ dir name p ↔ Defines t dir name p :=
    defines_congr opens opens₁ fun c => grown.sameFiles (D ++ [name]) c
  obtain ⟨_, -, rfl⟩ | ⟨l, place, free, -, rfl⟩ := outcome
  · exact grew.1 h
  · exact grew.1 ((defines_put_iff opens₁ free hv foreign).1 h).2

/-- Removing a playbook leaves what all files read as but the one that its path leads to. -/
theorem defines_removal_iff {l : Library} {r : Except Files.Fault Unit} (opens : t.Opens dir D)
    (removal : finish (l.removePlaybook id) t = (r, t')) :
    Defines t' dir name p ↔
      Defines t dir name p ∧ t.locate (Files.join dir name) ≠ t.locate (l.definitionPath id) := by
  rw [removePlaybook] at removal
  rcases Files.Act.remove_outcome (l.definitionPath id) t with
    ⟨e, failed⟩ | ⟨k, c, place, file, done⟩
  · rw [failed] at removal
    cases removal
    refine ⟨fun h => ⟨h, fun same => ?_⟩, And.left⟩
    -- a file that was there would have been removed
    obtain ⟨place, c, hfile, -⟩ := h.file opens
    have removed := Files.Act.finish_remove (same.symm.trans place) hfile
    rw [failed] at removed
    cases removed
  · rw [done] at removal
    cases removal
    have opens' := opens.of_keeps (Tree.keepsDirectories_erase (l := k) (by simp [file]))
    rw [place]
    constructor
    · intro h
      obtain ⟨found, c', hfile, -⟩ := h.file opens'
      have hne : D ++ [name] ≠ k := by
        rintro rfl
        rw [Tree.at?_erase_self t (by simp)] at hfile
        cases hfile
      refine ⟨h.congr opens' opens fun c hc => by rwa [← Tree.at?_erase_of_ne t hne], ?_⟩
      rw [← opens.locate_congr opens' h.isFileName, found]
      exact fun same => hne (Except.ok.inj same)
    · rintro ⟨h, elsewhere⟩
      obtain ⟨found, -⟩ := h.file opens
      rw [found] at elsewhere
      have hne : D ++ [name] ≠ k := fun same => elsewhere (congrArg Except.ok same)
      exact h.congr opens opens' fun c hc => by rwa [Tree.at?_erase_of_ne t hne]

/-! ## Loading a directory -/

/-- What is loaded from an open directory. -/
def loaded (t : Tree) (dir : String) : List Playbook :=
  (t.documents dir).filterMap fun path => (loadPlaybook t path).toOption

theorem loadPlaybooks_eq (opens : t.Opens dir D) : loadPlaybooks t dir = .ok (loaded t dir) := by
  rw [loadPlaybooks, loadAll, opens.isDirectory_eq]
  rfl

theorem loaded_eq (opens : t.Opens dir D) :
    loaded t dir = (Tree.inOrder (t.shelf D).names).filterMap fun name =>
      (loadPlaybook t (Files.join dir name)).toOption := by
  rw [loaded, Tree.documents_eq opens.place, List.filterMap_map]
  rfl

theorem toOption_eq_some {α ε : Type} {x : Except ε α} {a : α} :
    x.toOption = some a ↔ x = .ok a := by
  cases x <;> simp [Except.toOption]

/-- The names of documents that are listed are those that can read as playbooks. -/
theorem defines_iff (opens : t.Opens dir D) (named : t.IsNamed) :
    Defines t dir name p ↔ name ∈ Tree.inOrder (t.shelf D).names ∧
      loadPlaybook t (Files.join dir name) = .ok p := by
  have listed (reads : loadPlaybook t (Files.join dir name) = .ok p) :
      name ∈ Tree.inOrder (t.shelf D).names ↔
        Tree.isDocumentName name = true ∧ IsFileName name := by
    obtain ⟨c, content, -⟩ := loadPlaybook_eq_ok.1 reads
    exact Tree.listed_iff opens named content
  constructor
  · intro h
    exact ⟨(listed h.reads).2 ⟨h.isDocument, h.isFileName⟩, h.reads⟩
  · rintro ⟨hname, reads⟩
    obtain ⟨isDocument, isFileName⟩ := (listed reads).1 hname
    exact ⟨isDocument, isFileName, reads⟩

theorem mem_loaded (opens : t.Opens dir D) (named : t.IsNamed) :
    p ∈ loaded t dir ↔ ∃ name, Defines t dir name p := by
  simp only [loaded_eq opens, List.mem_filterMap, toOption_eq_some, defines_iff opens named]

/-- Whether a playbook is the one that the files of some names in a directory give for an id: of
those that read as a playbook with the id, the last one. -/
def Restores (t : Tree) (dir : String) (among : String → Prop) (id : String) (p : Playbook) :
    Prop :=
  ∃ name, among name ∧ Defines t dir name p ∧ p.id = id ∧
    ∀ other q, among other → Defines t dir other q → q.id = id → other ≤ name

/-- What files give for an id depends on those alone that carry the id. -/
theorem restores_congr {among among' : String → Prop}
    (same : ∀ name q, q.id = id →
      (among' name ∧ Defines t' dir name q ↔ among name ∧ Defines t dir name q)) :
    Restores t' dir among' id p ↔ Restores t dir among id p := by
  refine exists_congr fun name => ?_
  rw [← and_assoc, ← and_assoc, ← and_assoc, ← and_assoc]
  refine and_congr (and_congr_left fun hid => same name p hid) ⟨fun last other q ho hq hid => ?_,
    fun last other q ho hq hid => ?_⟩
  · obtain ⟨ho', hq'⟩ := (same other q hid).2 ⟨ho, hq⟩
    exact last other q ho' hq' hid
  · obtain ⟨ho', hq'⟩ := (same other q hid).1 ⟨ho, hq⟩
    exact last other q ho' hq' hid

/-- Of the playbooks that are loaded with one id, the last is the one that the directory gives. -/
theorem getLast?_loaded (opens : t.Opens dir D) (named : t.IsNamed) :
    ((loaded t dir).filter fun q => q.id == id).getLast? = some p ↔
      Restores t dir (fun _ => True) id p := by
  rw [loaded_eq opens, List.filter_filterMap,
    getLast?_filterMap_eq_some (Tree.inOrder_sorted _)]
  simp only [Option.filter_eq_some_iff, toOption_eq_some, Option.isSome_iff_exists, beq_iff_eq,
    Restores, defines_iff opens named, true_and]
  constructor
  · rintro ⟨name, listed, ⟨reads, hid⟩, last⟩
    exact ⟨name, ⟨listed, reads⟩, hid, fun other q _ h hq => last other h.1 ⟨q, h.2, hq⟩⟩
  · rintro ⟨name, ⟨listed, reads⟩, hid, last⟩
    exact ⟨name, listed, ⟨reads, hid⟩, fun other h ⟨q, hreads, hq⟩ =>
      last other q trivial ⟨h, hreads⟩ hq⟩

/-! ## Executions that are read -/

/-- What can be read of the executions in a directory. -/
def executions (t : Tree) (dir : String) : List HistoryEntry :=
  (t.documents dir).filterMap fun path => (loadExecution t path).toOption

theorem loadHistory_eq {l : Library} (opens : t.Opens l.history D) :
    l.loadHistory t = inTimeOrder (executions t l.history) := by
  rw [loadHistory, loadAll, opens.isDirectory_eq]
  rfl

theorem executions_eq (opens : t.Opens dir D) :
    executions t dir = (Tree.inOrder (t.shelf D).names).filterMap fun name =>
      (loadExecution t (Files.join dir name)).toOption := by
  rw [executions, Tree.documents_eq opens.place, List.filterMap_map]
  rfl

/-- Whether the document of a name in a directory reads as an execution. -/
structure Attests (t : Tree) (dir name : String) (e : HistoryEntry) : Prop where
  isDocument : Tree.isDocumentName name = true
  isFileName : IsFileName name
  reads : loadExecution t (Files.join dir name) = .ok e

theorem content_of_loadExecution {path : String} {e : HistoryEntry}
    (h : loadExecution t path = .ok e) : ∃ c, t.content path = .ok c := by
  unfold loadExecution readValue at h
  cases hc : t.content path with
  | error e => simp [hc, Except.mapError, bind, Except.bind] at h
  | ok c => exact ⟨c, rfl⟩

/-- The names of documents that are listed are those that can read as executions. -/
theorem attests_iff {e : HistoryEntry} (opens : t.Opens dir D) (named : t.IsNamed) :
    Attests t dir name e ↔ name ∈ Tree.inOrder (t.shelf D).names ∧
      loadExecution t (Files.join dir name) = .ok e := by
  have listed (reads : loadExecution t (Files.join dir name) = .ok e) :
      name ∈ Tree.inOrder (t.shelf D).names ↔
        Tree.isDocumentName name = true ∧ IsFileName name := by
    obtain ⟨c, content⟩ := content_of_loadExecution reads
    exact Tree.listed_iff opens named content
  constructor
  · intro h
    exact ⟨(listed h.reads).2 ⟨h.isDocument, h.isFileName⟩, h.reads⟩
  · rintro ⟨hname, reads⟩
    obtain ⟨isDocument, isFileName⟩ := (listed reads).1 hname
    exact ⟨isDocument, isFileName, reads⟩

theorem mem_executions {e : HistoryEntry} (opens : t.Opens dir D) (named : t.IsNamed) :
    e ∈ executions t dir ↔ ∃ name, Attests t dir name e := by
  simp only [executions_eq opens, List.mem_filterMap, toOption_eq_some, attests_iff opens named]

theorem loadExecution_put_of_ne {other : String} (opens : t.Opens dir D)
    (free : t.at? (D ++ [other]) ≠ some .directory) (e : Files.Entry) (hn : IsFileName name)
    (ne : name ≠ other) :
    loadExecution (t.put (D ++ [other]) e) (Files.join dir name) =
      loadExecution t (Files.join dir name) := by
  have opens' := opens.of_keeps (Tree.keepsDirectories_put free e)
  have same := Tree.content_congr (opens.locate_congr opens' hn) fun l hl => by
    rcases opens.locate_join hn with ⟨_, failed⟩ | found
    · cases hl.symm.trans failed
    · cases hl.symm.trans found
      exact t.at?_put_of_ne e (by simpa using ne)
  rw [loadExecution, loadExecution, readValue, readValue, same]

/-- An execution that is stored where nothing stood is read beside those that were there. -/
theorem executions_put {e : HistoryEntry} (opens : t.Opens dir D) (named : t.IsNamed)
    (storable : e.IsStorable)
    (place : t.locate (documentPath dir e.id) = .ok (D ++ [fileName e.id]))
    (free : t.at? (D ++ [fileName e.id]) = none) :
    (executions (t.put (D ++ [fileName e.id]) (stored e.encode)) dir).Perm
      (executions t dir ++ [e]) := by
  have noDirectory : t.at? (D ++ [fileName e.id]) ≠ some .directory := by simp [free]
  have keeps := Tree.keepsDirectories_put noDirectory (stored e.encode)
  obtain ⟨isNew, names⟩ :=
    Tree.names_shelf_put (isDocumentName_fileName e.id) free (stored e.encode)
  have own : loadExecution (t.put (D ++ [fileName e.id]) (stored e.encode))
      (Files.join dir (fileName e.id)) = .ok e := by
    have written := HistoryEntry.keeps storable
    have read := readValue_stored (keeps.locate place) (t.at?_put_self (stored e.encode) (by simp))
      written.proper
    rw [documentPath, ← fileName] at read
    simp [loadExecution, read, bind, Except.bind, decodeAs, written.reads]
  have others (name : String) (listed : name ∈ (t.shelf D).names) :
      loadExecution (t.put (D ++ [fileName e.id]) (stored e.encode)) (Files.join dir name) =
        loadExecution t (Files.join dir name) :=
    loadExecution_put_of_ne opens noDirectory (stored e.encode) (named.shelf listed).2
      fun same => isNew (same ▸ listed)
  -- the files come in the order of their names, so the new one may come anywhere
  rw [executions_eq (opens.of_keeps keeps), executions_eq opens, names]
  refine ((List.mergeSort_perm _ _).filterMap _).trans ?_
  rw [List.filterMap_append, List.filterMap_congr fun name listed => by rw [others name listed]]
  refine .append ((List.mergeSort_perm _ _).filterMap _).symm ?_
  simp [own, Except.toOption]

end Library

end Scout
