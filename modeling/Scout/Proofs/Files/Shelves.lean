import Scout.Proofs.Acts
import Scout.Proofs.Files.Paths
import Scout.Proofs.Values

/-!
# Documents in a directory

The documents that stand in a directory are its *shelf*, under their names and in
the order in which they came.  Putting and erasing a file changes the shelf of
its directory alone, and no directory is lost by it.
-/

namespace Scout.Files

/-! ## Directories that stay -/

namespace Tree

/-- Whether the directories of a tree are directories of a later one. -/
structure KeepsDirectories (t t' : Tree) : Prop where
  home : t'.home = t.home
  directory : ∀ l, t.at? l = some .directory → t'.at? l = some .directory

variable {t t' : Tree} {l l' : Location} {dir name : String}

theorem keepsDirectories_put (h : t.at? l ≠ some .directory) (e : Entry) :
    t.KeepsDirectories (t.put l e) := by
  refine ⟨rfl, fun k hk => ?_⟩
  rw [at?_put_of_ne]
  · exact hk
  · rintro rfl
    exact h hk

theorem lookup_filter_of_ne (entries : List (Location × Entry)) (h : l' ≠ l) :
    lookup (entries.filter fun m => m.1 != l) l' = lookup entries l' := by
  induction entries with
  | nil => rfl
  | cons m rest ih =>
    obtain ⟨k, e⟩ := m
    by_cases hk : k = l
    · subst hk
      simp [lookup, h.symm, ih]
    · simp [lookup, hk, ih]

theorem at?_erase_of_ne (t : Tree) (h : l' ≠ l) : (t.erase l).at? l' = t.at? l' := by
  simp [at?, erase, lookup_filter_of_ne t.entries h]

theorem keepsDirectories_erase (h : t.at? l ≠ some .directory) :
    t.KeepsDirectories (t.erase l) := by
  refine ⟨rfl, fun k hk => ?_⟩
  rw [at?_erase_of_ne]
  · exact hk
  · rintro rfl
    exact h hk

theorem KeepsDirectories.follow (h : t.KeepsDirectories t') {names : List String}
    (hf : t.follow l names = .ok l') : t'.follow l names = .ok l' := by
  induction names generalizing l with
  | nil => exact hf
  | cons n rest ih =>
    rw [Tree.follow] at hf ⊢
    split at hf
    · cases hf
    · cases hf
    · next hl =>
      rw [h.directory l hl]
      dsimp only
      split at hf
      · next hn =>
        rw [if_pos hn]
        exact ih hf
      · next hn =>
        rw [if_neg hn]
        split at hf
        · cases hf
        · next hlong =>
          rw [if_neg hlong]
          exact ih hf

def start (t : Tree) (path : String) : Location :=
  if isAbsolute path then [] else t.home

theorem locate_eq_ok {path : String} :
    t.locate path = .ok l ↔ Char.ofNat 0 ∉ path.toList ∧ (normal path).utf8ByteSize < pathLimit ∧
      t.follow (t.start path) (partsOf path) = .ok l := by
  unfold locate start
  by_cases hzero : Char.ofNat 0 ∈ path.toList
  · simp [hzero]
  · by_cases hlong : pathLimit ≤ (normal path).utf8ByteSize
    · simp [hzero, hlong]
    · rw [if_neg (by simpa using hzero), if_neg hlong]
      generalize t.follow _ _ = found
      cases found <;> simp [hzero, Nat.lt_of_not_le hlong]

theorem KeepsDirectories.locate (h : t.KeepsDirectories t') {path : String}
    (hl : t.locate path = .ok l) : t'.locate path = .ok l := by
  rw [locate_eq_ok] at hl ⊢
  have hstart : t'.start path = t.start path := by
    rw [start, start, h.home]
  rw [hstart]
  exact ⟨hl.1, hl.2.1, h.follow hl.2.2⟩

/-! ## Open directories -/

/-- A path in its shortest form leads to a directory. -/
structure Opens (t : Tree) (dir : String) (l : Location) : Prop where
  shortest : normal dir = dir
  place : t.locate dir = .ok l
  isDirectory : t.at? l = some .directory

theorem Opens.of_keeps (h : t.Opens dir l) (k : t.KeepsDirectories t') : t'.Opens dir l :=
  ⟨h.shortest, k.locate h.place, k.directory l h.isDirectory⟩

theorem Opens.entry (h : t.Opens dir l) : t.entry dir = .ok .directory := by
  rw [Tree.entry, h.place]
  simp [bind, Except.bind, h.isDirectory, pure, Except.pure]

theorem Opens.isDirectory_eq (h : t.Opens dir l) : t.isDirectory dir = .ok true := by
  rw [Tree.isDirectory, h.entry]

theorem follow_append (t : Tree) (l : Location) (names more : List String) :
    t.follow l (names ++ more) = match t.follow l names with
      | .ok l' => t.follow l' more
      | .error e => .error e := by
  induction names generalizing l with
  | nil => rfl
  | cons n rest ih =>
    rw [List.cons_append, Tree.follow, Tree.follow]
    split
    · rfl
    · rfl
    · split
      · exact ih _
      · split
        · rfl
        · exact ih _

theorem start_join (hn : IsPart name) : t.start (join dir name) = t.start dir := by
  rw [start, start, isAbsolute_join hn]

/-- A file in an open directory is found under its name, unless it or its path is too long. -/
theorem Opens.locate_join (h : t.Opens dir l) (hn : IsFileName name) :
    (∃ e, t.locate (join dir name) = .error e) ∨ t.locate (join dir name) = .ok (l ++ [name]) := by
  cases hl : t.locate (join dir name) with
  | error e => exact .inl ⟨e, rfl⟩
  | ok l' =>
    right
    rw [locate_eq_ok, start_join hn.isPart, partsOf_join hn.isPart, follow_append,
      (locate_eq_ok.1 h.place).2.2] at hl
    obtain ⟨-, -, hl⟩ := hl
    simp only [Tree.follow, h.isDirectory, beq_iff_eq, hn.ne_above, if_false] at hl
    split at hl
    · cases hl
    · cases hl
      rfl

/-- What a file in a directory may be called so that its path can be used. -/
structure FitsIn (dir name : String) : Prop where
  noZero : Char.ofNat 0 ∉ name.toList
  nameSize : name.utf8ByteSize ≤ nameLimit
  pathSize : (join dir name).utf8ByteSize < pathLimit

theorem Opens.locate_of_fitsIn (h : t.Opens dir l) (hn : IsFileName name) (hf : FitsIn dir name) :
    t.locate (join dir name) = .ok (l ++ [name]) := by
  obtain ⟨hzero, -, hfollow⟩ := locate_eq_ok.1 h.place
  rw [locate_eq_ok, normal_join hn.isPart, start_join hn.isPart, partsOf_join hn.isPart,
    follow_append, hfollow]
  refine ⟨noZero_join hn.isPart (by decide) (by decide) hzero hf.noZero, hf.pathSize, ?_⟩
  have hshort : ¬ nameLimit < name.utf8ByteSize := Nat.not_lt.2 hf.nameSize
  simp [Tree.follow, h.isDirectory, hn.ne_above, hshort]

/-! ## Shelves -/

def isDocumentName (name : String) : Bool :=
  documentEnding.toList.isSuffixOf name.toList

/-- The document that an entry is in a directory, if it is one. -/
def document? (l : Location) (m : Location × Entry) : Option (String × Entry) :=
  if m.1.dropLast = l then
    (m.1.getLast?.filter isDocumentName).map fun name => (name, m.2)
  else none

/-- The documents that stand in a directory. -/
def shelf (t : Tree) (l : Location) : Members Entry :=
  t.entries.filterMap (document? l)

theorem document?_self (l : Location) (h : isDocumentName name = true) (e : Entry) :
    document? l (l ++ [name], e) = some (name, e) := by
  simp [document?, Option.filter, h]

theorem document?_eq_some {m : Location × Entry} {e : Entry} (h : document? l m = some (name, e)) :
    m = (l ++ [name], e) ∧ isDocumentName name = true := by
  obtain ⟨k, x⟩ := m
  unfold document? at h
  split at h
  · next hl =>
    obtain ⟨n, hn, hpair⟩ := Option.map_eq_some_iff.1 h
    obtain ⟨hlast, hname⟩ := Option.filter_eq_some_iff.1 hn
    cases hpair
    have hk : k ≠ [] := by
      rintro rfl
      cases hlast
    have hform := List.dropLast_append_getLast? _ hlast
    dsimp only at hl
    rw [hl] at hform
    exact ⟨by rw [hform], hname⟩
  · cases h

theorem ne_of_document? {k : Location} {n : String} {x e : Entry}
    (h : document? l (k, x) = some (n, e)) (hk : k ≠ l ++ [name]) : n ≠ name := by
  rintro rfl
  exact hk (congrArg Prod.fst (document?_eq_some h).1)

theorem document?_of_ne {k : Location} (e : Entry) (h : k.dropLast ≠ l) :
    document? l (k, e) = none := by
  rw [document?, if_neg h]

theorem shelf_put_self (t : Tree) (l : Location) (h : isDocumentName name = true) (e : Entry) :
    (t.put (l ++ [name]) e).shelf l = (t.shelf l).put name e := by
  have hentries (entries : List (Location × Entry)) :
      (insert entries (l ++ [name]) e).filterMap (document? l) =
        Members.put (entries.filterMap (document? l)) name e := by
    -- the one entry that is listed under the name is the one that gets replaced
    induction entries with
    | nil => simp [insert, document?_self l h, Members.put]
    | cons m rest ih =>
      obtain ⟨k, old⟩ := m
      rw [insert]
      split
      · next hk =>
        rw [hk, List.filterMap_cons_some (document?_self l h e),
          List.filterMap_cons_some (document?_self l h old), Members.put, if_pos rfl]
      · next hk =>
        cases hd : document? l (k, old) with
        | none => rw [List.filterMap_cons_none hd, List.filterMap_cons_none hd, ih]
        | some pair =>
          obtain ⟨n, x⟩ := pair
          have hn : n ≠ name := ne_of_document? hd hk
          rw [List.filterMap_cons_some hd, List.filterMap_cons_some hd, ih, Members.put, if_neg hn]
  exact hentries t.entries

theorem shelf_put_of_ne (t : Tree) (h : l' ≠ l) (name : String) (e : Entry) :
    (t.put (l ++ [name]) e).shelf l' = t.shelf l' := by
  have hnone (x : Entry) : document? l' (l ++ [name], x) = none :=
    document?_of_ne x (by simpa using h.symm)
  have hentries (entries : List (Location × Entry)) :
      (insert entries (l ++ [name]) e).filterMap (document? l') =
        entries.filterMap (document? l') := by
    induction entries with
    | nil => simp [insert, hnone]
    | cons m rest ih =>
      obtain ⟨k, old⟩ := m
      rw [insert]
      split
      · next hk => rw [hk, List.filterMap_cons_none (hnone e), List.filterMap_cons_none (hnone old)]
      · rw [List.filterMap_cons, List.filterMap_cons, ih]
  exact hentries t.entries

theorem shelf_erase_self (t : Tree) (l : Location) (h : isDocumentName name = true) :
    (t.erase (l ++ [name])).shelf l = (t.shelf l).erase name := by
  have hentries (entries : List (Location × Entry)) :
      (entries.filter fun m => m.1 != l ++ [name]).filterMap (document? l) =
        Members.erase (entries.filterMap (document? l)) name := by
    induction entries with
    | nil => rfl
    | cons m rest ih =>
      obtain ⟨k, old⟩ := m
      by_cases hk : k = l ++ [name]
      · subst hk
        rw [List.filter_cons_of_neg (by simp), ih,
          List.filterMap_cons_some (document?_self l h old)]
        simp [Members.erase]
      · rw [List.filter_cons_of_pos (by simpa using hk)]
        cases hd : document? l (k, old) with
        | none => rw [List.filterMap_cons_none hd, List.filterMap_cons_none hd, ih]
        | some pair =>
          obtain ⟨n, x⟩ := pair
          have hn : n ≠ name := ne_of_document? hd hk
          rw [List.filterMap_cons_some hd, List.filterMap_cons_some hd, ih]
          simp [Members.erase, hn]
  exact hentries t.entries

theorem shelf_erase_of_ne (t : Tree) (h : l' ≠ l) (name : String) :
    (t.erase (l ++ [name])).shelf l' = t.shelf l' := by
  have hentries (entries : List (Location × Entry)) :
      (entries.filter fun m => m.1 != l ++ [name]).filterMap (document? l') =
        entries.filterMap (document? l') := by
    induction entries with
    | nil => rfl
    | cons m rest ih =>
      obtain ⟨k, old⟩ := m
      by_cases hk : k = l ++ [name]
      · subst hk
        rw [List.filter_cons_of_neg (by simp), ih,
          List.filterMap_cons_none (document?_of_ne old (by simpa using h.symm))]
      · rw [List.filter_cons_of_pos (by simpa using hk), List.filterMap_cons,
          List.filterMap_cons, ih]
  exact hentries t.entries

theorem at?_document (t : Tree) (l : Location) (h : isDocumentName name = true) :
    t.at? (l ++ [name]) = (t.shelf l).find? name := by
  have hentries (entries : List (Location × Entry)) :
      lookup entries (l ++ [name]) = Members.find? (entries.filterMap (document? l)) name := by
    induction entries with
    | nil => rfl
    | cons m rest ih =>
      obtain ⟨k, e⟩ := m
      rw [lookup]
      split
      · next hk =>
        rw [hk, List.filterMap_cons_some (document?_self l h e), Members.find?_cons, if_pos rfl]
      · next hk =>
        cases hd : document? l (k, e) with
        | none => rw [List.filterMap_cons_none hd, ih]
        | some pair =>
          obtain ⟨n, x⟩ := pair
          have hn : n ≠ name := ne_of_document? hd hk
          rw [List.filterMap_cons_some hd, Members.find?_cons, if_neg hn, ih]
  simp [at?, shelf, hentries]

/-- The names on a shelf are the documents that are listed. -/
theorem documents_eq (h : t.locate dir = .ok l) :
    t.documents dir = (inOrder (t.shelf l).names).map (join dir) := by
  have hentry (m : Location × Entry) :
      (if m.1.dropLast = l then m.1.getLast? else none).filter isDocumentName =
        (document? l m).map Prod.fst := by
    unfold document?
    split
    · simp [Function.comp_def]
    · rfl
  have hnames : (t.namesIn l).filter isDocumentName = (t.shelf l).names := by
    rw [namesIn, shelf, Members.names, List.map_filterMap, List.filter_filterMap]
    simp only [hentry]
  rw [documents, h]
  dsimp only
  rw [← hnames]
  rfl

end Tree

/-! ## Writing and removing -/

namespace Act

variable {t : Tree} {l : Location} {dir name : String}

theorem finish_change (f : Tree → Except Fault Tree) (t : Tree) :
    finish (change f) t = match f t with
      | .ok t' => (.ok (), t')
      | .error e => (.error e, t) := by
  rw [change, finish_bind, finish_get]
  dsimp only
  cases f t <;> rfl

theorem finish_makeOrKeep (h : t.Opens dir l) : finish (makeOrKeep dir) t = (.ok (), t) := by
  have hmake : t.makeDirectory dir = .error ⟨.taken, normal dir⟩ := by
    rw [Tree.makeDirectory, h.place]
    simp [bind, Except.bind, h.isDirectory]
  rw [makeOrKeep, finish_bind, finish_get]
  simp [hmake, h.isDirectory_eq, finish_bind]

theorem finish_makeDirectories (h : t.Opens dir l) :
    finish (makeDirectories dir) t = (.ok (), t) := by
  have hwhole : ofParts (rootOf dir.toList) (partsOf dir) = dir := h.shortest
  have hkeep := finish_makeOrKeep h
  unfold makeDirectories
  cases hparts : partsOf dir with
  | nil =>
    rw [hparts] at hwhole
    simpa [makeParts, hwhole] using hkeep
  | cons p rest =>
    have htake : (p :: rest).take (rest.length + 1) = partsOf dir := by
      rw [hparts, List.take_of_length_le (by simp)]
    simp only [List.length_cons, makeParts, htake, hwhole]
    rw [finish_tryCatch, hkeep]

theorem write_eq {path : String} (hl : t.locate path = .ok l) (c : Content) :
    t.write path c =
      if t.at? l = some .directory then .error ⟨.isDirectory, normal path⟩
      else .ok (t.put l (.file c)) := by
  rw [Tree.write, hl]
  simp only [bind, Except.bind]
  cases t.at? l with
  | none => rfl
  | some e => cases e <;> rfl

theorem finish_writeFile (h : t.Opens dir l) (hn : IsPart name) (c : Content) :
    finish (writeFile (join dir name) c) t = match t.write (join dir name) c with
      | .ok t' => (.ok (), t')
      | .error e => (.error e, t) := by
  rw [writeFile, parent_join hn, h.shortest, finish_bind_ok (finish_makeDirectories h)]
  exact finish_change _ t

theorem finish_writeFile_put (h : t.Opens dir l) (hn : IsPart name) {k : Location}
    (hl : t.locate (join dir name) = .ok k) (free : t.at? k ≠ some .directory) (c : Content) :
    finish (writeFile (join dir name) c) t = (.ok (), t.put k (.file c)) := by
  rw [finish_writeFile h hn, write_eq hl, if_neg free]

theorem writeFile_cases (h : t.Opens dir l) (hn : IsFileName name) (c : Content) :
    (∃ e, finish (writeFile (join dir name) c) t = (.error e, t)) ∨
      t.locate (join dir name) = .ok (l ++ [name]) ∧ t.at? (l ++ [name]) ≠ some .directory ∧
        finish (writeFile (join dir name) c) t = (.ok (), t.put (l ++ [name]) (.file c)) := by
  rcases h.locate_join hn with ⟨e, he⟩ | hl
  · left
    refine ⟨e, ?_⟩
    rw [finish_writeFile h hn.isPart, Tree.write, he]
    rfl
  · by_cases hd : t.at? (l ++ [name]) = some .directory
    · left
      refine ⟨⟨.isDirectory, normal (join dir name)⟩, ?_⟩
      rw [finish_writeFile h hn.isPart, write_eq hl, if_pos hd]
    · exact .inr ⟨hl, hd, finish_writeFile_put h hn.isPart hl hd c⟩

theorem finish_remove {path : String} {c : Content} (hl : t.locate path = .ok l)
    (hc : t.at? l = some (.file c)) :
    finish (change fun t => t.remove path) t = (.ok (), t.erase l) := by
  have hremove : t.remove path = .ok (t.erase l) := by
    rw [Tree.remove, hl]
    simp [bind, Except.bind, hc, pure, Except.pure]
  rw [finish_change, hremove]

end Act

end Scout.Files
