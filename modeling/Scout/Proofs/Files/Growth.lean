import Scout.Proofs.Files.Shelves

/-!
# Trees that grow

Making directories never touches what is there: the tree grows.  Writing a file
first lets the tree grow, and then puts the file or fails; removing one erases it
or fails.  This holds for every path, wherever it leads.
-/

namespace Scout.Files

namespace Tree

variable {t t' t'' : Tree} {l : Location} {path name : String} {c : Content}

/-! ## Growing -/

/-- A tree grows when directories are made where paths lead to nothing. -/
inductive GrowsTo (t : Tree) : Tree → Prop
  | refl : GrowsTo t t
  | make {t' : Tree} {path : String} {l : Location} (grown : GrowsTo t t')
      (place : t'.locate path = .ok l) (free : t'.at? l = none) :
      GrowsTo t (t'.put l .directory)

theorem GrowsTo.trans (h : t.GrowsTo t') (h' : t'.GrowsTo t'') : t.GrowsTo t'' := by
  induction h' with
  | refl => exact h
  | make _ place free ih => exact ih.make place free

theorem at?_nil (t : Tree) : t.at? [] = some .directory := rfl

theorem ne_nil_of_free (free : t.at? l = none) : l ≠ [] := by
  rintro rfl
  cases t.at?_nil.symm.trans free

theorem keepsDirectories_make (free : t.at? l = none) :
    t.KeepsDirectories (t.put l .directory) :=
  keepsDirectories_put (by simp [free]) .directory

theorem KeepsDirectories.trans (h : t.KeepsDirectories t') (h' : t'.KeepsDirectories t'') :
    t.KeepsDirectories t'' :=
  ⟨h'.home.trans h.home, fun l hl => h'.directory l (h.directory l hl)⟩

theorem GrowsTo.keepsDirectories (h : t.GrowsTo t') : t.KeepsDirectories t' := by
  induction h with
  | refl => exact ⟨rfl, fun _ hl => hl⟩
  | make _ _ free ih => exact ih.trans (keepsDirectories_make free)

/-- No file comes or goes, and none gets other contents. -/
def SameFiles (t t' : Tree) : Prop :=
  ∀ l c, t'.at? l = some (.file c) ↔ t.at? l = some (.file c)

theorem GrowsTo.sameFiles (h : t.GrowsTo t') : t.SameFiles t' := by
  induction h with
  | refl => exact fun _ _ => Iff.rfl
  | @make t' path l _ _ free ih =>
    intro k c
    rw [← ih k c]
    by_cases hk : k = l
    · subst hk
      rw [at?_put_self t' .directory (ne_nil_of_free free), free]
      simp
    · rw [at?_put_of_ne t' .directory hk]

/-! ## Names -/

/-- Whether the names of all that is in a tree are names of files. -/
structure IsNamed (t : Tree) : Prop where
  home : ∀ n ∈ t.home, IsFileName n
  entry : ∀ m ∈ t.entries, ∀ n ∈ m.1, IsFileName n

theorem named_follow {names : List String} {l' : Location} (hl : ∀ n ∈ l, IsFileName n)
    (hnames : ∀ n ∈ names, IsPart n) (h : t.follow l names = .ok l') :
    ∀ n ∈ l', IsFileName n := by
  induction names generalizing l with
  | nil =>
    cases h
    exact hl
  | cons n rest ih =>
    obtain ⟨hn, hrest⟩ := List.forall_mem_cons.1 hnames
    rw [Tree.follow] at h
    split at h
    · cases h
    · cases h
    · split at h
      · exact ih (fun x hx => hl x (List.dropLast_subset l hx)) hrest h
      · next habove =>
        split at h
        · cases h
        · refine ih (fun x hx => ?_) hrest h
          rcases List.mem_append.1 hx with hx | hx
          · exact hl x hx
          · rw [List.mem_singleton.1 hx]
            exact ⟨hn, by simpa using habove⟩

theorem IsNamed.locate (h : t.IsNamed) (hl : t.locate path = .ok l) : ∀ n ∈ l, IsFileName n := by
  have hstart : ∀ n ∈ t.start path, IsFileName n := by
    unfold start
    split
    · simp
    · exact h.home
  exact named_follow hstart (fun _ hp => isPart_of_mem hp) (locate_eq_ok.1 hl).2.2

theorem mem_insert {entries : List (Location × Entry)} {e : Entry} {m : Location × Entry}
    (h : m ∈ insert entries l e) : m ∈ entries ∨ m = (l, e) := by
  induction entries with
  | nil => exact .inr (List.mem_singleton.1 h)
  | cons n rest ih =>
    obtain ⟨k, old⟩ := n
    rw [insert] at h
    split at h
    · rcases List.mem_cons.1 h with h | h
      · exact .inr h
      · exact .inl (List.mem_cons_of_mem _ h)
    · rcases List.mem_cons.1 h with h | h
      · exact .inl (h ▸ List.mem_cons_self)
      · exact (ih h).imp_left (List.mem_cons_of_mem _)

theorem IsNamed.put (h : t.IsNamed) (hl : ∀ n ∈ l, IsFileName n) (e : Entry) :
    (t.put l e).IsNamed := by
  refine ⟨h.home, fun m hm => ?_⟩
  rcases mem_insert hm with hm | rfl
  · exact h.entry m hm
  · exact hl

theorem IsNamed.erase (h : t.IsNamed) (l : Location) : (t.erase l).IsNamed :=
  ⟨h.home, fun m hm => h.entry m (List.mem_filter.1 hm).1⟩

theorem GrowsTo.isNamed (h : t.GrowsTo t') (named : t.IsNamed) : t'.IsNamed := by
  induction h with
  | refl => exact named
  | make _ place _ ih => exact ih.put (ih.locate place) .directory

/-! ## One change -/

theorem at?_erase_self (t : Tree) (hl : l ≠ []) : (t.erase l).at? l = none := by
  have hentries (entries : List (Location × Entry)) :
      lookup (entries.filter fun m => m.1 != l) l = none := by
    induction entries with
    | nil => rfl
    | cons m rest ih =>
      by_cases hm : m.1 = l
      · rw [List.filter_cons_of_neg (by simpa using hm), ih]
      · rw [List.filter_cons_of_pos (by simpa using hm), lookup, if_neg hm, ih]
  simp [at?, erase, hl, hentries]

/-- A tree grows, and then at most one file is written, or one is removed. -/
inductive ChangesTo (t : Tree) : Tree → Prop
  | grown {t₁ : Tree} (grown : t.GrowsTo t₁) : ChangesTo t t₁
  | written {t₁ : Tree} {path : String} {l : Location} (grown : t.GrowsTo t₁)
      (place : t₁.locate path = .ok l) (free : t₁.at? l ≠ some .directory) (c : Content) :
      ChangesTo t (t₁.put l (.file c))
  | removed {path : String} {l : Location} {c : Content} (place : t.locate path = .ok l)
      (file : t.at? l = some (.file c)) : ChangesTo t (t.erase l)

theorem ChangesTo.keepsDirectories (h : t.ChangesTo t') : t.KeepsDirectories t' := by
  cases h with
  | grown grown => exact grown.keepsDirectories
  | written grown _ free c =>
    exact grown.keepsDirectories.trans (keepsDirectories_put free (.file c))
  | removed _ file => exact keepsDirectories_erase (by simp [file])

theorem ChangesTo.isNamed (h : t.ChangesTo t') (named : t.IsNamed) : t'.IsNamed := by
  cases h with
  | grown grown => exact grown.isNamed named
  | written grown place _ c =>
    have grownNamed := grown.isNamed named
    exact grownNamed.put (grownNamed.locate place) (.file c)
  | removed => exact named.erase _

end Tree

/-! ## Making directories, writing and removing -/

namespace Act

variable {t t' : Tree} {l : Location} {path root : String} {parts : List String} {count : Nat}

theorem isDirectory_of_place (hl : t.locate path = .ok l) (hd : t.at? l = some .directory) :
    t.isDirectory path = .ok true := by
  simp [Tree.isDirectory, Tree.entry, hl, hd, bind, Except.bind, pure, Except.pure]

theorem place_of_isDirectory (h : t.isDirectory path = .ok true) :
    ∃ l, t.locate path = .ok l ∧ t.at? l = some .directory := by
  unfold Tree.isDirectory at h
  split at h
  · next hd =>
    unfold Tree.entry at hd
    cases hl : t.locate path with
    | error e => simp [hl, bind, Except.bind] at hd
    | ok l =>
      refine ⟨l, rfl, ?_⟩
      cases hat : t.at? l <;> simp_all [bind, Except.bind, pure, Except.pure]
  all_goals cases h

theorem of_makeDirectory (h : t.makeDirectory path = .ok t') :
    ∃ l, t.locate path = .ok l ∧ t.at? l = none ∧ t' = t.put l .directory := by
  unfold Tree.makeDirectory at h
  cases hl : t.locate path with
  | error e => simp [hl, bind, Except.bind] at h
  | ok l =>
    cases free : t.at? l with
    | some e => simp [hl, free, bind, Except.bind] at h
    | none =>
      simp only [hl, free, bind, Except.bind, pure, Except.pure, Except.ok.injEq] at h
      exact ⟨l, rfl, free, h.symm⟩

/-- A directory is made where nothing is, or nothing changes; then success means that the
directory is there. -/
theorem makeOrKeep_outcome (path : String) (t : Tree) :
    (∃ l, t.locate path = .ok l ∧ t.at? l = none ∧
      finish (makeOrKeep path) t = (.ok (), t.put l .directory)) ∨
    ∃ r, finish (makeOrKeep path) t = (r, t) ∧ (r = .ok () → t.isDirectory path = .ok true) := by
  rw [makeOrKeep, finish_bind, finish_get]
  dsimp only
  cases hmake : t.makeDirectory path with
  | ok made =>
    obtain ⟨l, hl, free, rfl⟩ := of_makeDirectory hmake
    exact .inl ⟨l, hl, free, rfl⟩
  | error e =>
    right
    dsimp only
    split
    · exact ⟨_, rfl, fun h => by cases h⟩
    · rw [finish_bind, finish_lift]
      cases t.isDirectory path with
      | error e' => exact ⟨_, rfl, fun h => by cases h⟩
      | ok isThere =>
        cases isThere with
        | false => exact ⟨_, rfl, fun h => by cases h⟩
        | true => exact ⟨_, rfl, fun _ => rfl⟩

theorem grows_makeOrKeep (path : String) (t : Tree) :
    t.GrowsTo (finish (makeOrKeep path) t).2 := by
  rcases makeOrKeep_outcome path t with ⟨l, hl, free, made⟩ | ⟨r, kept, -⟩
  · rw [made]
    exact Tree.GrowsTo.refl.make hl free
  · rw [kept]
    exact .refl

theorem isDirectory_of_makeOrKeep (h : finish (makeOrKeep path) t = (.ok (), t')) :
    t'.isDirectory path = .ok true := by
  rcases makeOrKeep_outcome path t with ⟨l, hl, free, made⟩ | ⟨r, kept, there⟩
  · rw [made] at h
    cases h
    exact isDirectory_of_place ((Tree.keepsDirectories_make free).locate hl)
      (t.at?_put_self .directory (Tree.ne_nil_of_free free))
  · rw [kept] at h
    cases h
    exact there rfl

theorem grows_makeParts (root : String) (parts : List String) (count : Nat) (t : Tree) :
    t.GrowsTo (finish (makeParts root parts count) t).2 := by
  induction count generalizing t with
  | zero => exact grows_makeOrKeep _ t
  | succ count ih =>
    have first := grows_makeOrKeep (ofParts root (parts.take (count + 1))) t
    rw [makeParts, finish_tryCatch]
    rcases hfirst : finish (makeOrKeep (ofParts root (parts.take (count + 1)))) t with ⟨e | a, t₁⟩
    · rw [hfirst] at first
      dsimp only at first ⊢
      split
      · have above := ih t₁
        rw [finish_bind]
        rcases habove : finish (makeParts root parts count) t₁ with ⟨e' | a, t₂⟩
        · rw [habove] at above
          exact first.trans above
        · rw [habove] at above
          exact (first.trans above).trans (grows_makeOrKeep _ t₂)
      · exact first
    · rw [hfirst] at first
      exact first

theorem isDirectory_of_makeParts (h : finish (makeParts root parts count) t = (.ok (), t')) :
    t'.isDirectory (ofParts root (parts.take count)) = .ok true := by
  cases count with
  | zero =>
    rw [List.take_zero]
    exact isDirectory_of_makeOrKeep h
  | succ count =>
    rw [makeParts, finish_tryCatch] at h
    rcases hfirst : finish (makeOrKeep (ofParts root (parts.take (count + 1)))) t with ⟨e | a, t₁⟩
    · rw [hfirst] at h
      dsimp only at h
      split at h
      · rw [finish_bind] at h
        rcases habove : finish (makeParts root parts count) t₁ with ⟨e' | a, t₂⟩
        · simp [habove] at h
        · rw [habove] at h
          exact isDirectory_of_makeOrKeep h
      · cases h
    · rw [hfirst] at h
      cases h
      exact isDirectory_of_makeOrKeep hfirst

theorem grows_makeDirectories (path : String) (t : Tree) :
    t.GrowsTo (finish (makeDirectories path) t).2 :=
  grows_makeParts _ _ _ t

theorem isDirectory_of_makeDirectories (h : finish (makeDirectories path) t = (.ok (), t')) :
    t'.isDirectory (normal path) = .ok true := by
  have made := isDirectory_of_makeParts h
  rwa [List.take_length] at made

theorem makeOrKeep_of_isDirectory (h : t.isDirectory path = .ok true) :
    finish (makeOrKeep path) t = (.ok (), t) := by
  have taken : t.makeDirectory path = .error ⟨.taken, normal path⟩ := by
    obtain ⟨l, hl, hd⟩ := place_of_isDirectory h
    simp [Tree.makeDirectory, hl, hd, bind, Except.bind]
  rw [makeOrKeep, finish_bind, finish_get]
  dsimp only
  rw [taken]
  dsimp only
  rw [if_neg (by decide), finish_bind, finish_lift, h]
  rfl

theorem makeParts_of_isDirectory (h : t.isDirectory (ofParts root (parts.take count)) = .ok true) :
    finish (makeParts root parts count) t = (.ok (), t) := by
  cases count with
  | zero => exact makeOrKeep_of_isDirectory (by rwa [List.take_zero] at h)
  | succ count =>
    rw [makeParts, finish_tryCatch, makeOrKeep_of_isDirectory h]

theorem makeDirectories_again (h : finish (makeDirectories path) t = (.ok (), t')) :
    finish (makeDirectories path) t' = (.ok (), t') :=
  makeParts_of_isDirectory (isDirectory_of_makeParts h)

theorem makeDirectories_normal (path : String) :
    makeDirectories (normal path) = makeDirectories path := by
  have parts : partsOf (normal path) = partsOf path :=
    partsOf_ofParts (isRoot_rootOf _) fun _ hp => isPart_of_mem hp
  have root : rootOf (normal path).toList = rootOf path.toList :=
    rootOf_ofParts (isRoot_rootOf _) fun _ hp => isPart_of_mem hp
  unfold makeDirectories
  rw [parts, root]

/-- Writing a file lets the tree grow; then it puts the file where its path leads, or fails. -/
theorem writeFile_outcome (path : String) (c : Content) (t : Tree) :
    ∃ t₁, t.GrowsTo t₁ ∧
      ((∃ e, finish (writeFile path c) t = (.error e, t₁)) ∨
        ∃ l, t₁.locate path = .ok l ∧ t₁.at? l ≠ some .directory ∧
          finish (writeFile path c) t = (.ok (), t₁.put l (.file c))) := by
  have grown := grows_makeDirectories (parent path) t
  rw [writeFile, finish_bind]
  rcases hmake : finish (makeDirectories (parent path)) t with ⟨e | a, t₁⟩
  · rw [hmake] at grown
    exact ⟨t₁, grown, .inl ⟨e, rfl⟩⟩
  · rw [hmake] at grown
    refine ⟨t₁, grown, ?_⟩
    dsimp only
    rw [finish_change]
    cases hl : t₁.locate path with
    | error e =>
      left
      exact ⟨e, by rw [Tree.write, hl]; rfl⟩
    | ok l =>
      rw [write_eq hl]
      by_cases hd : t₁.at? l = some .directory
      · rw [if_pos hd]
        exact .inl ⟨_, rfl⟩
      · rw [if_neg hd]
        exact .inr ⟨l, rfl, hd, rfl⟩

theorem remove_outcome (path : String) (t : Tree) :
    (∃ e, finish (change fun t => t.remove path) t = (.error e, t)) ∨
      ∃ l c, t.locate path = .ok l ∧ t.at? l = some (.file c) ∧
        finish (change fun t => t.remove path) t = (.ok (), t.erase l) := by
  cases hl : t.locate path with
  | error e =>
    left
    refine ⟨e, ?_⟩
    rw [finish_change, Tree.remove, hl]
    rfl
  | ok l =>
    cases hc : t.at? l with
    | none =>
      left
      refine ⟨⟨.missing, normal path⟩, ?_⟩
      simp [finish_change, Tree.remove, hl, hc, bind, Except.bind]
    | some e =>
      cases e with
      | directory =>
        left
        refine ⟨⟨.isDirectory, normal path⟩, ?_⟩
        simp [finish_change, Tree.remove, hl, hc, bind, Except.bind]
      | file c => exact .inr ⟨l, c, rfl, hc, finish_remove hl hc⟩

end Act

end Scout.Files
