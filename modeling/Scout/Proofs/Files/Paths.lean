import Mathlib
import Scout.Files.Path

/-!
# Paths of files in a directory

A path is its root and its parts.  The path of a file in a directory has the
parts of the directory and the name of the file, so its parent is the directory.
-/

namespace Scout

/-! ## Parts of a text -/

namespace Text

variable {separator : Char} {cs part : List Char}

theorem splitAt_of_not_mem (h : separator ∉ cs) : splitAt separator cs = [cs] := by
  induction cs with
  | nil => rfl
  | cons c cs ih =>
    rw [List.mem_cons, not_or] at h
    rw [splitAt, if_neg (Ne.symm h.1), ih h.2]

theorem splitAt_append (h : separator ∉ cs) (rest : List Char) :
    splitAt separator (cs ++ separator :: rest) = cs :: splitAt separator rest := by
  induction cs with
  | nil => simp [splitAt]
  | cons c cs ih =>
    rw [List.mem_cons, not_or] at h
    rw [List.cons_append, splitAt, if_neg (Ne.symm h.1), ih h.2]

theorem of_mem_splitAt (h : part ∈ splitAt separator cs) : separator ∉ part ∧ part ⊆ cs := by
  induction cs generalizing part with
  | nil =>
    rw [splitAt, List.mem_singleton] at h
    simp [h]
  | cons c cs ih =>
    rw [splitAt] at h
    split at h
    · rcases List.mem_cons.1 h with rfl | h
      · simp
      · exact ⟨(ih h).1, List.subset_cons_of_subset c (ih h).2⟩
    · next hc =>
      split at h
      · next first parts hsplit =>
        have hfirst := ih (hsplit ▸ List.mem_cons_self)
        rcases List.mem_cons.1 h with rfl | h
        · refine ⟨?_, List.cons_subset_cons c hfirst.2⟩
          rw [List.mem_cons, not_or]
          exact ⟨Ne.symm hc, hfirst.1⟩
        · have hlater := ih (hsplit ▸ List.mem_cons_of_mem first h)
          exact ⟨hlater.1, List.subset_cons_of_subset c hlater.2⟩
      · next hnil => exact absurd hnil (splitAt_ne_nil separator cs)

end Text

namespace Files

/-! ## Parts of a path -/

/-- Whether a text can be a part of a path. -/
structure IsPart (p : String) : Prop where
  ne_empty : p ≠ ""
  ne_dot : p ≠ "."
  noSlash : '/' ∉ p.toList

theorem isPart_of_mem {s p : String} (h : p ∈ partsOf s) : IsPart p := by
  obtain ⟨hmem, hne⟩ := List.mem_filter.1 h
  obtain ⟨part, hpart, rfl⟩ := List.mem_map.1 hmem
  simp only [Bool.and_eq_true, bne_iff_ne] at hne
  exact ⟨hne.1, hne.2, by simpa using (Text.of_mem_splitAt hpart).1⟩

theorem mem_of_mem_part {s p : String} (h : p ∈ partsOf s) {c : Char} (hc : c ∈ p.toList) :
    c ∈ s.toList := by
  obtain ⟨hmem, -⟩ := List.mem_filter.1 h
  obtain ⟨part, hpart, rfl⟩ := List.mem_map.1 hmem
  exact (Text.of_mem_splitAt hpart).2 (by simpa using hc)

theorem partsOf_slash (s : String) : partsOf ("/" ++ s) = partsOf s := by
  simp [partsOf, Text.splitOn, Text.splitAt]

theorem partsOf_intercalate {parts : List String} (h : ∀ p ∈ parts, IsPart p) :
    partsOf ("/".intercalate parts) = parts := by
  induction parts with
  | nil => rfl
  | cons p rest ih =>
    obtain ⟨hp, hrest⟩ := List.forall_mem_cons.1 h
    have hfilter : (p != "" && p != ".") = true := by simp [hp.ne_empty, hp.ne_dot]
    cases rest with
    | nil =>
      simp [partsOf, Text.splitOn, Text.splitAt_of_not_mem hp.noSlash, hp.ne_empty, hp.ne_dot]
    | cons q rest =>
      have hsplit : Text.splitOn '/' ("/".intercalate (p :: q :: rest)) =
          p :: Text.splitOn '/' ("/".intercalate (q :: rest)) := by
        rw [String.intercalate_cons_cons]
        simp [Text.splitOn, Text.splitAt_append hp.noSlash]
      rw [partsOf, hsplit, List.filter_cons, if_pos hfilter]
      exact congrArg (p :: ·) (ih hrest)

/-! ## Roots -/

/-- The ways in which a path can begin. -/
def IsRoot (root : String) : Prop :=
  root = "" ∨ root = "/" ∨ root = "//"

theorem isRoot_rootOf (cs : List Char) : IsRoot (rootOf cs) := by
  unfold rootOf
  split
  · exact .inl rfl
  · exact .inr (.inr rfl)
  · exact .inr (.inl rfl)

variable {root : String} {parts : List String}

theorem partsOf_ofParts (hroot : IsRoot root) (h : ∀ p ∈ parts, IsPart p) :
    partsOf (ofParts root parts) = parts := by
  unfold ofParts
  split
  · next hempty =>
    simp only [Bool.and_eq_true, List.isEmpty_iff] at hempty
    rw [hempty.2]
    rfl
  · rcases hroot with rfl | rfl | rfl
    · rw [String.empty_append, partsOf_intercalate h]
    · rw [partsOf_slash, partsOf_intercalate h]
    · have hroots : "//" ++ "/".intercalate parts = "/" ++ ("/" ++ "/".intercalate parts) := by
        rw [← String.append_assoc]
        rfl
      rw [hroots, partsOf_slash, partsOf_slash, partsOf_intercalate h]

theorem head_intercalate (h : ∀ p ∈ parts, IsPart p) :
    ∀ c ∈ ("/".intercalate parts).toList.head?, c ≠ '/' := by
  intro c hc hslash
  cases parts with
  | nil => simp at hc
  | cons p rest =>
    have hp := (List.forall_mem_cons.1 h).1
    have hne : p.toList ≠ [] := fun e => hp.ne_empty (String.toList_eq_nil_iff.1 e)
    have hhead : p.toList.head? = some c := by
      cases rest with
      | nil => simpa using hc
      | cons q rest =>
        obtain ⟨d, ds, hd⟩ := List.exists_cons_of_ne_nil hne
        simpa [String.intercalate_cons_cons, hd] using hc
    exact hp.noSlash (hslash ▸ List.mem_of_mem_head? hhead)

theorem takeWhile_slash {cs : List Char} (h : ∀ c ∈ cs.head?, c ≠ '/') :
    cs.takeWhile (· == '/') = [] := by
  cases cs with
  | nil => rfl
  | cons c cs =>
    have hc : c ≠ '/' := h c rfl
    rw [List.takeWhile_cons_of_neg (by simpa using hc)]

theorem rootOf_ofParts (hroot : IsRoot root) (h : ∀ p ∈ parts, IsPart p) :
    rootOf (ofParts root parts).toList = root := by
  have hbody := takeWhile_slash (head_intercalate h)
  unfold ofParts
  split
  · next hempty =>
    simp only [Bool.and_eq_true, beq_iff_eq] at hempty
    rw [hempty.1]
    rfl
  · generalize "/".intercalate parts = body at hbody
    rcases hroot with rfl | rfl | rfl <;> simp [rootOf, hbody]

theorem isAbsolute_eq (s : String) : isAbsolute s = (rootOf s.toList != "") := by
  unfold isAbsolute rootOf
  cases s.toList with
  | nil => rfl
  | cons c cs =>
    by_cases hc : c = '/'
    · subst hc
      rw [List.takeWhile_cons_of_pos rfl, List.length_cons]
      match (cs.takeWhile (· == '/')).length with
      | 0 | 1 | _ + 2 => rfl
    · simp [hc]

theorem normal_normal (s : String) : normal (normal s) = normal s := by
  unfold normal
  have hparts : ∀ p ∈ partsOf s, IsPart p := fun _ hp => isPart_of_mem hp
  rw [rootOf_ofParts (isRoot_rootOf _) hparts, partsOf_ofParts (isRoot_rootOf _) hparts]

/-! ## Files in a directory -/

/-- A name that a file in a directory can have. -/
structure IsFileName (name : String) : Prop where
  isPart : IsPart name
  ne_above : name ≠ ".."

variable {dir name : String}

/-- A text of some length without a slash is the name of a file. -/
theorem isFileName_of_long (noSlash : '/' ∉ name.toList) (long : 2 < name.toList.length) :
    IsFileName name := by
  have hne {s : String} (short : s.toList.length ≤ 2) : name ≠ s := by
    rintro rfl
    omega
  exact ⟨⟨hne (by decide), hne (by decide), noSlash⟩, hne (by decide)⟩

theorem join_eq (h : '/' ∉ name.toList) :
    join dir name = ofParts (rootOf dir.toList) (partsOf dir ++ partsOf name) := by
  have hrelative : isAbsolute name = false := by
    unfold isAbsolute
    cases hs : name.toList with
    | nil => rfl
    | cons c cs =>
      have hc : c ≠ '/' := fun e => h (by rw [hs, e]; exact List.mem_cons_self)
      simpa using hc
  rw [join, hrelative, if_neg Bool.false_ne_true]

theorem partsOf_of_isPart (h : IsPart name) : partsOf name = [name] := by
  simp [partsOf, Text.splitOn, Text.splitAt_of_not_mem h.noSlash, h.ne_empty, h.ne_dot]

theorem isPart_parts (h : IsPart name) : ∀ p ∈ partsOf dir ++ [name], IsPart p := by
  intro p hp
  rcases List.mem_append.1 hp with hp | hp
  · exact isPart_of_mem hp
  · rwa [List.mem_singleton.1 hp]

theorem partsOf_join (h : IsPart name) : partsOf (join dir name) = partsOf dir ++ [name] := by
  rw [join_eq h.noSlash, partsOf_of_isPart h]
  exact partsOf_ofParts (isRoot_rootOf _) (isPart_parts h)

theorem rootOf_join (h : IsPart name) : rootOf (join dir name).toList = rootOf dir.toList := by
  rw [join_eq h.noSlash, partsOf_of_isPart h]
  exact rootOf_ofParts (isRoot_rootOf _) (isPart_parts h)

theorem normal_join (h : IsPart name) : normal (join dir name) = join dir name := by
  rw [normal, rootOf_join h, partsOf_join h, join_eq h.noSlash, partsOf_of_isPart h]

theorem isAbsolute_join (h : IsPart name) : isAbsolute (join dir name) = isAbsolute dir := by
  rw [isAbsolute_eq, isAbsolute_eq, rootOf_join h]

theorem parent_join (h : IsPart name) : parent (join dir name) = normal dir := by
  rw [parent, partsOf_join h, rootOf_join h, List.dropLast_concat]
  rfl

/-- A path that leads to an entry of a directory itself: it has the root and the parts of the
directory, and one name more. -/
structure IsEntryOf (dir name path : String) : Prop where
  isFileName : IsFileName name
  root : rootOf path.toList = rootOf dir.toList
  parts : partsOf path = partsOf dir ++ [name]

theorem isEntryOf_join (h : IsFileName name) : IsEntryOf dir name (join dir name) :=
  ⟨h, rootOf_join h.isPart, partsOf_join h.isPart⟩

theorem of_mem_intercalate {c : Char} (h : c ∈ ("/".intercalate parts).toList) :
    c = '/' ∨ ∃ p ∈ parts, c ∈ p.toList := by
  induction parts with
  | nil => simp at h
  | cons p rest ih =>
    cases rest with
    | nil => exact .inr ⟨p, List.mem_cons_self, by simpa using h⟩
    | cons q rest =>
      rw [String.intercalate_cons_cons, String.toList_append, String.toList_append,
        List.mem_append, List.mem_append] at h
      rcases h with (h | h) | h
      · exact .inr ⟨p, List.mem_cons_self, h⟩
      · exact .inl (by simpa using h)
      · rcases ih h with h | ⟨x, hx, hc⟩
        · exact .inl h
        · exact .inr ⟨x, List.mem_cons_of_mem p hx, hc⟩

theorem of_mem_ofParts (hroot : IsRoot root) {c : Char} (h : c ∈ (ofParts root parts).toList) :
    c = '.' ∨ c = '/' ∨ ∃ p ∈ parts, c ∈ p.toList := by
  unfold ofParts at h
  split at h
  · exact .inl (by simpa using h)
  · rw [String.toList_append, List.mem_append] at h
    rcases h with h | h
    · right
      left
      rcases hroot with rfl | rfl | rfl
      · simp at h
      · simpa using h
      · simpa using h
    · exact .inr (of_mem_intercalate h)

/-- The character that no path can have is in no path of a file whose directory and name
are without it. -/
theorem noZero_join {zero : Char} (hn : IsPart name) (hdot : zero ≠ '.') (hslash : zero ≠ '/')
    (hdir : zero ∉ dir.toList) (hname : zero ∉ name.toList) : zero ∉ (join dir name).toList := by
  intro h
  rw [join_eq hn.noSlash, partsOf_of_isPart hn] at h
  rcases of_mem_ofParts (isRoot_rootOf _) h with h | h | ⟨p, hp, hc⟩
  · exact hdot h
  · exact hslash h
  · rcases List.mem_append.1 hp with hp | hp
    · exact hdir (mem_of_mem_part hp hc)
    · rw [List.mem_singleton.1 hp] at hc
      exact hname hc

end Files

end Scout
