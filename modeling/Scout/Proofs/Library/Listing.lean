import Scout.Proofs.Library.Hindrances
import Scout.Proofs.Registry.Standing

/-!
# Templates that are listed

The names of templates are those of the documents in their directory, whatever these are called.
A template is loaded by its name only if the name is of letters, digits, underscores and hyphens.
So a name that loads is listed, while a name that is listed may be refused.
-/

namespace Scout

/-! ## Files in a directory -/

namespace Files

variable {dir name : String} {parts : List String} {root : String}

theorem baseName_join (h : IsPart name) : baseName (join dir name) = name := by
  rw [baseName, partsOf_join h, List.getLast?_concat, Option.getD_some]

theorem size_intercalate_concat (parts : List String) (p : String) :
    ("/".intercalate parts).utf8ByteSize ≤ ("/".intercalate (parts ++ [p])).utf8ByteSize := by
  induction parts with
  | nil => simp
  | cons first rest ih =>
    cases rest with
    | nil => simp [String.intercalate_cons_cons, Nat.add_assoc]
    | cons second rest =>
      have tail : ("/".intercalate (first :: (second :: rest ++ [p]))).utf8ByteSize =
          (first ++ "/").utf8ByteSize + ("/".intercalate (second :: rest ++ [p])).utf8ByteSize := by
        rw [List.cons_append, String.intercalate_cons_cons, String.utf8ByteSize_append]
      rw [String.intercalate_cons_cons, String.utf8ByteSize_append, List.cons_append, tail]
      omega

theorem size_ofParts_concat (root : String) (parts : List String) {p : String} (h : p ≠ "") :
    (ofParts root parts).utf8ByteSize ≤ (ofParts root (parts ++ [p])).utf8ByteSize := by
  have whole : ofParts root (parts ++ [p]) = root ++ "/".intercalate (parts ++ [p]) := by
    simp [ofParts]
  rw [whole, String.utf8ByteSize_append]
  unfold ofParts
  split
  · next empty =>
    -- a single dot stands for no parts, and it is no longer than any part
    have noParts : parts = [] := by
      simp only [Bool.and_eq_true, List.isEmpty_iff] at empty
      exact empty.2
    have nonempty : p.utf8ByteSize ≠ 0 := by simpa using h
    have last : "/".intercalate (parts ++ [p]) = p := by simp [noParts]
    have dot : ".".utf8ByteSize = 1 := by decide
    rw [last, dot]
    omega
  · rw [String.utf8ByteSize_append]
    exact Nat.add_le_add_left (size_intercalate_concat parts p) _

/-- The path of a file in a directory is no shorter than that of the directory. -/
theorem size_le_join (shortest : normal dir = dir) (h : IsPart name) :
    dir.utf8ByteSize ≤ (join dir name).utf8ByteSize := by
  rw [join_eq h.noSlash, partsOf_of_isPart h]
  calc dir.utf8ByteSize
      = (ofParts (rootOf dir.toList) (partsOf dir)).utf8ByteSize := congrArg _ shortest.symm
    _ ≤ _ := size_ofParts_concat _ _ h.ne_empty

/-- What stands in the path of a directory stands in the path of a file in it. -/
theorem mem_join_of_mem {c : Char} (shortest : normal dir = dir) (h : IsPart name)
    (dot : c ≠ '.') (slash : c ≠ '/') (mem : c ∈ dir.toList) : c ∈ (join dir name).toList := by
  rw [← shortest, normal] at mem
  rcases of_mem_ofParts (isRoot_rootOf _) mem with same | same | ⟨p, hp, hc⟩
  · exact absurd same dot
  · exact absurd same slash
  · have part : p ∈ partsOf (join dir name) := by
      rw [partsOf_join h]
      exact List.mem_append_left _ hp
    exact mem_of_mem_part part hc

namespace Tree

variable {t : Tree} {D : Location}

/-- A file is read by its path in a directory only if the directory is open and the file in it. -/
theorem opens_of_content_join {c : Content} (shortest : normal dir = dir) (hn : IsFileName name)
    (h : t.content (join dir name) = .ok c) :
    ∃ D, t.Opens dir D ∧ t.at? (D ++ [name]) = some (.file c) := by
  obtain ⟨k, place, file⟩ := content_eq_ok.1 h
  obtain ⟨noZero, size, found⟩ := locate_eq_ok.1 place
  rw [normal_join hn.isPart] at size
  rw [start_join hn.isPart, partsOf_join hn.isPart, follow_append] at found
  cases hD : t.follow (t.start dir) (partsOf dir) with
  | error e =>
    rw [hD] at found
    cases found
  | ok D =>
    rw [hD] at found
    simp only [follow, beq_iff_eq, hn.ne_above, if_false] at found
    split at found
    · cases found
    · cases found
    · next isDirectory =>
      split at found
      · cases found
      · cases found
        refine ⟨D, ⟨shortest, ?_, isDirectory⟩, file⟩
        refine locate_eq_ok.2 ⟨fun zero => ?_, ?_, hD⟩
        · exact noZero (mem_join_of_mem shortest hn.isPart (by decide) (by decide) zero)
        · rw [shortest]
          exact (size_le_join shortest hn.isPart).trans_lt size

theorem Opens.content_join (h : t.Opens dir D) (hn : IsFileName name) (fits : FitsIn dir name) :
    t.content (join dir name) =
      match t.at? (D ++ [name]) with
      | some (.file c) => .ok c
      | some .directory => .error ⟨.isDirectory, normal (join dir name)⟩
      | none => .error ⟨.missing, normal (join dir name)⟩ := by
  have place := h.locate_of_fitsIn hn fits
  unfold content Tree.entry
  rw [place]
  rcases he : t.at? (D ++ [name]) with _ | c | _ <;>
    simp [he, bind, Except.bind, pure, Except.pure]

theorem locate_eq_long {path p : String} :
    t.locate path = .error ⟨.nameTooLong, p⟩ ↔ Char.ofNat 0 ∉ path.toList ∧ p = normal path ∧
      (pathLimit ≤ (normal path).utf8ByteSize ∨
        t.follow (t.start path) (partsOf path) = .error .nameTooLong) := by
  unfold locate start
  by_cases hzero : Char.ofNat 0 ∈ path.toList
  · simp [hzero]
  · by_cases hlong : pathLimit ≤ (normal path).utf8ByteSize
    · simpa [hzero, hlong] using eq_comm
    · rw [if_neg (by simpa using hzero), if_neg hlong]
      generalize t.follow _ _ = found
      cases found with
      | ok l => simp [not_le.1 hlong]
      | error cause => simpa [hzero, hlong, and_comm] using fun _ => eq_comm

theorem content_of_long {path p : String} (h : t.locate path = .error ⟨.nameTooLong, p⟩) :
    t.content path = .error ⟨.nameTooLong, p⟩ := by
  unfold content Tree.entry
  rw [h]
  rfl

theorem Opens.content_join_long (h : t.Opens dir D) (hn : IsFileName name)
    (noZero : Char.ofNat 0 ∉ name.toList) (long : ¬ FitsIn dir name) :
    t.content (join dir name) = .error ⟨.nameTooLong, normal (join dir name)⟩ := by
  obtain ⟨hzero, -, hfollow⟩ := locate_eq_ok.1 h.place
  have absent := noZero_join hn.isPart (by decide) (by decide) hzero noZero
  apply content_of_long
  refine locate_eq_long.2 ⟨absent, rfl, ?_⟩
  by_cases pathSize : pathLimit ≤ (join dir name).utf8ByteSize
  · left
    rwa [normal_join hn.isPart]
  · right
    have nameSize : nameLimit < name.utf8ByteSize := by
      by_contra short
      exact long ⟨noZero, not_lt.1 short, not_le.1 pathSize⟩
    rw [start_join hn.isPart, partsOf_join hn.isPart, follow_append, hfollow]
    simp [follow, h.isDirectory, hn.ne_above, nameSize]

/-- Where the path of a directory is too long, so are the paths of the files in it. -/
theorem content_join_of_long {p : String} (shortest : normal dir = dir) (hn : IsFileName name)
    (noZero : Char.ofNat 0 ∉ name.toList) (h : t.entry dir = .error ⟨.nameTooLong, p⟩) :
    t.content (join dir name) = .error ⟨.nameTooLong, normal (join dir name)⟩ := by
  have failed : t.locate dir = .error ⟨.nameTooLong, p⟩ := by
    unfold Tree.entry at h
    cases hl : t.locate dir with
    | error e => simpa [hl, bind, Except.bind] using h
    | ok l => cases he : t.at? l <;> simp [hl, he, bind, Except.bind, pure, Except.pure] at h
  obtain ⟨hzero, -, why⟩ := locate_eq_long.1 failed
  apply content_of_long
  refine locate_eq_long.2 ⟨noZero_join hn.isPart (by decide) (by decide) hzero noZero, rfl, ?_⟩
  rcases why with pathSize | followed
  · left
    rw [shortest] at pathSize
    rw [normal_join hn.isPart]
    exact pathSize.trans (size_le_join shortest hn.isPart)
  · right
    rw [start_join hn.isPart, partsOf_join hn.isPart, follow_append, followed]

theorem mem_shelf_iff (hd : isDocumentName name = true) :
    name ∈ (t.shelf D).names ↔ (t.at? (D ++ [name])).isSome = true := by
  rw [at?_document t D hd, ← Members.contains_eq_true_iff, Members.contains]

end Tree

end Files

namespace Library

open Files (IsFileName Location Tree)
open Registry (isNamed_of_all)

variable {l : Library} {t : Tree} {D : Location} {dir name : String}

/-! ## Names of documents -/

theorem exists_fileName_eq {file : String} (h : Tree.isDocumentName file = true) :
    ∃ stem, file = fileName stem := by
  obtain ⟨stem, whole⟩ := List.isSuffixOf_iff_suffix.1 h
  refine ⟨String.ofList stem, String.toList_injective ?_⟩
  rw [fileName, String.toList_append, String.toList_ofList, whole]

/-- A document is called by its file without the ending, or by the ending where that is all. -/
theorem documentName_join {stem : String} (h : IsFileName (fileName stem)) :
    documentName (Files.join dir (fileName stem)) =
      if stem = "" then Tree.documentEnding else stem := by
  have body : (fileName stem).toList.take
      ((fileName stem).toList.length - Tree.documentEnding.length) = stem.toList := by
    rw [fileName_toList]
    have ending : Tree.documentEnding.length = 5 := by decide
    rw [ending, List.length_append, List.take_left' (by simp)]
  unfold documentName
  rw [Files.baseName_join h.isPart]
  dsimp only
  rw [body]
  by_cases empty : stem = ""
  · rw [empty]
    decide
  · have isBody : stem.toList.isEmpty = false := by simpa using empty
    rw [if_neg empty, isBody, if_neg Bool.false_ne_true, String.ofList_toList]

/-- Whether an entry of the directory of templates gives a name: it is called by the name with the
ending of documents, or by that ending alone. -/
def Lists (l : Library) (t : Tree) (name : String) : Prop :=
  ∃ D stem, t.Opens l.templates D ∧ (t.at? (D ++ [fileName stem])).isSome = true ∧
    name = if stem = "" then Tree.documentEnding else stem

theorem templateNames_of_opens (opens : t.Opens l.templates D) :
    l.templateNames t = .ok (Tree.inOrder ((t.documents l.templates).map documentName)) := by
  rw [templateNames, opens.isDirectory_eq]
  rfl

/-- Listing fails only where the path of the directory is too long; where there is no directory,
nothing is listed. -/
theorem templateNames_cases (normal : l.IsNormal) :
    (∃ p, t.entry l.templates = .error ⟨.nameTooLong, p⟩ ∧
      l.templateNames t = .error (.file ⟨.nameTooLong, p⟩)) ∨
    (∀ D, ¬ t.Opens l.templates D) ∧ l.templateNames t = .ok [] ∨
    ∃ D, t.Opens l.templates D := by
  cases hd : t.isDirectory l.templates with
  | error e =>
    left
    have long : ∃ p, t.entry l.templates = .error ⟨.nameTooLong, p⟩ ∧ e = ⟨.nameTooLong, p⟩ := by
      unfold Tree.isDirectory at hd
      split at hd
      · cases hd
      · cases hd
      · next p found => exact ⟨p, found, (Except.error.inj hd).symm⟩
      · cases hd
    obtain ⟨p, found, rfl⟩ := long
    exact ⟨p, found, by rw [templateNames, hd]; rfl⟩
  | ok isThere =>
    right
    cases isThere with
    | false =>
      refine .inl ⟨fun D opens => ?_, by rw [templateNames, hd]; rfl⟩
      cases hd.symm.trans opens.isDirectory_eq
    | true => exact .inr (opens_of_isDirectory normal.templates hd)

/-- The names that are listed are those that the entries of the directory give. -/
theorem mem_templateNames (opens : t.Opens l.templates D) (named : t.IsNamed) :
    name ∈ Tree.inOrder ((t.documents l.templates).map documentName) ↔ l.Lists t name := by
  have unsorted (names : List String) : name ∈ Tree.inOrder names ↔ name ∈ names :=
    List.mem_mergeSort
  rw [unsorted, Tree.documents_eq opens.place, List.map_map, List.mem_map]
  constructor
  · rintro ⟨file, listed, rfl⟩
    have onShelf : file ∈ (t.shelf D).names := List.mem_mergeSort.1 listed
    obtain ⟨isDocument, isFileName⟩ := named.shelf onShelf
    obtain ⟨stem, rfl⟩ := exists_fileName_eq isDocument
    exact ⟨D, stem, opens, (Tree.mem_shelf_iff isDocument).1 onShelf, documentName_join isFileName⟩
  · rintro ⟨D', stem, opens', stands, rfl⟩
    have same : D' = D := Except.ok.inj (opens'.place.symm.trans opens.place)
    rw [same] at stands
    have onShelf := (Tree.mem_shelf_iff (isDocumentName_fileName stem)).2 stands
    have isFileName := (named.shelf onShelf).2
    exact ⟨fileName stem, List.mem_mergeSort.2 onShelf, documentName_join isFileName⟩

/-! ## Names that are accepted -/

theorem noSlash_of_isTemplateName (h : isTemplateName name = true) : '/' ∉ name.toList := by
  intro slash
  have every := (Bool.and_eq_true _ _ ▸ h).2
  have taken := List.all_eq_true.1 every '/' slash
  exact absurd taken (by decide)

theorem noZero_of_isTemplateName (h : isTemplateName name = true) :
    Char.ofNat 0 ∉ (fileName name).toList := by
  intro zero
  have every := (Bool.and_eq_true _ _ ▸ h).2
  rw [fileName_toList, List.mem_append] at zero
  rcases zero with zero | zero
  · exact absurd (List.all_eq_true.1 every _ zero) (by decide)
  · exact absurd zero (by decide)

/-- What comes of loading a template whose name is accepted and listed. -/
inductive Yields (l : Library) (t : Tree) (name : String) : Except Fault (Members Value) → Prop
  /-- There is a file: what it holds is a record, or hinders it. -/
  | file {D : Location} {c : Files.Content} (opens : t.Opens l.templates D)
      (stands : t.at? (D ++ [fileName name]) = some (.file c)) :
      Yields l t name ((valueIn c >>= recordOf).mapError
        (Hindrance.fault (documentPath l.templates name) (.templateNotRecord name)))
  | directory {D : Location} (opens : t.Opens l.templates D)
      (stands : t.at? (D ++ [fileName name]) = some .directory) :
      Yields l t name
        (.error (.file ⟨.isDirectory, Files.normal (documentPath l.templates name)⟩))
  | tooLong (long : ¬ Tree.FitsIn l.templates (fileName name)) :
      Yields l t name
        (.error (.file ⟨.nameTooLong, Files.normal (documentPath l.templates name)⟩))

theorem yields_loadTemplate (accepted : isTemplateName name = true) (listed : l.Lists t name) :
    l.Yields t name (l.loadTemplate t name) := by
  obtain ⟨D, stem, opens, stands, spelled⟩ := listed
  have own : stem = name := by
    by_cases empty : stem = ""
    · -- the ending alone has a dot, which no accepted name has
      rw [if_pos empty] at spelled
      rw [spelled] at accepted
      exact absurd accepted (by decide)
    · rw [spelled, if_neg empty]
  rw [own] at stands
  have isFileName := isFileName_fileName (noSlash_of_isTemplateName accepted)
  have noZero := noZero_of_isTemplateName accepted
  rw [loadTemplate_eq accepted, recordAt, valueAt, documentPath]
  by_cases fits : Tree.FitsIn l.templates (fileName name)
  · have content := opens.content_join isFileName fits
    rcases he : t.at? (D ++ [fileName name]) with _ | c | _
    · rw [he] at stands
      cases stands
    · rw [he] at content
      rw [← fileName, content]
      exact .file opens he
    · rw [he] at content
      rw [← fileName, content]
      exact .directory opens he
  · rw [← fileName, opens.content_join_long isFileName noZero fits]
    exact .tooLong fits

theorem isTemplateName_of_ok {ms : Members Value} (h : l.loadTemplate t name = .ok ms) :
    isTemplateName name = true := by
  by_contra refused
  rw [loadTemplate_of_not_accepted (Bool.eq_false_of_not_eq_true refused)] at h
  cases h

theorem lists_of_loadTemplate {ms : Members Value} (normal : l.IsNormal)
    (h : l.loadTemplate t name = .ok ms) : l.Lists t name := by
  have accepted := isTemplateName_of_ok h
  rw [loadTemplate_eq accepted, recordAt, valueAt] at h
  cases hc : t.content (documentPath l.templates name) with
  | error e =>
    rw [hc] at h
    cases h
  | ok c =>
    have isFileName := isFileName_fileName (noSlash_of_isTemplateName accepted)
    rw [documentPath, ← fileName] at hc
    obtain ⟨D, opens, stands⟩ := Tree.opens_of_content_join normal.templates isFileName hc
    have nonempty : name ≠ "" := by
      rintro rfl
      exact absurd accepted (by decide)
    exact ⟨D, name, opens, by rw [stands]; rfl, (if_neg nonempty).symm⟩

/-- Where a template is kept back by a hindrance that is told, the templates can be listed. -/
theorem exists_templateNames {h : Hindrance} (normal : l.IsNormal)
    (accepted : isTemplateName name = true)
    (hindered : recordAt t (documentPath l.templates name) = .error h) (told : h.isTold = true) :
    ∃ names, l.templateNames t = .ok names := by
  obtain ⟨p, long, -⟩ | ⟨-, found⟩ | ⟨D, opens⟩ := templateNames_cases (t := t) normal
  · have isFileName := isFileName_fileName (noSlash_of_isTemplateName accepted)
    have unread := Tree.content_join_of_long normal.templates isFileName
      (noZero_of_isTemplateName accepted) long
    rw [documentPath, ← fileName, recordAt, valueAt, unread] at hindered
    cases hindered
    cases told
  · exact ⟨_, found⟩
  · exact ⟨_, templateNames_of_opens opens⟩

/-- Templates are listed in the order of their names, one for each document in their directory,
unless the path of the directory is too long.  Of the listed names those that are of letters,
digits, underscores and hyphens are accepted: loading them fails only by what stands there or
since its path is too long.  All others are refused, though they are listed.  Every name that
loads is listed. -/
theorem templates_listed (normal : l.IsNormal) (named : t.IsNamed) :
    (∀ e, l.templateNames t = .error e → ∃ p, t.entry l.templates = .error ⟨.nameTooLong, p⟩) ∧
    (∀ names, l.templateNames t = .ok names →
      names.Pairwise (· ≤ ·) ∧ ∀ name, name ∈ names ↔ l.Lists t name) ∧
    (∀ name, l.Lists t name →
      (l.loadTemplate t name = .error (.refused (.badTemplateName name)) ↔
        isTemplateName name = false) ∧
      (isTemplateName name = true → l.Yields t name (l.loadTemplate t name))) ∧
    ∀ name ms, l.loadTemplate t name = .ok ms →
      ∃ names, l.templateNames t = .ok names ∧ name ∈ names := by
  refine ⟨fun e failed => ?_, fun names listed => ?_, fun name listed => ?_,
    fun name ms loads => ?_⟩
  · obtain ⟨p, long, -⟩ | ⟨-, found⟩ | ⟨D, opens⟩ := templateNames_cases (t := t) normal
    · exact ⟨p, long⟩
    · cases failed.symm.trans found
    · cases failed.symm.trans (templateNames_of_opens opens)
  · obtain ⟨p, -, found⟩ | ⟨closed, found⟩ | ⟨D, opens⟩ := templateNames_cases (t := t) normal
    · cases listed.symm.trans found
    · cases listed.symm.trans found
      refine ⟨.nil, fun name => ⟨fun mem => absurd mem List.not_mem_nil, ?_⟩⟩
      rintro ⟨D, -, opens, -⟩
      exact absurd opens (closed D)
    · cases listed.symm.trans (templateNames_of_opens opens)
      exact ⟨Tree.inOrder_sorted _, fun name => mem_templateNames opens named⟩
  · exact ⟨loadTemplate_bad_iff, fun accepted => yields_loadTemplate accepted listed⟩
  · obtain ⟨D, stem, opens, listed⟩ := lists_of_loadTemplate normal loads
    exact ⟨_, templateNames_of_opens opens,
      (mem_templateNames opens named).2 ⟨D, stem, opens, listed⟩⟩

/-! ## A name with a blank -/

def homely : Library :=
  ⟨"definitions", "templates", "history"⟩

theorem isNormal_homely : homely.IsNormal :=
  ⟨by decide +kernel, by decide +kernel, by decide +kernel⟩

def boards : Tree :=
  let templates := ["srv", "home", "templates"]
  ((Tree.empty.put templates .directory).put (templates ++ ["my board.json"])
    (stored (.record []))).put (templates ++ ["board.json"]) (stored (.record []))

theorem isNamed_boards : boards.IsNamed :=
  isNamed_of_all (by decide +kernel)

theorem opens_boards : boards.Opens homely.templates ["srv", "home", "templates"] :=
  ⟨by decide +kernel, by rfl, by decide +kernel⟩

theorem lists_boards : homely.Lists boards "board" ∧ homely.Lists boards "my board" :=
  ⟨⟨_, "board", opens_boards, by decide +kernel, rfl⟩,
    ⟨_, "my board", opens_boards, by decide +kernel, rfl⟩⟩

theorem templates_listed_boards :
    homely.IsNormal ∧ boards.IsNamed ∧
      (∃ names, homely.templateNames boards = .ok names ∧ names.Pairwise (· ≤ ·) ∧
        "board" ∈ names ∧ "my board" ∈ names) ∧
      homely.Yields boards "board" (homely.loadTemplate boards "board") ∧
      homely.loadTemplate boards "my board" = .error (.refused (.badTemplateName "my board")) := by
  have ⟨_, listing, loading, _⟩ := templates_listed isNormal_homely isNamed_boards
  have found := templateNames_of_opens opens_boards
  have ⟨sorted, names⟩ := listing _ found
  refine ⟨isNormal_homely, isNamed_boards, ⟨_, found, sorted, ?_, ?_⟩, ?_, ?_⟩
  · exact (names "board").2 lists_boards.1
  · exact (names "my board").2 lists_boards.2
  · exact (loading "board" lists_boards.1).2 (by decide)
  · exact (loading "my board" lists_boards.2).1.2 (by decide)

/-- Not every name that is listed is accepted. -/
theorem listed_name_refused :
    ¬ ∀ (l : Library) (t : Tree) (names : List String) (name : String), l.IsNormal → t.IsNamed →
      l.templateNames t = .ok names → name ∈ names →
        l.loadTemplate t name ≠ .error (.refused (.badTemplateName name)) := by
  intro claim
  have listed := (mem_templateNames opens_boards isNamed_boards).2 lists_boards.2
  exact claim homely boards _ "my board" isNormal_homely isNamed_boards
    (templateNames_of_opens opens_boards) listed (loadTemplate_of_not_accepted (by decide))

end Library

end Scout
