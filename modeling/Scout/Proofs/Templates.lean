import Mathlib
import Scout.Template

/-!
# Tokens of templates

The pieces of a template are its tokens, which are found from the left, and the
characters between them.  A text without a token is all characters, and stays as it is
whatever the variables are.  No token begins inside of another one, so that a text splits
at each of its tokens, and each of them is found.
-/

namespace Scout.Template

/-- Somewhere in the text a name of word characters stands between `$` and braces. -/
def HoldsToken (cs : List Char) : Prop :=
  ∃ before name after, name ≠ [] ∧ (∀ c ∈ name, Text.isWord c = true) ∧
    cs = before ++ tokenText name ++ after

/-- A name that a token may hold: word characters, at least one. -/
def IsName (name : List Char) : Prop :=
  name ≠ [] ∧ ∀ c ∈ name, Text.isWord c = true

theorem of_tokenAt? {cs name after : List Char} (h : tokenAt? cs = some (name, after)) :
    IsName name ∧ cs = tokenText name ++ after := by
  unfold tokenAt? at h
  split at h
  · next rest =>
    have parts := List.takeWhile_append_dropWhile (p := Text.isWord) (l := rest)
    dsimp only at h
    split at h
    · next tail closed =>
      split at h
      · cases h
      · next nonempty =>
        cases h
        rw [closed] at parts
        refine ⟨⟨by simpa using nonempty, fun c mem => List.mem_takeWhile_imp mem⟩, ?_⟩
        unfold tokenText
        simp [parts]
    · cases h
  · cases h

theorem HoldsToken.cons {cs : List Char} (h : HoldsToken cs) (c : Char) : HoldsToken (c :: cs) := by
  obtain ⟨before, name, after, nonempty, word, rfl⟩ := h
  exact ⟨c :: before, name, after, nonempty, word, rfl⟩

theorem tokenAt?_of_not_holdsToken {cs : List Char} (plain : ¬ HoldsToken cs) :
    tokenAt? cs = none := by
  rcases found : tokenAt? cs with _ | ⟨name, after⟩
  · rfl
  · obtain ⟨⟨nonempty, word⟩, rfl⟩ := of_tokenAt? found
    exact absurd ⟨[], name, after, nonempty, word, rfl⟩ plain

@[simp] theorem pieces_nil : pieces [] = [] := by
  rw [pieces]
  rfl

theorem pieces_cons {c : Char} {rest : List Char} (unfound : tokenAt? (c :: rest) = none) :
    pieces (c :: rest) = .char c :: pieces rest := by
  rw [pieces]
  split
  · next found =>
    rw [unfound] at found
    cases found
  · rfl

theorem pieces_of_not_holdsToken {cs : List Char} (plain : ¬ HoldsToken cs) :
    pieces cs = cs.map .char := by
  induction cs with
  | nil => simp
  | cons c rest ih =>
    rw [pieces_cons (tokenAt?_of_not_holdsToken plain), ih fun later => plain (later.cons c)]
    rfl

/-! ## What is made of the pieces -/

theorem filterMap_missing?_cons (vars : Members Value) (p : Piece) (ps : List Piece) :
    (p :: ps).filterMap (Piece.missing? vars) =
      (p.missing? vars).toList ++ ps.filterMap (Piece.missing? vars) := by
  cases missing : p.missing? vars with
  | none => rw [List.filterMap_cons_none missing, Option.toList_none, List.nil_append]
  | some name => rw [List.filterMap_cons_some missing, Option.toList_some, List.singleton_append]

theorem expandAll_eq (vars : Members Value) (ps : List Piece) (report : Option (List String)) :
    expandAll vars ps report =
      (ps.flatMap (Piece.expand vars), report.map (· ++ ps.filterMap (Piece.missing? vars))) := by
  induction ps generalizing report with
  | nil => simp [expandAll]
  | cons p rest ih =>
    rw [expandAll, ih, List.flatMap_cons, filterMap_missing?_cons]
    cases report with
    | none => rfl
    | some names => simp

theorem hasOpening_cons {cs : List Char} (h : hasOpening cs = true) (c : Char) :
    hasOpening (c :: cs) = true := by
  unfold hasOpening
  split
  · rfl
  · next same => cases same; exact h
  · next same => cases same

theorem HoldsToken.hasOpening {cs : List Char} (h : HoldsToken cs) : hasOpening cs = true := by
  obtain ⟨before, name, after, -, -, rfl⟩ := h
  induction before with
  | nil => rfl
  | cons c before ih => exact hasOpening_cons ih c

theorem flatMap_expand_char (vars : Members Value) (cs : List Char) :
    (cs.map Piece.char).flatMap (Piece.expand vars) = cs := by
  rw [List.flatMap_map]
  exact List.flatMap_singleton' cs

theorem filterMap_missing?_char (vars : Members Value) (cs : List Char) :
    (cs.map Piece.char).filterMap (Piece.missing? vars) = [] := by
  simp [List.filterMap_eq_nil_iff, Piece.missing?]

/-- A text that is left alone because no token can begin in it would not be changed either. -/
theorem fillIn_eq (vars : Members Value) (t : String) (report : Option (List String)) :
    fillIn vars t report =
      (String.ofList ((pieces t.toList).flatMap (Piece.expand vars)),
        report.map (· ++ (pieces t.toList).filterMap (Piece.missing? vars))) := by
  unfold fillIn
  by_cases opening : hasOpening t.toList = true
  · rw [if_pos opening, expandAll_eq]
  · have plain : ¬ HoldsToken t.toList := fun h => opening h.hasOpening
    rw [if_neg opening, pieces_of_not_holdsToken plain, flatMap_expand_char,
      filterMap_missing?_char, String.ofList_toList]
    simp

theorem substitute_eq (vars : Members Value) (t : String) :
    substitute vars t = String.ofList ((pieces t.toList).flatMap (Piece.expand vars)) := by
  rw [substitute, fillIn_eq]

theorem unresolved_eq (vars : Members Value) (t : String) :
    unresolved vars t = (pieces t.toList).filterMap (Piece.missing? vars) := by
  rw [unresolved, fillIn_eq]
  simp

theorem substitute_of_not_holdsToken (vars : Members Value) {t : String}
    (plain : ¬ HoldsToken t.toList) : substitute vars t = t := by
  rw [substitute_eq, pieces_of_not_holdsToken plain, flatMap_expand_char, String.ofList_toList]

/-! ## Tokens within a text -/

theorem takeWhile_isWord {name : List Char} (h : IsName name) (rest : List Char) :
    (name ++ '\x7d' :: rest).takeWhile Text.isWord = name := by
  have closed : Text.isWord '\x7d' = false := by decide
  rw [List.takeWhile_append_of_pos h.2, List.takeWhile_cons_of_neg (by simp [closed]),
    List.append_nil]

theorem tokenAt?_tokenText {name : List Char} (h : IsName name) (after : List Char) :
    tokenAt? (tokenText name ++ after) = some (name, after) := by
  have closed : Text.isWord '\x7d' = false := by decide
  have dropped : (name ++ '\x7d' :: after).dropWhile Text.isWord = '\x7d' :: after := by
    rw [List.dropWhile_append_of_pos h.2, List.dropWhile_cons_of_neg (by simp [closed])]
  have same : tokenText name ++ after = '$' :: '\x7b' :: (name ++ '\x7d' :: after) := by
    simp [tokenText]
  rw [same]
  simp [tokenAt?, takeWhile_isWord h, dropped, h.1]

/-- The sign that begins a token stands nowhere else in it. -/
theorem not_mem_tail_tokenText {name : List Char} (h : IsName name) :
    '$' ∉ (tokenText name).tail := by
  have notWord : Text.isWord '$' = false := by decide
  intro mem
  have inside : '$' ∈ name := by simpa [tokenText] using mem
  rw [h.2 _ inside] at notWord
  cases notWord

theorem of_append_tokenText {name inner before after rest : List Char} (h : IsName inner)
    (nonempty : before ≠ [])
    (same : before ++ (tokenText name ++ after) = tokenText inner ++ rest) :
    ∃ b, before = tokenText inner ++ b ∧ rest = b ++ (tokenText name ++ after) := by
  obtain ⟨a, outer, tail⟩ | ⟨b, outer, tail⟩ := List.append_eq_append_iff.mp same
  · rcases a with _ | ⟨c, a⟩
    · exact ⟨[], by simpa using outer.symm, by simpa using tail.symm⟩
    · obtain ⟨d, before, rfl⟩ := List.exists_cons_of_ne_nil nonempty
      have sign : c = '$' := (List.cons.inj tail).1.symm
      refine absurd ?_ (not_mem_tail_tokenText h)
      simp [outer, sign]
  · exact ⟨b, outer, tail⟩

theorem pieces_tokenText {name : List Char} (h : IsName name) (after : List Char) :
    pieces (tokenText name ++ after) = .token name :: pieces after := by
  have found := tokenAt?_tokenText h after
  rw [pieces]
  split
  · next name' after' found' =>
    rw [found] at found'
    cases found'
    rfl
  · next unfound =>
    rw [found] at unfound
    cases unfound

theorem pieces_append_tokenText {name : List Char} (h : IsName name) (before after : List Char) :
    pieces (before ++ (tokenText name ++ after)) =
      pieces before ++ .token name :: pieces after := by
  induction before using pieces.induct with
  | case1 cs inner rest found _ ih =>
    obtain ⟨valid, rfl⟩ := of_tokenAt? found
    rw [List.append_assoc, pieces_tokenText valid, pieces_tokenText valid, ih]
    rfl
  | case2 => rw [List.nil_append, pieces_tokenText h, pieces_nil, List.nil_append]
  | case3 c rest unfound ih =>
    have stays : tokenAt? (c :: (rest ++ (tokenText name ++ after))) = none := by
      rcases found : tokenAt? (c :: (rest ++ (tokenText name ++ after))) with _ | ⟨inner, left⟩
      · rfl
      · obtain ⟨valid, same⟩ := of_tokenAt? found
        obtain ⟨b, earlier, -⟩ := of_append_tokenText valid (List.cons_ne_nil c rest) same
        rw [earlier, tokenAt?_tokenText valid] at unfound
        cases unfound
    rw [List.cons_append, pieces_cons stays, ih, pieces_cons unfound]
    rfl

theorem token_mem_pieces_iff {name cs : List Char} :
    .token name ∈ pieces cs ↔
      IsName name ∧ ∃ before after, cs = before ++ (tokenText name ++ after) := by
  constructor
  · intro mem
    induction cs using pieces.induct with
    | case1 cs inner rest found _ ih =>
      obtain ⟨valid, rfl⟩ := of_tokenAt? found
      rw [pieces_tokenText valid, List.mem_cons] at mem
      obtain same | mem := mem
      · cases same
        exact ⟨valid, [], rest, rfl⟩
      · obtain ⟨valid, before, after, rfl⟩ := ih mem
        exact ⟨valid, tokenText inner ++ before, after, by simp⟩
    | case2 => simp at mem
    | case3 c rest unfound ih =>
      rw [pieces_cons unfound] at mem
      obtain ⟨valid, before, after, rfl⟩ := ih (by simpa using mem)
      exact ⟨valid, c :: before, after, rfl⟩
  · rintro ⟨valid, before, after, rfl⟩
    simp [pieces_append_tokenText valid]

/-- The token of a name stands somewhere in a template. -/
def HasToken (template name : String) : Prop :=
  IsName name.toList ∧
    ∃ before after, template = before ++ "$\x7b" ++ name ++ "\x7d" ++ after

theorem hasToken_iff {template name : String} :
    HasToken template name ↔ .token name.toList ∈ pieces template.toList := by
  rw [token_mem_pieces_iff]
  refine and_congr_right fun _ => ⟨?_, ?_⟩
  · rintro ⟨before, after, rfl⟩
    exact ⟨before.toList, after.toList, by simp [tokenText]⟩
  · rintro ⟨before, after, same⟩
    refine ⟨String.ofList before, String.ofList after, String.toList_injective ?_⟩
    simp [same, tokenText]

theorem not_hasToken_empty (name : String) : ¬ HasToken "" name := by
  simp [hasToken_iff]

theorem bound?_eq_none_iff {vars : Members Value} {name : String} :
    bound? vars name = none ↔ vars.find? name = none ∨ vars.find? name = some .null := by
  unfold bound?
  split
  · next found => simp [found]
  · next other => exact ⟨.inl, fun h => h.elim id fun null => (other null).elim⟩

/-- What is reported for a template are the names of its tokens that have no value. -/
theorem mem_unresolved_iff {vars : Members Value} {template name : String} :
    name ∈ unresolved vars template ↔ bound? vars name = none ∧ HasToken template name := by
  rw [hasToken_iff, unresolved_eq, List.mem_filterMap]
  constructor
  · rintro ⟨piece, mem, missing⟩
    cases piece with
    | char c => cases missing
    | token inner =>
      simp only [Piece.missing?] at missing
      split at missing
      · cases missing
      · next unbound =>
        cases missing
        exact ⟨unbound, by simpa using mem⟩
  · rintro ⟨unbound, mem⟩
    refine ⟨_, mem, ?_⟩
    simp [Piece.missing?, unbound]

end Scout.Template
