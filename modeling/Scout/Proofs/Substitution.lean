import Scout.Proofs.Templates

/-!
# Substitution around a token

The text that is made of a template is made of its pieces one by one.  A template that is put
together around a token therefore becomes what stands for the token, between what the texts
around it become, and reports what they report.  Whatever these texts end or begin with, and
whatever a value brings in, no token is made or lost at the seams.
-/

namespace Scout.Template

/-! ## Pieces and their texts -/

def Piece.text : Piece → List Char
  | .char c => [c]
  | .token name => tokenText name

theorem flatMap_text_pieces (cs : List Char) : (pieces cs).flatMap Piece.text = cs := by
  induction cs using pieces.induct with
  | case1 cs name rest found _ ih =>
    obtain ⟨valid, rfl⟩ := of_tokenAt? found
    rw [pieces_tokenText valid, List.flatMap_cons, ih]
    rfl
  | case2 => rw [pieces_nil, List.flatMap_nil]
  | case3 c rest unfound ih =>
    rw [pieces_cons unfound, List.flatMap_cons, ih]
    rfl

/-- Where nothing is bound, every token stays. -/
theorem substitute_nil (t : String) : substitute [] t = t := by
  have stays : Piece.expand [] = Piece.text := by
    funext p
    cases p <;> rfl
  rw [substitute_eq, stays, flatMap_text_pieces, String.ofList_toList]

/-- Keeping a report does not change the text, and adds to the report the names that have no
value. -/
theorem fillIn_some (vars : Members Value) (t : String) (names : List String) :
    fillIn vars t (some names) = (substitute vars t, some (names ++ unresolved vars t)) := by
  rw [fillIn_eq, substitute_eq, unresolved_eq]
  rfl

theorem unresolved_of_not_holdsToken (vars : Members Value) {t : String}
    (plain : ¬ HoldsToken t.toList) : unresolved vars t = [] := by
  rw [unresolved_eq, pieces_of_not_holdsToken plain, filterMap_missing?_char]

/-! ## Texts around a token -/

def token (name : String) : String :=
  "$\x7b" ++ name ++ "\x7d"

section Around

variable {vars : Members Value} {name : String}

theorem pieces_around (h : IsName name.toList) (before after : String) :
    pieces (before ++ token name ++ after).toList =
      pieces before.toList ++ .token name.toList :: pieces after.toList := by
  have chars : (before ++ token name ++ after).toList =
      before.toList ++ (tokenText name.toList ++ after.toList) := by
    simp [token, tokenText]
  rw [chars, pieces_append_tokenText h]

theorem substitute_around (h : IsName name.toList) (before after : String) :
    substitute vars (before ++ token name ++ after) =
      substitute vars before ++ String.ofList (Piece.expand vars (.token name.toList)) ++
        substitute vars after := by
  rw [substitute_eq, pieces_around h, List.flatMap_append, List.flatMap_cons, String.ofList_append,
    String.ofList_append, ← substitute_eq, ← substitute_eq, String.append_assoc]

theorem unresolved_around (h : IsName name.toList) (before after : String) :
    unresolved vars (before ++ token name ++ after) =
      unresolved vars before ++
        ((Piece.missing? vars (.token name.toList)).toList ++ unresolved vars after) := by
  rw [unresolved_eq, pieces_around h, List.filterMap_append, filterMap_missing?_cons,
    ← unresolved_eq, ← unresolved_eq]

theorem bound?_eq_some {v : Value} (found : vars.find? name = some v) (given : v ≠ .null) :
    bound? vars name = some v := by
  unfold bound?
  rw [found]
  split
  · next null => exact absurd (Option.some.inj null) given
  · rfl

end Around

end Scout.Template
