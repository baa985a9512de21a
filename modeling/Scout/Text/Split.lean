import Scout.Text.Blank

/-!
# Parts of a text

A text is split at a separator, of which none is left, or into its words.
-/

namespace Scout.Text

/-- The parts of a text between the separators; there is always one part. -/
def splitAt (separator : Char) : List Char → List (List Char)
  | [] => [[]]
  | c :: rest =>
    if c = separator then [] :: splitAt separator rest
    else match splitAt separator rest with
      | part :: parts => (c :: part) :: parts
      | [] => [[c]]

def splitOn (separator : Char) (s : String) : List String :=
  (splitAt separator s.toList).map String.ofList

/-- The parts of a text between blanks, without the empty ones. -/
def wordsOf (s : String) : List String :=
  ((splitAt ' ' (s.toList.map fun c => if isBlank c then ' ' else c)).filter
    fun w => !w.isEmpty).map String.ofList

theorem splitAt_ne_nil (separator : Char) (cs : List Char) : splitAt separator cs ≠ [] := by
  cases cs with
  | nil => simp [splitAt]
  | cons c cs =>
    unfold splitAt
    split
    · simp
    · split <;> simp

/-- The parts are those that the separator divides a list into. -/
theorem splitAt_eq_splitOn (separator : Char) (cs : List Char) :
    splitAt separator cs = cs.splitOn separator := by
  induction cs with
  | nil => rfl
  | cons c cs ih =>
    have step : (c :: cs).splitOn separator =
        if (c == separator) = true then [] :: cs.splitOn separator
        else (cs.splitOn separator).modifyHead (List.cons c) :=
      List.splitOnP_cons_eq_if_modifyHead c cs
    have h := splitAt_ne_nil separator cs
    rw [splitAt, step, ← ih]
    cases hs : splitAt separator cs with
    | nil => exact absurd hs h
    | cons part parts => simp

end Scout.Text
