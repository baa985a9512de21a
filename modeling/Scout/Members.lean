/-!
# Ordered members

A record keeps its members in the order in which their names first came. Storing under a known name
replaces the value in place, under a new name it appends.
-/

namespace Scout

abbrev Members (α : Type) := List (String × α)

namespace Members

variable {α β : Type}

def find? (ms : Members α) (name : String) : Option α :=
  match ms with
  | [] => none
  | (k, v) :: rest => if k = name then some v else find? rest name

def put (ms : Members α) (name : String) (value : α) : Members α :=
  match ms with
  | [] => [(name, value)]
  | (k, v) :: rest => if k = name then (name, value) :: rest else (k, v) :: put rest name value

def erase (ms : Members α) (name : String) : Members α :=
  ms.filter fun m => m.1 != name

def contains (ms : Members α) (name : String) : Bool :=
  (find? ms name).isSome

def names (ms : Members α) : List String :=
  ms.map Prod.fst

def values (ms : Members α) : List α :=
  ms.map Prod.snd

/-- The members of the first record, overlaid by those of the second. -/
def overlay (base above : Members α) : Members α :=
  above.foldl (fun ms m => put ms m.1 m.2) base

def modify (ms : Members α) (name : String) (f : α → α) : Members α :=
  ms.map fun m => if m.1 = name then (m.1, f m.2) else m

def mapValues (f : α → β) (ms : Members α) : Members β :=
  ms.map fun m => (m.1, f m.2)

@[simp] theorem find?_nil (name : String) : find? ([] : Members α) name = none := rfl

theorem find?_cons (m : String × α) (ms : Members α) (name : String) :
    find? (m :: ms) name = if m.1 = name then some m.2 else find? ms name := rfl

theorem find?_put_self (ms : Members α) (name : String) (value : α) :
    find? (put ms name value) name = some value := by
  induction ms with
  | nil => simp [put, find?]
  | cons m ms ih => by_cases h : m.1 = name <;> simp [put, find?, h, ih]

theorem find?_put_of_ne (ms : Members α) {name other : String} (value : α) (h : other ≠ name) :
    find? (put ms name value) other = find? ms other := by
  induction ms with
  | nil => simp [put, find?, h.symm]
  | cons m ms ih =>
    by_cases hm : m.1 = name
    · by_cases ho : m.1 = other
      · exact absurd (ho.symm.trans hm) h
      · simp [put, find?, hm, h.symm]
    · simp [put, find?, hm, ih]

theorem contains_eq_true_iff {ms : Members α} {name : String} :
    contains ms name = true ↔ name ∈ names ms := by
  induction ms with
  | nil => simp [contains, names, find?]
  | cons m ms ih =>
    by_cases h : m.1 = name
    · simp [contains, names, find?, h]
    · have hne : name ≠ m.1 := fun e => h e.symm
      simpa [contains, names, find?, h, hne] using ih

theorem contains_put (ms : Members α) (name other : String) (value : α) :
    contains (put ms name value) other = (decide (other = name) || contains ms other) := by
  by_cases h : other = name
  · subst h
    simp [contains, find?_put_self]
  · simp [contains, find?_put_of_ne _ _ h, h]

theorem find?_erase_self (ms : Members α) (name : String) :
    find? (erase ms name) name = none := by
  induction ms with
  | nil => rfl
  | cons m ms ih =>
    unfold erase at ih ⊢
    by_cases h : m.1 = name
    · simpa [h] using ih
    · simpa [h, find?] using ih

theorem find?_erase_of_ne (ms : Members α) {name other : String} (h : other ≠ name) :
    find? (erase ms name) other = find? ms other := by
  induction ms with
  | nil => rfl
  | cons m ms ih =>
    unfold erase at ih ⊢
    by_cases hm : m.1 = name
    · have ho : m.1 ≠ other := fun e => h (e.symm.trans hm)
      rw [List.filter_cons_of_neg (by simpa using hm), ih, find?_cons, if_neg ho]
    · rw [List.filter_cons_of_pos (by simpa using hm), find?_cons, ih, find?_cons]

theorem find?_modify (ms : Members α) (name other : String) (f : α → α) :
    find? (modify ms name f) other =
      if other = name then (find? ms other).map f else find? ms other := by
  induction ms with
  | nil => simp [modify]
  | cons m ms ih =>
    unfold modify at ih ⊢
    rw [List.map_cons, find?_cons, ih, find?_cons]
    by_cases ho : m.1 = other
    · by_cases hn : other = name <;> simp [ho, hn]
    · by_cases hm : m.1 = name
      · have hn : name ≠ other := fun e => ho (hm.trans e)
        simp [hm, hn, hn.symm]
      · simp [ho, hm]

theorem contains_erase (ms : Members α) (name other : String) :
    contains (erase ms name) other = (decide (other ≠ name) && contains ms other) := by
  by_cases h : other = name
  · subst h
    simp [contains, find?_erase_self]
  · simp [contains, find?_erase_of_ne _ h, h]

theorem contains_modify (ms : Members α) (name other : String) (f : α → α) :
    contains (modify ms name f) other = contains ms other := by
  rw [contains, contains, find?_modify]
  split <;> simp

end Members

end Scout
