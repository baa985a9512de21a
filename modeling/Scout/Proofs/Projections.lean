import Scout.Proofs.Lookup

/-!
# Where paths lead

A path through data leads to nothing or to something inside of them, as long as no step is taken
from what has neither members nor items.  Such a step leads on from what the thing answers to it,
which may lie outside of the data: a number answers with its parts, and a model with its members.
-/

namespace Scout

/-! ## Steps that are answered -/

namespace Terrain

variable {α : Type} (t : Terrain α)

/-- On its way the path takes a step from something that is there, but is neither a record nor a
list. -/
def Oversteps (x : α) (steps : List String) : Prop :=
  ∃ front name rest named,
    steps = front ++ name :: rest ∧ t.view (t.walk x front) = .parts named

/-- Such a step is answered. -/
def Strays (x : α) (steps : List String) : Prop :=
  ∃ front name rest named part, steps = front ++ name :: rest ∧
    t.view (t.walk x front) = .parts named ∧ named name = some part

variable {t} {x : α}

theorem Strays.oversteps {steps : List String} (h : t.Strays x steps) : t.Oversteps x steps := by
  obtain ⟨front, name, rest, named, part, split, view, -⟩ := h
  exact ⟨front, name, rest, named, split, view⟩

theorem walk_cons (name : String) (rest : List String) :
    t.walk x (name :: rest) = t.walk (t.walk x [name]) rest :=
  t.walk_append x [name] rest

theorem Strays.later {name : String} {rest : List String} (h : t.Strays (t.walk x [name]) rest) :
    t.Strays x (name :: rest) := by
  obtain ⟨front, step, after, named, part, rfl, view, answer⟩ := h
  refine ⟨name :: front, step, after, named, part, rfl, ?_, answer⟩
  rw [walk_cons]
  exact view

theorem Strays.first {name : String} {rest : List String} {named : String → Option α} {part : α}
    (view : t.view x = .parts named) (answer : named name = some part) :
    t.Strays x (name :: rest) :=
  ⟨[], name, rest, named, part, rfl, view, answer⟩

theorem not_oversteps_nil : ¬ t.Oversteps x [] := by
  rintro ⟨front, name, rest, named, split, -⟩
  simp at split

theorem oversteps_cons_iff {name : String} {rest : List String} :
    t.Oversteps x (name :: rest) ↔
      (∃ named, t.view x = .parts named) ∨ t.Oversteps (t.walk x [name]) rest := by
  constructor
  · rintro ⟨front, step, after, named, split, view⟩
    cases front with
    | nil => exact .inl ⟨named, view⟩
    | cons first front =>
      obtain ⟨rfl, rfl⟩ := List.cons.inj split
      rw [walk_cons] at view
      exact .inr ⟨front, step, after, named, rfl, view⟩
  · rintro (⟨named, view⟩ | ⟨front, step, after, named, rfl, view⟩)
    · exact ⟨[], name, rest, named, rfl, view⟩
    · refine ⟨name :: front, step, after, named, rfl, ?_⟩
      rw [walk_cons]
      exact view

end Terrain

/-! ## Data on a terrain -/

namespace Value

/-- Nothing, or something that stands inside of the value. -/
def Offers (v u : Value) : Prop :=
  u = .null ∨ ∃ places, v.Holds places u

theorem Offers.refl (v : Value) : v.Offers v :=
  .inr ⟨[], .here⟩

theorem Offers.member {ms : Members Value} {name : String} {u w : Value}
    (mem : (name, u) ∈ ms) (h : u.Offers w) : (Value.record ms).Offers w :=
  h.imp_right fun ⟨places, inner⟩ => ⟨.member name :: places, .member mem inner⟩

theorem Offers.item {items : List Value} {index : Nat} {u w : Value}
    (found : items[index]? = some u) (h : u.Offers w) : (Value.list items).Offers w :=
  h.imp_right fun ⟨places, inner⟩ => ⟨.item index :: places, .item found inner⟩

theorem Holds.trans {u v w : Value} {places more : List Place} (first : u.Holds places v)
    (second : v.Holds more w) : u.Holds (places ++ more) w := by
  induction first with
  | here => exact second
  | member mem _ ih => exact .member mem (ih second)
  | item found _ ih => exact .item found (ih second)

theorem Offers.trans {u v w : Value} (first : u.Offers v) (second : v.Offers w) : u.Offers w := by
  obtain rfl | ⟨more, inner⟩ := second
  · exact .inl rfl
  · obtain rfl | ⟨places, outer⟩ := first
    · cases inner
      exact .inl rfl
    · exact .inr ⟨places ++ more, outer.trans inner⟩

theorem Offers.isProper {v u : Value} (h : v.Offers u) (proper : v.isProper = true) :
    u.isProper = true := by
  obtain rfl | ⟨places, inner⟩ := h
  · rfl
  · induction inner with
    | here => exact proper
    | member mem _ ih => exact ih ((isProper_record.mp proper).2 _ mem)
    | item found _ ih => exact ih (isProper_list.mp proper _ (List.mem_of_getElem? found))

end Value

/-- The terrain has the data on it, each thing at its place: nothing at nothing, records and lists
with the places of what they hold, and everything else as what may answer. -/
structure Terrain.Carries {α : Type} (t : Terrain α) (place : Value → α) : Prop where
  null : place .null = t.null
  record : ∀ ms : Members Value,
    t.view (place (.record ms)) = .members fun name => (ms.find? name).map place
  list : ∀ items : List Value, t.view (place (.list items)) = .items (items.map place)
  scalar : ∀ s : Scalar, ∃ named, t.view (place s.toValue) = .parts named

theorem itemAt?_map {α β : Type} (f : α → β) (items : List α) (index : Int) :
    itemAt? (items.map f) index = (itemAt? items index).map f := by
  unfold itemAt?
  rw [List.length_map]
  split
  · simp
  · split
    · simp
    · rfl

theorem bind_itemAt?_map {α β : Type} (f : α → β) (items : List α) (index : Option Int) :
    index.bind (itemAt? (items.map f)) = (index.bind (itemAt? items)).map f := by
  cases index with
  | none => rfl
  | some i => exact itemAt?_map f items i

theorem exists_getElem?_of_itemAt? {α : Type} {items : List α} {index : Int} {a : α}
    (h : itemAt? items index = some a) : ∃ n : Nat, items[n]? = some a := by
  unfold itemAt? at h
  split at h
  · exact ⟨_, h⟩
  · split at h
    · exact ⟨_, h⟩
    · cases h

namespace Terrain.Carries

open Value

variable {α : Type} {t : Terrain α} {place : Value → α}

theorem step_offered (carries : t.Carries place) (v : Value) (name : String)
    (unanswered : ∀ named part, t.view (place v) = .parts named → named name ≠ some part) :
    ∃ u, t.walk (place v) [name] = place u ∧ v.Offers u := by
  have nowhere : ∃ u, t.null = place u ∧ v.Offers u := ⟨.null, carries.null.symm, .inl rfl⟩
  have scalar (s : Scalar) (same : v = s.toValue) :
      ∃ u, t.walk (place v) [name] = place u ∧ v.Offers u := by
    obtain ⟨named, view⟩ := carries.scalar s
    have silent : named name = none :=
      Option.eq_none_iff_forall_ne_some.mpr fun part => unanswered named part (same ▸ view)
    have ends : t.walk (place v) [name] = t.null := by
      simp [walk, same, view, silent]
    rw [ends]
    exact nowhere
  cases v with
  | null =>
    rw [carries.null, walk_null]
    exact nowhere
  | bool b => exact scalar (.bool b) rfl
  | int n => exact scalar (.int n) rfl
  | float x => exact scalar (.float x) rfl
  | text s => exact scalar (.text s) rfl
  | list items =>
    have entered := bind_itemAt?_map place items (Decimal.intOfText? name)
    cases found : (Decimal.intOfText? name).bind (itemAt? items) with
    | none =>
      have ends : t.walk (place (.list items)) [name] = t.null := by
        simp only [walk, carries.list, entered, found, Option.map_none]
      rw [ends]
      exact nowhere
    | some u =>
      obtain ⟨index, -, at_⟩ := Option.bind_eq_some_iff.mp found
      obtain ⟨n, here⟩ := exists_getElem?_of_itemAt? at_
      refine ⟨u, ?_, .item here (.refl u)⟩
      simp only [walk, carries.list, entered, found, Option.map_some]
  | record ms =>
    cases found : Members.find? ms name with
    | none =>
      have ends : t.walk (place (.record ms)) [name] = t.null := by
        simp [walk, carries.record, found]
      rw [ends]
      exact nowhere
    | some u =>
      refine ⟨u, ?_, .member (Members.mem_of_find? found) (.refl u)⟩
      simp [walk, carries.record, found]

/-- Steps through data lead to nothing or to something inside, unless a scalar answers one. -/
theorem walk_offered (carries : t.Carries place) {v : Value} {steps : List String}
    (straight : ¬ t.Strays (place v) steps) :
    ∃ u, t.walk (place v) steps = place u ∧ v.Offers u := by
  induction steps generalizing v with
  | nil => exact ⟨v, rfl, .refl v⟩
  | cons name rest ih =>
    obtain ⟨u, first, offered⟩ := carries.step_offered v name fun named part view answer =>
      straight (.first view answer)
    have later : ¬ t.Strays (place u) rest := fun strays => straight (first ▸ strays).later
    obtain ⟨w, led, inner⟩ := ih later
    refine ⟨w, ?_, offered.trans inner⟩
    rw [walk_cons, first, led]

end Terrain.Carries

theorem Value.terrain_carries : Value.terrain.Carries id where
  null := rfl
  record ms := by
    have same : (fun name => (ms.find? name).map id) = Members.find? ms := by
      funext name
      exact Option.map_id_apply
    rw [same]
    rfl
  list items := by
    rw [List.map_id]
    rfl
  scalar s := by
    cases s <;> exact ⟨_, rfl⟩

theorem Subject.terrain_carries : Subject.terrain.Carries Subject.value where
  null := rfl
  record _ := rfl
  list _ := rfl
  scalar s := by
    cases s <;> exact ⟨_, rfl⟩

/-! ## Numbers and their parts -/

namespace Value

/-- Only these names are answered by anything but records and lists. -/
theorem part?_name {v part : Value} {name : String} (answer : v.part? name = some part) :
    name ∈ ["real", "numerator", "imag", "denominator"] := by
  unfold part? at answer
  split at answer <;> grind

theorem atPath_of_part? {v part : Value} {name : String} (answer : v.part? name = some part) :
    v.atPath name = part := by
  have single : Text.splitOn '.' name = [name] := by
    have named := part?_name answer
    simp only [List.mem_cons, List.not_mem_nil, or_false] at named
    obtain rfl | rfl | rfl | rfl := named <;> decide
  have view : v.view = .parts v.part? := by
    cases v with
    | bool _ | int _ | float _ => rfl
    | _ => cases answer
  calc v.atPath name
      = terrain.walk v [name] := by rw [atPath, Terrain.atPath, single]
    _ = part := by simp [Terrain.walk, terrain, view, answer]

/-- A step to a part of a number is not a step into the data. -/
theorem atPath_part {v part : Value} {path name : String}
    (answer : (v.atPath path).part? name = some part) : v.atPath (path ++ "." ++ name) = part := by
  rw [atPath, Terrain.atPath_join]
  exact atPath_of_part? answer

end Value

end Scout
