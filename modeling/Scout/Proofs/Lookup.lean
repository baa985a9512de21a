import Scout.Lookup
import Scout.Proofs.Decimal.Digits
import Scout.Proofs.Values

/-!
# Paths into data

A path that is put together from two leads to where the second leads from what stands at the end
of the first.  That also holds where a step leads nowhere, since nothing but nothing is reached
from there.  Every place inside of a value has a path: the names and indexes on the way to it, as
long as no dot stands in one of the names.
-/

namespace Scout

/-! ## Paths one after the other -/

namespace Terrain

variable {α : Type} (t : Terrain α)

theorem walk_null (steps : List String) : t.walk t.null steps = t.null := by
  cases steps with
  | nil => rfl
  | cons name rest => rw [walk, t.view_null]

theorem walk_append (x : α) (steps more : List String) :
    t.walk x (steps ++ more) = t.walk (t.walk x steps) more := by
  induction steps generalizing x with
  | nil => rfl
  | cons name rest ih =>
    rw [List.cons_append, walk, walk]
    split
    · exact (t.walk_null more).symm
    · exact ih _
    · split
      · exact ih _
      · exact (t.walk_null more).symm
    · exact ih _

theorem splitOn_join (p q : String) :
    Text.splitOn '.' (p ++ "." ++ q) = Text.splitOn '.' p ++ Text.splitOn '.' q := by
  have chars : (p ++ "." ++ q).toList = p.toList ++ '.' :: q.toList := by simp
  have parts : (p.toList ++ '.' :: q.toList).splitOn '.' =
      p.toList.splitOn '.' ++ q.toList.splitOn '.' :=
    List.splitOnP_append_cons p.toList q.toList (by decide)
  unfold Text.splitOn
  rw [chars, Text.splitAt_eq_splitOn, parts, List.map_append, Text.splitAt_eq_splitOn,
    Text.splitAt_eq_splitOn]

theorem atPath_join (x : α) (p q : String) :
    t.atPath x (p ++ "." ++ q) = t.atPath (t.atPath x p) q := by
  unfold atPath
  rw [splitOn_join, walk_append]

end Terrain

/-! ## Places inside of a value -/

/-- A step into a value: to the member of a name, or to the item at an index. -/
inductive Place where
  | member (name : String)
  | item (index : Nat)

def Place.text : Place → String
  | .member name => name
  | .item index => toString index

def pathThrough (places : List Place) : String :=
  ".".intercalate (places.map Place.text)

namespace Value

/-- What stands inside of a value behind some places, each inside of the one before. -/
inductive Holds : Value → List Place → Value → Prop
  | here {v : Value} : Holds v [] v
  | member {members : List (String × Value)} {name : String} {u v : Value} {places : List Place}
      (mem : (name, u) ∈ members) (inner : Holds u places v) :
      Holds (.record members) (.member name :: places) v
  | item {items : List Value} {index : Nat} {u v : Value} {places : List Place}
      (found : items[index]? = some u) (inner : Holds u places v) :
      Holds (.list items) (.item index :: places) v

theorem itemAt?_natCast {α : Type} (items : List α) (index : Nat) :
    itemAt? items (index : Int) = items[index]? := by
  simp [itemAt?]

theorem walk_member {members : Members Value} {name : String} {u : Value}
    (found : members.find? name = some u) (rest : List String) :
    terrain.walk (.record members) (name :: rest) = terrain.walk u rest := by
  have entered : (members.find? name).getD .null = u := by rw [found, Option.getD_some]
  calc terrain.walk (.record members) (name :: rest)
      = terrain.walk ((members.find? name).getD .null) rest := rfl
    _ = terrain.walk u rest := by rw [entered]

theorem walk_item {items : List Value} {index : Nat} {u : Value}
    (found : items[index]? = some u) (rest : List String) :
    terrain.walk (.list items) (toString index :: rest) = terrain.walk u rest := by
  have entered : (Decimal.intOfText? (toString index)).bind (itemAt? items) = some u := by
    rw [Decimal.intOfText?_toString, Option.bind_some, itemAt?_natCast, found]
  have view_list : terrain.view (.list items) = .items items := rfl
  rw [Terrain.walk, view_list]
  dsimp only
  rw [entered]

theorem walk_of_holds {u v : Value} {places : List Place} (proper : u.isProper = true)
    (h : u.Holds places v) : terrain.walk u (places.map Place.text) = v := by
  induction h with
  | here => rfl
  | @member members name u v places mem inner ih =>
    have names := isProper_record.mp proper
    rw [List.map_cons, Place.text, walk_member (Members.find?_of_mem names.1 mem)]
    exact ih (names.2 _ mem)
  | @item items index u v places found inner ih =>
    rw [List.map_cons, Place.text, walk_item found]
    exact ih (isProper_list.mp proper u (List.mem_of_getElem? found))

end Value

/-! ## Paths of places -/

theorem noDot_toString (index : Nat) : '.' ∉ (toString index).toList := by
  have digits : (toString index).toList = Nat.toDigits 10 index := String.toList_ofList
  intro mem
  rw [digits] at mem
  cases Decimal.allDigits_toDigits index '.' mem

theorem Place.noDot {place : Place} (named : ∀ name, place = .member name → '.' ∉ name.toList) :
    '.' ∉ place.text.toList := by
  cases place with
  | member name => exact named name rfl
  | item index => exact noDot_toString index

theorem splitOn_intercalate {parts : List String} (nonempty : parts ≠ [])
    (noDot : ∀ part ∈ parts, '.' ∉ part.toList) :
    Text.splitOn '.' (".".intercalate parts) = parts := by
  have texts : (".".intercalate parts).toList = ['.'].intercalate (parts.map String.toList) :=
    String.toList_intercalate
  have split : (['.'].intercalate (parts.map String.toList)).splitOn '.' =
      parts.map String.toList := by
    refine List.splitOn_intercalate '.' ?_ (by simpa using nonempty)
    intro cs mem
    obtain ⟨part, hpart, rfl⟩ := List.mem_map.mp mem
    exact noDot part hpart
  unfold Text.splitOn
  rw [texts, Text.splitAt_eq_splitOn, split, List.map_map]
  simp [Function.comp_def]

theorem Value.atPath_pathThrough {u v : Value} {places : List Place} (proper : u.isProper = true)
    (holds : u.Holds places v) (nonempty : places ≠ [])
    (noDot : ∀ name, .member name ∈ places → '.' ∉ name.toList) :
    u.atPath (pathThrough places) = v := by
  have parts : Text.splitOn '.' (pathThrough places) = places.map Place.text := by
    apply splitOn_intercalate
    · simpa using nonempty
    · intro part mem
      obtain ⟨place, hplace, rfl⟩ := List.mem_map.mp mem
      exact Place.noDot fun name same => noDot name (same ▸ hplace)
  calc u.atPath (pathThrough places)
      = terrain.walk u (Text.splitOn '.' (pathThrough places)) := rfl
    _ = terrain.walk u (places.map Place.text) := by rw [parts]
    _ = v := walk_of_holds proper holds

/-- A path put together from two leads to where the second leads from the end of the first, also
where other things than data can be reached on the way.  Whatever stands inside of a value is found
by the path of the names and indexes that lead to it, unless a dot stands in one of the names. -/
theorem Value.atPath_composes :
    (∀ (v : Value) (p q : String), v.atPath (p ++ "." ++ q) = (v.atPath p).atPath q) ∧
    (∀ {α : Type} (t : Terrain α) (x : α) (p q : String),
      t.atPath x (p ++ "." ++ q) = t.atPath (t.atPath x p) q) ∧
    ∀ (u v : Value) (places : List Place), u.isProper = true → u.Holds places v → places ≠ [] →
      (∀ name, .member name ∈ places → '.' ∉ name.toList) → u.atPath (pathThrough places) = v :=
  ⟨terrain.atPath_join, fun t => t.atPath_join,
    fun _ _ _ proper holds nonempty noDot => atPath_pathThrough proper holds nonempty noDot⟩

/-- Links of a page, the last one with a member that has no name. -/
def Value.links : Value :=
  .record [("items", .list [.record [("href", .text "/a")], .record [("", .list [.bool true])]])]

theorem Value.atPath_composes_links :
    let places : List Place := [.member "items", .item 1, .member "", .item 0]
    links.isProper = true ∧ links.Holds places (.bool true) ∧
      links.atPath "items.1..0" = .bool true := by
  intro places
  have proper : links.isProper = true := by decide
  have holds : links.Holds places (.bool true) :=
    .member List.mem_cons_self (.item rfl (.member List.mem_cons_self (.item rfl .here)))
  have written : pathThrough places = "items.1..0" := by decide
  have noDot : ∀ name, .member name ∈ places → '.' ∉ name.toList := by
    intro name mem
    have names : name = "items" ∨ name = "" := by simpa [places] using mem
    obtain rfl | rfl := names <;> decide
  have reached :=
    Value.atPath_composes.2.2 links (.bool true) places proper holds (by simp [places])
    noDot
  rw [written] at reached
  exact ⟨proper, holds, reached⟩

end Scout
