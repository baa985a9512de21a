import Scout.Json.Reader
import Scout.Proofs.Values

/-!
# Names in what is read

Whatever text is read, the records of its value have distinct names: a repeated
member is stored under the name that it has already.
-/

namespace Scout.Json

/-! ## Numbers and words -/

theorem proper_readUnsigned? {negative : Bool} {cs : List Char} {v : Value} {length : Nat}
    (h : readUnsigned? negative cs = some (v, length)) : v.isProper = true := by
  unfold readUnsigned? at h
  extract_lets whole rest frac point power text at h
  split at h
  · cases h
  split at h
  · cases h
    rfl
  · obtain ⟨s, -, hs⟩ := Option.map_eq_some_iff.1 h
    cases hs
    rfl

theorem proper_readNumber? {cs : List Char} {v : Value} {length : Nat}
    (h : readNumber? cs = some (v, length)) : v.isProper = true := by
  unfold readNumber? at h
  split at h
  · obtain ⟨⟨w, n⟩, hw, hv⟩ := Option.map_eq_some_iff.1 h
    cases hv
    exact proper_readUnsigned? hw
  · exact proper_readUnsigned? h

theorem proper_literals : ∀ l ∈ literals, l.2.isProper = true := by
  simp [literals, Value.isProper]

/-! ## Lists and records -/

/-- With some fuel, values are read with distinct names, and so is what follows the items
or the members read before. -/
structure ReadsProper (fuel : Nat) : Prop where
  value : ∀ c v c', readValue fuel c = .ok (v, c') → v.isProper = true
  items : ∀ c acc v c', readItems fuel c acc = .ok (v, c') → (∀ w ∈ acc, w.isProper = true) →
    v.isProper = true
  members : ∀ c acc v c', readMembers fuel c acc = .ok (v, c') → Members.AreProper acc →
    v.isProper = true

theorem bind_eq_ok {ε α β : Type} {x : Except ε α} {f : α → Except ε β} {b : β}
    (h : x.bind f = .ok b) : ∃ a, x = .ok a ∧ f a = .ok b := by
  cases x with
  | error e => cases h
  | ok a => exact ⟨a, rfl, h⟩

theorem readsProper_value {fuel : Nat} (ih : ReadsProper fuel) {c c' : Cursor} {v : Value}
    (h : readValue (fuel + 1) c = .ok (v, c')) : v.isProper = true := by
  rw [readValue] at h
  split at h
  · obtain ⟨⟨s, d⟩, -, hs⟩ := bind_eq_ok h
    cases hs
    rfl
  · dsimp only at h
    split at h
    · cases h
      rfl
    · exact ih.members _ _ _ _ h Members.AreProper.nil
  · dsimp only at h
    split at h
    · cases h
      rfl
    · exact ih.items _ _ _ _ h (by simp)
  · split at h
    · next word w hfind =>
      cases h
      exact proper_literals _ (List.mem_of_find?_eq_some hfind)
    · split at h
      · next hnumber =>
        cases h
        exact proper_readNumber? hnumber
      · cases h

theorem readsProper_items {fuel : Nat} (ih : ReadsProper fuel) {c c' : Cursor}
    {acc : List Value} {v : Value} (h : readItems (fuel + 1) c acc = .ok (v, c'))
    (hacc : ∀ w ∈ acc, w.isProper = true) : v.isProper = true := by
  rw [readItems] at h
  obtain ⟨⟨w, d⟩, hw, h⟩ := bind_eq_ok h
  have hitems : ∀ x ∈ w :: acc, x.isProper = true :=
    List.forall_mem_cons.2 ⟨ih.value _ _ _ hw, hacc⟩
  dsimp only at h
  split at h
  · cases h
    rw [Value.isProper_list]
    exact fun x hx => hitems x (List.mem_reverse.1 hx)
  split at h
  · exact ih.items _ _ _ _ h hitems
  · cases h

theorem readsProper_members {fuel : Nat} (ih : ReadsProper fuel) {c c' : Cursor}
    {acc : Members Value} {v : Value} (h : readMembers (fuel + 1) c acc = .ok (v, c'))
    (hacc : acc.AreProper) : v.isProper = true := by
  rw [readMembers] at h
  split at h
  · cases h
  obtain ⟨⟨name, d⟩, -, h⟩ := bind_eq_ok h
  dsimp only at h
  split at h
  · cases h
  obtain ⟨⟨w, e⟩, hw, h⟩ := bind_eq_ok h
  have hmembers : (acc.put name w).AreProper := hacc.put (ih.value _ _ _ hw)
  dsimp only at h
  split at h
  · cases h
    exact Value.isProper_record.2 hmembers
  split at h
  · exact ih.members _ _ _ _ h hmembers
  · cases h

theorem readsProper (fuel : Nat) : ReadsProper fuel := by
  induction fuel with
  | zero => exact {
      value := fun _ _ _ h => by simp [readValue] at h
      items := fun _ _ _ _ h => by simp [readItems] at h
      members := fun _ _ _ _ h => by simp [readMembers] at h }
  | succ fuel ih => exact {
      value := fun _ _ _ h => readsProper_value ih h
      items := fun _ _ _ _ h => readsProper_items ih h
      members := fun _ _ _ _ h => readsProper_members ih h }

theorem proper_parse {text : String} {v : Value} (h : parse text = .ok v) : v.isProper = true := by
  unfold parse at h
  dsimp only at h
  split at h
  · cases h
  obtain ⟨⟨w, c⟩, hw, h⟩ := bind_eq_ok h
  dsimp only at h
  split at h
  · cases h
    exact (readsProper _).value _ _ _ hw
  · cases h

end Scout.Json
