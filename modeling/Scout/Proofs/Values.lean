import Mathlib
import Scout.Document.Pairs

/-!
# Values with distinct names

The names of a record are distinct, at every depth, in all data that come from
outside.  Storing, overlaying and reading pairs keep that.
-/

namespace Scout

namespace Value

mutual

/-- Whether no record in the value has two members of one name. -/
def isProper : Value → Bool
  | .list items => areProper items
  | .record members => decide (Members.names members).Nodup && haveProper members
  | _ => true

def areProper : List Value → Bool
  | [] => true
  | v :: rest => isProper v && areProper rest

def haveProper : List (String × Value) → Bool
  | [] => true
  | (_, v) :: rest => isProper v && haveProper rest

end

theorem areProper_iff {items : List Value} :
    areProper items = true ↔ ∀ v ∈ items, v.isProper = true := by
  induction items with
  | nil => simp [areProper]
  | cons v rest ih => simp [areProper, ih]

theorem haveProper_iff {members : List (String × Value)} :
    haveProper members = true ↔ ∀ m ∈ members, m.2.isProper = true := by
  induction members with
  | nil => simp [haveProper]
  | cons m rest ih =>
    obtain ⟨k, v⟩ := m
    simp [haveProper, ih]

@[simp] theorem isProper_list {items : List Value} :
    (Value.list items).isProper = true ↔ ∀ v ∈ items, v.isProper = true := by
  rw [isProper, areProper_iff]

end Value

/-- Distinct names, here and inside the members. -/
def Members.AreProper (ms : Members Value) : Prop :=
  ms.names.Nodup ∧ ∀ m ∈ ms, m.2.isProper = true

@[simp] theorem Value.isProper_record {ms : Members Value} :
    (Value.record ms).isProper = true ↔ ms.AreProper := by
  rw [isProper, Bool.and_eq_true, decide_eq_true_eq, haveProper_iff]
  rfl

namespace Members

variable {α : Type} {ms above : Members Value} {name : String} {v : Value}

theorem mem_of_find? {ms : Members α} {name : String} {a : α} (h : ms.find? name = some a) :
    (name, a) ∈ ms := by
  induction ms with
  | nil => cases h
  | cons m rest ih =>
    rw [find?_cons] at h
    split at h
    · next hm =>
      cases h
      rw [← hm]
      exact List.mem_cons_self
    · exact List.mem_cons_of_mem m (ih h)

theorem find?_of_mem {ms : Members α} (h : ms.names.Nodup) {name : String} {a : α}
    (hm : (name, a) ∈ ms) : ms.find? name = some a := by
  induction ms with
  | nil => cases hm
  | cons m rest ih =>
    obtain ⟨hne, hrest⟩ := List.nodup_cons.1 h
    rw [find?_cons]
    rcases List.mem_cons.1 hm with rfl | hm
    · rw [if_pos rfl]
    · have hname : m.1 ≠ name := fun e => hne (e ▸ List.mem_map_of_mem hm)
      rw [if_neg hname, ih hrest hm]

theorem find?_of_perm {ms ms' : Members α} (hp : ms.Perm ms') (h : ms'.names.Nodup)
    (name : String) : ms.find? name = ms'.find? name := by
  have h' : ms.names.Nodup := (hp.map Prod.fst).nodup_iff.2 h
  refine Option.ext fun a => ⟨fun ha => ?_, fun ha => ?_⟩
  · exact find?_of_mem h (hp.mem_iff.1 (mem_of_find? ha))
  · exact find?_of_mem h' (hp.mem_iff.2 (mem_of_find? ha))

theorem put_of_not_mem {ms : Members α} {name : String} (a : α) (h : name ∉ ms.names) :
    ms.put name a = ms ++ [(name, a)] := by
  induction ms with
  | nil => rfl
  | cons m rest ih =>
    obtain ⟨k, b⟩ := m
    have hk : k ≠ name := fun e => h (by simp [names, e])
    rw [put, if_neg hk, ih (fun hr => h (by simp [names] at hr ⊢; exact .inr hr))]
    rfl

theorem names_put (ms : Members α) (name : String) (a : α) :
    (ms.put name a).names = if name ∈ ms.names then ms.names else ms.names ++ [name] := by
  induction ms with
  | nil => simp [put, names]
  | cons m rest ih =>
    obtain ⟨k, b⟩ := m
    by_cases hk : k = name
    · simp [put, names, hk]
    · have hn : name ≠ k := Ne.symm hk
      have hnames : names ((k, b) :: rest) = k :: names rest := rfl
      rw [put, if_neg hk, hnames]
      change k :: (put rest name a).names = _
      rw [ih]
      by_cases hr : name ∈ names rest
      · rw [if_pos hr, if_pos (List.mem_cons_of_mem k hr)]
      · rw [if_neg hr, if_neg (by simpa [hn] using hr)]
        rfl

theorem mem_put {ms : Members α} {name : String} {a : α} {m : String × α}
    (h : m ∈ ms.put name a) : m ∈ ms ∨ m = (name, a) := by
  induction ms with
  | nil => simpa [put] using h
  | cons n rest ih =>
    obtain ⟨k, b⟩ := n
    rw [put] at h
    split at h
    · rcases List.mem_cons.1 h with h | h
      · exact .inr h
      · exact .inl (List.mem_cons_of_mem _ h)
    · rcases List.mem_cons.1 h with h | h
      · exact .inl (h ▸ List.mem_cons_self)
      · rcases ih h with h | h
        · exact .inl (List.mem_cons_of_mem _ h)
        · exact .inr h

theorem nodup_names_put {ms : Members α} (h : ms.names.Nodup) (name : String) (a : α) :
    (ms.put name a).names.Nodup := by
  rw [names_put]
  split
  · exact h
  · next hn =>
    rw [List.nodup_append]
    refine ⟨h, by simp, ?_⟩
    intro x hx y hy e
    rw [List.mem_singleton.1 hy] at e
    exact hn (e ▸ hx)

theorem AreProper.nil : AreProper [] := by
  simp [AreProper, names]

theorem AreProper.put (h : AreProper ms) (hv : v.isProper = true) :
    AreProper (ms.put name v) := by
  refine ⟨nodup_names_put h.1 name v, ?_⟩
  intro m hm
  rcases mem_put hm with hm | rfl
  · exact h.2 m hm
  · exact hv

theorem AreProper.overlay (h : AreProper ms) (ha : ∀ m ∈ above, m.2.isProper = true) :
    AreProper (ms.overlay above) := by
  induction above generalizing ms with
  | nil => exact h
  | cons m rest ih =>
    exact ih (h.put (ha m List.mem_cons_self)) fun x hx => ha x (List.mem_cons_of_mem m hx)

theorem AreProper.find? (h : AreProper ms) (hv : ms.find? name = some v) :
    v.isProper = true :=
  h.2 _ (mem_of_find? hv)

/-! ### Members laid over one another -/

theorem find?_eq_none_iff {ms : Members α} {name : String} :
    ms.find? name = none ↔ name ∉ ms.names := by
  rw [← contains_eq_true_iff, contains, Bool.not_eq_true, Option.isSome_eq_false_iff,
    Option.isNone_iff_eq_none]

/-- What becomes of a member when another one may be laid over it. -/
def laid (f : Option α → α → α) (below : Option α) : Option α → Option α
  | none => below
  | some v => some (f below v)

theorem find?_foldl_put (f : Option α → α → α) (base : Members α) {above : Members α}
    (h : above.names.Nodup) (name : String) :
    (above.foldl (fun ms m => Members.put ms m.1 (f (Members.find? ms m.1) m.2)) base).find? name =
      laid f (base.find? name) (above.find? name) := by
  induction above generalizing base with
  | nil => rfl
  | cons m rest ih =>
    obtain ⟨isNew, distinct⟩ := List.nodup_cons.1 h
    rw [List.foldl_cons, ih _ distinct, find?_cons]
    by_cases same : m.1 = name
    · subst same
      rw [find?_eq_none_iff.2 isNew, find?_put_self, if_pos rfl]
      rfl
    · rw [find?_put_of_ne base _ (Ne.symm same), if_neg same]

section Put

variable {β : Type} (nameOf : β → String) (f : Members α → β → α) {base : Members α}

theorem nodup_names_foldl_put (h : base.names.Nodup) (above : List β) :
    (above.foldl (fun ms m => Members.put ms (nameOf m) (f ms m)) base).names.Nodup := by
  induction above generalizing base with
  | nil => exact h
  | cons m rest ih => exact ih (nodup_names_put h (nameOf m) _)

theorem contains_foldl_put {above : List β}
    (h : base.contains name = true ∨ ∃ m ∈ above, nameOf m = name) :
    (above.foldl (fun ms m => Members.put ms (nameOf m) (f ms m)) base).contains name = true := by
  induction above generalizing base with
  | nil => simpa using h
  | cons m rest ih =>
    refine ih ?_
    rw [contains_put, Bool.or_eq_true, decide_eq_true_eq]
    rcases h with before | ⟨n, mem, rfl⟩
    · exact .inl (.inr before)
    · rcases List.mem_cons.1 mem with rfl | later
      · exact .inl (.inl rfl)
      · exact .inr ⟨n, later, rfl⟩

end Put

theorem find?_overlay_of_nodup (base : Members α) {above : Members α} (h : above.names.Nodup)
    (name : String) :
    (base.overlay above).find? name = (above.find? name).or (base.find? name) := by
  rw [overlay, find?_foldl_put (fun _ v => v) base h]
  cases above.find? name <;> rfl

end Members

namespace Pairs

theorem proper_partsOf {v : Value} {parts : List Value} (hv : v.isProper = true)
    (h : partsOf v = some parts) : ∀ p ∈ parts, p.isProper = true := by
  cases v with
  | list items =>
    cases h
    exact Value.isProper_list.1 hv
  | record ms =>
    cases h
    intro p hp
    obtain ⟨m, -, rfl⟩ := List.mem_map.1 hp
    rfl
  | text s =>
    cases h
    intro p hp
    obtain ⟨c, -, rfl⟩ := List.mem_map.1 hp
    rfl
  | _ => cases h

theorem proper_addPair {ms ms' : Members Value} {name v : Value} (hms : ms.AreProper)
    (hv : v.isProper = true) (h : addPair ms name v = .ok ms') : ms'.AreProper := by
  unfold addPair at h
  split at h <;> cases h
  · exact hms.put hv
  · exact hms

theorem proper_membersFrom {index : Nat} {ms ms' : Members Value} {elements : List Value}
    (hms : ms.AreProper) (he : ∀ e ∈ elements, e.isProper = true)
    (h : membersFrom index ms elements = .ok ms') : ms'.AreProper := by
  induction elements generalizing index ms with
  | nil =>
    cases h
    exact hms
  | cons e rest ih =>
    rw [membersFrom] at h
    cases hp : partsOf e with
    | none =>
      rw [hp] at h
      cases h
    | some parts =>
      have hparts := proper_partsOf (he e List.mem_cons_self) hp
      rw [hp] at h
      match parts with
      | [name, v] =>
        cases ha : addPair ms name v with
        | error f => simp [ha, bind, Except.bind] at h
        | ok added =>
          have hadded : added.AreProper := proper_addPair hms (hparts v (by simp)) ha
          simp only [ha, bind, Except.bind] at h
          exact ih hadded (fun x hx => he x (List.mem_cons_of_mem e hx)) h
      | [] => cases h
      | [a] => cases h
      | a :: b :: c :: more => cases h

/-- The members of proper data have distinct names, however the data are given. -/
theorem proper_members {v : Value} {ms : Members Value} (hv : v.isProper = true)
    (h : members v = .ok ms) : ms.AreProper := by
  unfold members at h
  split at h
  · cases h
    exact Value.isProper_record.1 hv
  · split at h
    · cases h
    · next hp => exact proper_membersFrom Members.AreProper.nil (proper_partsOf hv hp) h

end Pairs

end Scout
