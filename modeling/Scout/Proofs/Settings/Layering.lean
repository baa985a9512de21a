import Scout.Proofs.Values
import Scout.Settings.Layers

/-!
# Layers over one another

A member of all layers is the one of the highest layer that has it, but for sections: of these the
members are laid over one another, one by one.  A layer in the middle that makes no section of what
is one in others hides what is below it, so the members of a section come from the layers above.
-/

namespace Scout.Settings

/-! ## Members and sections -/

/-- What is to be seen of a value from outside: of a record, that it is one. -/
def surface : Value → Value
  | .record _ => .record []
  | v => v

/-- The member of a section, where there is one. -/
def inside? : Option Value → String → Option Value
  | some (.record ms), key => Members.find? ms key
  | _, _ => none

/-- Whether what is below can be seen: nothing is there, or a section. -/
def yields : Option Value → Bool
  | none | some (.record _) => true
  | _ => false

/-- Whether no name comes twice in a section. -/
def IsDistinct (cell : Option Value) : Prop :=
  ∀ ms, cell = some (.record ms) → (Members.names ms).Nodup

/-- Whether no name comes twice, neither among the members nor in a section. -/
structure IsTidy (ms : Members Value) : Prop where
  distinct : ms.names.Nodup
  inside : ∀ part, IsDistinct (ms.find? part)

theorem eq_of_yields {cell : Option Value} (h : yields cell = true) :
    cell = none ∨ ∃ ms, cell = some (.record ms) := by
  unfold yields at h
  split at h
  · exact .inl rfl
  · exact .inr ⟨_, rfl⟩
  · cases h

theorem inside?_of_not_yields {cell : Option Value} (h : yields cell = false) (key : String) :
    inside? cell key = none := by
  rcases cell with _ | v
  · cases h
  · cases v <;> first | rfl | cases h

/-! ## One member over another -/

open Members (laid)

/-- As in a merge of layers that is deep at every depth. -/
def deeply (below : Option Value) (v : Value) : Value :=
  match below with
  | some old => deepOverlay old v
  | none => v

theorem deepMembers_eq (base above : Members Value) : deepMembers base above =
    above.foldl (fun ms m => Members.put ms m.1 (deeply (Members.find? ms m.1) m.2)) base := by
  induction above generalizing base with
  | nil => rfl
  | cons m rest ih =>
    unfold deepMembers
    exact ih _

theorem find?_deepMembers (base : Members Value) {above : Members Value}
    (distinct : above.names.Nodup) (key : String) :
    Members.find? (deepMembers base above) key =
      laid deeply (base.find? key) (above.find? key) := by
  rw [deepMembers_eq, Members.find?_foldl_put deeply base distinct]

theorem find?_mergeLayer (below : Members Value) {above : Members Value}
    (distinct : above.names.Nodup) (key : String) :
    (mergeLayer below above).find? key = laid overlaid (below.find? key) (above.find? key) :=
  Members.find?_foldl_put overlaid below distinct key

/-- A value over what may be below it: of two records the members are laid over one another in some
way, else what is above takes the place. -/
def joined (inner : Option Value → Value → Value) (below : Option Value) (v : Value) : Value :=
  match below, v with
  | some (.record a), .record b =>
    .record (b.foldl (fun ms m => Members.put ms m.1 (inner (Members.find? ms m.1) m.2)) a)
  | _, v => v

theorem joined_of_not {inner : Option Value → Value → Value} {below : Option Value} {v : Value}
    (h : ∀ a b, below = some (.record a) → v = .record b → False) : joined inner below v = v := by
  unfold joined
  split
  · exact (h _ _ rfl rfl).elim
  · rfl

theorem overlaid_eq : overlaid = joined fun _ v => v := by
  funext below v
  unfold overlaid
  split
  · rfl
  · next noSections => rw [joined_of_not noSections]

theorem deeply_eq : deeply = joined deeply := by
  funext below v
  rcases below with _ | old
  · rfl
  · rw [deeply]
    unfold deepOverlay
    split
    · exact congrArg Value.record (deepMembers_eq _ _)
    · next noSections =>
      exact (joined_of_not fun a b held => noSections a b (Option.some.inj held)).symm

section Join

variable {f inner : Option Value → Value → Value} (join : f = joined inner) {above : Option Value}

include join

theorem surface_join (below : Option Value) (v : Value) : surface (f below v) = surface v := by
  subst join
  unfold joined
  split <;> rfl

theorem surface_laid (below above : Option Value) :
    (laid f below above).map surface = (above.or below).map surface := by
  cases above with
  | none => rfl
  | some v => exact congrArg some (surface_join join below v)

theorem laid_of_not_yields (h : yields above = false) (below : Option Value) :
    laid f below above = above := by
  subst join
  rcases above with _ | v
  · cases h
  · unfold laid joined
    dsimp only
    split
    · cases h
    · rfl

theorem isDistinct_laid {below : Option Value} (hb : IsDistinct below) (ha : IsDistinct above) :
    IsDistinct (laid f below above) := by
  subst join
  rcases above with _ | v
  · exact hb
  · unfold laid joined
    dsimp only
    split
    · next a b =>
      rintro ms ⟨⟩
      exact Members.nodup_names_foldl_put Prod.fst
        (fun ms m => inner (Members.find? ms m.1) m.2) (hb a rfl) b
    · exact ha

theorem inside?_laid (deeper : ∀ below v, surface (inner below v) = surface v)
    (distinct : IsDistinct above) (below : Option Value) (key : String) :
    (inside? (laid f below above) key).map surface =
      ((inside? above key).or (if yields above then inside? below key else none)).map surface := by
  cases h : yields above
  · rw [laid_of_not_yields join h, inside?_of_not_yields h]
    rfl
  · subst join
    rcases eq_of_yields h with rfl | ⟨b, rfl⟩
    · rfl
    · rcases below with _ | old
      · simp [laid, joined, inside?]
      · cases old with
        | record a =>
          simp only [laid, joined, inside?, if_pos]
          rw [Members.find?_foldl_put inner a (distinct b rfl)]
          cases Members.find? b key with
          | none => rfl
          | some v => exact congrArg some (deeper _ v)
        | _ => simp [laid, joined, inside?]

end Join

/-! ## Files over one another -/

/-- The member of layers whose members are given, the highest first. -/
def laidAll (cells : List (Option Value)) : Option Value :=
  cells.foldr (fun above below => laid overlaid below above) none

theorem surface_laidAll (cells : List (Option Value)) :
    (laidAll cells).map surface = (cells.findSome? id).map surface := by
  induction cells with
  | nil => rfl
  | cons above rest ih =>
    rw [List.findSome?_cons]
    refine (surface_laid overlaid_eq _ above).trans ?_
    cases above with
    | none => exact ih
    | some v => rfl

theorem isDistinct_laidAll {cells : List (Option Value)}
    (distinct : ∀ cell ∈ cells, IsDistinct cell) : IsDistinct (laidAll cells) := by
  induction cells with
  | nil => exact fun ms h => nomatch h
  | cons above rest ih =>
    obtain ⟨first, later⟩ := List.forall_mem_cons.1 distinct
    exact isDistinct_laid overlaid_eq (ih later) first

/-- The members of a section come from the layers above the first that makes no section of it. -/
theorem inside?_laidAll {cells : List (Option Value)} (distinct : ∀ cell ∈ cells, IsDistinct cell)
    (key : String) : (inside? (laidAll cells) key).map surface =
      ((cells.takeWhile yields).findSome? fun cell => inside? cell key).map surface := by
  induction cells with
  | nil => rfl
  | cons above rest ih =>
    obtain ⟨first, later⟩ := List.forall_mem_cons.1 distinct
    refine (inside?_laid overlaid_eq (fun _ _ => rfl) first (laidAll rest) key).trans ?_
    -- a layer that makes no section of it ends the search
    cases h : yields above
    · rw [List.takeWhile_cons_of_neg (by simp [h]), inside?_of_not_yields h]
      rfl
    · rw [List.takeWhile_cons_of_pos h, List.findSome?_cons, if_pos rfl, Option.map_or, ih later]
      cases inside? above key <;> rfl

/-! ## All layers -/

/-- The layers of settings. -/
inductive Layer where
  /-- What is given directly. -/
  | direct
  | environment
  | localFile
  | namedFile
  | defaultFile
deriving DecidableEq

def Layer.files : List Layer :=
  [.localFile, .namedFile, .defaultFile]

/-- From the highest to the lowest. -/
def Layer.order : List Layer :=
  .direct :: .environment :: files

/-- What the layers hold. -/
abbrev Stack := Layer → Members Value

namespace Stack

variable (S : Stack)

/-- What is given directly is laid over the variables at every depth, and both over the files. -/
def merged : Members Value :=
  [S .defaultFile, S .namedFile, S .localFile, deepMembers (S .environment) (S .direct)].foldl
    mergeLayer []

/-- Whether a layer shows the members that a section has in lower ones: it says nothing of the
section, or makes one of it.  Variables show them also when something is given directly, which takes
their place. -/
def shows (part : String) : Layer → Bool
  | .environment => yields ((S .environment).find? part) || ((S .direct).find? part).isSome
  | l => yields ((S l).find? part)

/-- The layers above the first one that does not show what is below it. -/
def visible (part : String) : List Layer :=
  Layer.order.takeWhile (S.shows part)

/-- A key of a section, of the highest layer that has it among those that are visible. -/
def key (part key : String) : Option Value :=
  (S.visible part).findSome? fun l => inside? ((S l).find? part) key

/-- Whether the names in every layer are distinct. -/
def IsTidy : Prop :=
  ∀ l, Settings.IsTidy (S l)

variable {S}

theorem nodup_deepMembers {base : Members Value} (distinct : base.names.Nodup)
    (above : Members Value) : (Members.names (deepMembers base above)).Nodup := by
  rw [deepMembers_eq]
  exact Members.nodup_names_foldl_put Prod.fst
    (fun ms m => deeply (Members.find? ms m.1) m.2) distinct above

theorem find?_explicit (tidy : S.IsTidy) (key : String) :
    Members.find? (deepMembers (S .environment) (S .direct)) key =
      laid deeply ((S .environment).find? key) ((S .direct).find? key) :=
  find?_deepMembers _ (tidy .direct).distinct key

theorem find?_merged (tidy : S.IsTidy) (key : String) : S.merged.find? key =
    laidAll (laid deeply ((S .environment).find? key) ((S .direct).find? key) ::
      Layer.files.map fun l => (S l).find? key) := by
  unfold merged
  simp only [List.foldl_cons, List.foldl_nil]
  rw [find?_mergeLayer _ (nodup_deepMembers (tidy .environment).distinct _),
    find?_mergeLayer _ (tidy .localFile).distinct, find?_mergeLayer _ (tidy .namedFile).distinct,
    find?_mergeLayer _ (tidy .defaultFile).distinct, find?_explicit tidy]
  rfl

theorem surface_merged (tidy : S.IsTidy) (key : String) : (S.merged.find? key).map surface =
    (Layer.order.findSome? fun l => (S l).find? key).map surface := by
  have top := surface_laid deeply_eq ((S .environment).find? key) ((S .direct).find? key)
  rw [find?_merged tidy, surface_laidAll, Layer.order]
  simp only [List.findSome?_cons, List.findSome?_map, Function.id_comp, id]
  generalize laid deeply ((S .environment).find? key) ((S .direct).find? key) = x at top ⊢
  generalize (S .direct).find? key = first at top ⊢
  generalize (S .environment).find? key = second at top ⊢
  cases first with
  | some v => cases x <;> simp_all
  | none => cases second <;> cases x <;> simp_all

theorem findSome?_takeWhile_cons {α β : Type} (p : α → Bool) (f : α → Option β) (a : α)
    (rest : List α) : ((a :: rest).takeWhile p).findSome? f =
      if p a then (f a).or ((rest.takeWhile p).findSome? f) else none := by
  cases h : p a
  · rw [List.takeWhile_cons_of_neg (by simp [h])]
    rfl
  · rw [List.takeWhile_cons_of_pos h, List.findSome?_cons]
    cases f a <;> rfl

/-- What is given directly and the variables, with what can be seen below them. -/
theorem inside?_explicit {first second : Option Value} (distinct : IsDistinct first)
    (below : Option Value) (key : String) :
    (if yields (laid deeply second first) then
        (inside? (laid deeply second first) key).or below else none).map surface =
      (if yields first then (inside? first key).or
        (if yields second || first.isSome then (inside? second key).or below else none)
        else none).map surface := by
  have top := inside?_laid deeply_eq (surface_join deeply_eq) distinct second key
  cases h : yields first
  · simp [laid_of_not_yields deeply_eq h, h]
  · rcases eq_of_yields h with rfl | ⟨ms, rfl⟩
    · have nothing : inside? none key = none := rfl
      cases shown : yields second <;> simp [laid, nothing, shown]
    · have section_ : yields (laid deeply second (some (.record ms))) = true := by
        rcases second with _ | old
        · rfl
        · cases old <;> simp [laid, deeply, deepOverlay, yields]
      rw [if_pos h] at top
      rw [if_pos section_, if_pos rfl, if_pos (by simp), Option.map_or, top, ← Option.map_or,
        Option.or_assoc]

theorem isDistinct_cells (tidy : S.IsTidy) (part : String) :
    ∀ cell ∈ laid deeply ((S .environment).find? part) ((S .direct).find? part) ::
      Layer.files.map fun l => (S l).find? part, IsDistinct cell := by
  refine List.forall_mem_cons.2 ⟨?_, fun cell file => ?_⟩
  · exact isDistinct_laid deeply_eq ((tidy .environment).inside part) ((tidy .direct).inside part)
  · obtain ⟨l, -, rfl⟩ := List.mem_map.1 file
    exact (tidy l).inside part

theorem isDistinct_merged (tidy : S.IsTidy) (part : String) : IsDistinct (S.merged.find? part) := by
  rw [find?_merged tidy]
  exact isDistinct_laidAll (isDistinct_cells tidy part)

/-- So is every key of a section, among the layers that are visible. -/
theorem inside?_merged (tidy : S.IsTidy) (part key : String) :
    (inside? (S.merged.find? part) key).map surface = (S.key part key).map surface := by
  have files : (((Layer.files.map fun l => (S l).find? part).takeWhile yields).findSome?
      fun cell => inside? cell key) =
      (Layer.files.takeWhile (S.shows part)).findSome? fun l => inside? ((S l).find? part) key := by
    rw [List.takeWhile_map, List.findSome?_map]
    rfl
  rw [find?_merged tidy, inside?_laidAll (isDistinct_cells tidy part), Stack.key, visible,
    Layer.order]
  simp only [findSome?_takeWhile_cons, files]
  exact inside?_explicit ((tidy .direct).inside part) _ key

end Stack

/-! ### Setting one key -/

section Setting

variable (ms : Members Value) (part key : String) (v : Value)

/-- What becomes of a section in a layer in which a key of it is set. -/
inductive IsSet : Option Value → Option Value → Prop
  | none : IsSet none (some (.record (Members.put [] key v)))
  | inner (inner : Members Value) :
      IsSet (some (.record inner)) (some (.record (inner.put key v)))
  | other {cell : Option Value} (h : yields cell = false) : IsSet cell cell

theorem isSet_insertAt :
    IsSet key v (ms.find? part) ((insertAt ms v [part, key]).find? part) := by
  unfold insertAt
  split
  · next absent =>
    rw [absent, Members.find?_put_self]
    exact .none
  · next inner held =>
    rw [held, Members.find?_put_self]
    exact .inner inner
  · next other noSection held =>
    refine .other ?_
    rw [held]
    cases other with
    | record inner => exact absurd rfl (noSection inner)
    | _ => rfl

theorem find?_insertAt_of_ne {other : String} (h : other ≠ part) :
    (insertAt ms v [part, key]).find? other = ms.find? other := by
  unfold insertAt
  split
  · exact Members.find?_put_of_ne _ _ h
  · exact Members.find?_put_of_ne _ _ h
  · rfl

variable {ms part key v}

theorem IsSet.yields_eq {cell cell' : Option Value} (h : IsSet key v cell cell') :
    yields cell' = yields cell := by
  cases h <;> rfl

theorem IsSet.isSome {cell cell' : Option Value} (h : IsSet key v cell cell')
    (there : cell.isSome = true) : cell'.isSome = true := by
  cases h with
  | none => rfl
  | inner inner => rfl
  | other => exact there

theorem IsSet.inside?_eq {cell cell' : Option Value} (h : IsSet key v cell cell') {other : String}
    (ne : other ≠ key) : inside? cell' other = inside? cell other := by
  cases h with
  | none => exact Members.find?_put_of_ne [] v ne
  | inner inner => exact Members.find?_put_of_ne inner v ne
  | other => rfl

theorem IsSet.isDistinct {cell cell' : Option Value} (h : IsSet key v cell cell')
    (distinct : IsDistinct cell) : IsDistinct cell' := by
  cases h with
  | none =>
    rintro ms ⟨⟩
    exact Members.nodup_names_put (by simp [Members.names]) key v
  | inner before =>
    rintro ms ⟨⟩
    exact Members.nodup_names_put (distinct before rfl) key v
  | other => exact distinct

theorem tidy_insertAt (tidy : IsTidy ms) : IsTidy (insertAt ms v [part, key]) where
  distinct := by
    unfold insertAt
    split
    · exact Members.nodup_names_put tidy.distinct _ _
    · exact Members.nodup_names_put tidy.distinct _ _
    · exact tidy.distinct
  inside other := by
    by_cases same : other = part
    · subst same
      exact (isSet_insertAt ms other key v).isDistinct (tidy.inside other)
    · rw [find?_insertAt_of_ne ms part key v same]
      exact tidy.inside other

end Setting

namespace Stack

variable {S : Stack}

/-- The layers after a key of a section is set in one of them. -/
def setting (S : Stack) (l : Layer) (part key : String) (v : Value) : Stack :=
  Function.update S l (insertAt (S l) v [part, key])

theorem findSome?_takeWhile_of_le {α β : Type} {p q : α → Bool} (f : α → Option β)
    (le : ∀ a, p a = true → q a = true) {l : List α} {b : β}
    (h : (l.takeWhile p).findSome? f = some b) : (l.takeWhile q).findSome? f = some b := by
  induction l with
  | nil => cases h
  | cons a rest ih =>
    rw [findSome?_takeWhile_cons] at h ⊢
    split at h
    · next shown =>
      rw [if_pos (le a shown)]
      cases found : f a with
      | some c => rwa [found] at h
      | none =>
        rw [found] at h
        exact ih h
    · cases h

section Set

variable (l m : Layer) (part key : String) (v : Value)

theorem setting_cases : S.setting l part key v m = S m ∨
    IsSet key v ((S m).find? part) ((S.setting l part key v m).find? part) := by
  unfold setting
  by_cases same : m = l
  · subst same
    rw [Function.update_self]
    exact .inr (isSet_insertAt _ _ _ _)
  · rw [Function.update_of_ne same]
    exact .inl rfl

theorem yields_setting :
    yields ((S.setting l part key v m).find? part) = yields ((S m).find? part) := by
  rcases S.setting_cases l m part key v with same | set
  · rw [same]
  · exact set.yields_eq

theorem shows_setting (h : S.shows part m = true) :
    (S.setting l part key v).shows part m = true := by
  cases m with
  | environment =>
    simp only [shows, Bool.or_eq_true, yields_setting] at h ⊢
    refine h.imp_right fun there => ?_
    rcases S.setting_cases l .direct part key v with same | set
    · rwa [same]
    · exact set.isSome there
  | _ => simpa only [shows, yields_setting] using h

theorem inside?_setting {other : String} (ne : other ≠ key) :
    inside? ((S.setting l part key v m).find? part) other = inside? ((S m).find? part) other := by
  rcases S.setting_cases l m part key v with same | set
  · rw [same]
  · exact set.inside?_eq ne

theorem tidy_setting (tidy : S.IsTidy) : (S.setting l part key v).IsTidy := by
  intro m
  unfold setting
  by_cases same : m = l
  · subst same
    rw [Function.update_self]
    exact tidy_insertAt (tidy m)
  · rw [Function.update_of_ne same]
    exact tidy m

/-- Setting a key of a section in one layer leaves what its other keys come to. -/
theorem undisturbed (tidy : S.IsTidy) {other : String} (ne : other ≠ key) {x : Value}
    (before : (inside? (S.merged.find? part) other).map surface = some x) :
    (inside? ((S.setting l part key v).merged.find? part) other).map surface = some x := by
  rw [inside?_merged tidy, Option.map_eq_some_iff] at before
  obtain ⟨y, found, rfl⟩ := before
  rw [inside?_merged (tidy_setting l part key v tidy), Stack.key]
  simp only [inside?_setting l _ part key v ne]
  rw [visible, findSome?_takeWhile_of_le _ (fun m => shows_setting l m part key v) found]
  rfl

end Set

end Stack

end Scout.Settings
