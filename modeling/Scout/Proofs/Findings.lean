import Mathlib
import Scout.Check

/-!
# What the check of actions finds

The faults that the check lists for the actions of a playbook are what is wrong with them: an id
that is blank, a depth beyond the limit, a part that the kind of the action needs and that is
missing.  Each is listed once, under the place of its action, and the actions follow in the order
in which they are written, each one before those inside of it.  Nothing is said of the actions
inside of one that stands too deep.
-/

namespace Scout

namespace Action

/-- The action that is found by going into an action along some indexes. -/
inductive Reaches : Action → List Nat → Action → Prop
  | self {a : Action} : Reaches a [] a
  | inside {a b c : Action} {index : Nat} {path : List Nat}
      (found : (a.program.getD [])[index]? = some b) (inner : Reaches b path c) :
      Reaches a (index :: path) c

/-- The action at a place of a program: its index, after those of the actions around it. -/
def IsAt (program : List Action) (place : List Nat) (a : Action) : Prop :=
  ∃ index path b, place = index :: path ∧ program[index]? = some b ∧ b.Reaches path a

mutual

/-- What holds of an action when it holds of the actions of its program holds of every action. -/
theorem forall_of_program {P : Action → Prop}
    (step : ∀ a : Action, (∀ b ∈ a.program.getD [], P b) → P a) : ∀ a : Action, P a
  | ⟨s, none⟩ => step ⟨s, none⟩ (by simp [program])
  | ⟨s, some program⟩ => step ⟨s, some program⟩ (forall_mem_of_program step program)

theorem forall_mem_of_program {P : Action → Prop}
    (step : ∀ a : Action, (∀ b ∈ a.program.getD [], P b) → P a) :
    ∀ program : List Action, ∀ b ∈ program, P b
  | [] => by simp
  | a :: rest =>
    List.forall_mem_cons.mpr ⟨forall_of_program step a, forall_mem_of_program step rest⟩

end

end Action

namespace Check

/-! ## What can be wrong with an action -/

def LacksSelector (a : Action) : Prop :=
  a.step.selector = none ∨ a.step.selector = some ""

/-- Whether a part is missing that the kind of the action needs. -/
def IsIncomplete (a : Action) : Prop :=
  match a.kind with
  | .navigate => a.step.value = none ∨ a.step.value = some (.text "")
  | .click | .extract => LacksSelector a
  | .fill | .select => LacksSelector a ∨ a.step.value = none
  | .conditional | .loop | .retry => a.program = none ∨ a.program = some []
  | _ => False

/-- The parts that a kind of actions needs. -/
def requirement : ActionKind → String
  | .navigate => "value (URL) is required"
  | .click | .extract => "selector is required"
  | .fill | .select => "selector and value are required"
  | .conditional | .loop | .retry => "sub-actions are required"
  | _ => ""

theorem isGiven_eq_false_iff {v : Option Scalar} :
    Scalar.isGiven v = false ↔ v = none ∨ v = some (.text "") := by
  rcases v with _ | (s | b | n | x) <;> simp [Scalar.isGiven]

theorem lacksSelector_iff {a : Action} : LacksSelector a ↔ a.step.selector.getD "" = "" := by
  unfold LacksSelector
  cases a.step.selector <;> simp

theorem getD_nil_iff {program : Option (List Action)} :
    program.getD [] = [] ↔ program = none ∨ program = some [] := by
  cases program <;> simp

theorem missingPart_eq_some_iff {a : Action} {part : String} :
    missingPart a.step a.program = some part ↔ IsIncomplete a ∧ requirement a.kind = part := by
  unfold missingPart IsIncomplete Action.kind
  cases a.step.kind <;>
    simp [requirement, lacksSelector_iff, ← getD_nil_iff, ← isGiven_eq_false_iff]

theorem isSome_missingPart_iff {a : Action} :
    (missingPart a.step a.program).isSome = true ↔ IsIncomplete a := by
  rw [Option.isSome_iff_exists]
  simp only [missingPart_eq_some_iff, exists_and_left, exists_eq', and_true]

instance (a : Action) : Decidable (IsIncomplete a) :=
  decidable_of_iff _ isSome_missingPart_iff

/-- A way in which an action can break the rules. -/
inductive Flaw where
  | blankId
  | tooDeep
  | incomplete
deriving DecidableEq

/-- Whether an action that stands at a depth breaks the rules in a way.  Nothing is asked of an
action inside of one that stands too deep, and no parts of one that does. -/
def Breaks (limit : Int) (depth : Nat) (a : Action) : Flaw → Prop
  | .blankId => depth ≤ limit + 1 ∧ Text.isAllBlank a.id = true
  | .tooDeep => depth = limit + 1
  | .incomplete => depth ≤ limit ∧ IsIncomplete a

instance (limit : Int) (depth : Nat) (a : Action) (flaw : Flaw) :
    Decidable (Breaks limit depth a flaw) :=
  match flaw with
  | .blankId => inferInstanceAs (Decidable (_ ∧ _))
  | .tooDeep => inferInstanceAs (Decidable (_ = _))
  | .incomplete => inferInstanceAs (Decidable (_ ∧ _))

/-- What is wrong with the action at a place. -/
structure Finding where
  place : List Nat
  action : Action
  flaw : Flaw

/-- Whether there is such an action and it breaks the rules in such a way. -/
def Finding.Holds (limit : Int) (program : List Action) (f : Finding) : Prop :=
  Action.IsAt program f.place f.action ∧ Breaks limit f.place.length f.action f.flaw

def placeText (place : List Nat) : String :=
  " > ".intercalate (place.map actionPlace)

/-- The words for what is wrong with an action at a depth. -/
def Flaw.words (limit : Int) (depth : Nat) (kind : ActionKind) : Flaw → String
  | .blankId => ": id is required"
  | .tooDeep => s!": nesting depth {depth} exceeds maximum of {limit}"
  | .incomplete => " (" ++ kind.word ++ "): " ++ requirement kind

/-- The place of the action, and what is wrong with it. -/
def Finding.message (limit : Int) (f : Finding) : String :=
  placeText f.place ++ f.flaw.words limit f.place.length f.action.kind

/-- The order of the findings: that of the places, in which an action stands before those inside of
it; and at one place a blank id comes first. -/
def Finding.Before (f g : Finding) : Prop :=
  f.place < g.place ∨ f.place = g.place ∧ f.flaw = .blankId ∧ g.flaw ≠ .blankId

/-! ## The findings of a program -/

/-- What is wrong with an action at a depth, apart from the actions inside of it. -/
def stepFindings (limit : Int) (a : Action) (index depth : Nat) : List Finding :=
  ([Flaw.blankId, .tooDeep, .incomplete].filter fun flaw => Breaks limit depth a flaw).map
    fun flaw => ⟨[index], a, flaw⟩

def Finding.within (index : Nat) (f : Finding) : Finding :=
  { f with place := index :: f.place }

mutual

/-- What is wrong with an action and with those inside of it. -/
def actionFindings (limit : Int) : Action → Nat → Nat → List Finding
  | ⟨s, none⟩, index, depth => stepFindings limit ⟨s, none⟩ index depth
  | ⟨s, some program⟩, index, depth =>
    stepFindings limit ⟨s, some program⟩ index depth
      ++ (programFindings limit program 0 (depth + 1)).map (Finding.within index)

def programFindings (limit : Int) : List Action → Nat → Nat → List Finding
  | [], _, _ => []
  | a :: rest, index, depth =>
    actionFindings limit a index depth ++ programFindings limit rest (index + 1) depth

end

section Findings

variable {limit : Int} {a : Action} {program : List Action} {index depth : Nat} {f : Finding}

theorem actionFindings_eq : actionFindings limit a index depth =
    stepFindings limit a index depth
      ++ (programFindings limit (a.program.getD []) 0 (depth + 1)).map (Finding.within index) := by
  rcases a with ⟨s, _ | program⟩
  · simp [actionFindings, programFindings, Action.program]
  · rw [actionFindings]
    rfl

theorem mem_stepFindings_iff : f ∈ stepFindings limit a index depth ↔
    f.place = [index] ∧ f.action = a ∧ Breaks limit depth f.action f.flaw := by
  obtain ⟨place, action, flaw⟩ := f
  have every : flaw ∈ [Flaw.blankId, .tooDeep, .incomplete] := by cases flaw <;> decide
  unfold stepFindings
  constructor
  · intro mem
    obtain ⟨_, kept, same⟩ := List.mem_map.mp mem
    cases same
    exact ⟨rfl, rfl, of_decide_eq_true (List.mem_filter.mp kept).2⟩
  · rintro ⟨rfl, rfl, breaks⟩
    exact List.mem_map.mpr ⟨flaw, List.mem_filter.mpr ⟨every, decide_eq_true breaks⟩, rfl⟩

theorem depth_inside {path : List Nat} :
    depth + (index :: path).length = depth + 1 + path.length := by
  rw [List.length_cons]
  omega

/-! ### Which findings there are -/

/-- The findings of an action are what is wrong with the actions that are reached from it. -/
def AreCovered (limit : Int) (a : Action) : Prop :=
  ∀ index depth f, f ∈ actionFindings limit a index depth ↔
    ∃ path, f.place = index :: path ∧ a.Reaches path f.action ∧
      Breaks limit (depth + path.length) f.action f.flaw

theorem mem_programFindings (covered : ∀ a ∈ program, AreCovered limit a) :
    f ∈ programFindings limit program index depth ↔
      ∃ i path b, f.place = (index + i) :: path ∧ program[i]? = some b ∧ b.Reaches path f.action ∧
        Breaks limit (depth + path.length) f.action f.flaw := by
  induction program generalizing index with
  | nil => simp [programFindings]
  | cons a rest ih =>
    have first := covered a List.mem_cons_self index depth f
    have shift (i : Nat) : index + 1 + i = index + (i + 1) := by omega
    rw [programFindings, List.mem_append, first,
      ih fun b mem => covered b (List.mem_cons_of_mem a mem)]
    constructor
    · rintro (⟨path, place, reaches, breaks⟩ | ⟨i, path, b, place, found, reaches, breaks⟩)
      · exact ⟨0, path, a, place, rfl, reaches, breaks⟩
      · exact ⟨i + 1, path, b, by rw [place, shift], found, reaches, breaks⟩
    · rintro ⟨i, path, b, place, found, reaches, breaks⟩
      cases i with
      | zero =>
        cases found
        exact .inl ⟨path, place, reaches, breaks⟩
      | succ i =>
        refine .inr ⟨i, path, b, ?_, found, reaches, breaks⟩
        rw [place, shift]

theorem areCovered (limit : Int) (a : Action) : AreCovered limit a := by
  induction a using Action.forall_of_program with
  | step a ih =>
    rintro index depth ⟨place, action, flaw⟩
    rw [actionFindings_eq, List.mem_append, mem_stepFindings_iff, List.mem_map]
    constructor
    · rintro (⟨rfl, rfl, breaks⟩ | ⟨g, mem, same⟩)
      · exact ⟨[], rfl, .self, breaks⟩
      · obtain ⟨i, path, b, inner, found, reaches, breaks⟩ := (mem_programFindings ih).mp mem
        cases same
        refine ⟨i :: path, ?_, .inside found reaches, ?_⟩
        · rw [inner, Nat.zero_add]
        · rwa [depth_inside]
    · rintro ⟨path, rfl, reaches, breaks⟩
      cases reaches with
      | self => exact .inl ⟨rfl, rfl, breaks⟩
      | @inside _ b _ i path found inner =>
        refine .inr ⟨⟨i :: path, action, flaw⟩, (mem_programFindings ih).mpr ?_, rfl⟩
        refine ⟨i, path, b, by rw [Nat.zero_add], found, inner, ?_⟩
        rwa [depth_inside] at breaks

/-- The findings of a program are all that is wrong with the actions at its places. -/
theorem mem_programFindings_iff :
    f ∈ programFindings limit program 0 1 ↔ f.Holds limit program := by
  rw [mem_programFindings fun a _ => areCovered limit a]
  unfold Finding.Holds Action.IsAt
  constructor
  · rintro ⟨i, path, b, place, found, reaches, breaks⟩
    rw [Nat.zero_add] at place
    refine ⟨⟨i, path, b, place, found, reaches⟩, ?_⟩
    rwa [place, List.length_cons, Nat.add_comm]
  · rintro ⟨⟨i, path, b, place, found, reaches⟩, breaks⟩
    refine ⟨i, path, b, by rw [Nat.zero_add, place], found, reaches, ?_⟩
    rwa [place, List.length_cons, Nat.add_comm] at breaks

/-! ### The order of the findings -/

theorem Finding.Before.within {f g : Finding} (h : f.Before g) (index : Nat) :
    (f.within index).Before (g.within index) := by
  obtain earlier | ⟨same, flaws⟩ := h
  · exact .inl (List.cons_lt_cons_iff.mpr (.inr ⟨rfl, earlier⟩))
  · exact .inr ⟨congrArg (index :: ·) same, flaws⟩

/-- Of the other flaws an action has one at most, since no parts are asked of one that stands too
deep. -/
theorem not_breaks_both (deep : Breaks limit depth a .tooDeep) :
    ¬ Breaks limit depth a .incomplete := by
  rintro ⟨allowed, -⟩
  have beyond : (depth : Int) = limit + 1 := deep
  omega

theorem pairwise_stepFindings : (stepFindings limit a index depth).Pairwise Finding.Before := by
  have blank (flaw : Flaw) (other : flaw ≠ .blankId) :
      Finding.Before ⟨[index], a, .blankId⟩ ⟨[index], a, flaw⟩ := .inr ⟨rfl, rfl, other⟩
  unfold stepFindings
  rw [List.pairwise_map, List.pairwise_filter]
  refine .cons ?_ (.cons ?_ (.cons (by simp) .nil))
  · intro flaw mem _ _
    refine blank flaw ?_
    rintro rfl
    simp at mem
  · intro flaw mem deep incomplete
    obtain rfl : flaw = .incomplete := by simpa using mem
    exact absurd (of_decide_eq_true incomplete) (not_breaks_both (of_decide_eq_true deep))

theorem place_of_mem_actionFindings (mem : f ∈ actionFindings limit a index depth) :
    ∃ path, f.place = index :: path := by
  obtain ⟨path, place, -⟩ := (areCovered limit a index depth f).mp mem
  exact ⟨path, place⟩

theorem place_of_mem_programFindings (mem : f ∈ programFindings limit program index depth) :
    ∃ i path, f.place = (index + i) :: path := by
  obtain ⟨i, path, -, place, -⟩ := (mem_programFindings fun a _ => areCovered limit a).mp mem
  exact ⟨i, path, place⟩

theorem pairwise_programFindings
    (ordered : ∀ a ∈ program, ∀ index depth,
      (actionFindings limit a index depth).Pairwise Finding.Before) :
    (programFindings limit program index depth).Pairwise Finding.Before := by
  induction program generalizing index with
  | nil => exact .nil
  | cons a rest ih =>
    rw [programFindings, List.pairwise_append]
    refine ⟨ordered a List.mem_cons_self index depth,
      ih fun b mem => ordered b (List.mem_cons_of_mem a mem), fun f hf g hg => ?_⟩
    obtain ⟨path, first⟩ := place_of_mem_actionFindings hf
    obtain ⟨i, path', later⟩ := place_of_mem_programFindings hg
    refine .inl ?_
    rw [first, later, List.cons_lt_cons_iff]
    omega

theorem pairwise_actionFindings (a : Action) (index depth : Nat) :
    (actionFindings limit a index depth).Pairwise Finding.Before := by
  induction a using Action.forall_of_program generalizing index depth with
  | step a ih =>
    rw [actionFindings_eq, List.pairwise_append, List.pairwise_map]
    refine ⟨pairwise_stepFindings, ?_, fun f hf g hg => ?_⟩
    · exact (pairwise_programFindings ih).imp fun before => before.within index
    · obtain ⟨place, -⟩ := mem_stepFindings_iff.mp hf
      obtain ⟨inner, mem, rfl⟩ := List.mem_map.mp hg
      obtain ⟨i, path, below⟩ := place_of_mem_programFindings mem
      refine .inl ?_
      rw [place, Finding.within, below, List.cons_lt_cons_iff]
      exact .inr ⟨rfl, List.nil_lt_cons _ _⟩

/-! ### The messages of the findings -/

/-- The message of a finding inside of actions of which there are some above. -/
def Finding.messageBelow (limit : Int) (above : Nat) (f : Finding) : String :=
  placeText f.place ++ f.flaw.words limit (above + f.place.length) f.action.kind

theorem placeText_cons {place : List Nat} (nonempty : place ≠ []) :
    placeText (index :: place) = actionPlace index ++ " > " ++ placeText place := by
  obtain ⟨next, rest, rfl⟩ := List.exists_cons_of_ne_nil nonempty
  exact String.intercalate_cons_cons

theorem messageBelow_within {above : Nat} (nonempty : f.place ≠ []) :
    (f.within index).messageBelow limit above =
      actionPlace index ++ " > " ++ f.messageBelow limit (above + 1) := by
  unfold Finding.messageBelow Finding.within
  dsimp only
  rw [placeText_cons nonempty, depth_inside, String.append_assoc]

theorem messageBelow_here {above : Nat} {flaw : Flaw} :
    Finding.messageBelow limit above ⟨[index], a, flaw⟩ =
      actionPlace index ++ flaw.words limit (above + 1) a.kind := rfl

theorem actionPlace_depthMessage {above : Nat} :
    actionPlace index ++ Flaw.tooDeep.words limit (above + 1) a.kind =
      depthMessage index (above + 1) limit := by
  have words : Flaw.tooDeep.words limit (above + 1) a.kind =
      s!": nesting depth {above + 1} exceeds maximum of {limit}" := rfl
  have place : toString (actionPlace index) = actionPlace index := rfl
  rw [words, depthMessage, place]
  simp only [String.append_assoc]

theorem actionPlace_missingMessage {above : Nat} :
    actionPlace index ++ Flaw.incomplete.words limit (above + 1) a.kind =
      missingMessage index a.step (requirement a.kind) := by
  have words : Flaw.incomplete.words limit (above + 1) a.kind =
      " (" ++ a.step.kind.word ++ "): " ++ requirement a.kind := rfl
  rw [words, missingMessage]
  simp only [String.append_assoc]

/-- The ways in which an action breaks the rules that stands no deeper than one level below the
limit. -/
theorem filter_breaks (near : depth ≤ limit + 1) :
    ([Flaw.blankId, .tooDeep, .incomplete].filter fun flaw => Breaks limit depth a flaw) =
      (if Text.isAllBlank a.step.id then [.blankId] else []) ++
        (if limit < depth then [.tooDeep] else if IsIncomplete a then [.incomplete] else []) := by
  have blank : Breaks limit depth a .blankId ↔ Text.isAllBlank a.step.id = true :=
    and_iff_right near
  have deep : Breaks limit depth a .tooDeep ↔ limit < depth := by
    show (depth : Int) = limit + 1 ↔ _
    omega
  have incomplete : Breaks limit depth a .incomplete ↔ ¬ limit < depth ∧ IsIncomplete a := by
    rw [not_lt]
    rfl
  simp only [List.filter_cons, List.filter_nil, decide_eq_true_eq, blank, deep, incomplete]
  split <;> split <;> simp_all

theorem map_stepFindings {above : Nat} (near : above ≤ limit) :
    (stepFindings limit a index (above + 1)).map (Finding.messageBelow limit above) =
      stepFaults limit a.step a.program index (above + 1) := by
  have parts : (if IsIncomplete a then [Flaw.incomplete] else []).map
        (fun flaw => actionPlace index ++ flaw.words limit (above + 1) a.kind) =
      (missingPart a.step a.program).toList.map (missingMessage index a.step) := by
    by_cases missing : IsIncomplete a
    · rw [if_pos missing, missingPart_eq_some_iff.mpr ⟨missing, rfl⟩, List.map_singleton,
        actionPlace_missingMessage]
      rfl
    · have complete : missingPart a.step a.program = none := by
        rw [← Option.not_isSome_iff_eq_none, isSome_missingPart_iff]
        exact missing
      rw [if_neg missing, complete]
      rfl
  have here : Finding.messageBelow limit above ∘ (fun flaw => ⟨[index], a, flaw⟩) =
      fun flaw => actionPlace index ++ flaw.words limit (above + 1) a.kind :=
    funext fun _ => messageBelow_here
  unfold stepFindings stepFaults
  rw [List.map_map, here, filter_breaks (by omega), List.map_append]
  congr 1
  · split <;> rfl
  · split
    · rw [List.map_singleton, actionPlace_depthMessage]
    · exact parts

theorem depth_of_breaks {flaw : Flaw} (h : Breaks limit depth a flaw) : depth ≤ limit + 1 := by
  cases flaw with
  | blankId => exact h.1
  | tooDeep => exact le_of_eq h
  | incomplete => exact h.1.trans (by omega)

theorem programFindings_of_deep (deep : limit + 1 < depth) :
    programFindings limit program index depth = [] := by
  refine List.eq_nil_iff_forall_not_mem.mpr fun f mem => ?_
  obtain ⟨-, path, -, -, -, -, breaks⟩ := (mem_programFindings fun a _ => areCovered limit a).mp mem
  have reached := depth_of_breaks breaks
  omega

theorem actionFaults_eq : actionFaults limit a index depth =
    stepFaults limit a.step a.program index depth
      ++ (if limit < depth then []
        else nested index (programFaults limit (a.program.getD []) 0 (depth + 1))) := by
  rcases a with ⟨s, _ | program⟩
  · simp [actionFaults, programFaults, nested, Action.program, Action.step]
  · rw [actionFaults]
    rfl

/-- The messages of the findings of an action are its faults. -/
def AreTold (limit : Int) (a : Action) : Prop :=
  ∀ index above : Nat, above ≤ limit →
    (actionFindings limit a index (above + 1)).map (Finding.messageBelow limit above) =
      actionFaults limit a index (above + 1)

theorem map_programFindings {above : Nat} (told : ∀ a ∈ program, AreTold limit a)
    (near : above ≤ limit) :
    (programFindings limit program index (above + 1)).map (Finding.messageBelow limit above) =
      programFaults limit program index (above + 1) := by
  induction program generalizing index with
  | nil => rfl
  | cons a rest ih =>
    rw [programFindings, programFaults, List.map_append, told a List.mem_cons_self index above near,
      ih fun b mem => told b (List.mem_cons_of_mem a mem)]

theorem map_within {above : Nat} :
    ((programFindings limit program 0 depth).map (Finding.within index)).map
        (Finding.messageBelow limit above) =
      nested index
        ((programFindings limit program 0 depth).map (Finding.messageBelow limit (above + 1))) := by
  rw [nested, List.map_map, List.map_map]
  refine List.map_congr_left fun f mem => ?_
  obtain ⟨i, path, place⟩ := place_of_mem_programFindings mem
  exact messageBelow_within (by simp [place])

theorem areTold (limit : Int) (a : Action) : AreTold limit a := by
  induction a using Action.forall_of_program with
  | step a ih =>
    intro index above near
    rw [actionFindings_eq, actionFaults_eq, List.map_append, map_stepFindings near, map_within]
    congr 1
    by_cases deep : limit < ((above + 1 : Nat) : Int)
    · rw [if_pos deep, programFindings_of_deep (by omega)]
      rfl
    · rw [if_neg deep, map_programFindings ih (not_lt.mp deep)]

end Findings

/-! ## The actions of a playbook -/

section Places

variable {a c : Action} {program : List Action} {place : List Nat}

theorem exists_reaches_take {path : List Nat} (h : a.Reaches path c) (n : Nat) :
    ∃ b, a.Reaches (path.take n) b := by
  induction h generalizing n with
  | self => exact ⟨_, by rw [List.take_nil]; exact .self⟩
  | @inside a b c index path found inner ih =>
    cases n with
    | zero => exact ⟨a, .self⟩
    | succ n =>
      obtain ⟨d, reaches⟩ := ih n
      exact ⟨d, .inside found reaches⟩

/-- An action stands at every place on the way to another one. -/
theorem exists_isAt_take (h : Action.IsAt program place a) (n : Nat) :
    ∃ b, Action.IsAt program (place.take (n + 1)) b := by
  obtain ⟨index, path, b, rfl, found, reaches⟩ := h
  obtain ⟨c, earlier⟩ := exists_reaches_take reaches n
  exact ⟨c, index, path.take n, b, rfl, found, earlier⟩

end Places

/-- Nothing is wrong with an action at a depth within the limit. -/
def IsSound (limit : Int) (depth : Nat) (a : Action) : Prop :=
  depth ≤ limit ∧ Text.isAllBlank a.id = false ∧ ¬ IsIncomplete a

/-- Nothing is found exactly if nothing is wrong with any action, however deep it stands. -/
theorem forall_not_holds_iff {limit : Int} {program : List Action} (nonneg : 0 ≤ limit) :
    (∀ f : Finding, ¬ f.Holds limit program) ↔
      ∀ place a, Action.IsAt program place a → IsSound limit place.length a := by
  constructor
  · intro none place a at_
    have within : place.length ≤ limit := by
      by_contra deep
      obtain ⟨b, above⟩ := exists_isAt_take at_ limit.toNat
      have length : (place.take (limit.toNat + 1)).length = limit.toNat + 1 := by
        rw [List.length_take]
        omega
      refine none ⟨place.take (limit.toNat + 1), b, .tooDeep⟩ ⟨above, ?_⟩
      show ((place.take (limit.toNat + 1)).length : Int) = limit + 1
      omega
    have named : Text.isAllBlank a.id = false := by
      by_contra blank
      have near : (place.length : Int) ≤ limit + 1 := by omega
      exact none ⟨place, a, .blankId⟩ ⟨at_, near, by simpa using blank⟩
    exact ⟨within, named, fun missing => none ⟨place, a, .incomplete⟩ ⟨at_, within, missing⟩⟩
  · rintro sound ⟨place, a, flaw⟩ ⟨at_, breaks⟩
    obtain ⟨within, named, complete⟩ := sound place a at_
    cases flaw with
    | blankId =>
      have blank : Text.isAllBlank a.id = true := breaks.2
      rw [named] at blank
      cases blank
    | tooDeep =>
      have deep : (place.length : Int) = limit + 1 := breaks
      omega
    | incomplete => exact complete breaks.2

/-- An action without an address under a blank id, with one inside that holds another. -/
def cluttered : Playbook :=
  ⟨"p", "P", "", "1.0.0", "b", [], [],
    [⟨⟨" ", .navigate, "", none, none, none, none, none, none, false⟩,
      some [⟨⟨"c", .click, "", none, none, none, none, none, none, false⟩,
        some [⟨⟨"", .wait, "", none, none, none, none, none, none, false⟩, none⟩]⟩]⟩],
    [], .standard, .standard⟩

end Check
end Scout
