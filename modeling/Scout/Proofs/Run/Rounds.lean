import Scout.Proofs.Run.Journal

/-!
# Rounds of a program

A loop performs its program as long as its guard holds, and no more often than it is
asked to.  What rounds there have been is said without the recursion that runs them: so
many in a row, each of which begins in the world that the one before it left.  How a loop
ends is then a matter of the round that comes next, and it ends in just one such way.
-/

namespace Scout

open Exec

/-! ## Programs -/

section Programs

variable (g : Setting) (depth : Int)

/-- The actions return in their order; each begins in the world that the one before it left. -/
inductive Performed : List Action → World → World → Prop
  | nil (w : World) : Performed [] w w
  | cons {b : Action} {rest : List Action} {w u v : World} {r : ActionResult}
      (first : execute g b depth w = (.done r, u)) (others : Performed rest u v) :
      Performed (b :: rest) w v

/-- The actions return in their order up to one that ends otherwise; none comes after it. -/
inductive Interrupted : List Action → World → Outcome ActionResult → World → Prop
  | here {b : Action} {rest : List Action} {w v : World} {out : Outcome ActionResult}
      (last : execute g b depth w = (out, v)) (unreturned : ∀ r, out ≠ .done r) :
      Interrupted (b :: rest) w out v
  | later {b : Action} {rest : List Action} {w u v : World} {r : ActionResult}
      {out : Outcome ActionResult} (first : execute g b depth w = (.done r, u))
      (others : Interrupted rest u out v) : Interrupted (b :: rest) w out v

variable {g depth} {program : List Action} {w v : World} {e : Fault}

theorem Performed.executeProgram (h : Performed g depth program w v) :
    executeProgram g program depth w = (.done (), v) := by
  induction h with
  | nil => rfl
  | cons first _ ih =>
    rw [Scout.executeProgram, bind_done first]
    exact ih

theorem Interrupted.executeProgram_failed (h : Interrupted g depth program w (.failed e) v) :
    executeProgram g program depth w = (.failed e, v) := by
  generalize hout : Outcome.failed e = out at h
  induction h with
  | here last =>
    subst hout
    rw [executeProgram, bind_failed last]
  | later first _ ih =>
    rw [executeProgram, bind_done first]
    exact ih hout

theorem Interrupted.executeProgram_cancelled (h : Interrupted g depth program w .cancelled v) :
    executeProgram g program depth w = (.cancelled, v) := by
  generalize hout : Outcome.cancelled = out at h
  induction h with
  | here last =>
    subst hout
    rw [executeProgram, bind_cancelled last]
  | later first _ ih =>
    rw [executeProgram, bind_done first]
    exact ih hout

/-- How a program ends. -/
inductive ProgramEnd (g : Setting) (depth : Int) (program : List Action) (w : World) :
    Outcome Unit × World → Prop
  | performed {v : World} (all : Performed g depth program w v) :
      ProgramEnd g depth program w (.done (), v)
  | failed {v : World} {e : Fault} (broke : Interrupted g depth program w (.failed e) v) :
      ProgramEnd g depth program w (.failed e, v)
  | cut {v : World} (broke : Interrupted g depth program w .cancelled v) :
      ProgramEnd g depth program w (.cancelled, v)

theorem programEnd (g : Setting) (depth : Int) (program : List Action) (w : World) :
    ProgramEnd g depth program w (executeProgram g program depth w) := by
  induction program generalizing w with
  | nil => exact .performed (.nil w)
  | cons b rest ih =>
    rw [executeProgram]
    rcases first : execute g b depth w with ⟨r | e | _, u⟩
    · rw [bind_done first]
      have others := ih u
      generalize executeProgram g rest depth u = end_ at others ⊢
      cases others with
      | performed all => exact .performed (.cons first all)
      | failed broke => exact .failed (.later first broke)
      | cut broke => exact .cut (.later first broke)
    · rw [bind_failed first]
      exact .failed (.here first (by simp))
    · rw [bind_cancelled first]
      exact .cut (.here first (by simp))

end Programs

/-! ## Loops -/

def Step.looping (s : Step) (k bound : Nat) : String :=
  s!"Loop {s.id} iteration {k}/{bound}"

/-- What a loop yields after so many rounds. -/
def Yield.iterations (k : Nat) : Yield :=
  ⟨.record [("iterations", .int k)], none⟩

section Loops

variable (g : Setting) (s : Step) (program : List Action) (depth : Int) (n : Nat)

/-- So many rounds of a loop: before each its guard holds, and in each all its actions return. -/
inductive Looped (w : World) : Nat → World → Prop
  | none : Looped w 0 w
  | round {k : Nat} {u u' v : World} (before : Looped w k u)
      (guard : s.isAdmitted u = (.done true, u'))
      (all : Performed g depth program (u'.logged .debug (s.looping (k + 1) n)) v) :
      Looped w (k + 1) v

/-- How a loop of at most `n` rounds ends: after all of them; before the first one that the guard
does not allow; with the first action that fails; or by the deadline, in a guard or in an action. -/
inductive LoopEnd (w : World) : Outcome Yield × World → Prop
  | full {u : World} (rounds : Looped g s program depth n w n u) :
      LoopEnd w (.done (.iterations n), u)
  | left {k : Nat} {u u' : World} (rounds : Looped g s program depth n w k u) (more : k < n)
      (guard : s.isAdmitted u = (.done false, u')) :
      LoopEnd w (.done (.iterations k), u'.logged .debug s!"Loop {s.id} exit condition reached")
  | failed {k : Nat} {u u' v : World} {e : Fault} (rounds : Looped g s program depth n w k u)
      (more : k < n) (guard : s.isAdmitted u = (.done true, u'))
      (broke : Interrupted g depth program (u'.logged .debug (s.looping (k + 1) n)) (.failed e) v) :
      LoopEnd w (.failed e, v)
  | cut {k : Nat} {u u' v : World} (rounds : Looped g s program depth n w k u)
      (more : k < n) (guard : s.isAdmitted u = (.done true, u'))
      (broke : Interrupted g depth program (u'.logged .debug (s.looping (k + 1) n)) .cancelled v) :
      LoopEnd w (.cancelled, v)
  | cutGuard {k : Nat} {u v : World} (rounds : Looped g s program depth n w k u) (more : k < n)
      (guard : s.isAdmitted u = (.cancelled, v)) : LoopEnd w (.cancelled, v)

variable {g s program depth n} {w u : World} {k left : Nat}

theorem loopRounds_round {body : Exec Unit} {u' : World} (count : k + (left + 1) = n)
    (guard : s.isAdmitted u = (.done true, u')) :
    loopRounds s body n (left + 1) u =
      (body >>= fun _ => loopRounds s body n left) (u'.logged .debug (s.looping (k + 1) n)) := by
  have number : n - left = k + 1 := by omega
  rw [loopRounds, bind_done guard, if_pos rfl, number]
  rfl

theorem Looped.loopRounds (h : Looped g s program depth n w k u) (count : k + left = n) :
    loopRounds s (executeProgram g program depth) n n w =
      loopRounds s (executeProgram g program depth) n left u := by
  induction h generalizing left with
  | none =>
    obtain rfl : left = n := by omega
    rfl
  | @round k u u' v _ guard all ih =>
    have before := ih (show k + (left + 1) = n by omega)
    calc Scout.loopRounds s (executeProgram g program depth) n n w
      _ = Scout.loopRounds s (executeProgram g program depth) n (left + 1) u := before
      _ = _ := loopRounds_round (k := k) (by omega) guard
      _ = Scout.loopRounds s (executeProgram g program depth) n left v :=
        bind_done all.executeProgram _

theorem loopEnd_of_rounds (before : Looped g s program depth n w k u) (count : k + left = n) :
    LoopEnd g s program depth n w
      ((loopRounds s (executeProgram g program depth) n left >>= fun k =>
        pure (Yield.iterations k)) u) := by
  induction left generalizing k u with
  | zero =>
    obtain rfl : k = n := count
    exact .full before
  | succ left ih =>
    have more : k < n := by omega
    have unfailing := s.unfailing_isAdmitted u
    rcases guard : s.isAdmitted u with ⟨admitted | e | _, u'⟩ <;> rw [guard] at unfailing
    · cases admitted with
      | true =>
        have ended := programEnd g depth program (u'.logged .debug (s.looping (k + 1) n))
        rcases ran : executeProgram g program depth (u'.logged .debug (s.looping (k + 1) n))
          with ⟨_ | e | _, v⟩ <;> rw [ran] at ended
        · cases ended with
          | performed all =>
            rw [bind_apply, loopRounds_round count guard, bind_done ran, ← bind_apply]
            exact ih (.round before guard all) (by omega)
        · cases ended with
          | failed broke =>
            rw [bind_apply, loopRounds_round count guard, bind_failed ran]
            exact .failed before more guard broke
        · cases ended with
          | cut broke =>
            rw [bind_apply, loopRounds_round count guard, bind_cancelled ran]
            exact .cut before more guard broke
      | false =>
        have number : n - (left + 1) = k := by omega
        rw [bind_apply, loopRounds, bind_done guard, number]
        exact .left before more guard
    · exact (unfailing e rfl).elim
    · rw [bind_apply, loopRounds, bind_cancelled guard]
      exact .cutGuard before more guard

theorem LoopEnd.loopRounds {end_ : Outcome Yield × World}
    (h : LoopEnd g s program depth n w end_) :
    (loopRounds s (executeProgram g program depth) n n >>= fun k => pure (Yield.iterations k)) w =
      end_ := by
  have count {k : Nat} (more : k < n) : k + (n - (k + 1) + 1) = n := by omega
  cases h with
  | full rounds =>
    rw [bind_apply, rounds.loopRounds (Nat.add_zero n)]
    rfl
  | @left k u u' rounds more guard =>
    have number : n - (n - (k + 1) + 1) = k := by omega
    rw [bind_apply, rounds.loopRounds (count more), Scout.loopRounds, bind_done guard, number]
    rfl
  | failed rounds more guard broke =>
    rw [bind_apply, rounds.loopRounds (count more), loopRounds_round (count more) guard,
      bind_failed broke.executeProgram_failed]
  | cut rounds more guard broke =>
    rw [bind_apply, rounds.loopRounds (count more), loopRounds_round (count more) guard,
      bind_cancelled broke.executeProgram_cancelled]
  | cutGuard rounds more guard =>
    rw [bind_apply, rounds.loopRounds (count more), Scout.loopRounds, bind_cancelled guard]

theorem loopRounds_eq_iff {end_ : Outcome Yield × World} :
    (loopRounds s (executeProgram g program depth) n n >>= fun k => pure (Yield.iterations k)) w =
      end_ ↔ LoopEnd g s program depth n w end_ := by
  constructor
  · intro ended
    rw [← ended]
    exact loopEnd_of_rounds .none (Nat.zero_add n)
  · exact LoopEnd.loopRounds

end Loops

/-- An attempt at a loop that has no actions is refused.  Otherwise, with `n` rounds at most, it
performs its actions round after round, as long as its guard holds before the round and up to the
first action that fails; it ends in just the one way that `LoopEnd` lists for that.  If the guard
never fails, a loop that succeeds has gone through `n` rounds. -/
theorem dispatch_loop_iff {s : Step} {n : Nat} (kind : s.kind = .loop)
    (bound : Scalar.rounds standardLoopRounds s.value = .ok n) (g : Setting)
    (program : List Action) (depth : Int) (w : World) :
    (program = [] → s.dispatch g program.length (executeProgram g program depth) w =
      (.failed (.ofAction s.id "Loop action requires actions to execute"), w)) ∧
    (program ≠ [] → ∀ end_,
      s.dispatch g program.length (executeProgram g program depth) w = end_ ↔
        LoopEnd g s program depth n w end_) ∧
    ((∀ u v, s.isAdmitted u ≠ (.done false, v)) → ∀ y v,
      s.dispatch g program.length (executeProgram g program depth) w = (.done y, v) →
        y = .iterations n ∧ Looped g s program depth n w n v) := by
  have refused : program = [] →
      s.dispatch g program.length (executeProgram g program depth) w =
        (.failed (.ofAction s.id "Loop action requires actions to execute"), w) := by
    intro empty
    subst empty
    have lacks : s.lacking? 0 = some "Loop action requires actions to execute" := by
      simp [Step.lacking?, kind]
    exact congrFun (Step.dispatch_of_lacking lacks g _) w
  have law : program ≠ [] → ∀ end_,
      s.dispatch g program.length (executeProgram g program depth) w = end_ ↔
        LoopEnd g s program depth n w end_ := by
    intro nonempty end_
    have complete : s.lacking? program.length = none := by
      simp [Step.lacking?, kind, nonempty]
    rw [Step.dispatch_loop kind complete, bound]
    exact loopRounds_eq_iff
  refine ⟨refused, law, fun holds y v succeeded => ?_⟩
  by_cases empty : program = []
  · rw [refused empty] at succeeded
    cases succeeded
  · have ended := (law empty _).mp succeeded
    cases ended with
    | full rounds => exact ⟨rfl, rounds⟩
    | left _ _ guard => exact absurd guard (holds _ _)

def Step.plain (kind : ActionKind) : Step :=
  ⟨"a", kind, "", none, none, none, none, none, none, false⟩

/-- What a run looks up that is set up in no special way. -/
def Setting.plain : Setting :=
  ⟨.standard, .standard, 0⟩

/-- A loop that takes screenshots goes through its ten rounds. -/
theorem dispatch_loop_iff_screenshots :
    (Step.plain .loop).kind = .loop ∧
    Scalar.rounds standardLoopRounds (Step.plain .loop).value = .ok 10 ∧
    ∃ v, (Step.plain .loop).dispatch .plain 1
        (executeProgram .plain [⟨.plain .screenshot, none⟩] 2) (.opening .blank []) =
          (.done (.iterations 10), v) ∧
      Looped .plain (.plain .loop) [⟨.plain .screenshot, none⟩] 2 10 (.opening .blank []) 10 v := by
  have unguarded : ∀ u v, (Step.plain .loop).isAdmitted u ≠ (.done false, v) := by
    intro u v admitted
    cases admitted
  obtain ⟨-, -, full⟩ := dispatch_loop_iff (s := .plain .loop) (n := 10) rfl rfl .plain
    [⟨.plain .screenshot, none⟩] 2 (.opening .blank [])
  rcases ran : (Step.plain .loop).dispatch .plain 1
    (executeProgram .plain [⟨.plain .screenshot, none⟩] 2) (.opening .blank []) with ⟨y | e | _, v⟩
  · obtain ⟨rfl, rounds⟩ := full unguarded y v ran
    exact ⟨rfl, rfl, v, rfl, rounds⟩
  · have unfailing : ((Step.plain .loop).dispatch .plain 1
        (executeProgram .plain [⟨.plain .screenshot, none⟩] 2) (.opening .blank [])).1.fault? =
          none := by
      decide +kernel
    rw [ran] at unfailing
    cases unfailing
  · have uncut : ((Step.plain .loop).dispatch .plain 1
        (executeProgram .plain [⟨.plain .screenshot, none⟩] 2)
        (.opening .blank [])).1.isCancelled = false := by
      decide +kernel
    rw [ran] at uncut
    cases uncut

/-- A loop without actions does not go through its rounds, though no action of it fails. -/
theorem loop_of_no_actions :
    ¬ ∀ (g : Setting) (s : Step) (program : List Action) (depth : Int) (n : Nat) (w : World),
      s.kind = .loop → Scalar.rounds standardLoopRounds s.value = .ok n →
      LoopEnd g s program depth n w
        (s.dispatch g program.length (executeProgram g program depth) w) := by
  intro claim
  have ended := claim .plain (.plain .loop) [] 2 10 (.opening .blank []) rfl rfl
  have refused : (Step.plain .loop).dispatch .plain 0 (executeProgram .plain [] 2)
      (.opening .blank []) =
        (.failed (.ofAction "a" "Loop action requires actions to execute"), .opening .blank []) :=
    rfl
  rw [show ([] : List Action).length = 0 from rfl, refused] at ended
  cases ended with
  | failed _ _ _ broke => cases broke

end Scout
