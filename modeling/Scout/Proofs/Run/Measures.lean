import Scout.Proofs.Decimal.Integers
import Scout.Proofs.Run.Retries

/-!
# Numbers of rounds and of pixels

The value of a loop or a retry asks for a number of rounds, that of a scroll for a number of pixels.
It is read as a double, so that an integer keeps its leading digits alone, and integers that no
double reaches are out of range, as infinities are.  Those stop the action; everything else that is
no number of rounds gives the usual one.
-/

namespace Scout

namespace Scalar

open Decimal (FloatForm leading)

/-! ## Values that are out of range -/

/-- The fault of a value whose size no integer part can be taken of: an integer that is too large
for a double, and an infinity, as a double or written out. -/
inductive Overflows : Option Scalar → Fault → Prop
  | int {n : Int} (large : 2 ^ 1024 ≤ leading n.natAbs) : Overflows (some (.int n)) .tooLarge
  | float {x : Float} {negative : Bool} (form : FloatForm.of x = .infinite negative) :
      Overflows (some (.float x)) .infinite
  | text {s : String} {x : Float} {negative : Bool} (reads : Decimal.ofText? s = some x)
      (form : FloatForm.of x = .infinite negative) : Overflows (some (.text s)) .infinite

/-! ## Numbers of rounds that are meant -/

/-- A double that is at least one stands for its integer part, any other for the usual number. -/
def meantByDouble (fallback : Nat) (x : Float) : Nat :=
  match FloatForm.of x with
  | .finite b =>
    if b.negative = false ∧ b.ratio.2 ≤ b.ratio.1 then b.ratio.1 / b.ratio.2 else fallback
  | _ => fallback

/-- The number of rounds that a value stands for: a positive integer for itself, a double or the
text of one for its integer part, and everything else for the usual number. -/
def meant (fallback : Nat) : Option Scalar → Nat
  | some (.int n) => if 0 < n then n.toNat else fallback
  | some (.float x) => meantByDouble fallback x
  | some (.text s) => match Decimal.ofText? s with
    | some x => meantByDouble fallback x
    | none => fallback
  | _ => fallback

/-- Whether a value is read as it is meant: it is in range, and no digit of a positive integer is
rounded off. -/
structure IsFaithful (v : Option Scalar) : Prop where
  fits : ∀ e, ¬ Overflows v e
  unrounded : ∀ n : Int, v = some (.int n) → 0 < n → leading n.toNat = n.toNat

/-! ## Integer parts -/

theorem whole_of_finite {x : Float} {b : Decimal.Binary} (form : FloatForm.of x = .finite b) :
    whole x = .ok b.truncate := by
  rw [whole, form]

theorem whole_of_infinite {x : Float} {negative : Bool}
    (form : FloatForm.of x = .infinite negative) : whole x = .error .infinite := by
  rw [whole, form]

theorem whole_of_nan {x : Float} (form : FloatForm.of x = .nan) : whole x = .error .notWhole := by
  rw [whole, form]

/-- The integer part of a double is positive when the double is at least one. -/
theorem truncate_pos_iff {b : Decimal.Binary} :
    0 < b.truncate ↔ b.negative = false ∧ b.ratio.2 ≤ b.ratio.1 := by
  have quotient : 0 < b.ratio.1 / b.ratio.2 ↔ b.ratio.2 ≤ b.ratio.1 := by
    simp [Nat.div_pos_iff, Decimal.ratio_pos b]
  rw [← quotient]
  unfold Decimal.Binary.truncate
  dsimp only
  generalize b.ratio.1 / b.ratio.2 = q
  cases b.negative
  · simp
  · simp

theorem toFloat_int {n : Int} (fits : leading n.natAbs < 2 ^ 1024) :
    ∃ x, (Scalar.int n).toFloat = .ok x ∧ whole x = .ok (n.sign * leading n.natAbs) := by
  obtain ⟨b, form, value⟩ := (Decimal.of_ofInt n).1 fits
  refine ⟨Decimal.ofInt n, ?_, by rw [whole_of_finite form, value]⟩
  simp [toFloat, Decimal.isFinite, form]

theorem toFloat_int_of_large {n : Int} (beyond : 2 ^ 1024 ≤ leading n.natAbs) :
    (Scalar.int n).toFloat = .error .tooLarge := by
  simp [toFloat, Decimal.isFinite, (Decimal.of_ofInt n).2 beyond]

/-- The integer part of the double that a value is read as. -/
def wholePart (v : Scalar) : Except Fault Int :=
  v.toFloat >>= whole

theorem wholePart_of_reads {v : Scalar} {x : Float} (reads : v.toFloat = .ok x) :
    v.wholePart = whole x := by
  rw [wholePart, reads]
  rfl

theorem wholePart_bool (b : Bool) : (Scalar.bool b).wholePart = .ok (boolInt b) := by
  cases b <;> decide +kernel

/-- A double has no integer part for another reason than its value exactly when it is infinite. -/
theorem whole_eq_error_iff {x : Float} {e : Fault} (other : e.kind ≠ .value) :
    whole x = .error e ↔ (∃ negative, FloatForm.of x = .infinite negative) ∧ e = .infinite := by
  cases form : FloatForm.of x with
  | finite b => simp [whole_of_finite form]
  | infinite negative => simp [whole_of_infinite form, eq_comm]
  | nan =>
    rw [whole_of_nan form]
    simp
    rintro rfl
    exact other rfl

/-- A value has no integer part for another reason than that it is no number exactly when it is out
of range. -/
theorem wholePart_eq_error_iff {v : Scalar} {e : Fault} (other : e.kind ≠ .value) :
    v.wholePart = .error e ↔ Overflows (some v) e := by
  cases v with
  | bool b =>
    rw [wholePart_bool]
    refine ⟨fun h => ?_, fun h => ?_⟩ <;> cases h
  | int n =>
    rcases Nat.lt_or_ge (leading n.natAbs) (2 ^ 1024) with fits | beyond
    · obtain ⟨x, reads, value⟩ := toFloat_int fits
      rw [wholePart_of_reads reads, value]
      refine ⟨fun h => ?_, fun h => ?_⟩
      · cases h
      · cases h with
        | int large => omega
    · rw [wholePart, toFloat_int_of_large beyond]
      refine ⟨fun h => ?_, fun h => ?_⟩
      · cases h
        exact .int beyond
      · cases h
        rfl
  | float x =>
    rw [wholePart_of_reads rfl, whole_eq_error_iff other]
    refine ⟨?_, fun h => ?_⟩
    · rintro ⟨⟨negative, form⟩, rfl⟩
      exact .float form
    · cases h with
      | float form => exact ⟨⟨_, form⟩, rfl⟩
  | text s =>
    cases reads : Decimal.ofText? s with
    | none =>
      have unread : (Scalar.text s).wholePart = .error (.notNumeric s) := by
        rw [wholePart, toFloat, reads]
        rfl
      rw [unread]
      refine ⟨fun h => ?_, fun h => ?_⟩
      · cases h
        exact absurd rfl other
      · cases h with
        | text reads' => cases reads.symm.trans reads'
    | some x =>
      rw [wholePart_of_reads (show (Scalar.text s).toFloat = .ok x by rw [toFloat, reads]),
        whole_eq_error_iff other]
      refine ⟨?_, fun h => ?_⟩
      · rintro ⟨⟨negative, form⟩, rfl⟩
        exact .text reads form
      · cases h with
        | text reads' form =>
          cases reads.symm.trans reads'
          exact ⟨⟨_, form⟩, rfl⟩

/-! ## Rounds and pixels -/

theorem orElseValue_eq_error_iff {α : Type} {a : α} {x : Except Fault α} {e : Fault} :
    orElseValue a x = .error e ↔ x = .error e ∧ e.kind ≠ .value := by
  unfold orElseValue
  cases x with
  | ok b => simp
  | error e' =>
    dsimp only
    split
    · next value =>
      simp only [reduceCtorEq, Except.error.injEq, false_iff, not_and, not_not]
      rintro rfl
      simpa using value
    · next other =>
      simp only [Except.error.injEq, iff_self_and]
      rintro rfl
      simpa using other

def roundsOfPart (fallback : Nat) (n : Int) : Nat :=
  if 0 < n then n.toNat else fallback

theorem rounds_eq (fallback : Nat) {v : Scalar} (kind : ∀ b, v ≠ .bool b) :
    rounds fallback (some v) =
      orElseValue fallback (v.wholePart.map (roundsOfPart fallback)) := by
  have parts : (do let n ← whole (← v.toFloat); pure (if 0 < n then n.toNat else fallback)) =
      v.wholePart.map (roundsOfPart fallback) := by
    unfold wholePart
    rcases v.toFloat with e | x
    · rfl
    · change (do let n ← whole x; pure (if 0 < n then n.toNat else fallback)) = (whole x).map _
      rcases whole x with e | n <;> rfl
  rw [← parts]
  cases v with
  | bool b => exact absurd rfl (kind b)
  | _ => rfl

theorem pixels_eq {v : Scalar} (kind : ∀ b, v ≠ .bool b) :
    pixels (some v) = orElseValue 0 v.wholePart := by
  cases v with
  | bool b => exact absurd rfl (kind b)
  | text s =>
    by_cases empty : s = ""
    · subst empty
      rfl
    · unfold pixels
      split
      · cases ‹_›
      · next h => exact absurd (by simpa using h) empty
      · next h => cases h; rfl
  | _ => rfl

theorem Overflows.kind_ne {v : Option Scalar} {e : Fault} (h : Overflows v e) :
    e.kind ≠ .value := by
  cases h <;> simp [Fault.tooLarge, Fault.infinite]

theorem wholePart_eq_error_and_iff {v : Scalar} {e : Fault} :
    v.wholePart = .error e ∧ e.kind ≠ .value ↔ Overflows (some v) e := by
  constructor
  · exact fun ⟨raised, other⟩ => (wholePart_eq_error_iff other).1 raised
  · exact fun h => ⟨(wholePart_eq_error_iff h.kind_ne).2 h, h.kind_ne⟩

/-- No number of rounds is read from a value exactly when the value is out of range. -/
theorem rounds_eq_error_iff {fallback : Nat} {v : Option Scalar} {e : Fault} :
    rounds fallback v = .error e ↔ Overflows v e := by
  rcases v with _ | v
  · refine ⟨fun h => ?_, fun h => ?_⟩ <;> cases h
  by_cases kind : ∃ b, v = .bool b
  · obtain ⟨b, rfl⟩ := kind
    refine ⟨fun h => ?_, fun h => ?_⟩ <;> cases h
  · rw [rounds_eq fallback (by simpa using kind), orElseValue_eq_error_iff,
      ← wholePart_eq_error_and_iff]
    rcases v.wholePart with e' | n <;> simp [Except.map]

/-- No number of pixels is read from a value exactly when the value is out of range. -/
theorem pixels_eq_error_iff {v : Option Scalar} {e : Fault} :
    pixels v = .error e ↔ Overflows v e := by
  rcases v with _ | v
  · refine ⟨fun h => ?_, fun h => ?_⟩ <;> cases h
  by_cases kind : ∃ b, v = .bool b
  · obtain ⟨b, rfl⟩ := kind
    refine ⟨fun h => ?_, fun h => ?_⟩ <;> cases h
  · rw [pixels_eq (by simpa using kind), orElseValue_eq_error_iff, wholePart_eq_error_and_iff]

/-- The rounds that the integer part of a double asks for are those that it means. -/
theorem rounds_of_double {fallback : Nat} {v : Scalar} {x : Float} (kind : ∀ b, v ≠ .bool b)
    (reads : v.toFloat = .ok x) (finite : ∀ negative, FloatForm.of x ≠ .infinite negative) :
    rounds fallback (some v) = .ok (meantByDouble fallback x) := by
  rw [rounds_eq fallback kind, wholePart_of_reads reads, meantByDouble]
  cases form : FloatForm.of x with
  | infinite negative => exact absurd form (finite negative)
  | nan =>
    rw [whole_of_nan form]
    rfl
  | finite b =>
    rw [whole_of_finite form]
    change Except.ok (roundsOfPart fallback b.truncate) = _
    dsimp only
    rw [roundsOfPart, if_congr truncate_pos_iff rfl rfl]
    split
    · next positive =>
      rw [Decimal.Binary.truncate]
      dsimp only
      rw [if_neg (by simp [positive.1]), Int.toNat_natCast]
    · rfl

/-- A positive integer in range asks for as many rounds as its leading digits say. -/
theorem rounds_int {fallback : Nat} {n : Int} (fits : leading n.natAbs < 2 ^ 1024) :
    rounds fallback (some (.int n)) = .ok (if 0 < n then leading n.toNat else fallback) := by
  obtain ⟨x, reads, value⟩ := toFloat_int fits
  rw [rounds_eq fallback (by simp), wholePart_of_reads reads, value]
  change Except.ok (roundsOfPart fallback _) = _
  rw [roundsOfPart]
  rcases lt_trichotomy n 0 with negative | rfl | positive
  · rw [Int.sign_eq_neg_one_of_neg negative, if_neg (by omega), if_neg (by omega)]
  · rfl
  · have kept : 0 < leading n.natAbs := Decimal.leading_pos (by omega)
    have same : n.natAbs = n.toNat := by omega
    rw [Int.sign_eq_one_of_pos positive, Int.one_mul, if_pos (by omega), if_pos positive,
      Int.toNat_natCast, same]

theorem rounds_eq_meant_of_faithful {fallback : Nat} {v : Option Scalar} (h : IsFaithful v) :
    rounds fallback v = .ok (meant fallback v) := by
  rcases v with _ | v
  · rfl
  cases v with
  | bool b => rfl
  | int n =>
    have fits : leading n.natAbs < 2 ^ 1024 := by
      by_contra beyond
      exact h.fits _ (.int (by omega))
    rw [rounds_int fits, meant]
    split
    · next positive => rw [h.unrounded n rfl positive]
    · rfl
  | float x =>
    exact rounds_of_double (by simp) rfl fun negative form => h.fits _ (.float form)
  | text s =>
    cases reads : Decimal.ofText? s with
    | none => simp [rounds, toFloat, meant, reads, orElseValue, bind, Except.bind, Fault.notNumeric]
    | some x =>
      rw [meant, reads]
      exact rounds_of_double (by simp) (by rw [toFloat, reads]) fun negative form =>
        h.fits _ (.text reads form)

/-- The number of rounds that is read is the one that is meant exactly when the value is in range
and nothing of it is rounded off. -/
theorem rounds_eq_meant_iff {fallback : Nat} {v : Option Scalar} :
    rounds fallback v = .ok (meant fallback v) ↔ IsFaithful v := by
  refine ⟨fun h => ⟨fun e overflows => ?_, ?_⟩, rounds_eq_meant_of_faithful⟩
  · cases (rounds_eq_error_iff.2 overflows).symm.trans h
  · rintro n rfl positive
    have fits : leading n.natAbs < 2 ^ 1024 := by
      by_contra beyond
      cases (rounds_eq_error_iff.2 (.int (by omega))).symm.trans h
    rw [rounds_int fits, meant, if_pos positive, if_pos positive, Except.ok.injEq] at h
    exact h

end Scalar

/-! ## Actions that take a number from their value -/

open Exec

namespace Step

variable {s : Step} {size : Nat}

/-- Whether an attempt takes a number from the value of the action: a loop or a retry that has a
program does, and so does a scroll that is given no element. -/
inductive TakesNumber (s : Step) (size : Nat) : Prop
  | loop (kind : s.kind = .loop) (program : size ≠ 0)
  | retry (kind : s.kind = .retry) (program : size ≠ 0)
  | scroll (kind : s.kind = .scroll) (free : Condition.named? s.selector = none)

def loops (s : Step) (body : Exec Unit) (n : Nat) : Exec Yield := do
  let k ← loopRounds s body n n
  pure (.iterations k)

def tries (s : Step) (body : Exec Unit) (n : Nat) : Exec Yield := do
  let k ← retryRounds s body (s.timeout.getD standardRetryDelay) n n
  pure (.attempts k)

/-- A scroll by so many pixels, or to a place when they are not positive. -/
def scrolls (n : Int) : Exec Yield := do
  if 0 < n then Browse.scrollBy n else Browse.scrollTo n.natAbs
  pure .nothing

theorem dispatch_looping (kind : s.kind = .loop) (program : size ≠ 0) (g : Setting)
    (body : Exec Unit) : s.dispatch g size body =
      lift (Scalar.rounds standardLoopRounds s.value) >>= s.loops body :=
  dispatch_loop kind (by simp [lacking?, kind, program]) g body

theorem dispatch_retrying (kind : s.kind = .retry) (program : size ≠ 0) (g : Setting)
    (body : Exec Unit) : s.dispatch g size body =
      lift (Scalar.rounds standardRetryRounds s.value) >>= s.tries body :=
  dispatch_retry kind (by simp [lacking?, kind, program]) g body

theorem dispatch_scrolling (kind : s.kind = .scroll) (free : Condition.named? s.selector = none)
    (g : Setting) (body : Exec Unit) : s.dispatch g size body =
      lift (Scalar.pixels s.value) >>= scrolls := by
  unfold dispatch
  rw [kind]
  dsimp only
  unfold scroll
  rw [free]
  rcases Scalar.pixels s.value with e | n <;> rfl

theorem TakesNumber.dispatch_of_overflows (takes : s.TakesNumber size) {e : Fault}
    (beyond : Scalar.Overflows s.value e) (g : Setting) (body : Exec Unit) (w : World) :
    s.dispatch g size body w = (.failed e, w) := by
  cases takes with
  | loop kind program =>
    rw [dispatch_looping kind program, Scalar.rounds_eq_error_iff.2 beyond]
    rfl
  | retry kind program =>
    rw [dispatch_retrying kind program, Scalar.rounds_eq_error_iff.2 beyond]
    rfl
  | scroll kind free =>
    rw [dispatch_scrolling kind free, Scalar.pixels_eq_error_iff.2 beyond]
    rfl

end Step

end Scout
