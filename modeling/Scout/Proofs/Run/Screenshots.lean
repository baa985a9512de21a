import Scout.Proofs.Decimal.Digits
import Scout.Proofs.Run.Courses

/-!
# Screenshots

A picture is a file of its own in the directory of screenshots.  A browser makes that
directory before it pictures the page; where the directory cannot be made, the page is
not pictured.  A directory that could be made once can be made again.
-/

namespace Scout

open Exec Files

/-! ## Names of pictures -/

theorem isNameChar_of_mem_plainName {c : Char} {inRun : Bool} {cs : List Char}
    (h : c ∈ plainName inRun cs) : isNameChar c = true := by
  have underscore : isNameChar '_' = true := by decide
  induction cs generalizing inRun with
  | nil => cases h
  | cons d rest ih =>
    unfold plainName at h
    split at h
    · next safe =>
      rcases List.mem_cons.1 h with rfl | h
      · exact safe
      · exact ih h
    · split at h
      · exact ih h
      · rcases List.mem_cons.1 h with rfl | h
        · exact underscore
        · exact ih h

theorem mem_of_mem_trimBy {p : Char → Bool} {c : Char} {cs : List Char}
    (h : c ∈ Text.trimBy p cs) : c ∈ cs := by
  have inner : c ∈ (cs.dropWhile p).reverse :=
    (List.dropWhile_sublist p).subset (List.mem_reverse.1 h)
  exact (List.dropWhile_sublist p).subset (List.mem_reverse.1 inner)

theorem isNameChar_of_mem_safeName {c : Char} {name : String} (h : c ∈ (safeName name).toList) :
    isNameChar c = true := by
  unfold safeName at h
  dsimp only at h
  split at h
  · exact List.all_eq_true.1 (show "screenshot".toList.all isNameChar = true by decide) c h
  · rw [String.toList_ofList] at h
    exact isNameChar_of_mem_plainName (mem_of_mem_trimBy h)

theorem isNameChar_of_isDigit {c : Char} (digit : c.isDigit = true) : isNameChar c = true := by
  have small : c.toNat < 128 := by
    rw [Char.isDigit, Bool.and_eq_true, decide_eq_true_eq, decide_eq_true_eq] at digit
    exact Nat.lt_of_le_of_lt (UInt32.le_iff_toNat_le.1 digit.2) (by decide)
  simp [isNameChar, Text.isWord, small, Text.isAsciiWord, Char.isAlphanum, digit]

theorem isNameChar_of_mem_toString {c : Char} {n : Int} (h : c ∈ (toString n).toList) :
    isNameChar c = true := by
  have digits : ∀ {m : Nat}, c ∈ (Nat.repr m).toList → isNameChar c = true := by
    intro m h
    rw [Nat.toList_repr] at h
    exact isNameChar_of_isDigit (Decimal.allDigits_toDigits m c h)
  cases n with
  | ofNat m => exact digits h
  | negSucc m =>
    have signed : (toString (Int.negSucc m)).toList = '-' :: (Nat.repr (m + 1)).toList := by
      change ("-" ++ Nat.repr (m + 1)).toList = _
      simp
    rw [signed] at h
    rcases List.mem_cons.1 h with rfl | h
    · decide
    · exact digits h

def pictureName (g : Setting) (name : String) : String :=
  safeName name ++ "_" ++ toString g.stamp ++ ".png"

theorem toList_pictureName (g : Setting) (name : String) : (pictureName g name).toList =
    (safeName name).toList ++ "_".toList ++ (toString g.stamp).toList ++ ".png".toList := by
  simp [pictureName]

theorem isNameChar_of_mem_pictureName {g : Setting} {name : String} {c : Char}
    (h : c ∈ (pictureName g name).toList) : isNameChar c = true := by
  have all : ∀ s ∈ ["_", ".png"], s.toList.all isNameChar = true := by decide
  simp only [toList_pictureName, List.mem_append] at h
  rcases h with ((h | h) | h) | h
  · exact isNameChar_of_mem_safeName h
  · exact List.all_eq_true.1 (all "_" (by simp)) c h
  · exact isNameChar_of_mem_toString h
  · exact List.all_eq_true.1 (all ".png" (by simp)) c h

theorem isFileName_pictureName (g : Setting) (name : String) :
    IsFileName (pictureName g name) := by
  refine isFileName_of_long (fun slash => ?_) ?_
  · exact absurd (isNameChar_of_mem_pictureName slash) (by decide)
  · rw [toList_pictureName, List.length_append]
    exact Nat.lt_of_lt_of_le (by decide) (Nat.le_add_left 4 _)

theorem parent_screenshotPath (g : Setting) (name : String) :
    parent (screenshotPath g name) = normal g.options.screenshotDir :=
  parent_join (isFileName_pictureName g name).isPart

/-! ## The directory -/

namespace Files.Tree

variable {t t' : Tree} {dir : String}

/-- Whether a directory is there once it and those that lead to it are made. -/
def canMake (t : Tree) (dir : String) : Bool :=
  (finish (Act.makeDirectories dir) t).1.isOk

theorem canMake_of_ok (h : finish (Act.makeDirectories dir) t = (.ok (), t')) :
    t.canMake dir = true := by
  rw [canMake, h]
  rfl

theorem canMake_cases (t : Tree) (dir : String) :
    (t.canMake dir = true ∧ ∃ t', t'.canMake dir = true ∧
      finish (Act.makeDirectories dir) t = (.ok (), t')) ∨
    t.canMake dir = false ∧ ∃ e t', finish (Act.makeDirectories dir) t = (.error e, t') := by
  rcases made : finish (Act.makeDirectories dir) t with ⟨e | _, t'⟩
  · refine .inr ⟨?_, e, t', rfl⟩
    rw [canMake, made]
    rfl
  · exact .inl ⟨canMake_of_ok made, t', canMake_of_ok (Act.makeDirectories_again made), rfl⟩

end Files.Tree

/-- Whether a screenshot gets as far as the page: a browser must be able to make its directory. -/
def World.takesPictures (g : Setting) (w : World) : Bool :=
  !w.page.throughBrowser || w.files.canMake g.options.screenshotDir

variable {g : Setting} {w : World}

theorem screenshot_direct (direct : w.page.throughBrowser = false) (path : String) :
    Browse.screenshot path w = perform (.screenshot path) w := by
  unfold Browse.screenshot
  rw [bind_done (read_apply _ _), direct]
  rfl

theorem screenshot_through (through : w.page.throughBrowser = true) (name : String) :
    Browse.screenshot (screenshotPath g name) w =
      (do onFiles (Act.makeDirectories g.options.screenshotDir)
          perform (.screenshot (screenshotPath g name))) w := by
  unfold Browse.screenshot
  rw [bind_done (read_apply _ _), through, parent_screenshotPath, Act.makeDirectories_normal]
  rfl

theorem screenshot_of_canMake (through : w.page.throughBrowser = true)
    (makes : w.files.canMake g.options.screenshotDir = true) (name : String) :
    ∃ t, t.canMake g.options.screenshotDir = true ∧
      Browse.screenshot (screenshotPath g name) w =
        perform (.screenshot (screenshotPath g name)) { w with files := t } := by
  rw [screenshot_through through]
  rcases w.files.canMake_cases g.options.screenshotDir with ⟨-, t, again, made⟩ | ⟨fails, -⟩
  · refine ⟨t, again, ?_⟩
    rw [bind_apply, onFiles_apply, made]
  · rw [makes] at fails
    cases fails

theorem screenshot_of_not_canMake (through : w.page.throughBrowser = true)
    (fails : w.files.canMake g.options.screenshotDir = false) (name : String) :
    ∃ e t, Browse.screenshot (screenshotPath g name) w = (.failed e, { w with files := t }) := by
  rw [screenshot_through through]
  rcases w.files.canMake_cases g.options.screenshotDir with ⟨makes, -⟩ | ⟨-, e, t, failed⟩
  · rw [makes] at fails
    cases fails
  · refine ⟨⟨.page, e.message⟩, t, ?_⟩
    rw [bind_apply, onFiles_apply, failed]

end Scout
