import Scout.Proofs.Library.Listing
import Scout.Proofs.Run.Pictures
import Scout.Proofs.Run.Screenshots

/-!
# Names of files

Names of pictures come from playbooks and names of templates from whoever asks for one.  Whatever
they are, no path that is made of them leads out of its directory: what is unsafe in the name of a
picture is replaced, and a template whose name is not plain is refused before any file is read.
-/

namespace Scout

open Exec Files

/-! ## Pictures -/

/-- The operation that taking a screenshot of a name lists. -/
def World.pictures (g : Setting) (name : String) (w : World) : List Call :=
  if w.takesPictures g then [.screenshot (screenshotPath g name)] else []

theorem listed_screenshot (g : Setting) (name : String) (w : World) :
    w.Listed (Browse.screenshot (screenshotPath g name) w).2 (w.pictures g name) := by
  have listed (u : World) : u.Listed (perform (.screenshot (screenshotPath g name)) u).2
      [.screenshot (screenshotPath g name)] := by
    obtain ⟨t, rules, h⟩ := perform_world (.screenshot (screenshotPath g name)) u
    simp [World.Listed, h]
  unfold World.pictures World.takesPictures
  cases through : w.page.throughBrowser with
  | false =>
    rw [screenshot_direct through]
    exact listed w
  | true =>
    cases makes : w.files.canMake g.options.screenshotDir with
    | true =>
      obtain ⟨t, -, made⟩ := screenshot_of_canMake through makes name
      rw [made]
      exact listed { w with files := t }
    | false =>
      obtain ⟨e, t, failed⟩ := screenshot_of_not_canMake through makes name
      rw [failed]
      simp [World.Listed]

/-- Taking a screenshot pictures the page at most once, to the path made for the name. -/
theorem listed_takeScreenshot (g : Setting) (name : String) (w : World) :
    w.Listed (takeScreenshot g name w).2 (w.pictures g name) := by
  have listed := listed_screenshot g name w
  unfold takeScreenshot
  rcases taken : Browse.screenshot (screenshotPath g name) w with ⟨a | e | _, u⟩ <;>
    rw [taken] at listed
  · rw [bind_done taken]
    exact listed
  · rw [bind_failed taken]
    exact listed
  · rw [bind_cancelled taken]
    exact listed

def Step.pictured (s : Step) : String :=
  let name := (Value.ofScalar? s.value).stringify
  if name == "" then "screenshot" else name

theorem Step.listed_screenshot (s : Step) (g : Setting) (w : World) :
    w.Listed (s.screenshot g w).2 (w.pictures g s.pictured) := by
  have listed := listed_takeScreenshot g s.pictured w
  have unfolded : s.screenshot g = (do
      let path ← takeScreenshot g s.pictured
      keepScreenshot path
      pure ⟨.null, some path⟩) := rfl
  rw [unfolded]
  rcases taken : takeScreenshot g s.pictured w with ⟨path | e | _, u⟩ <;> rw [taken] at listed
  · rw [bind_done taken]
    exact listed
  · rw [bind_failed taken]
    exact listed
  · rw [bind_cancelled taken]
    exact listed

theorem listed_errorScreenshot (g : Setting) (id : String) (w : World) :
    w.Listed (errorScreenshot g id w).2 (w.pictures g ("error_" ++ id)) := by
  have listed := listed_takeScreenshot g ("error_" ++ id) w
  unfold errorScreenshot
  rcases taken : takeScreenshot g ("error_" ++ id) w with ⟨path | e | _, u⟩ <;>
    rw [taken] at listed
  · rw [bind_done (attempt_done taken)]
    exact listed
  · rw [bind_done (attempt_failed taken)]
    exact listed
  · rw [bind_cancelled (attempt_cancelled taken)]
    exact listed

/-! ## Templates -/

theorem Library.loadTemplate_congr {l : Library} {t t' : Files.Tree} {name : String}
    (same : t.content (documentPath l.templates name) =
      t'.content (documentPath l.templates name)) :
    l.loadTemplate t name = l.loadTemplate t' name := by
  unfold loadTemplate readDocument readValue
  rw [same]

open Library in
/-- Names lead to entries of their own directories alone.  A screenshot of whatever name is
taken to a file in the directory of screenshots, whose name ends with the moment of the run and
has name characters only; a screenshot action and a failure take one each, or none where a
browser cannot make that directory, and no run pictures its page to another path.  A template is
refused whatever files there are, or of all files only the one of its name in the directory of
templates matters. -/
theorem names_lead_into_their_directories :
    (∀ (g : Setting) (name : String),
      IsEntryOf g.options.screenshotDir
        (safeName name ++ "_" ++ toString g.stamp ++ ".png") (screenshotPath g name) ∧
      ∀ c ∈ (safeName name).toList, isNameChar c = true) ∧
    (∀ (g : Setting) (s : Step) (w : World),
      (w.takesPictures g = true →
        w.Listed (s.screenshot g w).2 [.screenshot (screenshotPath g s.pictured)] ∧
        w.Listed (errorScreenshot g s.id w).2
          [.screenshot (screenshotPath g ("error_" ++ s.id))]) ∧
      (w.takesPictures g = false →
        w.Listed (s.screenshot g w).2 [] ∧ w.Listed (errorScreenshot g s.id w).2 [])) ∧
    (∀ (o : RunOptions) (at_ : Stamp) (p : Playbook) (vars : Members Value) (w : World),
      w.ListsProper (Run.settingOf o at_ p) (Run.start o at_ p vars w).2) ∧
    ∀ (l : Library) (name : String),
      (isTemplateName name = false → ∀ t,
        l.loadTemplate t name = .error (.refused (.badTemplateName name))) ∧
      (isTemplateName name = true →
        IsEntryOf l.templates (name ++ ".json") (documentPath l.templates name) ∧
        ∀ t t' : Files.Tree,
          t.content (documentPath l.templates name) = t'.content (documentPath l.templates name) →
          l.loadTemplate t name = l.loadTemplate t' name) := by
  refine ⟨fun g name => ⟨isEntryOf_join (isFileName_pictureName g name), ?_⟩, ?_, ?_, ?_⟩
  · exact fun c => isNameChar_of_mem_safeName
  · intro g s w
    have action := s.listed_screenshot g w
    have failure := listed_errorScreenshot g s.id w
    unfold World.pictures at action failure
    refine ⟨fun takes => ?_, fun takes => ?_⟩ <;> rw [takes] at action failure <;>
      exact ⟨action, failure⟩
  · exact Run.proper_start
  · intro l name
    refine ⟨fun refused t => loadTemplate_of_not_accepted refused, fun accepted => ⟨?_, ?_⟩⟩
    · exact isEntryOf_join (isFileName_fileName (noSlash_of_isTemplateName accepted))
    · exact fun t t' => loadTemplate_congr

open Library in
/-- A name that leads upwards is refused, and a plain one makes another template not matter. -/
theorem names_lead_into_their_directories_boards :
    let fewer := boards.erase ["srv", "home", "templates", "my board.json"]
    isTemplateName "../board" = false ∧
    homely.loadTemplate boards "../board" = .error (.refused (.badTemplateName "../board")) ∧
    isTemplateName "board" = true ∧
    boards.content (documentPath homely.templates "board") =
      fewer.content (documentPath homely.templates "board") ∧
    homely.loadTemplate boards "board" = homely.loadTemplate fewer "board" := by
  obtain ⟨-, -, -, templates⟩ := names_lead_into_their_directories
  have outside : isTemplateName "../board" = false := by decide
  have plain : isTemplateName "board" = true := by decide
  have same : boards.content (documentPath homely.templates "board") =
      (boards.erase ["srv", "home", "templates", "my board.json"]).content
        (documentPath homely.templates "board") := by
    rfl
  refine ⟨outside, (templates homely "../board").1 outside boards, plain, same, ?_⟩
  exact ((templates homely "board").2 plain).2 _ _ same

end Scout
