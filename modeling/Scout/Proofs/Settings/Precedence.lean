import Scout.Proofs.Settings.Reading
import Scout.Proofs.Settings.Variables

/-!
# Settings follow their layers

Which layers count is said by the members that are merged: what is given directly, or a variable,
names the environment.  Every member of the settings is that of the highest layer that has it, and
so is every key of a section, among the layers that are visible.
-/

namespace Scout.Settings

open Json (bind_eq_ok)

/-! ## The environment that is named -/

/-- The name of the environment as it is given: directly, else by a variable in any case. -/
def givenName (e : Environment) (direct : Members Value) : Value :=
  .ofOption ((direct.find? "env").or ((Members.find? e.normalized (startMark ++ "env")).map .text))

/-- How an environment is named. -/
inductive Names (e : Environment) (direct : Members Value) : Except Fault String → Prop
  | given {s : String} (h : givenName e direct = .text s) (filled : s ≠ "") :
      Names e direct (.ok (Text.trim s))
  /-- A name without text is none; then the variable is looked up by its exact name. -/
  | looked {s : String} (h : (givenName e direct).isTruthy = false)
      (held : Members.find? e variableName = some s) (filled : s ≠ "") :
      Names e direct (.ok (Text.trim s))
  | standard (h : (givenName e direct).isTruthy = false)
      (blank : (Members.find? e variableName).getD "" = "") :
      Names e direct (.ok standardEnvironment)
  | noText {v : Value} (h : givenName e direct = v) (truthy : v.isTruthy = true)
      (other : ∀ s, v ≠ .text s) :
      Names e direct (.error (.environmentNotText (Placeholder.kindOf v)))

section Named

variable {e : Environment} {vars direct : Members Value}

theorem find?_env (tidy : IsTidy direct) (h : ofEnvironment e = .ok vars) :
    Value.ofOption (Members.find? (deepMembers vars direct) "env") = givenName e direct := by
  obtain ⟨value, said, rfl⟩ := says_ofEnvironment h
  rw [find?_deepMembers _ tidy.distinct, find?_of_member (by decide), said.plain "env" (by decide),
    givenName]
  cases direct.find? "env" with
  | none => rfl
  | some v =>
    rw [deeply_eq]
    cases Members.find? e.normalized (startMark ++ "env") <;> rfl

theorem names_environmentName (tidy : IsTidy direct) (h : ofEnvironment e = .ok vars) :
    Names e direct (environmentName e (deepMembers vars direct)) := by
  unfold environmentName
  dsimp only
  rw [find?_env tidy h]
  cases truthy : (givenName e direct).isTruthy
  · rw [if_neg (by simp)]
    split
    · next s held =>
      by_cases blank : s = ""
      · subst blank
        exact .standard truthy (by rw [held]; rfl)
      · rw [if_neg (by simpa using blank)]
        exact .looked truthy held blank
    · next absent => exact .standard truthy (by rw [absent]; rfl)
  · rw [if_pos rfl]
    split
    · next s given =>
      refine .given given ?_
      rintro rfl
      rw [given] at truthy
      cases truthy
    · next noText => exact .noText rfl truthy noText

end Named

/-! ## The layers of a process -/

/-- The layers when an environment is named. -/
def stackOf (layers : Members (Members Value)) (vars direct : Members Value) (name : String) :
    Stack
  | .direct => direct
  | .environment => vars
  | .localFile => (layers.find? "local").getD []
  | .namedFile => (layers.find? name).getD []
  | .defaultFile => (layers.find? "default").getD []

/-- Whether a section, if it is given by a variable as a whole, is given as a record. -/
def GivesMembers (e : Environment) (part : String) : Prop :=
  ∀ text, Members.find? e (startMark ++ part) = some text →
    ∃ given, Json.parse text = .ok (.record given)

/-- How a section comes from its layers, by the members that it is read of. -/
structure IsBuiltOf {α : Type} (sec : Section α) (encode : α → Value) (e : Environment) (S : Stack)
    (a : α) (own raw : Members Value) : Prop where
  reads : ownMembers e.normalized sec.name sec.known = .ok own
  read : sec.read raw = .ok a
  /-- The variables that a section reads once more give what no layer gives. -/
  first : ∀ key, (raw.find? key).map surface =
    ((S.key sec.name key).or (own.find? key)).map surface
  layered : GivesMembers e.normalized sec.name →
    ∀ key, (raw.find? key).map surface = (S.key sec.name key).map surface
  alone : ∀ ms b, sec.read ms = .ok b → ∀ key ∈ sec.known, raw.find? key = Members.find? ms key →
    inside? (some (encode a)) key = inside? (some (encode b)) key
  unset : ∃ standard, sec.read [] = .ok standard ∧ ∀ key ∈ sec.known, raw.find? key = none →
    inside? (some (encode a)) key = inside? (some (encode standard)) key

/-- Whether a section comes from its layers. -/
def Follows {α : Type} (sec : Section α) (encode : α → Value) (e : Environment) (S : Stack)
    (a : α) : Prop :=
  ∃ own raw, IsBuiltOf sec encode e S a own raw

section Build

variable {S : Stack}

/-- Where something else than a section is given directly there is no section. -/
theorem yields_direct (tidy : S.IsTidy) {part : String}
    (h : yields (S.merged.find? part) = true) : yields ((S .direct).find? part) = true := by
  by_contra hidden
  rw [Bool.not_eq_true] at hidden
  rw [Stack.find?_merged tidy, laid_of_not_yields deeply_eq hidden] at h
  refine Bool.false_ne_true (hidden.symm.trans ?_)
  exact (congrArg yields (laid_of_not_yields overlaid_eq hidden _)).symm.trans h

theorem isSome_key (tidy : S.IsTidy) {part key : String} {inner : Members Value}
    (shown : yields (S.merged.find? part) = true)
    (held : (S .environment).find? part = some (.record inner))
    (there : inner.contains key = true) : (S.key part key).isSome = true := by
  have visible : Layer.environment ∈ S.visible part := by
    have first : S.shows part .direct = true := yields_direct tidy shown
    have second : S.shows part .environment = true := by simp [Stack.shows, held, yields]
    rw [Stack.visible, Layer.order, List.takeWhile_cons_of_pos first,
      List.takeWhile_cons_of_pos second]
    simp
  rw [Stack.key, List.findSome?_isSome_iff]
  exact ⟨.environment, visible, by rw [held]; exact there⟩

variable {α : Type} {sec : Section α} {encode : α → Value} {e : Environment} {a : α}

theorem follows (tidy : S.IsTidy) (said : ofEnvironment e = .ok (S .environment))
    (listed : (sec.name, sec.known) ∈ sections) (memberwise : IsMemberwise sec encode)
    (standard : ∃ b, sec.read [] = .ok b) (distinct : (sec.known.map lower).Nodup)
    (single : ∀ k ∈ sec.known, splitLevels [] k.toList = [k])
    (h : sectionIn sec (ownMembers e.normalized) S.merged = .ok (.ok a)) :
    Follows sec encode e S a := by
  obtain ⟨shown, own, reads, read⟩ := sectionIn_eq_ok h
  obtain ⟨b, hb⟩ := standard
  have first (key : String) :
      ((raws own (S.merged.find? sec.name)).find? key).map surface =
        ((S.key sec.name key).or (own.find? key)).map surface := by
    rw [find?_raws own (Stack.isDistinct_merged tidy sec.name), Option.map_or,
      Stack.inside?_merged tidy, ← Option.map_or]
  refine ⟨own, _, reads, read, first, fun members key => ?_,
    fun _ _ other => memberwise _ _ _ _ read other, b, hb, memberwise _ _ _ _ read hb⟩
  rw [first]
  -- what is read once more the variables have said before, and nothing hides them: where something
  -- else than a section is given directly, no settings are read
  cases twice : own.find? key with
  | none => rw [Option.or_none]
  | some v =>
    obtain ⟨value, told, vars⟩ := says_ofEnvironment said
    have there : own.contains key = true := by rw [Members.contains, twice]; rfl
    obtain ⟨inner, held, found⟩ :=
      contains_of_own distinct single (told.part _ listed) members reads there
    have cell : (S .environment).find? sec.name = some (.record inner) := by
      rw [vars, ← held]
      exact find?_of_member (List.mem_append_right _ (List.mem_map_of_mem listed))
    obtain ⟨x, hx⟩ := Option.isSome_iff_exists.1 (isSome_key tidy shown cell found)
    rw [hx, Option.some_or]

end Build

/-- How members and keys come from the layers that have them. -/
structure Stack.IsOrdered (S : Stack) : Prop where
  member : ∀ key, (S.merged.find? key).map surface =
    (Layer.order.findSome? fun l => (S l).find? key).map surface
  key : ∀ part key, (inside? (S.merged.find? part) key).map surface = (S.key part key).map surface
  /-- Where all layers make a section of it, no layer hides another one. -/
  all : ∀ part, (∀ l, yields ((S l).find? part) = true) → ∀ key,
    S.key part key = Layer.order.findSome? fun l => inside? ((S l).find? part) key
  undisturbed : ∀ l part key v other x, other ≠ key →
    (inside? (S.merged.find? part) other).map surface = some x →
      (inside? ((S.setting l part key v).merged.find? part) other).map surface = some x

theorem Stack.isOrdered {S : Stack} (tidy : S.IsTidy) : S.IsOrdered where
  member := surface_merged tidy
  key := inside?_merged tidy
  all part shown key := by
    have all : ∀ l ∈ Layer.order, S.shows part l = true := by
      intro l _
      cases l <;> simp [shows, shown]
    rw [Stack.key, visible, List.takeWhile_eq_self_iff.2 all]
  undisturbed l part key v _ _ ne := undisturbed l part key v tidy ne

/-- How settings come from their layers. -/
structure AreReadOf (e : Environment) (S : Stack) (s : Settings) : Prop where
  read : decodeFields (ownMembers e.normalized) S.merged = .ok (.ok s)
  unset : ∃ standard, decodeFields (fun _ _ => .ok []) [] = .ok (.ok standard) ∧
    ∀ key ∈ plainFields, (∀ l, (S l).find? key = none) →
      inside? (some s.encode) key = inside? (some standard.encode) key
  browser : Follows browserSection Browser.encode e S s.browser
  /-- The directories are placed after they are read. -/
  playbooks : ∃ p, s.playbooks = p.placedUnder s.projectRoot ∧
    Follows playbookSection Playbooks.encode e S p
  service : Follows serviceSection Service.encode e S s.service

theorem areReadOf {e : Environment} {S : Stack} {s : Settings} (tidy : S.IsTidy)
    (said : ofEnvironment e = .ok (S .environment))
    (h : decodeFields (ownMembers e.normalized) S.merged = .ok (.ok s)) : AreReadOf e S s := by
  obtain ⟨-, -, -, -, -, browser, ⟨p, playbooks, placed⟩, service⟩ := decodeFields_eq_ok h
  obtain ⟨standard, reads⟩ : ∃ b, decodeFields (fun _ _ => .ok []) [] = .ok (.ok b) := ⟨_, rfl⟩
  refine ⟨h, ⟨standard, reads, fun key mem absent => plain_memberwise h reads mem ?_⟩, ?_,
    ⟨p, placed, ?_⟩, ?_⟩
  · have nowhere : (Layer.order.findSome? fun l => (S l).find? key) = none :=
      List.findSome?_eq_none_iff.2 fun l _ => absent l
    have nothing := Stack.surface_merged tidy key
    rw [nowhere] at nothing
    exact Option.map_eq_none_iff.1 nothing
  · exact follows tidy said (by decide) memberwise_browser ⟨_, rfl⟩ (by decide) (by decide) browser
  · exact follows tidy said (by decide) memberwise_playbooks ⟨_, rfl⟩ (by decide) (by decide)
      playbooks
  · exact follows tidy said (by decide) memberwise_service ⟨_, rfl⟩ (by decide) (by decide) service

section Load

variable {layers : Members (Members Value)} {e : Environment} {vars direct : Members Value}

theorem load_eq_ok_iff (said : ofEnvironment e = .ok vars) {s : Settings} :
    load layers e direct = .ok s ↔ ∃ name, environmentName e (deepMembers vars direct) = .ok name ∧
      decodeFields (ownMembers e.normalized) (stackOf layers vars direct name).merged =
        .ok (.ok s) := by
  unfold load
  constructor
  · intro h
    obtain ⟨vars', said', h⟩ := bind_eq_ok h
    obtain rfl : vars = vars' := Except.ok.inj (said.symm.trans said')
    obtain ⟨name, named, h⟩ := bind_eq_ok h
    obtain ⟨d, decoded, h⟩ := bind_eq_ok h
    refine ⟨name, named, decoded.trans ?_⟩
    cases d with
    | ok t =>
      cases h
      rfl
    | invalid issues => cases h
  · rintro ⟨name, named, decoded⟩
    have read : decodeFields (ownMembers e.normalized)
        (mergedLayers layers name (deepMembers vars direct)) = .ok (.ok s) := decoded
    simp only [bind, Except.bind, said, named, read]
    rfl

theorem tidy_of_areProper {ms : Members Value} (h : ms.AreProper) : IsTidy ms where
  distinct := h.1
  inside _ _ held := (Value.isProper_record.1 (h.find? held)).1

theorem tidy_stackOf (files : ∀ name ms, layers.find? name = some ms → Members.AreProper ms)
    (proper : direct.AreProper) (said : ofEnvironment e = .ok vars) (name : String) :
    (stackOf layers vars direct name).IsTidy := by
  have file (n : String) : IsTidy ((layers.find? n).getD []) := by
    cases held : layers.find? n with
    | none => exact tidy_of_areProper Members.AreProper.nil
    | some ms => exact tidy_of_areProper (files n ms held)
  intro l
  cases l with
  | direct => exact tidy_of_areProper proper
  | environment => exact tidy_ofEnvironment said
  | _ => exact file _

/-- Settings follow their layers: the environment is named as said, members and keys come from the
highest layer that shows them, and what no layer has is as if nothing was given. -/
theorem settings_follow_their_layers
    (files : ∀ name ms, layers.find? name = some ms → Members.AreProper ms)
    (proper : direct.AreProper) (said : ofEnvironment e = .ok vars) :
    Names e direct (environmentName e (deepMembers vars direct)) ∧
    (∀ name, (stackOf layers vars direct name).IsOrdered) ∧
    ∀ s, load layers e direct = .ok s ↔
      ∃ name, environmentName e (deepMembers vars direct) = .ok name ∧
        AreReadOf e (stackOf layers vars direct name) s := by
  have tidy := tidy_stackOf files proper said
  refine ⟨names_environmentName (tidy_of_areProper proper) said,
    fun name => Stack.isOrdered (tidy name), fun s => ?_⟩
  rw [load_eq_ok_iff said]
  refine exists_congr fun name => and_congr_right fun _ => ⟨?_, AreReadOf.read⟩
  exact areReadOf (tidy name) said

/-- A local file that sets one key of a section, over the file of the environment that a variable
names. -/
theorem settings_follow_their_layers_dev :
    let layers : Members (Members Value) := [
      ("dev", [("browser", .record [("headless", .bool false), ("timeout_ms", .int 1)])]),
      ("local", [("browser", .record [("timeout_ms", .int 2)])])]
    let e : Environment := [("SENTINEL_ENV", "dev")]
    let S := stackOf layers [("env", .text "dev")] [("debug", .bool true)] "dev"
    (∀ name ms, layers.find? name = some ms → Members.AreProper ms) ∧
    Members.AreProper [("debug", .bool true)] ∧ ofEnvironment e = .ok [("env", .text "dev")] ∧
    S.IsOrdered ∧
    ∃ s, load layers e [("debug", .bool true)] = .ok s ∧ AreReadOf e S s := by
  intro layers e S
  have listed : ∀ file ∈ layers, (Value.record file.2).isProper = true := by decide
  have files : ∀ name ms, layers.find? name = some ms → Members.AreProper ms :=
    fun name ms held => Value.isProper_record.1 (listed _ (Members.mem_of_find? held))
  have proper : Members.AreProper [("debug", Value.bool true)] :=
    Value.isProper_record.1 (by decide)
  have said : ofEnvironment e = .ok [("env", .text "dev")] := by rfl
  have loads : (load layers e [("debug", .bool true)]).toOption.isSome = true := by
    decide +kernel
  obtain ⟨named, ordered, reads⟩ := settings_follow_their_layers files proper said
  refine ⟨files, proper, said, ordered "dev", ?_⟩
  cases h : load layers e [("debug", .bool true)] with
  | error fault =>
    rw [h] at loads
    cases loads
  | ok s =>
    obtain ⟨name, chosen, read⟩ := (reads s).1 h
    have dev : environmentName e (deepMembers [("env", .text "dev")] [("debug", .bool true)]) =
        .ok "dev" := by
      rfl
    obtain rfl : "dev" = name := Except.ok.inj (dev.symm.trans chosen)
    exact ⟨s, rfl, read⟩

/-- The highest layer that has a key of a section is not the one that counts when a layer above it
makes no section of what is one in others. -/
theorem hidden_by_what_is_no_section :
    let layers : Members (Members Value) := [
      ("default", [("browser", .record [("headless", .bool false)])]),
      ("dev", [("browser", .int 5)]),
      ("local", [("browser", .record [("timeout_ms", .int 1)])])]
    let e : Environment := [("SENTINEL_ENV", "dev")]
    let S := stackOf layers [("env", .text "dev")] [] "dev"
    ofEnvironment e = .ok [("env", .text "dev")] ∧
    (Layer.order.findSome? fun l => inside? ((S l).find? "browser") "headless") =
      some (.bool false) ∧
    (load layers e []).toOption.map (fun s => s.browser.headless) = some true := by
  intro layers e S
  exact ⟨rfl, rfl, by decide +kernel⟩

end Load

end Scout.Settings
