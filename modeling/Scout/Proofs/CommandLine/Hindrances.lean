import Scout.CommandLine.Perform
import Scout.Proofs.Library.Listing
import Scout.Proofs.Registry.Labels
import Scout.Proofs.Service.Agreement

/-!
# Requests that are kept from their record

A playbook is imported from a file or made from a template, and the record may not be had.  What is
told as a refusal the service answers with 404, and a command shows it and ends with status 1.  What
is not told goes through the registry, the service and the commands as the fault that it is.
-/

namespace Scout

open Library (Hindrance documentPath isTemplateName recordAt)

/-! ## The registry -/

namespace Registry

variable {d : Desk} {q : Request} {h : Hindrance} {e : Library.Fault} {path template id : String}
  {given : Members Value}

/-- Whether a request is kept by a hindrance from the record that it asks for, and the fault that
comes of it. -/
inductive Hindered (d : Desk) : Request → Hindrance → Library.Fault → Prop
  | importFrom {path : String} {h : Hindrance} (kept : recordAt d.files path = .error h) :
      Hindered d (.importFrom path) h (h.fault path (.fileNotRecord path))
  | fromTemplate {template id : String} {given : Members Value} {h : Hindrance}
      (accepted : isTemplateName template = true)
      (kept : recordAt d.files (documentPath d.registry.library.templates template) = .error h) :
      Hindered d (.fromTemplate template id given) h
        (h.fault (documentPath d.registry.library.templates template) (.templateNotRecord template))

theorem Hindered.told (hindered : Hindered d q h e) (told : h.isTold = true) :
    ∃ r, e = .refused r := by
  cases hindered with
  | importFrom kept => exact Hindrance.fault_of_isTold told
  | fromTemplate accepted kept => exact Hindrance.fault_of_isTold told

theorem Hindered.untold (hindered : Hindered d q h e) (untold : h.isTold = false) :
    (∃ f, h = .unreachable f ∧ f.cause ≠ .missing ∧ e = .file f) ∨
      ∃ f, h = .undecodable f ∧ e = .encoding f := by
  cases hindered with
  | importFrom kept => exact Hindrance.fault_of_not_isTold untold
  | fromTemplate accepted kept => exact Hindrance.fault_of_not_isTold untold

theorem Hindered.isRefusal (hindered : Hindered d q h e) :
    Fault.isRefusal (.library e) = h.isTold := by
  cases told : h.isTold with
  | true =>
    obtain ⟨r, rfl⟩ := hindered.told told
    rfl
  | false =>
    obtain ⟨f, -, -, rfl⟩ | ⟨f, -, rfl⟩ := hindered.untold told
    · rfl
    · rfl

theorem Hindered.finish_importFrom (hindered : Hindered d (.importFrom path) h e) :
    finish (Registry.importFrom path) d = (.error (.library e), d) := by
  cases hindered with
  | importFrom kept =>
    rw [Registry.finish_importFrom, Library.readDocument_eq _ _ (.fileNotRecord path)]
    unfold recordAt at kept
    cases hv : Library.valueAt d.files path with
    | error h' =>
      rw [hv] at kept
      cases kept
      rfl
    | ok v =>
      rw [hv] at kept
      cases v <;> cases kept <;> rfl

theorem Hindered.finish_fromTemplate (hindered : Hindered d (.fromTemplate template id given) h e) :
    finish (Registry.fromTemplate template id given) d = (.error (.library e), d) := by
  cases hindered with
  | fromTemplate accepted kept =>
    rw [Registry.finish_fromTemplate, Library.loadTemplate_eq accepted, kept]
    rfl

theorem finish_fromTemplate_refused (h : isTemplateName template = false) (id : String)
    (given : Members Value) (d : Desk) :
    finish (Registry.fromTemplate template id given) d =
      (.error (.library (.refused (.badTemplateName template))), d) := by
  rw [finish_fromTemplate, Library.loadTemplate_of_not_accepted h]

theorem Hindered.finish_act (hindered : Hindered d q h e) :
    finish q.act d = (.error (.library e), d) := by
  have kept := hindered
  cases hindered with
  | importFrom => rw [Request.act, finish_discard, kept.finish_importFrom]; rfl
  | fromTemplate => rw [Request.act, finish_discard, kept.finish_fromTemplate]; rfl

end Registry

open Registry (Desk Hindered)

/-! ## The service -/

theorem Registry.Hindered.finish_answer {d : Desk} {h : Hindrance} {e : Library.Fault}
    {r : Service.Request} {o : Service.TemplateOrder}
    (routed : Service.route r = .ok .fromTemplate)
    (ordered : Service.bodyOf Service.templateOrder r.body = .ok o)
    (hindered : Hindered d (.fromTemplate o.template o.id o.overrides) h e) :
    finish (Service.answer r) d =
      if h.isTold = true then (.ok (Service.detail 404 (.text e.message)), d)
      else (.error (.library e), d) := by
  rw [Service.finish_answer routed, Service.answerRoute, ordered, Service.fitting,
    Service.finish_replying, finish_bind, hindered.finish_fromTemplate]
  cases told : h.isTold with
  | true =>
    obtain ⟨refusal, rfl⟩ := hindered.told told
    rfl
  | false =>
    obtain ⟨f, -, -, rfl⟩ | ⟨f, -, rfl⟩ := hindered.untold told
    · rfl
    · rfl

/-! ## Commands -/

namespace CommandLine

open Console (Markup.Fault layOut)

variable {s : Settings} {t t' : Terminal} {r : Registry} {h : Hindrance} {e : Library.Fault}
  {path template id : String}

def shownText (s : String) : Except Markup.Fault String :=
  ((Console.Markup.plain s).map (layOut Act.consoleWidth .natural .fold)).map fun lines =>
    String.join (lines.map fun line => String.ofList (line ++ ['\n']))

/-- How a command ends that shows texts and then has not succeeded.  A text whose tags do not fit
together breaks it off. -/
def closing : List String → Terminal → Except Stop Unit × Terminal
  | [], t => (.error (.status 1), t)
  | s :: rest, t =>
    match shownText s with
    | .ok text => closing rest { t with shown := t.shown ++ text }
    | .error e => (.error (.fault (.markup e)), t)

theorem finish_say (s : String) (t : Terminal) :
    finish (Act.say s) t = match shownText s with
      | .ok text => (.ok (), { t with shown := t.shown ++ text })
      | .error e => (.error (.fault (.markup e)), t) := by
  unfold Act.say Act.showLines shownText
  cases Console.Markup.plain s <;> rfl

theorem finish_say_closing (s : String) {rest : List String} {next : Act Unit}
    (ends : ∀ t', t'.files = t.files → finish next t' = closing rest t') :
    finish (do Act.say s; next) t = closing (s :: rest) t := by
  rw [finish_bind, finish_say]
  unfold closing
  cases shownText s with
  | error e => rfl
  | ok text => exact ends { t with shown := t.shown ++ text } rfl

theorem finish_say_fail (s : String) (t : Terminal) :
    finish (do Act.say s; Act.fail : Act Unit) t = closing [s] t :=
  finish_say_closing s fun _ _ => rfl

theorem finish_attempt {α : Type} (r : Registry) (x : Registry.Act α) (t : Terminal) :
    finish (Act.attempt r x) t =
      (.ok ((finish x ⟨r, t.files⟩).1, (finish x ⟨r, t.files⟩).2.registry),
        { t with files := (finish x ⟨r, t.files⟩).2.files }) := rfl

theorem library_of_openRegistry (opened : finish (Act.openRegistry s) t = (.ok r, t')) :
    r.library = (Registry.ofSettings s).library := by
  have kept := Registry.library_load ⟨Registry.ofSettings s, t.files⟩
  unfold Act.openRegistry at opened
  rw [finish_bind, finish_attempt] at opened
  rcases loaded : finish Registry.load ⟨Registry.ofSettings s, t.files⟩ with ⟨e | a, d⟩
  · rw [loaded] at opened
    cases opened
  · rw [loaded] at opened kept
    cases opened
    exact kept

/-- Importing a file that is not had: what is told is shown, and the status is 1. -/
theorem finish_importFrom_hindered (opened : finish (Act.openRegistry s) t = (.ok r, t'))
    (hindered : Hindered ⟨r, t'.files⟩ (.importFrom (Files.normal path)) h e) :
    finish (importFrom s path) t =
      if h.isTold = true then closing [bad "✗ Import failed:" ++ " " ++ e.message] t'
      else (.error (.fault (.registry (.library e))), t') := by
  unfold importFrom
  rw [finish_bind_ok opened, finish_bind, finish_attempt, hindered.finish_importFrom]
  dsimp only
  rw [hindered.isRefusal]
  by_cases told : h.isTold = true
  · rw [if_pos told, if_pos told, sayRefusal]
    exact finish_say_fail _ t'
  · rw [if_neg told, if_neg told]
    rfl

/-- The lines after a refused template: the names of the templates, if there are any. -/
def choices (names : List String) : List String :=
  if names.isEmpty then [] else ["  Templates: " ++ commaList names]

theorem finish_sayChoices_fail (names : List String) (t : Terminal) :
    finish (do sayChoices "Templates" names; Act.fail : Act Unit) t =
      closing (choices names) t := by
  unfold sayChoices choices
  by_cases empty : names.isEmpty = true
  · rw [if_pos empty, if_pos empty]
    rfl
  · rw [if_neg empty, if_neg empty]
    exact finish_say_fail _ t

/-- Making a playbook of a template that is not had: what is told is shown with the names of the
templates, and the status is 1. -/
theorem finish_fromTemplate_hindered (opened : finish (Act.openRegistry s) t = (.ok r, t'))
    (hindered : Hindered ⟨r, t'.files⟩ (.fromTemplate template id []) h e) :
    (h.isTold = true → ∃ names, r.library.templateNames t'.files = .ok names ∧
      finish (fromTemplate s template id) t =
        closing ((cross ++ " " ++ e.message) :: choices names) t') ∧
    (h.isTold = false →
      finish (fromTemplate s template id) t = (.error (.fault (.registry (.library e))), t')) := by
  unfold fromTemplate
  rw [finish_bind_ok opened, finish_bind, finish_attempt, hindered.finish_fromTemplate]
  dsimp only
  rw [hindered.isRefusal]
  refine ⟨fun told => ?_, fun untold => by rw [untold]; rfl⟩
  have normal : r.library.IsNormal := by
    rw [library_of_openRegistry opened]
    exact Registry.isNormal_ofSettings s
  have named : ∃ names, r.library.templateNames t'.files = .ok names := by
    cases hindered with
    | fromTemplate accepted kept => exact Library.exists_templateNames normal accepted kept told
  obtain ⟨names, found⟩ := named
  refine ⟨names, found, ?_⟩
  rw [if_pos told]
  apply finish_say_closing
  intro after sameFiles
  rw [finish_bind_ok (finish_get after), sameFiles, found]
  exact finish_sayChoices_fail names after

end CommandLine

/-! ## Every outlet -/

/-- Importing a file and making a playbook from a template are refused when the file is missing
or its text is no document or the document no record, and when the name of the template is not
accepted.  The service answers that with 404; a command shows it and has status 1.  Whatever
else keeps the record from being read comes out as a fault of the file system or of the text.
In no case does anything change. -/
theorem hindered_requests (h : Hindrance) (e : Library.Fault) :
    (∀ (d : Desk) (q : Registry.Request), Hindered d q h e →
      finish q.act d = (.error (.library e), d) ∧
      (h.isTold = true → ∃ r, e = .refused r) ∧
      (h.isTold = false →
        (∃ f, h = .unreachable f ∧ f.cause ≠ .missing ∧ e = .file f) ∨
          ∃ f, h = .undecodable f ∧ e = .encoding f)) ∧
    (∀ (d : Desk) (template id : String) (given : Members Value), isTemplateName template = false →
      finish (Registry.fromTemplate template id given) d =
        (.error (.library (.refused (.badTemplateName template))), d)) ∧
    (∀ (d : Desk) (r : Service.Request) (o : Service.TemplateOrder),
      Service.route r = .ok .fromTemplate →
      Service.bodyOf Service.templateOrder r.body = .ok o →
      Hindered d (.fromTemplate o.template o.id o.overrides) h e →
      finish (Service.answer r) d =
        if h.isTold = true then (.ok (Service.detail 404 (.text e.message)), d)
        else (.error (.library e), d)) ∧
    ∀ (s : Settings) (t t' : CommandLine.Terminal) (r : Registry),
      finish (CommandLine.Act.openRegistry s) t = (.ok r, t') →
      (∀ path, Hindered ⟨r, t'.files⟩ (.importFrom (Files.normal path)) h e →
        finish (CommandLine.importFrom s path) t =
          if h.isTold = true then
            CommandLine.closing [CommandLine.bad "✗ Import failed:" ++ " " ++ e.message] t'
          else (.error (.fault (.registry (.library e))), t')) ∧
      ∀ template id, Hindered ⟨r, t'.files⟩ (.fromTemplate template id []) h e →
        (h.isTold = true → ∃ names, r.library.templateNames t'.files = .ok names ∧
          finish (CommandLine.fromTemplate s template id) t =
            CommandLine.closing
              ((CommandLine.cross ++ " " ++ e.message) :: CommandLine.choices names) t') ∧
        (h.isTold = false → finish (CommandLine.fromTemplate s template id) t =
          (.error (.fault (.registry (.library e))), t')) := by
  refine ⟨fun d q hindered => ?_, fun d template id given refused => ?_,
    fun d r o routed ordered hindered => ?_, fun s t t' r opened => ⟨?_, ?_⟩⟩
  · exact ⟨hindered.finish_act, hindered.told, hindered.untold⟩
  · exact Registry.finish_fromTemplate_refused refused id given d
  · exact hindered.finish_answer routed ordered
  · exact fun path hindered => CommandLine.finish_importFrom_hindered opened hindered
  · exact fun template id hindered => CommandLine.finish_fromTemplate_hindered opened hindered

/-! ## Directories in the place of files -/

/-- A home in which directories have the names of a template and of a file to import. -/
def cluttered : Files.Tree :=
  let home := ["srv", "home"]
  ((Files.Tree.empty.put (home ++ ["templates"]) .directory).put
    (home ++ ["templates", "board.json"]) .directory).put (home ++ ["inbox"]) .directory

def clutteredDesk : Desk :=
  ⟨.fresh Library.homely .standard 8, cluttered⟩

theorem hindered_inbox :
    Hindered clutteredDesk (.importFrom "inbox") (.unreachable ⟨.isDirectory, "inbox"⟩)
      (.file ⟨.isDirectory, "inbox"⟩) := by
  have content : cluttered.content "inbox" = .error ⟨.isDirectory, "inbox"⟩ := by decide +kernel
  have kept : recordAt clutteredDesk.files "inbox" =
      .error (.unreachable ⟨.isDirectory, "inbox"⟩) := by
    rw [recordAt, Library.valueAt, clutteredDesk, content]
    rfl
  exact .importFrom kept

/-- An order for a playbook from the template that is a directory. -/
def ordering : Service.Request :=
  ⟨"POST", ⟨"/playbooks/from-template", []⟩,
    some (.record [("template", .text "board"), ("id", .text "b")])⟩

theorem hindered_board :
    Hindered clutteredDesk (.fromTemplate "board" "b" [])
      (.unreachable ⟨.isDirectory, "templates/board.json"⟩)
      (.file ⟨.isDirectory, "templates/board.json"⟩) := by
  have content : cluttered.content "templates/board.json" =
      .error ⟨.isDirectory, "templates/board.json"⟩ := by decide +kernel
  have place : documentPath Library.homely.templates "board" = "templates/board.json" := by
    decide +kernel
  have kept : recordAt clutteredDesk.files
      (documentPath clutteredDesk.registry.library.templates "board") =
        .error (.unreachable ⟨.isDirectory, "templates/board.json"⟩) := by
    have library : clutteredDesk.registry.library = Library.homely := rfl
    rw [library, place, recordAt, Library.valueAt, clutteredDesk, content]
    rfl
  exact .fromTemplate (by decide) kept

def homeSettings : Settings where
  environment := "local"
  projectRoot := "."
  debug := false
  logLevel := "INFO"
  logFormat := "text"
  browser := ⟨true, 30000, ""⟩
  playbooks := ⟨"definitions", "templates", "history", "shots", 30000, 10000, 8, 0.0⟩
  service := ⟨"localhost", 8000, []⟩

def clutteredTerminal : CommandLine.Terminal :=
  ⟨cluttered, "", [], none⟩

/-- The registry opens on the home, and the file to import is a directory then too. -/
theorem opened_cluttered :
    ∃ r t', finish (CommandLine.Act.openRegistry homeSettings) clutteredTerminal = (.ok r, t') ∧
      Hindered ⟨r, t'.files⟩ (.importFrom (Files.normal "inbox"))
        (.unreachable ⟨.isDirectory, "inbox"⟩) (.file ⟨.isDirectory, "inbox"⟩) := by
  have opens :
      (finish (CommandLine.Act.openRegistry homeSettings) clutteredTerminal).1.isOk = true := by
    decide +kernel
  have content :
      (finish (CommandLine.Act.openRegistry homeSettings) clutteredTerminal).2.files.content
      "inbox" = .error ⟨.isDirectory, "inbox"⟩ := by decide +kernel
  have short : Files.normal "inbox" = "inbox" := by decide +kernel
  rcases opened : finish (CommandLine.Act.openRegistry homeSettings) clutteredTerminal with
    ⟨e | r, t'⟩
  · rw [opened] at opens
    cases opens
  · rw [opened] at content
    have kept : recordAt t'.files "inbox" = .error (.unreachable ⟨.isDirectory, "inbox"⟩) := by
      rw [recordAt, Library.valueAt, content]
      rfl
    rw [short]
    exact ⟨r, t', rfl, .importFrom kept⟩

theorem hindered_requests_directories :
    finish (Registry.Request.importFrom "inbox").act clutteredDesk =
        (.error (.library (.file ⟨.isDirectory, "inbox"⟩)), clutteredDesk) ∧
      finish (Service.answer ordering) clutteredDesk =
        (.error (.library (.file ⟨.isDirectory, "templates/board.json"⟩)), clutteredDesk) ∧
      ∃ t', finish (CommandLine.importFrom homeSettings "inbox") clutteredTerminal =
        (.error (.fault (.registry (.library (.file ⟨.isDirectory, "inbox"⟩)))), t') := by
  have ⟨registry, _, _, commands⟩ := hindered_requests (.unreachable ⟨.isDirectory, "inbox"⟩)
    (.file ⟨.isDirectory, "inbox"⟩)
  have ⟨_, _, service, _⟩ := hindered_requests
    (.unreachable ⟨.isDirectory, "templates/board.json"⟩)
    (.file ⟨.isDirectory, "templates/board.json"⟩)
  refine ⟨(registry _ _ hindered_inbox).1, ?_, ?_⟩
  · exact service clutteredDesk ordering ⟨"board", "b", []⟩ (by decide +kernel) (by rfl)
      hindered_board
  · obtain ⟨r, t', opened, hindered⟩ := opened_cluttered
    exact ⟨t', (commands _ _ _ _ opened).1 "inbox" hindered⟩

/-- Not every request that is kept from its record is refused. -/
theorem directory_escapes :
    ¬ ∀ (d : Desk) (q : Registry.Request) (h : Hindrance) (e : Library.Fault), Hindered d q h e →
      ∃ r, finish q.act d = (.error (.library (.refused r)), d) := by
  intro claim
  obtain ⟨r, refused⟩ := claim _ _ _ _ hindered_inbox
  cases refused.symm.trans hindered_inbox.finish_act

end Scout
