import Scout.Document.Action
import Scout.Filters

/-!
# Playbooks as documents

The document form of a playbook and of its parts, in either spelling of the members. Writing
always gives every member.
-/

namespace Scout

namespace Label

def field : Label := plain "field"
def attributeName : Label := plain "attribute"
def transform : Label := plain "transform"
def isRequired : Label := plain "required"
def defaultValue : Label := ⟨"defaultValue", "default_value"⟩
def continueOnError : Label := ⟨"continueOnError", "continue_on_error"⟩
def maxRetries : Label := ⟨"maxRetries", "max_retries"⟩
def retryDelay : Label := ⟨"retryDelay", "retry_delay"⟩
def screenshotOnError : Label := ⟨"screenshotOnError", "screenshot_on_error"⟩
def logLevel : Label := ⟨"logLevel", "log_level"⟩
def targetSite : Label := ⟨"targetSite", "target_site"⟩
def estimatedDuration : Label := ⟨"estimatedDuration", "estimated_duration"⟩
def complexity : Label := plain "complexity"
def lastTested : Label := ⟨"lastTested", "last_tested"⟩
def successRate : Label := ⟨"successRate", "success_rate"⟩
def usesBrowser : Label := ⟨"usesBrowser", "uses_browser"⟩
def requiresAuth : Label := ⟨"requiresAuth", "requires_auth"⟩
def minSuccessRate : Label := ⟨"minSuccessRate", "min_success_rate"⟩
def name : Label := plain "name"
def version : Label := plain "version"
def author : Label := plain "author"
def tags : Label := plain "tags"
def extractionRules : Label := ⟨"extractionRules", "extraction_rules"⟩
def errorHandling : Label := ⟨"errorHandling", "error_handling"⟩
def metadata : Label := plain "metadata"

end Label

def Value.ofMoment? : Option Moment → Value
  | some m => .text m.toText
  | none => .null

namespace ExtractionRule

def decodeFields (ms : Members Value) : Decoded ExtractionRule :=
  ExtractionRule.mk
    <$> Label.field.optional Decoder.text "" ms
    <*> Label.selector.optional Decoder.text "" ms
    <*> Label.attributeName.optional (Decoder.nullable Decoder.text) none ms
    <*> Label.transform.optional (Decoder.nullable Decoder.text) none ms
    <*> Label.isRequired.optional Decoder.bool false ms
    <*> Label.defaultValue.optional Decoder.any .null ms

def decode : Decoder ExtractionRule :=
  Decoder.model "ExtractionRule" decodeFields

def encode (sp : Spelling) (r : ExtractionRule) : Value :=
  .record [
    ("field", .text r.field),
    ("selector", .text r.selector),
    ("attribute", .ofText? r.attributeName),
    ("transform", .ofText? r.transform),
    ("required", .bool r.required),
    (sp.name Label.defaultValue, r.fallback)]

end ExtractionRule

namespace ErrorPolicy

def decodeFields (ms : Members Value) : Decoded ErrorPolicy :=
  ErrorPolicy.mk
    <$> Label.continueOnError.optional Decoder.bool false ms
    <*> Label.maxRetries.optional Decoder.integer 0 ms
    <*> Label.retryDelay.optional Decoder.integer 1000 ms
    <*> Label.screenshotOnError.optional Decoder.bool false ms
    <*> Label.logLevel.optional (Decoder.oneOf LogLevel.all LogLevel.word) .info ms

def decode : Decoder ErrorPolicy :=
  Decoder.model "ErrorHandlingConfig" decodeFields

def encode (sp : Spelling) (p : ErrorPolicy) : Value :=
  .record [
    (sp.name Label.continueOnError, .bool p.continueOnError),
    (sp.name Label.maxRetries, .int p.maxRetries),
    (sp.name Label.retryDelay, .int p.retryDelay),
    (sp.name Label.screenshotOnError, .bool p.screenshotOnError),
    (sp.name Label.logLevel, .text p.logLevel.word)]

end ErrorPolicy

namespace Metadata

def decodeFields (ms : Members Value) : Decoded Metadata :=
  Metadata.mk
    <$> Label.targetSite.optional Decoder.text "" ms
    <*> Label.estimatedDuration.optional Decoder.float 0.0 ms
    <*> Label.complexity.optional (Decoder.oneOf Complexity.all Complexity.word) .simple ms
    <*> Label.lastTested.optional (Decoder.nullable Decoder.moment) none ms
    <*> Label.successRate.optional Decoder.float 0.0 ms
    <*> Label.usesBrowser.optional Decoder.bool true ms
    <*> Label.requiresAuth.optional Decoder.bool false ms

def decode : Decoder Metadata :=
  Decoder.model "PlaybookMetadata" decodeFields

def encode (sp : Spelling) (m : Metadata) : Value :=
  .record [
    (sp.name Label.targetSite, .text m.targetSite),
    (sp.name Label.estimatedDuration, .float m.estimatedDuration),
    (sp.name Label.complexity, .text m.complexity.word),
    (sp.name Label.lastTested, .ofMoment? m.lastTested),
    (sp.name Label.successRate, .float m.successRate),
    (sp.name Label.usesBrowser, .bool m.usesBrowser),
    (sp.name Label.requiresAuth, .bool m.requiresAuth)]

end Metadata

namespace Playbook

def decodeFields (ms : Members Value) : Decoded Playbook :=
  Playbook.mk
    <$> Label.id.optional Decoder.text "" ms
    <*> Label.name.optional Decoder.text "" ms
    <*> Label.description.optional Decoder.text "" ms
    <*> Label.version.optional Decoder.text "" ms
    <*> Label.author.optional Decoder.text "" ms
    <*> Label.tags.optional (Decoder.list Decoder.text) [] ms
    <*> Label.vars.optional (Decoder.dictionary Decoder.any) [] ms
    <*> Label.program.optional Action.decodeList [] ms
    <*> Label.extractionRules.optional (Decoder.list ExtractionRule.decode) [] ms
    <*> Label.errorHandling.optional ErrorPolicy.decode ErrorPolicy.standard ms
    <*> Label.metadata.optional Metadata.decode Metadata.standard ms

def decode : Decoder Playbook :=
  Decoder.model "PlaybookDefinition" decodeFields

def encodeAs (sp : Spelling) (p : Playbook) : Value :=
  .record [
    ("id", .text p.id),
    ("name", .text p.name),
    ("description", .text p.description),
    ("version", .text p.version),
    ("author", .text p.author),
    ("tags", .texts p.tags),
    ("variables", .record p.vars),
    ("actions", .list (Action.encodeItems p.actions)),
    (sp.name Label.extractionRules, .list (p.rules.map (ExtractionRule.encode sp))),
    (sp.name Label.errorHandling, p.policy.encode sp),
    ("metadata", p.metadata.encode sp)]

/-- The form in which a playbook is kept and shown. -/
def encode (p : Playbook) : Value :=
  p.encodeAs .camel

end Playbook

namespace Filters

def decodeFields (ms : Members Value) : Decoded Filters :=
  Filters.mk
    <$> Label.tags.optional (Decoder.nullable (Decoder.list Decoder.text)) .none ms
    <*> Label.author.optional (Decoder.nullable Decoder.text) .none ms
    <*> Label.targetSite.optional (Decoder.nullable Decoder.text) .none ms
    <*> Label.complexity.optional
      (Decoder.nullable (Decoder.oneOf Complexity.all Complexity.word)) .none ms
    <*> Label.requiresAuth.optional (Decoder.nullable Decoder.bool) .none ms
    <*> Label.minSuccessRate.optional (Decoder.nullable Decoder.float) .none ms

def decode : Decoder Filters :=
  Decoder.model "PlaybookSearchFilters" decodeFields

def encode (f : Filters) : Value :=
  .record [
    ("tags", match f.tags with
      | some ts => .texts ts
      | .none => .null),
    ("author", .ofText? f.author),
    ("targetSite", .ofText? f.targetSite),
    ("complexity", .ofText? (f.complexity.map Complexity.word)),
    ("requiresAuth", match f.requiresAuth with
      | some b => .bool b
      | .none => .null),
    ("minSuccessRate", match f.minSuccessRate with
      | some x => .float x
      | .none => .null)]

end Filters

end Scout
