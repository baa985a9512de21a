import Scout.Document.Playbook
import Scout.Report

/-!
# Reports, history and statistics as documents
-/

namespace Scout

namespace Label

def textContent : Label := ⟨"textContent", "text_content"⟩
def innerHtml : Label := ⟨"innerHTML", "inner_html"⟩
def attributes : Label := plain "attributes"
def actionId : Label := ⟨"actionId", "action_id"⟩
def success : Label := plain "success"
def duration : Label := plain "duration"
def attempts : Label := plain "attempts"
def skipped : Label := plain "skipped"
def error : Label := plain "error"
def extractedData : Label := ⟨"extractedData", "extracted_data"⟩
def screenshot : Label := plain "screenshot"
def errors : Label := plain "errors"
def warnings : Label := plain "warnings"
def screenshots : Label := plain "screenshots"
def executionTime : Label := ⟨"executionTime", "execution_time"⟩
def actionsExecuted : Label := ⟨"actionsExecuted", "actions_executed"⟩
def actionResults : Label := ⟨"actionResults", "action_results"⟩
def playbookId : Label := ⟨"playbookId", "playbook_id"⟩
def playbookName : Label := ⟨"playbookName", "playbook_name"⟩
def extractedAt : Label := ⟨"extractedAt", "extracted_at"⟩
def sourceUrl : Label := ⟨"sourceUrl", "source_url"⟩
def title : Label := plain "title"
def url : Label := plain "url"
def organization : Label := plain "organization"
def deadline : Label := plain "deadline"
def location : Label := plain "location"
def amount : Label := plain "amount"
def sourceType : Label := ⟨"sourceType", "source_type"⟩
def status : Label := plain "status"
def processed : Label := plain "processed"
def applied : Label := plain "applied"
def starred : Label := plain "starred"
def sourceMetadata : Label := ⟨"sourceMetadata", "source_metadata"⟩
def isValid : Label := ⟨"isValid", "is_valid"⟩
def executedAt : Label := ⟨"executedAt", "executed_at"⟩
def opportunitiesFound : Label := ⟨"opportunitiesFound", "opportunities_found"⟩
def totalExecutions : Label := ⟨"totalExecutions", "total_executions"⟩
def successfulExecutions : Label := ⟨"successfulExecutions", "successful_executions"⟩
def failedExecutions : Label := ⟨"failedExecutions", "failed_executions"⟩
def averageExecutionTime : Label := ⟨"averageExecutionTime", "average_execution_time"⟩
def averageOpportunitiesFound : Label :=
  ⟨"averageOpportunitiesFound", "average_opportunities_found"⟩
def lastExecuted : Label := ⟨"lastExecuted", "last_executed"⟩

end Label

namespace Decoder

def texts : Decoder (List String) := list text

def moments : Decoder (Option Moment) := nullable moment

end Decoder

namespace Snapshot

def decodeFields (ms : Members Value) : Decoded Snapshot :=
  Snapshot.mk
    <$> Label.textContent.optional Decoder.text "" ms
    <*> Label.innerHtml.optional Decoder.text "" ms
    <*> Label.attributes.optional (Decoder.dictionary Decoder.text) [] ms

def decode : Decoder Snapshot :=
  Decoder.model "ElementSnapshot" decodeFields

def encode (s : Snapshot) : Value :=
  .record [
    ("textContent", .text s.text),
    ("innerHTML", .text s.markup),
    ("attributes", .record (s.attributes.mapValues .text))]

end Snapshot

namespace ActionResult

def decodeFields (ms : Members Value) : Decoded ActionResult :=
  ActionResult.mk
    <$> Label.actionId.required Decoder.text ms
    <*> Label.success.required Decoder.bool ms
    <*> Label.duration.optional Decoder.float 0.0 ms
    <*> Label.attempts.optional Decoder.integer 1 ms
    <*> Label.skipped.optional Decoder.bool false ms
    <*> Label.error.optional (Decoder.nullable Decoder.text) none ms
    <*> Label.extractedData.optional Decoder.any .null ms
    <*> Label.screenshot.optional (Decoder.nullable Decoder.text) none ms

def decode : Decoder ActionResult :=
  Decoder.model "ActionResult" decodeFields

def encode (r : ActionResult) : Value :=
  .record [
    ("actionId", .text r.actionId),
    ("success", .bool r.success),
    ("duration", .float r.duration),
    ("attempts", .int r.attempts),
    ("skipped", .bool r.skipped),
    ("error", .ofText? r.error),
    ("extractedData", r.extracted),
    ("screenshot", .ofText? r.screenshot)]

end ActionResult

namespace RunContext

def decodeFields (ms : Members Value) : Decoded RunContext :=
  RunContext.mk
    <$> Label.vars.optional (Decoder.dictionary Decoder.any) [] ms
    <*> Label.extractedData.optional (Decoder.dictionary Decoder.any) [] ms
    <*> Label.errors.optional Decoder.texts [] ms
    <*> Label.warnings.optional Decoder.texts [] ms
    <*> Label.screenshots.optional Decoder.texts [] ms
    <*> Label.executionTime.optional Decoder.float 0.0 ms
    <*> Label.actionsExecuted.optional Decoder.integer 0 ms
    <*> Label.actionResults.optional (Decoder.list ActionResult.decode) [] ms

def decode : Decoder RunContext :=
  Decoder.model "ExecutionContext" decodeFields

def encode (c : RunContext) : Value :=
  .record [
    ("variables", .record c.vars),
    ("extractedData", .record c.extracted),
    ("errors", .texts c.errors),
    ("warnings", .texts c.warnings),
    ("screenshots", .texts c.screenshots),
    ("executionTime", .float c.executionTime),
    ("actionsExecuted", .int c.actionsExecuted),
    ("actionResults", .list (c.results.map ActionResult.encode))]

end RunContext

namespace Provenance

/-- The moment of reading stands in where none is given. -/
def decodeFields (now : Moment) (ms : Members Value) : Decoded Provenance :=
  Provenance.mk
    <$> Label.playbookId.required Decoder.text ms
    <*> Label.playbookName.required Decoder.text ms
    <*> Label.extractedAt.optional Decoder.moment now ms
    <*> Label.sourceUrl.optional (Decoder.nullable Decoder.text) none ms

def decode (now : Moment) : Decoder Provenance :=
  Decoder.model "SourceMetadata" (decodeFields now)

def encode (p : Provenance) : Value :=
  .record [
    ("playbookId", .text p.playbookId),
    ("playbookName", .text p.playbookName),
    ("extractedAt", .text p.extractedAt.toText),
    ("sourceUrl", .ofText? p.sourceUrl)]

end Provenance

namespace Opportunity

def decodeFields (now : Moment) (ms : Members Value) : Decoded Opportunity :=
  Opportunity.mk
    <$> Label.title.required Decoder.text ms
    <*> Label.url.required Decoder.text ms
    <*> Label.description.optional Decoder.text "" ms
    <*> Label.organization.optional Decoder.text "" ms
    <*> Label.deadline.optional Decoder.moments none ms
    <*> Label.location.optional Decoder.text "" ms
    <*> Label.amount.optional Decoder.text "" ms
    <*> Label.tags.optional Decoder.texts [] ms
    <*> Label.sourceType.optional Decoder.text "websearch" ms
    <*> Label.status.optional Decoder.text "new" ms
    <*> Label.processed.optional Decoder.bool false ms
    <*> Label.applied.optional Decoder.bool false ms
    <*> Label.starred.optional Decoder.bool false ms
    <*> Label.sourceMetadata.required (Provenance.decode now) ms

def decode (now : Moment) : Decoder Opportunity :=
  Decoder.model "Opportunity" (decodeFields now)

def encode (o : Opportunity) : Value :=
  .record [
    ("title", .text o.title),
    ("url", .text o.url),
    ("description", .text o.description),
    ("organization", .text o.organization),
    ("deadline", .ofMoment? o.deadline),
    ("location", .text o.location),
    ("amount", .text o.amount),
    ("tags", .texts o.tags),
    ("sourceType", .text o.sourceType),
    ("status", .text o.status),
    ("processed", .bool o.processed),
    ("applied", .bool o.applied),
    ("starred", .bool o.starred),
    ("sourceMetadata", o.source.encode)]

end Opportunity

def RunReport.encode (r : RunReport) : Value :=
  .record [
    ("success", .bool r.success),
    ("opportunities", .list (r.opportunities.map Opportunity.encode)),
    ("context", r.context.encode),
    ("executionTime", .float r.executionTime),
    ("errors", .texts r.errors),
    ("warnings", .texts r.warnings)]

namespace CheckReport

def decodeFields (ms : Members Value) : Decoded CheckReport :=
  CheckReport.mk
    <$> Label.isValid.required Decoder.bool ms
    <*> Label.errors.optional Decoder.texts [] ms
    <*> Label.warnings.optional Decoder.texts [] ms

def decode : Decoder CheckReport :=
  Decoder.model "ValidationResult" decodeFields

def encode (r : CheckReport) : Value :=
  .record [
    ("isValid", .bool r.isValid),
    ("errors", .texts r.errors),
    ("warnings", .texts r.warnings)]

end CheckReport

namespace HistoryEntry

def decodeFields (ms : Members Value) : Decoded HistoryEntry :=
  HistoryEntry.mk
    <$> Label.id.required Decoder.text ms
    <*> Label.playbookId.required Decoder.text ms
    <*> Label.executedAt.required Decoder.moment ms
    <*> Label.success.required Decoder.bool ms
    <*> Label.opportunitiesFound.optional Decoder.integer 0 ms
    <*> Label.executionTime.optional Decoder.float 0.0 ms
    <*> Label.errors.optional Decoder.texts [] ms
    <*> Label.warnings.optional Decoder.texts [] ms
    <*> Label.vars.optional (Decoder.dictionary Decoder.any) [] ms

def decode : Decoder HistoryEntry :=
  Decoder.model "PlaybookExecutionHistory" decodeFields

def encodeAs (sp : Spelling) (e : HistoryEntry) : Value :=
  .record [
    ("id", .text e.id),
    (sp.name Label.playbookId, .text e.playbookId),
    (sp.name Label.executedAt, .text e.executedAt.toText),
    ("success", .bool e.success),
    (sp.name Label.opportunitiesFound, .int e.opportunitiesFound),
    (sp.name Label.executionTime, .float e.executionTime),
    ("errors", .texts e.errors),
    ("warnings", .texts e.warnings),
    ("variables", .record e.vars)]

/-- The form in which an execution is kept. -/
def encode (e : HistoryEntry) : Value :=
  e.encodeAs .camel

end HistoryEntry

namespace Stats

def decodeFields (ms : Members Value) : Decoded Stats :=
  Stats.mk
    <$> Label.id.required Decoder.text ms
    <*> Label.name.optional Decoder.text "" ms
    <*> Label.totalExecutions.optional Decoder.integer 0 ms
    <*> Label.successfulExecutions.optional Decoder.integer 0 ms
    <*> Label.failedExecutions.optional Decoder.integer 0 ms
    <*> Label.averageExecutionTime.optional Decoder.float 0.0 ms
    <*> Label.averageOpportunitiesFound.optional Decoder.float 0.0 ms
    <*> Label.lastExecuted.optional Decoder.moments none ms
    <*> Label.successRate.optional Decoder.float 0.0 ms

def decode : Decoder Stats :=
  Decoder.model "PlaybookStats" decodeFields

def encode (s : Stats) : Value :=
  .record [
    ("id", .text s.id),
    ("name", .text s.name),
    ("totalExecutions", .int s.total),
    ("successfulExecutions", .int s.successful),
    ("failedExecutions", .int s.failed),
    ("averageExecutionTime", .float s.averageTime),
    ("averageOpportunitiesFound", .float s.averageFound),
    ("lastExecuted", .ofMoment? s.lastExecuted),
    ("successRate", .float s.successRate)]

end Stats

end Scout
