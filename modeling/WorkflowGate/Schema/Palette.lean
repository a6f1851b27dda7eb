/-
# The built-in palette

The node kinds that the editor ships with, in palette order: triggers, control flow, transforms,
language models, integrations and sub-workflows.
-/
import WorkflowGate.Schema.Basic

namespace WorkflowGate.Palette

/-- The outputs of an ordinary node. -/
def mainOutput : List Text := ["output-0"]

/-- The inputs of an ordinary node. -/
def mainInput : List Text := ["input-0"]

/-- The kinds whose runs are billed by call. -/
def llmKinds : List Text := ["openai", "gemini", "ollama"]

/-- An optional field. -/
def field (id label : String) (valueKind : ValueKind := .text) : FieldSpec :=
  { id := id, label := label, valueKind := valueKind }

/-- A required field. -/
def requiredField (id label : String) (valueKind : ValueKind := .text) : FieldSpec :=
  { id := id, label := label, valueKind := valueKind, required := true }

/-- The required reference to a credential. -/
def credential : FieldSpec := requiredField "credential" "Credential" .credential

/-- A trigger: it has no inputs. -/
def trigger (kind displayName : String) (fields : List FieldSpec) : KindSchema :=
  { kind := kind, displayName := displayName, category := .trigger, fields := fields,
    inputs := some [], outputs := some mainOutput }

/-- A node with inputs and outputs. -/
def node (kind displayName : String) (category : KindCategory) (fields : List FieldSpec)
    (inputs : List Text := mainInput) (outputs : List Text := mainOutput) : KindSchema :=
  { kind := kind, displayName := displayName, category := category, fields := fields,
    inputs := some inputs, outputs := some outputs }

/-- A language model, with the fields that all of them share and those of its own. -/
def languageModel (kind displayName : String) (own : List FieldSpec) : KindSchema :=
  node kind displayName .llm
    ([field "model" "Model" .select,
      requiredField "prompt" "Prompt" .textarea,
      { id := "temperature", label := "Temperature", valueKind := .number,
        minimum := some (.ofRatio false 0 1), maximum := some (.ofRatio false 2 1),
        description := "0-2, higher = more creative" },
      field "max_tokens" "Max Tokens" .number] ++ own)

/-- Kinds that start a run. -/
def triggers : List KindSchema :=
  [trigger "manual_trigger" "Manual Trigger" [field "name" "Trigger Name"],
   trigger "webhook_trigger" "Webhook"
     [field "http_method" "HTTP Method" .select, field "path" "Path"],
   trigger "schedule_trigger" "Schedule"
     [requiredField "cron_expression" "Cron Expression" .cron, field "timezone" "Timezone"],
   trigger "email_trigger" "Email Received" [credential],
   trigger "form_trigger" "Form Submission" [field "form_title" "Form Title"],
   trigger "slack_trigger" "Slack Event" [credential],
   trigger "google_sheets_trigger" "Google Sheets Change"
     [credential, requiredField "spreadsheet_id" "Spreadsheet ID"],
   trigger "github_trigger" "GitHub Event" [credential],
   trigger "discord_trigger" "Discord Message" [credential],
   trigger "telegram_trigger" "Telegram Message" [credential],
   trigger "rss_feed_trigger" "RSS Feed" [requiredField "feed_url" "Feed URL" .url]]

/-- Kinds that choose where a run goes on. -/
def controlFlow : List KindSchema :=
  [node "if" "IF" .controlFlow [field "condition" "Condition" .code] mainInput ["true", "false"],
   node "switch" "Switch" .controlFlow
     [field "data_property" "Property to Route On", field "cases" "Cases" .json] mainInput
     ["case", "default"],
   node "loop" "Loop Over Items" .controlFlow [field "batch_size" "Batch Size" .number] mainInput
     ["loop", "done"]]

/-- Kinds that work on data. -/
def transforms : List KindSchema :=
  [node "http_request" "HTTP Request" .transform
     [field "method" "Method" .select, requiredField "url" "URL" .url,
      field "headers" "Headers" .json, field "body" "Body" .json,
      field "timeout_seconds" "Timeout (s)" .number],
   node "code" "Code" .transform
     [field "language" "Language" .select, requiredField "code" "Code" .code],
   node "set" "Set Fields" .transform
     [field "values" "Values" .json, field "keep_only_set" "Keep Only Set" .boolean],
   node "merge" "Merge" .transform [field "mode" "Mode" .select] ["input-0", "input-1"],
   node "delay" "Wait" .transform [requiredField "seconds" "Seconds" .number]]

/-- Kinds that ask a language model. -/
def languageModels : List KindSchema :=
  [languageModel "openai" "OpenAI" [credential],
   languageModel "gemini" "Gemini" [credential],
   languageModel "ollama" "Ollama" [field "base_url" "Base URL" .url]]

/-- Kinds that reach another service, or another workflow. -/
def integrations : List KindSchema :=
  [node "slack" "Slack" .integration
     [credential, requiredField "channel" "Channel", field "text" "Message" .textarea],
   node "gmail" "Gmail" .integration
     [credential, requiredField "to" "To", field "subject" "Subject",
      field "body" "Body" .textarea],
   node "google_sheets" "Google Sheets" .integration
     [credential, requiredField "spreadsheet_id" "Spreadsheet ID",
      field "sheet_name" "Sheet Name", field "range" "Range"],
   node "subworkflow" "Execute Workflow" .subworkflow
     [requiredField "workflow_id" "Workflow", field "input_mapping" "Input Mapping" .json,
      field "output_mapping" "Output Mapping" .json]]

/-- The whole palette. -/
def schemas : List KindSchema :=
  triggers ++ controlFlow ++ transforms ++ languageModels ++ integrations

end WorkflowGate.Palette
