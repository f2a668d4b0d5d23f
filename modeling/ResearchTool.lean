import ResearchTool.Absorption
import ResearchTool.Agreement
import ResearchTool.Attempts
import ResearchTool.Authorship
import ResearchTool.CacheHits
import ResearchTool.Canonical
import ResearchTool.Coherence
import ResearchTool.CommitChart
import ResearchTool.Commitment
import ResearchTool.Company
import ResearchTool.Compensation
import ResearchTool.ContextSanitizer
import ResearchTool.Crud
import ResearchTool.Custody
import ResearchTool.Dashboard
import ResearchTool.Deliveries
import ResearchTool.EcmaScript.Date
import ResearchTool.EcmaScript.EventLoop
import ResearchTool.Effects
import ResearchTool.Encoding
import ResearchTool.ErrorMarks
import ResearchTool.Errors
import ResearchTool.Finality
import ResearchTool.GitHubAdapter
import ResearchTool.Html.Markup
import ResearchTool.Html.Tokenizer
import ResearchTool.InstantData
import ResearchTool.Interference
import ResearchTool.Isolation
import ResearchTool.JobView
import ResearchTool.Journal
import ResearchTool.Labels
import ResearchTool.LlmAdapter
import ResearchTool.Log
import ResearchTool.LogSurvival
import ResearchTool.Loguru.Expansion
import ResearchTool.Loguru.Markup
import ResearchTool.Losses
import ResearchTool.Markdown.Document
import ResearchTool.Naming
import ResearchTool.Operations
import ResearchTool.Orchestration
import ResearchTool.PageMarkup
import ResearchTool.Pipeline
import ResearchTool.Polling
import ResearchTool.Process.Leases
import ResearchTool.Process.Logic
import ResearchTool.Process.Program
import ResearchTool.Process.Renaming
import ResearchTool.Process.Run
import ResearchTool.Process.Sequential
import ResearchTool.Process.Unwinding
import ResearchTool.PromptBudget
import ResearchTool.PromptComposition
import ResearchTool.PromptFraming
import ResearchTool.PromptRedaction
import ResearchTool.PromptSeams
import ResearchTool.Provenance
import ResearchTool.Pydantic.Fields
import ResearchTool.Python.Format
import ResearchTool.Python.Json
import ResearchTool.Python.JsonReader
import ResearchTool.Python.JsonText
import ResearchTool.Python.Occurrence
import ResearchTool.Python.Pattern
import ResearchTool.Python.Text
import ResearchTool.Python.UrlParse
import ResearchTool.Queue
import ResearchTool.Reconstruction
import ResearchTool.Records
import ResearchTool.Recovery
import ResearchTool.Redaction
import ResearchTool.ReportRenderer
import ResearchTool.ReportSections
import ResearchTool.Resilience
import ResearchTool.Retries
import ResearchTool.Router
import ResearchTool.Schema
import ResearchTool.Scope
import ResearchTool.Service
import ResearchTool.Sessions
import ResearchTool.Tenancy
import ResearchTool.Terms
import ResearchTool.Thresholds
import ResearchTool.Transport
import ResearchTool.UnsafePattern
import ResearchTool.UrlSpellings
import ResearchTool.UrlValidator
import ResearchTool.Visibility
import ResearchTool.Worker
