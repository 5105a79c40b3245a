import QueryMind.Lib.Transition
import QueryMind.Lib.Program
import QueryMind.Lib.Text
import QueryMind.Lib.Words
import QueryMind.Lib.Table
import QueryMind.Auth.Models
import QueryMind.Auth.Repository
import QueryMind.Auth.Tokens
import QueryMind.Auth.Service
import QueryMind.Auth.Contracts
import QueryMind.Auth.Session
import QueryMind.Auth.Writes
import QueryMind.Auth.Login
import QueryMind.Auth.Rotation
import QueryMind.Auth.Lifecycle
import QueryMind.Auth.Failure
import QueryMind.Lib.Tree
import QueryMind.Sql.Ast
import QueryMind.Sql.Models
import QueryMind.Execution.Guard
import QueryMind.Execution.Models
import QueryMind.Execution.Executor
import QueryMind.Execution.Engine
import QueryMind.Metadata.Registry
import QueryMind.Sql.Parser
import QueryMind.Sql.Validators
import QueryMind.Sql.Scope
import QueryMind.Sql.Validation
import QueryMind.Metadata.Relationships
import QueryMind.Sql.Joins
import QueryMind.Sql.Aggregates
import QueryMind.Sql.Places
import QueryMind.Sql.Declarations
import QueryMind.Sql.Columns
import QueryMind.Sql.Duplicates
import QueryMind.Lib.Json
import QueryMind.ResultFormatter.Models
import QueryMind.Sql.Generation
import QueryMind.Orchestrator.Models
import QueryMind.Lib.Utf8
import QueryMind.Lib.Frames
import QueryMind.Streaming.Models
import QueryMind.Streaming.Sse
import QueryMind.Streaming.EventBus
import QueryMind.Streaming.Subscriptions
import QueryMind.Streaming.Stream
import QueryMind.Streaming.Server
import QueryMind.Lib.UpTo
import QueryMind.Streaming.Delivery
import QueryMind.Streaming.Turns
import QueryMind.Streaming.Moves
import QueryMind.Streaming.Isolation
import QueryMind.Streaming.Asking
import QueryMind.Streaming.Termination
import QueryMind.Streaming.Progress
import QueryMind.Api.ValidationErrors
import QueryMind.Lib.Lines
import QueryMind.Nlu.Models
import QueryMind.SchemaLinker.Models
import QueryMind.Prompt.Models
import QueryMind.Prompt.Templates
import QueryMind.Prompt.Budget
import QueryMind.Prompt.Trimming
import QueryMind.Prompt.Sections
import QueryMind.Prompt.Validator
import QueryMind.Prompt.Compiler
import QueryMind.Llm.Adapter
import QueryMind.Prompt.Rendering
import QueryMind.Prompt.Question
import QueryMind.Lib.TokenBucket
import QueryMind.Security.RateLimiter
import QueryMind.Security.LoginThrottle
import QueryMind.Prompt.Assembly
import QueryMind.Llm.Models
import QueryMind.Repair.Models
import QueryMind.Repair.Planner
import QueryMind.Repair.Prompt
import QueryMind.Repair.Engine
import QueryMind.Lib.Hoare
import QueryMind.Orchestrator.Pipeline
import QueryMind.Orchestrator.Events
import QueryMind.Orchestrator.Engine
import QueryMind.Orchestrator.Progress
import QueryMind.Orchestrator.Execution
import QueryMind.Api.Query
import QueryMind.Observability.Metrics
import QueryMind.Lib.Interleaving
import QueryMind.Security.Windows
import QueryMind.Security.Audit
import QueryMind.Api.Service
import QueryMind.Api.Calls
import QueryMind.Api.Limits
import QueryMind.Api.Trail
import QueryMind.Auth.Accounts
import QueryMind.Api.Credentials
import QueryMind.Frontend.Streaming
import QueryMind.Frontend.StreamingDerivation
import QueryMind.Frontend.QueryStore
import QueryMind.Frontend.UseStreaming
import QueryMind.Frontend.StreamedAnswer
import QueryMind.Frontend.StreamedQuestion
import QueryMind.Frontend.PipelineTimeline
import QueryMind.Frontend.AuthStore
import QueryMind.Frontend.LogoutFinal
import QueryMind.Frontend.SingleFlight
import QueryMind.Prompt.Cache
import QueryMind.Sql.Extraction
import QueryMind.Sql.Normalization
import QueryMind.Nlu.Windows
import QueryMind.Nlu.Mentions
import QueryMind.Nlu.Sorting
import QueryMind.Nlu.Absorbed
import QueryMind.Nlu.Parser
import QueryMind.SchemaLinker.Relationships
import QueryMind.Llm.Retry
import QueryMind.Llm.Responses
import QueryMind.Frontend.ResultTable
import QueryMind.SchemaLinker.Outcomes
import QueryMind.SchemaLinker.Processes
import QueryMind.Retrieval.Freshness
import QueryMind.Nlu.Aggregation
import QueryMind.Frontend.Csv
import QueryMind.Lib.Decimal
import QueryMind.Lib.Draws
import QueryMind.Seeds.Refunds
import QueryMind.Seeds.Addresses
