import FormRouting.LogContext
import FormRouting.Main
import FormRouting.Service.Run
import FormRouting.Store.Postgres.Run
import FormRouting.Proofs.Routing.Precedence
import FormRouting.Proofs.Form.AnswerSet
import FormRouting.Proofs.Form.DisplayOrder
import FormRouting.Proofs.Value.Submitted
import FormRouting.Proofs.Routing.Acceptance
import FormRouting.Proofs.Routing.Rewriting
import FormRouting.Proofs.Metrics.Update
import FormRouting.Proofs.Metrics.Ledger
import FormRouting.Proofs.Service.Failures
import FormRouting.Proofs.Service.Exchange
import FormRouting.Proofs.Service.Run
import FormRouting.Proofs.Service.Accounting
import FormRouting.Proofs.Routing.RepeatedQuestions
import FormRouting.Proofs.Reading
import FormRouting.Proofs.Form.Definition
import FormRouting.Proofs.Check.Definition
import FormRouting.Proofs.Check.Load
import FormRouting.Proofs.Form.Target
import FormRouting.Proofs.Routing.OrderIndependence
import FormRouting.Proofs.Routing.Response
import FormRouting.Proofs.Service.Recording
import FormRouting.Proofs.Form.RuleRecord
import FormRouting.Proofs.Form.LeftOut
import FormRouting.Proofs.Store.Rows
import FormRouting.Proofs.Routing.ListedScalar
import FormRouting.Proofs.Service.Integrity
import FormRouting.Proofs.Routing.LiveRules
import FormRouting.Proofs.Service.RequestId
import FormRouting.Proofs.Service.Unpublished
import FormRouting.Proofs.Metrics.Tally
import FormRouting.Proofs.Service.Counting
import FormRouting.Proofs.Service.Stateless
import FormRouting.Proofs.Service.Interleaving
import FormRouting.Proofs.Store.Calls
import FormRouting.Proofs.Store.History
import FormRouting.Proofs.Store.Pool
import FormRouting.Proofs.Store.Outage
import FormRouting.Proofs.Form.Wayward
import FormRouting.Proofs.Check.Malformed
import FormRouting.Proofs.Form.RoundTrip
import FormRouting.Proofs.Form.Presentable
import FormRouting.Proofs.Service.Showing
import FormRouting.Proofs.Value.DecimalOrder
import FormRouting.Proofs.Store.RowOrder
import FormRouting.Proofs.Metrics.Total
import FormRouting.Proofs.Service.Hops
import FormRouting.Proofs.Service.Correlation
import FormRouting.Proofs.Text.Search
import FormRouting.Proofs.Routing.Operators
import FormRouting.Proofs.Routing.ErrorReport
import FormRouting.Proofs.Routing.Revalidation
import FormRouting.Proofs.Routing.Ranking
import FormRouting.Proofs.Form.RuleRequirements
import FormRouting.Proofs.Check.Verdict
import FormRouting.Proofs.Check.Merging
import FormRouting.Proofs.Json.Text
import FormRouting.Proofs.Json.Number
import FormRouting.Proofs.Json.RoundTrip
import FormRouting.Proofs.Store.Answers
import FormRouting.Proofs.Json.Values
import FormRouting.Proofs.Json.Grammar
import FormRouting.Proofs.Json.Written
import FormRouting.Proofs.Service.RequestBody
import FormRouting.Proofs.Service.RequestSchema
import FormRouting.Proofs.Service.RecordedAnswers
import FormRouting.Proofs.Metrics.Refusal
import FormRouting.Proofs.Metrics.Calls
import FormRouting.Proofs.Metrics.Accounts
import FormRouting.Proofs.Store.Access
import FormRouting.Proofs.LogContext
