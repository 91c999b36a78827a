import FeatureFlags.Codec.Evaluation
import FeatureFlags.Codec.Feature
import FeatureFlags.Codec.Reader
import FeatureFlags.Codec.Targeting
import FeatureFlags.Config
import FeatureFlags.Cron.Error
import FeatureFlags.Cron.Expression
import FeatureFlags.Cron.Field
import FeatureFlags.Cron.Firing
import FeatureFlags.Cron.Grammar
import FeatureFlags.Cron.Times
import FeatureFlags.Cron.Weekday
import FeatureFlags.Feature.Basic
import FeatureFlags.Feature.Evaluation
import FeatureFlags.Feature.Timeline
import FeatureFlags.Fields
import FeatureFlags.Json.Basic
import FeatureFlags.Json.Document
import FeatureFlags.Json.Numeral
import FeatureFlags.Json.Parser
import FeatureFlags.Json.Printer
import FeatureFlags.Json.Value
import FeatureFlags.Number.Binary64
import FeatureFlags.Number.Reading
import FeatureFlags.Number.Shortest
import FeatureFlags.Pattern.Meaning
import FeatureFlags.Pattern.Parser
import FeatureFlags.Pattern.Regex
import FeatureFlags.Pattern.Scanner
import FeatureFlags.Pattern.Tree
import FeatureFlags.Publication
import FeatureFlags.Rollout
import FeatureFlags.Schedule.Basic
import FeatureFlags.Schedule.Recurrence
import FeatureFlags.Snapshot
import FeatureFlags.Targeting.Coercion
import FeatureFlags.Targeting.Condition
import FeatureFlags.Targeting.Context
import FeatureFlags.Text.Blank
import FeatureFlags.Text.Break
import FeatureFlags.Text.CaseTable
import FeatureFlags.Text.Category
import FeatureFlags.Text.CharSet
import FeatureFlags.Text.CodeRun
import FeatureFlags.Text.Digits
import FeatureFlags.Text.Lowercase
import FeatureFlags.Text.Property
import FeatureFlags.Text.Script
import FeatureFlags.Time.Calendar
import FeatureFlags.Time.Instant
import FeatureFlags.Time.Timestamp
import FeatureFlags.Time.Zone
import FeatureFlags.Time.ZoneTable
import FeatureFlags.Uuid
import FeatureFlags.Proofs.Cron.Search
import FeatureFlags.Proofs.Time.Calendar
import FeatureFlags.Proofs.Time.Order
import FeatureFlags.Proofs.Cron.Chronology
import FeatureFlags.Proofs.Schedule.Activity
import FeatureFlags.Proofs.Timeline.Expansion
import FeatureFlags.Proofs.Timeline.Bounds
import FeatureFlags.Proofs.Schedule.Windows
import FeatureFlags.Proofs.Timeline.Changes
import FeatureFlags.Proofs.Timeline.Overlap
import FeatureFlags.Proofs.Timeline.Regular
import FeatureFlags.Proofs.Timeline.History
import FeatureFlags.Proofs.Time.Zone
import FeatureFlags.Proofs.Text.Parts
import FeatureFlags.Proofs.Cron.Spelling
import FeatureFlags.Proofs.Cron.Boundary
import FeatureFlags.Proofs.Cron.Renumbering
import FeatureFlags.Proofs.Cron.Week
import FeatureFlags.Proofs.Cron.FiveFields
import FeatureFlags.Proofs.Cron.ClockOrder
import FeatureFlags.Proofs.Feature.Evaluation
import FeatureFlags.Proofs.Timeline.Cap
import FeatureFlags.Proofs.Codec.Record
import FeatureFlags.Proofs.Codec.RoundTrip
import FeatureFlags.Proofs.Number.Numeral
import FeatureFlags.Proofs.Targeting.Text
import FeatureFlags.Proofs.Schedule.Widening
import FeatureFlags.Proofs.Timeline.Extension
import FeatureFlags.Proofs.Snapshot.Index
import FeatureFlags.Proofs.Feature.Malformed
import FeatureFlags.Proofs.Publication
import FeatureFlags.Proofs.Sorting
import FeatureFlags.Proofs.Cron.DayNumbers
import FeatureFlags.Proofs.Feature.Rules
import FeatureFlags.Proofs.Targeting.Degraded
import FeatureFlags.Proofs.Rollout
import FeatureFlags.Proofs.Targeting.Percentage
import FeatureFlags.Proofs.Timeline.Effort
import FeatureFlags.Proofs.Targeting.Operators
import FeatureFlags.Proofs.Targeting.Lists
import FeatureFlags.Proofs.Feature.ScheduleOrder
import FeatureFlags.Proofs.Timeline.Pinned
import FeatureFlags.Proofs.Rollout.Hash
import FeatureFlags.Proofs.Cron.Latest
import FeatureFlags.Proofs.Snapshot.Contents
import FeatureFlags.Proofs.Config
