import Paryty.Agent.Capacity
import Paryty.Agent.ConcurrentBuffer
import Paryty.Agent.DrainOrder
import Paryty.Agent.Restarts
import Paryty.Agent.Identity
import Paryty.Agent.FlowControlTheorems
import Paryty.Stream.Commits
import Paryty.Stream.Ordering
import Paryty.Stream.ProcessRecord
import Paryty.Processing.ClosedWindows
import Paryty.Processing.WindowPlacement
import Paryty.Ingestion.RateLimit
import Paryty.Twin.Atomicity
import Paryty.Twin.BacklogStatus
import Paryty.Twin.CommandDelivery
import Paryty.Twin.OneTwinTheorems
import Paryty.Auth.SingleUse
import Paryty.Auth.Termination
import Paryty.Security.AuditEvidence
import Paryty.Twin.TenantIsolation
import Paryty.Plan.QuotaTheorems
import Paryty.Intelligence.Isolation
import Paryty.Simulation.LoadTestTheorems
import Paryty.Frontend.EventTransport
import Paryty.Frontend.EventFeed
import Paryty.Storage.StoredOnce
import Paryty.Agent.DbCorrelation
import Paryty.Storage.BreakerProtocol
import Paryty.Storage.AlertLifecycle
import Paryty.Storage.AlertDedup
import Paryty.Processing.GraphRepresentation
import Paryty.Processing.GraphChanges
import Paryty.Storage.ColdWriter
import Paryty.Twin.RoutingLookup
import Paryty.Storage.ILPSender
import Paryty.Storage.MetricRowsTheorems
import Paryty.Processing.DownsamplerTheorems
import Paryty.Processing.DownsampledValues
import Paryty.Processing.WindowSnapshot
import Paryty.Processing.CorrelatorTheorems
import Paryty.Processing.Enricher
import Paryty.Processing.TopNTheorems
import Paryty.Processing.PipelineTheorems
import Paryty.Storage.QueryCache
import Paryty.Storage.QueryRouting
import Paryty.Storage.Retention
import Paryty.Timeline.Replay
import Paryty.Timeline.EventTable
import Paryty.Storage.TopologyDiff
import Paryty.Storage.Connections
import Paryty.Auth.LoginDisclosure
import Paryty.Security.TenantRateLimit
import Paryty.Timeline.ReplayEngine
import Paryty.Simulation.CapacityTheorems
import Paryty.Simulation.WhatIfValidity
import Paryty.Agent.SniTheorems
import Paryty.Agent.CpuUsage
import Paryty.Agent.ProcessStat
import Paryty.Agent.LogTailer
import Paryty.Monitoring.SloTracker
import Paryty.Monitoring.AlertRules
import Paryty.Intelligence.ResultCache
import Paryty.Intelligence.XgboostFeatures
import Paryty.Storage.Fingerprint
import Paryty.Intelligence.KSDetector
import Paryty.Intelligence.AdwinDetector
import Paryty.Frontend.SharedBuffer
import Paryty.Frontend.Lttb
import Paryty.Intelligence.ModelMap
import Paryty.Intelligence.StatisticalDetector
import Paryty.Frontend.Repulsion
import Paryty.Intelligence.RetrainingTheorems
import Paryty.Intelligence.Backtesting
