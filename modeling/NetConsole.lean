import NetConsole.Agent.EventPaging
import NetConsole.Agent.TargetStore
import NetConsole.AppLog.LogPagination
import NetConsole.Archive.JournalRuns
import NetConsole.Boot.RebootDetection
import NetConsole.ConfigText.DiffLaws
import NetConsole.DatabaseUpgrade.CrashConsistency
import NetConsole.DatabaseUpgrade.ProductionReentry
import NetConsole.Eligibility.Implications
import NetConsole.FleetPing.GraceRuns
import NetConsole.FleetPing.RestartTransparency
import NetConsole.FleetPing.ShardPlanning
import NetConsole.History.QueryScan
import NetConsole.Locks.LockSafety
import NetConsole.Mesh.ActiveRuns
import NetConsole.Mesh.AnomalyAnalysis
import NetConsole.Mesh.SwitchIsolation
import NetConsole.MeshLog.ParserAgreement
import NetConsole.OnlineMr.RealtimeCache
import NetConsole.Radio.ReferenceSemantics
import NetConsole.RawQuery.IncrementalDelivery
import NetConsole.RawQuery.LatestPageAgreement
import NetConsole.RawQuery.MixedReads
import NetConsole.Retention.ChangeHistories
import NetConsole.Retention.WorstReceivePower
import NetConsole.SectionGeneration.Fixpoint
import NetConsole.SiteImport.Atomicity
import NetConsole.SiteSync.FileMerge
import NetConsole.SiteSync.ReturnAtomicity
import NetConsole.Syslog.ProjectionAgreement
import NetConsole.Syslog.RawStreamPositions
import NetConsole.Syslog.ReplayEquivalence
import NetConsole.Syslog.ScanAgreement
import NetConsole.Syslog.SpoolDrain
import NetConsole.TaskCenter.Readability
import NetConsole.TaskCenter.ResourceGuard
import NetConsole.TaskRetention.RetentionLaw
import NetConsole.Traffic.EventListing
import NetConsole.Traffic.LeaseRuns
import NetConsole.Wireless.InformationElements
import NetConsole.Worker.ChunkInvariance
import NetConsole.Worker.RaisingLines
import NetConsole.Wps.FormatRuns
import NetConsole.Wps.TerminalTasks
