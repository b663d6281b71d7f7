import Runboard.Log.Session
import Runboard.Proofs.AccessControl
import Runboard.Proofs.AppPages
import Runboard.Proofs.AtomicWrites
import Runboard.Proofs.ChartAnswer
import Runboard.Proofs.CrossOrigin
import Runboard.Proofs.EngineLife
import Runboard.Proofs.Envelope
import Runboard.Proofs.HistoryWalk
import Runboard.Proofs.Journal
import Runboard.Proofs.LevelFloor
import Runboard.Proofs.MetricDuality
import Runboard.Proofs.Migrations
import Runboard.Proofs.OrgSnapshot
import Runboard.Proofs.OrgSpelling
import Runboard.Proofs.ReadOnly
import Runboard.Proofs.Reconfiguring
import Runboard.Proofs.ReportAnswer
import Runboard.Proofs.RequestContext
import Runboard.Proofs.SelfIssued
import Runboard.Proofs.SettingsHistory
import Runboard.Proofs.StructuredLine
import Runboard.Proofs.SupportAudit
import Runboard.Proofs.TenantIsolation
import Runboard.Proofs.TokenAcceptance
import Runboard.Proofs.TokenFaults
import Runboard.Proofs.TokenRoundTrip
import Runboard.Proofs.ValidSettings
import Runboard.Proofs.WindowGrowth
import Runboard.Proofs.WindowLaws
import Runboard.Proofs.WorkflowCount
import Runboard.Service.Session
