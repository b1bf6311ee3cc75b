import BootClock.Host.Run
import BootClock.Main
import BootClock.Proofs.Accuracy
import BootClock.Proofs.Agreement
import BootClock.Proofs.Anchor
import BootClock.Proofs.BootTimeText
import BootClock.Proofs.Consistent
import BootClock.Proofs.Decision
import BootClock.Proofs.DistinctKeys
import BootClock.Proofs.ExactUptime
import BootClock.Proofs.FirstBootTime
import BootClock.Proofs.ForwardTime
import BootClock.Proofs.ForwardTotal
import BootClock.Proofs.Frame
import BootClock.Proofs.HostReport
import BootClock.Proofs.HumanText
import BootClock.Proofs.Hysteresis
import BootClock.Proofs.InfoCommand
import BootClock.Proofs.Invocation
import BootClock.Proofs.LastError
import BootClock.Proofs.Listeners
import BootClock.Proofs.ManualChange
import BootClock.Proofs.NearestSettings
import BootClock.Proofs.OneSample
import BootClock.Proofs.Paths
import BootClock.Proofs.Range
import BootClock.Proofs.RecoveredBootTime
import BootClock.Proofs.ReportText
import BootClock.Proofs.Sentinel
import BootClock.Proofs.SettingsByKey
import BootClock.Proofs.Unsaturated
import BootClock.Proofs.Untouched
import BootClock.Service.Run
