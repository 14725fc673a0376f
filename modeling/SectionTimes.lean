import SectionTimes.Json.Reader
import SectionTimes.Main
import SectionTimes.Proofs.AllOrNothing
import SectionTimes.Proofs.Bugreport.Dated
import SectionTimes.Proofs.Bugreport.Entry
import SectionTimes.Proofs.CommandLine.Batch
import SectionTimes.Proofs.CommandLine.Failing
import SectionTimes.Proofs.Device.Configured
import SectionTimes.Proofs.Device.FirstFailure
import SectionTimes.Proofs.Device.Landing
import SectionTimes.Proofs.Device.Quoting
import SectionTimes.Proofs.Duration.Agreement
import SectionTimes.Proofs.Flag.Decision
import SectionTimes.Proofs.Flag.Declaration
import SectionTimes.Proofs.Flag.Precedence
import SectionTimes.Proofs.Flag.Resolution
import SectionTimes.Proofs.Flag.Snapshot
import SectionTimes.Proofs.Report.Csv
import SectionTimes.Proofs.Report.Json
import SectionTimes.Proofs.Report.Kinds
import SectionTimes.Proofs.Report.Plain
import SectionTimes.Proofs.Report.Slowest
import SectionTimes.Proofs.Screen.AllApps
import SectionTimes.Proofs.Screen.Pattern
import SectionTimes.Proofs.Watcher.Scan
import SectionTimes.Proofs.Watcher.Separation
import SectionTimes.Proofs.Watcher.Window
