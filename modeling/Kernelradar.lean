import Kernelradar.Library.Table
import Kernelradar.Library.Machine
import Kernelradar.Library.Bytes
import Kernelradar.Library.Quota
import Kernelradar.Detectors.Allowlist
import Kernelradar.Dedup.Isolation
import Kernelradar.Dedup.Ledger
import Kernelradar.Dedup.Rate
import Kernelradar.Dedup.Sliding
import Kernelradar.Dedup.Backoff
import Kernelradar.Dedup.BurstWindow
import Kernelradar.Baseline.Restart
import Kernelradar.Baseline.Reset
import Kernelradar.Integrity.Digest
import Kernelradar.Detectors.Cidr
import Kernelradar.Detectors.Util
import Kernelradar.Alerts.Flood
import Kernelradar.Alerts.Tasks
import Kernelradar.Alerts.Plain
import Kernelradar.Cli.Reload
import Kernelradar.Cli.Swap
import Kernelradar.Cli.Startup
import Kernelradar.Paths.Spelling
import Kernelradar.Paths.Window
import Kernelradar.Bpf.Connect
import Kernelradar.Alerts.Unseen
import Kernelradar.Dedup.Severity
import Kernelradar.Baseline.Account
import Kernelradar.Baseline.Keeping
import Kernelradar.Baseline.Isolation
import Kernelradar.Baseline.Steady
import Kernelradar.Baseline.Dates
import Kernelradar.Baseline.Publish
import Kernelradar.Baseline.Symlinks
import Kernelradar.Lists.Entries
import Kernelradar.Lists.Cidrs
import Kernelradar.Alerts.Terminal
import Kernelradar.Webhook.Numeric
import Kernelradar.Webhook.Authority
import Kernelradar.Webhook.Redaction
import Kernelradar.Lists.Names
import Kernelradar.Paths.Probe
import Kernelradar.Baseline.Minutes
import Kernelradar.Baseline.Buckets
import Kernelradar.Library.Layout
import Kernelradar.Library.Ring
import Kernelradar.Library.Json
import Kernelradar.Bpf.Record
import Kernelradar.Bpf.Syscalls
import Kernelradar.Detectors.Selfprotect
import Kernelradar.Guard.Kills
import Kernelradar.Alerts.Timestamps
import Kernelradar.Alerts.Output
import Kernelradar.Detectors.Reports
import Kernelradar.Delivery.System
import Kernelradar.Delivery.Account
import Kernelradar.Delivery.Order
import Kernelradar.Delivery.Numbers
import Kernelradar.Delivery.Counted
import Kernelradar.Delivery.Stdout
import Kernelradar.Delivery.Scrape
import Kernelradar.Delivery.Outbox
