import Kernelradar.Core.Config
import Kernelradar.Detectors.Baseline
import Kernelradar.Detectors.Dedup
import Kernelradar.Detectors.Webhook

/-!
`bootstrap.rs`: the runtime services wired from the configuration.

Background tasks, preflight checks and the LSM objects are left out: none of
them changes the settings below.
-/

namespace Kernelradar

open Library

/-- `PromConfig` of `prometheus.rs`. -/
structure PromConfig where
  enabled : Bool
  listenAddr : Text

/-- The settings `init_runtime_services` leaves behind. -/
structure Services (F : Type) [F64 F] where
  strictMode : Bool
  webhook : Option WebhookConfig
  prometheus : PromConfig
  rateLimit : RateLimitConfig
  baseline : BaselineConfig F

namespace Bootstrap

variable {F : Type} [F64 F]

/-- The argument of `init_webhook`. -/
def webhookConfig (w : WebhookTomlConfig) : WebhookConfig where
  enabled := w.enabled
  url := w.url
  timeoutSecs := w.timeoutSecs
  authToken := w.authToken
  severityFilterAlertOrHigher := w.severityFilterAlertOrHigher

/-- The argument of `init_rate_limit`. -/
def rateLimitConfig (rl : RateLimitTomlConfig) : RateLimitConfig where
  window := Duration.fromSecs rl.windowSecs
  windowMax := rl.windowMax.toNat
  burstThreshold := rl.burstThreshold.toNat
  burstWindow := Duration.fromSecs rl.burstWindowSecs
  backoffInitial := Duration.fromSecs rl.backoffInitialSecs
  backoffMax := Duration.fromSecs rl.backoffMaxSecs
  keysMax := rl.keysMax

/-- The argument of `init_baseline`. -/
def baselineConfig (b : BaselineTomlConfig F) : BaselineConfig F where
  learningSecs := b.learningSecs
  scoreThreshold := b.scoreThreshold
  alpha := b.alpha
  savePath := b.savePath
  saveIntervalSecs := b.saveIntervalSecs
  pairsMax := b.pairsMax
  evictAgeHours := b.evictAgeHours
  minSamplesForScoring := b.minSamplesForScoring

/-- `init_runtime_services`. A disabled baseline leaves the global one to be made
with its defaults. -/
def initRuntimeServices (cfg : Config F) : Services F where
  strictMode := cfg.integrity.strictMode
  webhook := (webhookConfig cfg.webhook).init
  prometheus := ⟨cfg.prometheus.enabled, cfg.prometheus.listenAddr⟩
  rateLimit := rateLimitConfig cfg.ratelimit
  baseline := if cfg.baseline.enabled then baselineConfig cfg.baseline else BaselineConfig.default

end Bootstrap

end Kernelradar
