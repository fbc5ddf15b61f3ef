import SliceAgent.Proofs.Findings
import SliceAgent.Proofs.Overrides
import SliceAgent.Settings.Environment

/-!
# Valid settings

Settings are valid (`Settings.IsValid`) if each has a value of its type and range. A check ensures
what its setting may be: whatever it lets through has the property (`SettingCheck.Ensures`), with
one lemma for each kind of check. A setting that is refused or not given has its default, so all of
a section is valid whether or not it breaks rules, and settings that the environment gives are valid
(`Settings.isValid_of_ofEnvironment`).
-/

namespace SliceAgent

/-! ### What settings may be -/

/-- What the settings that the command line can override may be. -/
def SettingOption.Allows : SettingOption → Json → Prop
  | .driverName, v => ∃ s, v = .text s ∧ s ≠ ""
  | .nodeName, v => ∃ s, v = .text s
  | .classPath, v => ∃ p : Path, v = .text p.text
  | .rescanInterval, v => ∃ x : Binary64, v = .float x ∧ x.isPositive = true
  | .kubeconfig, v => v = .null ∨ ∃ p : Path, v = .text p.text
  | .dryRun, v => ∃ b, v = .bool b
  | .metricsPort, v => ∃ n, v = .int n ∧ 1 ≤ n ∧ n ≤ 65535
  | .logLevel, v => ∃ s ∈ ["DEBUG", "INFO", "WARNING", "ERROR"], v = .text s
  | .logFormat, v => ∃ s ∈ ["json", "console"], v = .text s

/-- What these settings may be. -/
def FixedSetting.Allows : FixedSetting → Json → Prop
  | .requestTimeout, v => v = .null ∨ ∃ x : Binary64, v = .float x ∧ x.isPositive = true
  | .enableMetrics, v => ∃ b, v = .bool b
  | .traceEndpoint, v => v = .null ∨ ∃ s, v = .text s
  | .environment, v => ∃ s, v = .text s

structure DriverSettings.IsValid (s : DriverSettings) : Prop where
  name : SettingOption.driverName.Allows s.name
  nodeName : SettingOption.nodeName.Allows s.nodeName

structure DiscoverySettings.IsValid (s : DiscoverySettings) : Prop where
  classPath : SettingOption.classPath.Allows s.classPath
  rescanInterval : SettingOption.rescanInterval.Allows s.rescanInterval

structure ClusterSettings.IsValid (s : ClusterSettings) : Prop where
  kubeconfig : SettingOption.kubeconfig.Allows s.kubeconfig
  requestTimeout : FixedSetting.requestTimeout.Allows s.requestTimeout
  dryRun : SettingOption.dryRun.Allows s.dryRun

structure ServerSettings.IsValid (s : ServerSettings) : Prop where
  enableMetrics : FixedSetting.enableMetrics.Allows s.enableMetrics
  metricsPort : SettingOption.metricsPort.Allows s.metricsPort

structure ObservabilitySettings.IsValid (s : ObservabilitySettings) : Prop where
  logLevel : SettingOption.logLevel.Allows s.logLevel
  logFormat : SettingOption.logFormat.Allows s.logFormat
  traceEndpoint : FixedSetting.traceEndpoint.Allows s.traceEndpoint
  environment : FixedSetting.environment.Allows s.environment

/-- Settings satisfy all constraints that are declared for them. -/
structure Settings.IsValid (s : Settings) : Prop where
  driver : s.driver.IsValid
  discovery : s.discovery.IsValid
  cluster : s.cluster.IsValid
  server : s.server.IsValid
  observability : s.observability.IsValid

theorem Settings.isValid_iff {s : Settings} :
    s.IsValid ↔ (∀ o : SettingOption, o.Allows (s.get o)) ∧
      ∀ f : FixedSetting, f.Allows (s.getFixed f) := by
  constructor
  · rintro ⟨hdriver, hdiscovery, hcluster, hserver, hobservability⟩
    refine ⟨fun o => ?_, fun f => ?_⟩
    · cases o with
      | driverName => exact hdriver.name
      | nodeName => exact hdriver.nodeName
      | classPath => exact hdiscovery.classPath
      | rescanInterval => exact hdiscovery.rescanInterval
      | kubeconfig => exact hcluster.kubeconfig
      | dryRun => exact hcluster.dryRun
      | metricsPort => exact hserver.metricsPort
      | logLevel => exact hobservability.logLevel
      | logFormat => exact hobservability.logFormat
    · cases f with
      | requestTimeout => exact hcluster.requestTimeout
      | enableMetrics => exact hserver.enableMetrics
      | traceEndpoint => exact hobservability.traceEndpoint
      | environment => exact hobservability.environment
  · rintro ⟨ho, hf⟩
    exact ⟨⟨ho .driverName, ho .nodeName⟩, ⟨ho .classPath, ho .rescanInterval⟩,
      ⟨ho .kubeconfig, hf .requestTimeout, ho .dryRun⟩, ⟨hf .enableMetrics, ho .metricsPort⟩,
      ⟨ho .logLevel, ho .logFormat, hf .traceEndpoint, hf .environment⟩⟩

/-! ### Checks -/

namespace SettingCheck

/-- A check lets only values through that have a property. -/
def Ensures (check : SettingCheck) (P : Json → Prop) : Prop :=
  ∀ v w, check v = .ok w → P w

theorem ensures_text : text.Ensures fun v => ∃ s, v = .text s := by
  intro v w h
  cases v with
  | text s => exact ⟨s, (Except.ok.inj h).symm⟩
  | _ => cases h

theorem ensures_nonemptyText : nonemptyText.Ensures fun v => ∃ s, v = .text s ∧ s ≠ "" := by
  intro v w h
  cases v with
  | text s =>
    rw [nonemptyText] at h
    split at h
    · cases h
    · rename_i hne
      exact ⟨s, (Except.ok.inj h).symm, hne⟩
  | _ => cases h

theorem ensures_oneOf (choices : List String) :
    (oneOf choices).Ensures fun v => ∃ s ∈ choices, v = .text s := by
  intro v w h
  cases v with
  | text s =>
    rw [oneOf] at h
    split at h
    · rename_i hmem
      exact ⟨s, hmem, (Except.ok.inj h).symm⟩
    · cases h
  | _ => cases h

theorem ensures_path : path.Ensures fun v => ∃ p : Path, v = .text p.text := by
  intro v w h
  cases v with
  | text s => exact ⟨.ofText s, (Except.ok.inj h).symm⟩
  | _ => cases h

theorem ensures_optional {check : SettingCheck} {P : Json → Prop} (h : check.Ensures P) :
    (optional check).Ensures fun v => v = .null ∨ P v := by
  intro v w hcheck
  unfold optional at hcheck
  split at hcheck
  · exact .inl (Except.ok.inj hcheck).symm
  · exact .inr (h v w hcheck)

theorem ensures_intBetween (low high : Int) :
    (intBetween low high).Ensures fun v => ∃ n, v = .int n ∧ low ≤ n ∧ n ≤ high := by
  intro v w h
  obtain ⟨n, -, hn⟩ := bind_eq_ok.mp h
  split at hn
  · cases hn
  split at hn
  · cases hn
  · exact ⟨n, (Except.ok.inj hn).symm, by omega, by omega⟩

theorem ensures_positive :
    positive.Ensures fun v => ∃ x : Binary64, v = .float x ∧ x.isPositive = true := by
  intro v w h
  obtain ⟨x, -, hx⟩ := bind_eq_ok.mp h
  split at hx
  · rename_i hpositive
    exact ⟨x, (Except.ok.inj hx).symm, hpositive⟩
  · cases hx

theorem ensures_bool : bool.Ensures fun v => ∃ b, v = .bool b := by
  have hint {n : Int} {w : Json} (h : boolOfInt n = .ok w) : ∃ b, w = .bool b := by
    unfold boolOfInt at h
    split at h
    · exact ⟨false, (Except.ok.inj h).symm⟩
    split at h
    · exact ⟨true, (Except.ok.inj h).symm⟩
    split at h <;> cases h
  intro v w h
  cases v with
  | bool b => exact ⟨b, (Except.ok.inj h).symm⟩
  | int n => exact hint h
  | float x =>
    rw [bool] at h
    split at h
    · exact hint h
    · cases h
  | text s =>
    rw [bool, boolOfText] at h
    cases hword : boolOfWord? (.ofList (s.toList.map Char.toLower)) with
    | none => rw [hword] at h; cases h
    | some b =>
      rw [hword] at h
      exact ⟨b, (Except.ok.inj h).symm⟩
  | _ => cases h

end SettingCheck

/-- A setting has what its check ensures, if its default has it. -/
theorem checkSetting_ensures {P : Json → Prop} {check : SettingCheck} (h : check.Ensures P)
    {default : Json} (hdefault : P default) (place : String) (fields : List (String × Json))
    (name : String) : P (checkSetting place fields name check default).1 := by
  rw [checkSetting]
  split
  · exact hdefault
  · split
    · rename_i hcheck
      exact h _ _ hcheck
    · exact hdefault

namespace Settings

/-- A section has what its check ensures, also where it is not given or refused. -/
theorem checkSection_ensures {α : Type} {P : α → Prop} {default : α}
    {check : List (String × Json) → α × List SettingFault} (h : ∀ fields, P (check fields).1)
    (hdefault : (check []).1 = default) (name : String) (given : Option Json) :
    P (checkSection name default check given).1 := by
  unfold checkSection
  split
  · exact hdefault ▸ h []
  · exact h _
  · exact hdefault ▸ h []

section Sections

open SettingCheck

variable (fields : List (String × Json))

theorem isValid_checkDriver : (checkDriver fields).1.IsValid where
  name := checkSetting_ensures ensures_nonemptyText ⟨_, rfl, by decide⟩ _ _ _
  nodeName := checkSetting_ensures ensures_text ⟨_, rfl⟩ _ _ _

theorem isValid_checkDiscovery : (checkDiscovery fields).1.IsValid where
  classPath :=
    checkSetting_ensures ensures_path ⟨.ofText "/sys/class/mock-accel", by decide⟩ _ _ _
  rescanInterval := checkSetting_ensures ensures_positive ⟨_, rfl, by decide⟩ _ _ _

theorem isValid_checkCluster : (checkCluster fields).1.IsValid where
  kubeconfig := checkSetting_ensures (ensures_optional ensures_path) (.inl rfl) _ _ _
  requestTimeout := checkSetting_ensures (ensures_optional ensures_positive) (.inl rfl) _ _ _
  dryRun := checkSetting_ensures ensures_bool ⟨_, rfl⟩ _ _ _

theorem isValid_checkServer : (checkServer fields).1.IsValid where
  enableMetrics := checkSetting_ensures ensures_bool ⟨_, rfl⟩ _ _ _
  metricsPort := checkSetting_ensures (ensures_intBetween 1 65535) ⟨_, rfl, by decide⟩ _ _ _

theorem isValid_checkObservability : (checkObservability fields).1.IsValid where
  logLevel := checkSetting_ensures (ensures_oneOf logLevels) ⟨_, by decide, rfl⟩ _ _ _
  logFormat := checkSetting_ensures (ensures_oneOf logFormats) ⟨_, by decide, rfl⟩ _ _ _
  traceEndpoint := checkSetting_ensures (ensures_optional ensures_text) (.inl rfl) _ _ _
  environment := checkSetting_ensures ensures_text ⟨_, rfl⟩ _ _ _

end Sections

/-- The settings that sections give are those of each section. -/
theorem eq_of_ofSections {given : String → Option Json} {s : Settings}
    (h : ofSections given = .ok s) :
    s = { driver := (checkSection "driver" {} checkDriver (given "driver")).1
          discovery := (checkSection "discovery" {} checkDiscovery (given "discovery")).1
          cluster := (checkSection "kubernetes" {} checkCluster (given "kubernetes")).1
          server := (checkSection "server" {} checkServer (given "server")).1
          observability :=
            (checkSection "observability" {} checkObservability (given "observability")).1 } := by
  unfold ofSections at h
  dsimp only at h
  split at h
  · exact (Except.ok.inj h).symm
  · cases h

/-- **Settings of the environment are valid.** -/
theorem isValid_of_ofEnvironment {env : Environment} {s : Settings}
    (h : ofEnvironment env = .ok s) : s.IsValid := by
  obtain ⟨sections, -, hsections⟩ := bind_eq_ok.mp h
  obtain rfl := eq_of_ofSections (mapError_eq_ok_iff.mp hsections)
  exact ⟨checkSection_ensures isValid_checkDriver rfl _ _,
    checkSection_ensures isValid_checkDiscovery rfl _ _,
    checkSection_ensures isValid_checkCluster rfl _ _,
    checkSection_ensures isValid_checkServer rfl _ _,
    checkSection_ensures isValid_checkObservability rfl _ _⟩

end Settings

end SliceAgent
