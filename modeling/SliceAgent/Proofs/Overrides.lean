import SliceAgent.Settings
import Mathlib.Data.List.Induction

/-!
# Settings under overriding

Overriding settings is a fold over the options that are given, and each option sets the value of its
own setting only (`Settings.get_set`, `Settings.getFixed_set`). By induction from the last option
backwards, a setting has the value that its option was given last, `null` not counted, or else the
one that it had (`Settings.get_override`), and the settings without an option stay
(`Settings.getFixed_override`). Settings with the same values are equal (`Settings.eq_of_get`), so
the options may as well be gathered by section first (`Settings.overrideBySection_eq`).
-/

namespace SliceAgent

/-- The settings that no option overrides. -/
inductive FixedSetting where
  | requestTimeout
  | enableMetrics
  | traceEndpoint
  | environment

/-- The value of a setting that no option overrides. -/
def Settings.getFixed (s : Settings) : FixedSetting → Json
  | .requestTimeout => s.cluster.requestTimeout
  | .enableMetrics => s.server.enableMetrics
  | .traceEndpoint => s.observability.traceEndpoint
  | .environment => s.observability.environment

/-- The sections of the settings. -/
inductive SettingSection where
  | driver
  | discovery
  | cluster
  | server
  | observability
  deriving DecidableEq

/-- The section that an option is in. -/
def SettingOption.sectionOf : SettingOption → SettingSection
  | .driverName | .nodeName => .driver
  | .classPath | .rescanInterval => .discovery
  | .kubeconfig | .dryRun => .cluster
  | .metricsPort => .server
  | .logLevel | .logFormat => .observability

attribute [ext] DriverSettings DiscoverySettings ClusterSettings ServerSettings
  ObservabilitySettings Settings

namespace Settings

theorem eq_of_get {s t : Settings} (hoption : ∀ o, s.get o = t.get o)
    (hfixed : ∀ f, s.getFixed f = t.getFixed f) : s = t :=
  Settings.ext (DriverSettings.ext (hoption .driverName) (hoption .nodeName))
    (DiscoverySettings.ext (hoption .classPath) (hoption .rescanInterval))
    (ClusterSettings.ext (hoption .kubeconfig) (hfixed .requestTimeout) (hoption .dryRun))
    (ServerSettings.ext (hfixed .enableMetrics) (hoption .metricsPort))
    (ObservabilitySettings.ext (hoption .logLevel) (hoption .logFormat) (hfixed .traceEndpoint)
      (hfixed .environment))

/-- The value that an option is given last, `null` left out. -/
def lastGiven? (values : List (SettingOption × Json)) (o : SettingOption) : Option Json :=
  (values.reverse.find? fun e => e.1 = o ∧ e.2 ≠ .null).map (·.2)

variable (s : Settings) (values : List (SettingOption × Json))

theorem lastGiven?_cons (e : SettingOption × Json) (o : SettingOption) :
    lastGiven? (e :: values) o =
      (lastGiven? values o).or (if e.1 = o ∧ e.2 ≠ .null then some e.2 else none) := by
  rw [lastGiven?, List.reverse_cons, List.find?_append, Option.map_or, lastGiven?]
  by_cases h : e.1 = o ∧ e.2 ≠ .null
  · rw [List.find?_cons_of_pos (by simpa using h), if_pos h, Option.map_some]
  · rw [List.find?_cons_of_neg (by simpa using h), if_neg h, List.find?_nil, Option.map_none]

theorem override_concat (e : SettingOption × Json) :
    s.override (values ++ [e]) = (s.override values).setGiven e.1 e.2 :=
  List.foldl_append

/-- **An option that is overridden** has the value that it was given last. -/
theorem get_override (o : SettingOption) :
    (s.override values).get o = (lastGiven? values o).getD (s.get o) := by
  induction values using List.reverseRecOn with
  | nil => rfl
  | append_singleton values e ih =>
    obtain ⟨p, v⟩ := e
    rw [override_concat, setGiven, lastGiven?, List.reverse_concat, List.find?_cons]
    by_cases hv : v = .null
    · simpa [hv, lastGiven?] using ih
    · rw [if_neg hv, get_set]
      by_cases hp : o = p
      · simp [hp, hv]
      · have hp' : ¬p = o := fun h => hp h.symm
        simpa [hp, hp', lastGiven?] using ih

theorem getFixed_set (o : SettingOption) (v : Json) (f : FixedSetting) :
    (s.set o v).getFixed f = s.getFixed f := by
  cases o <;> cases f <;> rfl

/-- The settings that no option overrides stay. -/
theorem getFixed_override (f : FixedSetting) : (s.override values).getFixed f = s.getFixed f := by
  induction values using List.reverseRecOn with
  | nil => rfl
  | append_singleton values e ih =>
    rw [override_concat, setGiven]
    split
    · exact ih
    · rw [getFixed_set, ih]

/-! ### Section by section -/

/-- The settings with each section as its own values alone make it. -/
def overrideBySection : Settings where
  driver := (s.override (values.filter (·.1.sectionOf = .driver))).driver
  discovery := (s.override (values.filter (·.1.sectionOf = .discovery))).discovery
  cluster := (s.override (values.filter (·.1.sectionOf = .cluster))).cluster
  server := (s.override (values.filter (·.1.sectionOf = .server))).server
  observability := (s.override (values.filter (·.1.sectionOf = .observability))).observability

/-- Values of other sections are not looked at for an option. -/
theorem lastGiven?_filter (o : SettingOption) :
    lastGiven? (values.filter (·.1.sectionOf = o.sectionOf)) o = lastGiven? values o := by
  rw [lastGiven?, ← List.filter_reverse, List.find?_filter, lastGiven?]
  congr 2
  funext e
  by_cases he : e.1 = o <;> simp [he]

/-- **Sections do not mix.** Gathering the values by section before they are set makes no
difference. -/
theorem overrideBySection_eq : s.overrideBySection values = s.override values := by
  refine eq_of_get (fun o => ?_) fun f => ?_
  · calc (s.overrideBySection values).get o
      _ = (s.override (values.filter (·.1.sectionOf = o.sectionOf))).get o := by cases o <;> rfl
      _ = (s.override values).get o := by rw [get_override, lastGiven?_filter, get_override]
  · rw [getFixed_override]
    cases f with
    | requestTimeout => exact getFixed_override s _ .requestTimeout
    | enableMetrics => exact getFixed_override s _ .enableMetrics
    | traceEndpoint => exact getFixed_override s _ .traceEndpoint
    | environment => exact getFixed_override s _ .environment

end Settings

end SliceAgent
