import SliceAgent.Proofs.Overrides
import SliceAgent.Proofs.Lookup

/-!
# Overlaid settings

Settings are overridden by named values, listed in some order. As a map (`OverrideMap`) these have
one value for each name, and a name is that of an option. What comes of them is said setting by
setting (`Settings.overlay`): one that has an option takes the value of its name, if there is one
other than `null`, and all else stays.

Overriding by a map is this overlay (`Settings.overrideNamed_eq`). The induction is on the entries:
the options that names stand for are last given just what the map has for the names
(`Settings.exists_knownOptions`). An overlay looks at a map only through what its names are given
(`Settings.overlay_congr`), so the order of the entries makes no difference, and laying a second map
over the first is laying over one map, the first with the values of the second put over its own
(`OverrideMap.given?_updatedWith`).
-/

namespace SliceAgent

namespace SettingOption

/-- The name of an option. -/
def name : SettingOption → String
  | .driverName => "driver_name"
  | .nodeName => "node_name"
  | .classPath => "sysfs_path"
  | .rescanInterval => "rescan_interval"
  | .kubeconfig => "kubeconfig"
  | .dryRun => "dry_run"
  | .metricsPort => "metrics_port"
  | .logLevel => "log_level"
  | .logFormat => "log_format"

/-- Names and options correspond. -/
theorem ofName?_eq_some_iff {name : String} {o : SettingOption} :
    ofName? name = some o ↔ o.name = name := by
  constructor
  · intro h
    unfold ofName? at h
    split at h <;> cases h <;> rfl
  · rintro rfl
    cases o <;> rfl

theorem name_inj {o p : SettingOption} : o.name = p.name ↔ o = p := by
  rw [← ofName?_eq_some_iff, ofName?_eq_some_iff.mpr rfl, Option.some.injEq, eq_comm]

instance (name : String) : Decidable (∃ o : SettingOption, o.name = name) :=
  decidable_of_iff (ofName? name).isSome
    (by rw [Option.isSome_iff_exists]; exact exists_congr fun _ => ofName?_eq_some_iff)

theorem name_ne_reservedName (o : SettingOption) : o.name ≠ Settings.reservedName := by
  cases o <;> decide

end SettingOption

/-- A map of values over the names of options. The values may be any, and the entries are listed in
some order. -/
structure OverrideMap where
  entries : List (String × Json)
  nodup_names : (entries.map (·.1)).Nodup
  isOption : ∀ name ∈ entries.map (·.1), ∃ o : SettingOption, o.name = name

/-! ### What a map gives -/

namespace OverrideMap

variable (m m' : OverrideMap)

/-- What a name is given: a value other than `null`, if any. -/
def given? (name : String) : Option Json :=
  (Json.field? name m.entries).filter (· ≠ .null)

/-- The map with its entries in another order. -/
def reorder (entries : List (String × Json)) (h : entries.Perm m.entries) : OverrideMap where
  entries := entries
  nodup_names := (h.map _).nodup_iff.mpr m.nodup_names
  isOption name hname := m.isOption name ((h.map _).subset hname)

/-- The map with the values of another one put over its own, `null` left out. -/
def updatedWith : OverrideMap where
  entries := Json.setFields (m'.entries.filter (·.2 ≠ .null)) m.entries
  nodup_names := Json.nodup_setFields m.nodup_names
  isOption name hname := by
    rcases Json.mem_names_setFields.mp hname with hnew | hold
    · exact m'.isOption name ((List.filter_sublist.map _).subset hnew)
    · exact m.isOption name hold

theorem given?_reorder {entries : List (String × Json)} (h : entries.Perm m.entries)
    (name : String) : (m.reorder entries h).given? name = m.given? name := by
  have hfound : Json.field? name entries = Json.field? name m.entries :=
    Json.field?_of_perm h (m.reorder entries h).nodup_names
  exact congrArg (Option.filter (· ≠ .null)) hfound

/-- A name has what the other map gives it, or else what it had. -/
theorem given?_updatedWith (name : String) :
    (m.updatedWith m').given? name = (m'.given? name).or (m.given? name) := by
  have hnames : ((m'.entries.filter (·.2 ≠ .null)).map (·.1)).Nodup :=
    m'.nodup_names.sublist (List.filter_sublist.map _)
  rw [given?, updatedWith, Json.field?_setFields hnames,
    Json.field?_filter m'.nodup_names (· ≠ .null), given?, given?]
  cases hgiven : (Json.field? name m'.entries).filter (· ≠ .null) with
  | none => rfl
  | some v =>
    have hv : v ≠ .null := by simpa using (Option.filter_eq_some_iff.mp hgiven).2
    simp [hv]

theorem given?_eq_none (h : ∀ e ∈ m.entries, e.2 = .null) (name : String) :
    m.given? name = none := by
  rw [given?, Option.filter_eq_none_iff]
  intro v hv
  simpa using h _ (Json.mem_of_field? hv)

end OverrideMap

/-! ### Overriding by names -/

namespace Settings

/-- The settings with named values over them, or why one of the names is no option. -/
def overrideNamed (s : Settings) (values : List (String × Json)) : Except OptionFault Settings :=
  (optionsOfNames values).map s.override

/-- The options of names are last given what the names have. -/
theorem exists_knownOptions {entries : List (String × Json)}
    (hnames : (entries.map (·.1)).Nodup)
    (hoption : ∀ name ∈ entries.map (·.1), ∃ o : SettingOption, o.name = name) :
    ∃ options, knownOptions entries = .ok options ∧
      ∀ o, lastGiven? options o = (Json.field? o.name entries).filter (· ≠ .null) := by
  induction entries with
  | nil => exact ⟨[], rfl, fun _ => rfl⟩
  | cons e rest ih =>
    obtain ⟨name, v⟩ := e
    obtain ⟨hnew, hrest⟩ := List.nodup_cons.mp hnames
    obtain ⟨⟨p, rfl⟩, hoptions⟩ := List.forall_mem_cons.mp hoption
    obtain ⟨options, hknown, hlast⟩ := ih hrest hoptions
    -- The name does not come again, so nothing behind this entry changes its option.
    have habsent : Json.field? p.name rest = none := Json.field?_eq_none_iff.mpr hnew
    by_cases hv : v = .null
    · refine ⟨options, by rw [knownOptions, if_pos hv, hknown], fun o => ?_⟩
      rw [hlast, Json.field?_cons]
      by_cases hp : p = o
      · subst hp
        simp [habsent, hv, Option.filter]
      · rw [if_neg (mt SettingOption.name_inj.mp hp)]
    · refine ⟨(p, v) :: options, ?_, fun o => ?_⟩
      · rw [knownOptions, if_neg hv, SettingOption.ofName?_eq_some_iff.mpr rfl, hknown]
        rfl
      · rw [lastGiven?_cons, hlast, Json.field?_cons]
        by_cases hp : p = o
        · subst hp
          simp [habsent, hv, Option.filter]
        · rw [if_neg (mt SettingOption.name_inj.mp hp), if_neg fun h => hp h.1, Option.or_none]

/-! ### Overlays -/

variable (s : Settings) (m m' : OverrideMap)

theorem exists_optionsOfNames :
    ∃ options, optionsOfNames m.entries = .ok options ∧
      ∀ o : SettingOption, lastGiven? options o = m.given? o.name := by
  have hreserved : ¬m.entries.any (·.1 == reservedName) := by
    rw [List.any_eq_true]
    rintro ⟨e, he, hname⟩
    obtain ⟨o, ho⟩ := m.isOption e.1 (List.mem_map_of_mem he)
    exact o.name_ne_reservedName (ho.trans (beq_iff_eq.mp hname))
  rw [optionsOfNames, if_neg hreserved]
  exact exists_knownOptions m.nodup_names m.isOption

/-- The settings with what a map gives over them, setting by setting. -/
def overlay : Settings where
  driver :=
    { name := (m.given? "driver_name").getD s.driver.name
      nodeName := (m.given? "node_name").getD s.driver.nodeName }
  discovery :=
    { classPath := (m.given? "sysfs_path").getD s.discovery.classPath
      rescanInterval := (m.given? "rescan_interval").getD s.discovery.rescanInterval }
  cluster :=
    { kubeconfig := (m.given? "kubeconfig").getD s.cluster.kubeconfig
      requestTimeout := s.cluster.requestTimeout
      dryRun := (m.given? "dry_run").getD s.cluster.dryRun }
  server :=
    { enableMetrics := s.server.enableMetrics
      metricsPort := (m.given? "metrics_port").getD s.server.metricsPort }
  observability :=
    { logLevel := (m.given? "log_level").getD s.observability.logLevel
      logFormat := (m.given? "log_format").getD s.observability.logFormat
      traceEndpoint := s.observability.traceEndpoint
      environment := s.observability.environment }

theorem get_overlay (o : SettingOption) :
    (s.overlay m).get o = (m.given? o.name).getD (s.get o) := by
  cases o <;> rfl

theorem getFixed_overlay (f : FixedSetting) : (s.overlay m).getFixed f = s.getFixed f := by
  cases f <;> rfl

/-- **Overriding by a map** succeeds, and is the overlay of the map. -/
theorem overrideNamed_eq : s.overrideNamed m.entries = .ok (s.overlay m) := by
  obtain ⟨options, hoptions, hlast⟩ := exists_optionsOfNames m
  have heq : s.override options = s.overlay m := by
    refine eq_of_get (fun o => ?_) fun f => ?_
    · rw [get_override, hlast, get_overlay]
    · rw [getFixed_override, getFixed_overlay]
  rw [overrideNamed, hoptions, Except.map, heq]

variable {m m'}

theorem overlay_congr (h : ∀ name, m.given? name = m'.given? name) :
    s.overlay m = s.overlay m' := by
  refine eq_of_get (fun o => ?_) fun f => ?_
  · rw [get_overlay, get_overlay, h]
  · rw [getFixed_overlay, getFixed_overlay]

theorem overlay_eq_self (h : ∀ name, m.given? name = none) : s.overlay m = s := by
  refine eq_of_get (fun o => ?_) fun f => getFixed_overlay s m f
  rw [get_overlay, h, Option.getD_none]

variable (m m')

theorem overlay_overlay : (s.overlay m).overlay m' = s.overlay (m.updatedWith m') := by
  refine eq_of_get (fun o => ?_) fun f => ?_
  · rw [get_overlay, get_overlay, get_overlay, m.given?_updatedWith, Option.getD_or]
  · rw [getFixed_overlay, getFixed_overlay, getFixed_overlay]

end Settings

/-- **Overrides compose and change nothing else.** Overriding by a map succeeds: each setting with
an option has the value of its name, unless there is none or it is `null`, and the others stay.
Neither gathering the values by section first nor the order of the entries makes a difference.
Overriding by two maps one after another is overriding by one, the first with the values of the
second, `null` left out, put over its own. And a map that has only `null` leaves the settings as
they are. -/
theorem overrides_compose (s : Settings) (m m' : OverrideMap) :
    s.overrideNamed m.entries = .ok (s.overlay m) ∧
      (Settings.optionsOfNames m.entries).map s.overrideBySection = .ok (s.overlay m) ∧
      (∀ entries : List (String × Json), entries.Perm m.entries →
        s.overrideNamed entries = s.overrideNamed m.entries) ∧
      (s.overrideNamed m.entries).bind (·.overrideNamed m'.entries) =
        s.overrideNamed (m.updatedWith m').entries ∧
      ((∀ e ∈ m.entries, e.2 = .null) → s.overrideNamed m.entries = .ok s) := by
  refine ⟨s.overrideNamed_eq m, ?_, fun entries hperm => ?_, ?_, fun hnull => ?_⟩
  · rw [funext s.overrideBySection_eq, ← Settings.overrideNamed, s.overrideNamed_eq m]
  · calc s.overrideNamed entries
      _ = .ok (s.overlay (m.reorder entries hperm)) := s.overrideNamed_eq (m.reorder entries hperm)
      _ = .ok (s.overlay m) := by rw [s.overlay_congr (m.given?_reorder hperm)]
      _ = s.overrideNamed m.entries := (s.overrideNamed_eq m).symm
  · calc (s.overrideNamed m.entries).bind (·.overrideNamed m'.entries)
      _ = (s.overlay m).overrideNamed m'.entries := by rw [s.overrideNamed_eq m, Except.bind]
      _ = .ok (s.overlay (m.updatedWith m')) := by
        rw [(s.overlay m).overrideNamed_eq, s.overlay_overlay]
      _ = s.overrideNamed (m.updatedWith m').entries := (s.overrideNamed_eq _).symm
  · rw [s.overrideNamed_eq m, s.overlay_eq_self (m.given?_eq_none hnull)]

/-- Values that are false, zero and empty, listed in two orders, with values of another map over
them, and two values that count as not given. -/
theorem overrides_compose_of_falsy :
    let s : Settings :=
      { cluster := { requestTimeout := .int 5, dryRun := .bool true }
        server := { enableMetrics := .bool false }
        observability := { traceEndpoint := .text "collector", environment := .text "lab" } }
    let values : List (String × Json) :=
      [("dry_run", .bool false), ("rescan_interval", .int 0), ("log_level", .null),
        ("node_name", .text ""), ("driver_name", .text "a")]
    let later : List (String × Json) :=
      [("log_format", .text "console"), ("dry_run", .null), ("node_name", .text "n")]
    let unset : List (String × Json) := [("kubeconfig", .null), ("metrics_port", .null)]
    let once : Settings :=
      { s with
        driver := { name := .text "a", nodeName := .text "" }
        discovery.rescanInterval := .int 0
        cluster.dryRun := .bool false }
    let twice : Settings :=
      { once with driver.nodeName := .text "n", observability.logFormat := .text "console" }
    values.reverse.Perm values ∧ (∀ e ∈ unset, e.2 = .null) ∧
      s.overrideNamed values.reverse = .ok once ∧
      (s.overrideNamed values).bind (·.overrideNamed later) = .ok twice ∧
      s.overrideNamed unset = .ok s := by
  intro s values later unset once twice
  let m : OverrideMap := ⟨values, by decide, by decide +kernel⟩
  let m' : OverrideMap := ⟨later, by decide, by decide +kernel⟩
  let n : OverrideMap := ⟨unset, by decide, by decide +kernel⟩
  have hperm : values.reverse.Perm values := List.reverse_perm values
  have hnull : ∀ e ∈ unset, e.2 = .null := by simp [unset]
  obtain ⟨hoverlay, -, horder, hcompose, -⟩ := overrides_compose s m m'
  obtain ⟨-, -, -, -, hself⟩ := overrides_compose s n m
  have honce : s.overlay m = once := by decide +kernel
  have htwice : s.overrideNamed (m.updatedWith m').entries = .ok twice := by decide +kernel
  refine ⟨hperm, hnull, ?_, hcompose.trans htwice, hself hnull⟩
  rw [horder values.reverse hperm, hoverlay, honce]

end SliceAgent
