import SliceAgent.Proofs.Validity
import SliceAgent.Proofs.NotANumber
import SliceAgent.CommandLine.Program

/-!
# Settings that an agent starts with

An agent starts with the settings of the environment, and over them the values that options have.
Those of the environment are valid. An option has a check of its own, and what it takes is a value
that its setting may have (`allows_iff_of_valueOfText`), but for two texts that pass unchecked: the
name of a driver can be empty, and an interval no number, since only a number can be refused for
being zero or less.

A setting is last set by its option, if that has a text, and else stays as the environment has it
(`get_override_valuesOf`). So the settings are valid unless one of the two options was last given
such a text (`started_settings_valid`).
-/

namespace SliceAgent

/-- A text that an option takes, although its setting may not have the value: no driver at all, or
no number for an interval. -/
def SettingOption.PassesUnchecked : SettingOption → String → Prop
  | .driverName, text => text = ""
  | .rescanInterval, text => IsNaNWord (Text.dropEnds Text.isSpace text.toList)
  | _, _ => False

instance (o : SettingOption) (text : String) : Decidable (o.PassesUnchecked text) :=
  match o with
  | .driverName => inferInstanceAs (Decidable (text = ""))
  | .rescanInterval => inferInstanceAs (Decidable (IsNaNWord _))
  | .nodeName | .classPath | .kubeconfig | .dryRun | .metricsPort | .logLevel | .logFormat =>
    inferInstanceAs (Decidable False)

namespace Binary64

theorem isPositive_of_isNaN {x : Binary64} (h : x.isNaN = true) : x.isPositive = false := by
  rw [isNaN, decide_eq_true_eq] at h
  rw [isPositive, h]

end Binary64

namespace CommandLine

variable {t : FileTree} {env : Environment} {args : List String}

/-- An option was last given a text that passes unchecked. -/
def Parsed.Slips (p : Parsed) (o : SettingOption) : Prop :=
  ∃ text ∈ p.lastValue? (.setting o), o.PassesUnchecked text

instance (p : Parsed) (o : SettingOption) : Decidable (p.Slips o) :=
  inferInstanceAs (Decidable (∃ text ∈ p.lastValue? (.setting o), o.PassesUnchecked text))

/-! ### The value of an option -/

section Value

variable {text : String} {v : Json}

theorem pathOfText_eq_ok (h : pathOfText text = .ok v) : ∃ p : Path, v = .text p.text := by
  unfold pathOfText at h
  split at h
  · cases h
  · exact ⟨.ofText text, (Except.ok.inj h).symm⟩

theorem readablePathOfText_eq_ok (h : readablePathOfText t text = .ok v) :
    ∃ p : Path, v = .text p.text := by
  obtain ⟨path, hpath, hreadable⟩ := bind_eq_ok.mp h
  split at hreadable
  · obtain rfl := Except.ok.inj hreadable
    exact pathOfText_eq_ok hpath
  · cases hreadable

theorem fileOfText_eq_ok (h : fileOfText t text = .ok v) : ∃ p : Path, v = .text p.text := by
  obtain ⟨path, hpath, hfile⟩ := bind_eq_ok.mp h
  split at hfile
  · cases hfile
  · split at hfile
    · cases hfile
    · split at hfile
      · obtain rfl := Except.ok.inj hfile
        exact pathOfText_eq_ok hpath
      · cases hfile

theorem intervalOfText_eq_ok (h : intervalOfText text = .ok v) :
    ∃ x, floatOfText? text = some x ∧ v = .float x ∧ (x.isNaN = true ∨ x.isPositive = true) := by
  unfold intervalOfText at h
  split at h
  · cases h
  · rename_i x hx
    split at h
    · rename_i hpass
      exact ⟨x, hx, (Except.ok.inj h).symm, by simpa using hpass⟩
    · cases h

/-- An interval that an option takes is positive, unless its text is the word for no number. -/
theorem allows_iff_of_intervalOfText (h : intervalOfText text = .ok v) :
    SettingOption.rescanInterval.Allows v ↔
      ¬IsNaNWord (Text.dropEnds Text.isSpace text.toList) := by
  obtain ⟨x, hx, rfl, hpass⟩ := intervalOfText_eq_ok h
  have hword : IsNaNWord (Text.dropEnds Text.isSpace text.toList) ↔ x.isNaN = true := by
    rw [← floatOfText?_isNaN_iff, hx]
    simp
  rw [hword]
  constructor
  · rintro ⟨y, hy, hpositive⟩ hnan
    obtain rfl := Json.float.inj hy
    rw [Binary64.isPositive_of_isNaN hnan] at hpositive
    cases hpositive
  · exact fun hnan => ⟨x, rfl, hpass.resolve_left hnan⟩

theorem portOfText_eq_ok (h : portOfText text = .ok v) :
    ∃ n, v = .int n ∧ Settings.portMin ≤ n ∧ n ≤ Settings.portMax := by
  unfold portOfText at h
  split at h
  · cases h
  split at h
  · rename_i n _ hrange
    exact ⟨n, (Except.ok.inj h).symm, hrange⟩
  · cases h

theorem levelOfText_eq_ok (h : levelOfText text = .ok v) :
    ∃ s ∈ Settings.logLevels, v = .text s := by
  unfold levelOfText at h
  dsimp only at h
  split at h
  · rename_i level hfound
    exact ⟨level, List.mem_of_find?_eq_some hfound, (Except.ok.inj h).symm⟩
  · cases h

theorem formatOfText_eq_ok (h : formatOfText text = .ok v) :
    ∃ s ∈ Settings.logFormats, v = .text s := by
  unfold formatOfText at h
  split at h
  · rename_i hmem
    exact ⟨text, hmem, (Except.ok.inj h).symm⟩
  · cases h

/-- **A value that an option takes** is one that its setting may have, unless the text passes
unchecked. -/
theorem allows_iff_of_valueOfText {o : SettingOption} (h : valueOfText t o text = .ok v) :
    o.Allows v ↔ ¬o.PassesUnchecked text := by
  cases o with
  | driverName =>
    obtain rfl := Except.ok.inj h
    simp [SettingOption.Allows, SettingOption.PassesUnchecked]
  | nodeName => exact iff_of_true ⟨text, (Except.ok.inj h).symm⟩ id
  | classPath => exact iff_of_true (readablePathOfText_eq_ok h) id
  | rescanInterval => exact allows_iff_of_intervalOfText (mapError_eq_ok_iff.mp h)
  | kubeconfig => exact iff_of_true (.inr (fileOfText_eq_ok h)) id
  | dryRun => exact iff_of_true ⟨true, (Except.ok.inj h).symm⟩ id
  | metricsPort => exact iff_of_true (portOfText_eq_ok (mapError_eq_ok_iff.mp h)) id
  | logLevel => exact iff_of_true (levelOfText_eq_ok (mapError_eq_ok_iff.mp h)) id
  | logFormat => exact iff_of_true (formatOfText_eq_ok (mapError_eq_ok_iff.mp h)) id

theorem ne_null_of_valueOfText {o : SettingOption} (h : valueOfText t o text = .ok v) :
    v ≠ .null := by
  rintro rfl
  cases o with
  | driverName | nodeName | dryRun => cases h
  | classPath =>
    obtain ⟨path, hpath⟩ := readablePathOfText_eq_ok h
    cases hpath
  | rescanInterval =>
    obtain ⟨x, -, hx, -⟩ := intervalOfText_eq_ok (mapError_eq_ok_iff.mp h)
    cases hx
  | kubeconfig =>
    obtain ⟨path, hpath⟩ := fileOfText_eq_ok h
    cases hpath
  | metricsPort =>
    obtain ⟨n, hn, -⟩ := portOfText_eq_ok (mapError_eq_ok_iff.mp h)
    cases hn
  | logLevel =>
    obtain ⟨s, -, hs⟩ := levelOfText_eq_ok (mapError_eq_ok_iff.mp h)
    cases hs
  | logFormat =>
    obtain ⟨s, -, hs⟩ := formatOfText_eq_ok (mapError_eq_ok_iff.mp h)
    cases hs

end Value

/-! ### The values of all options -/

/-- The values of options are those of their texts, and no option that has a text is left out. -/
theorem valuesOf_spec {p : Parsed} {options : List SettingOption}
    {values : List (SettingOption × Json)} (h : valuesOf t env p options = .ok values) :
    (∀ e ∈ values, ∃ text, textOf? env p e.1 = some text ∧ valueOfText t e.1 text = .ok e.2) ∧
      ∀ o ∈ options, ∀ text, textOf? env p o = some text → ∃ v, (o, v) ∈ values := by
  induction options generalizing values with
  | nil =>
    obtain rfl := Except.ok.inj h
    simp
  | cons first rest ih =>
    rw [valuesOf] at h
    split at h
    · rename_i hnone
      obtain ⟨hvalues, hoptions⟩ := ih h
      refine ⟨hvalues, List.forall_mem_cons.mpr ⟨fun text htext => ?_, hoptions⟩⟩
      cases hnone.symm.trans htext
    · rename_i text htext
      split at h
      · cases h
      · rename_i v hvalue
        cases hrest : valuesOf t env p rest with
        | error fault => rw [hrest] at h; cases h
        | ok values' =>
          rw [hrest] at h
          obtain rfl := Except.ok.inj h
          obtain ⟨hvalues, hoptions⟩ := ih hrest
          refine ⟨List.forall_mem_cons.mpr ⟨⟨text, htext, hvalue⟩, hvalues⟩,
            List.forall_mem_cons.mpr ⟨fun _ _ => ⟨v, List.mem_cons_self⟩, fun o ho s hs => ?_⟩⟩
          obtain ⟨w, hw⟩ := hoptions o ho s hs
          exact ⟨w, List.mem_cons_of_mem _ hw⟩

theorem mem_settingOrder (p : Parsed) (o : SettingOption) : o ∈ settingOrder p := by
  rw [settingOrder, List.mem_eraseDups, List.mem_filterMap]
  refine ⟨.setting o, List.mem_append_right _ ?_, rfl⟩
  cases o <;> decide

/-- The value of an option, when the texts of the command line are laid over settings. -/
theorem get_override_valuesOf {p : Parsed} {values : List (SettingOption × Json)}
    (h : valuesOf t env p (settingOrder p) = .ok values) (s : Settings) (o : SettingOption) :
    (textOf? env p o = none ∧ (s.override values).get o = s.get o) ∨
      ∃ text, textOf? env p o = some text ∧
        valueOfText t o text = .ok ((s.override values).get o) := by
  obtain ⟨hvalues, hoptions⟩ := valuesOf_spec h
  rw [Settings.get_override]
  cases hlast : Settings.lastGiven? values o with
  | some v =>
    obtain ⟨⟨o', v'⟩, hfound, rfl⟩ := Option.map_eq_some_iff.mp hlast
    obtain ⟨rfl, -⟩ : o' = o ∧ v' ≠ .null := by simpa using List.find?_some hfound
    have hmem : (o', v') ∈ values := List.mem_reverse.mp (List.mem_of_find?_eq_some hfound)
    exact .inr (hvalues _ hmem)
  | none =>
    refine .inl ⟨Option.eq_none_iff_forall_ne_some.mpr fun text htext => ?_, rfl⟩
    obtain ⟨v, hv⟩ := hoptions o (mem_settingOrder p o) text htext
    obtain ⟨text', -, hvalue⟩ := hvalues _ hv
    -- A value that was given is not `null`, so it would have been found.
    have hmem : (o, v) ∈ values.reverse := List.mem_reverse.mpr hv
    have hfound := List.find?_eq_none.mp (Option.map_eq_none_iff.mp hlast) _ hmem
    exact hfound (by simpa using ne_null_of_valueOfText hvalue)

/-- A text that passes unchecked is always that of an option: the variable is only for the node. -/
theorem Parsed.slips_iff (env : Environment) (p : Parsed) (o : SettingOption) :
    p.Slips o ↔ ∃ text, textOf? env p o = some text ∧ o.PassesUnchecked text := by
  cases hlast : p.lastValue? (.setting o) with
  | some text =>
    rw [Slips, textOf?, hlast]
    rfl
  | none =>
    refine iff_of_false ?_ ?_
    · rintro ⟨text, htext, -⟩
      cases hlast.symm.trans htext
    · rintro ⟨text, htext, hpasses⟩
      rw [textOf?, hlast] at htext
      dsimp only at htext
      split at htext
      · subst o
        exact hpasses
      · cases htext

/-- **An option over valid settings** has a value that it may have, exactly if it was not given a
text that passes unchecked. -/
theorem allows_iff_of_valuesOf {p : Parsed} {values : List (SettingOption × Json)} {s : Settings}
    (h : valuesOf t env p (settingOrder p) = .ok values) (hvalid : s.IsValid) (o : SettingOption) :
    o.Allows ((s.override values).get o) ↔ ¬p.Slips o := by
  rw [p.slips_iff env]
  rcases get_override_valuesOf h s o with ⟨hnone, hget⟩ | ⟨text, htext, hvalue⟩
  · rw [hget, hnone]
    exact iff_of_true ((Settings.isValid_iff.mp hvalid).1 o) (by simp)
  · rw [allows_iff_of_valueOfText hvalue, htext]
    simp

/-! ### Starting -/

theorem read_eq_start {overrides : List (SettingOption × Json)}
    (h : read t env args = .ok (.start overrides)) :
    ∃ p, parse args = .ok p ∧ valuesOf t env p (settingOrder p) = .ok overrides := by
  rw [read] at h
  obtain ⟨p, hp, h⟩ := bind_eq_ok.mp h
  refine ⟨p, mapError_eq_ok_iff.mp hp, ?_⟩
  split at h
  · cases h
  obtain ⟨values, hvalues, h⟩ := bind_eq_ok.mp h
  dsimp only at h
  split at h
  · cases h
  split at h
  · cases h
  · cases h
    exact hvalues

theorem plan_eq_start {s : Settings} (h : plan t env args = .start s) :
    ∃ p values loaded, parse args = .ok p ∧ valuesOf t env p (settingOrder p) = .ok values ∧
      Settings.ofEnvironment env = .ok loaded ∧ s = loaded.override values ∧
      s.driver.nodeName.isTruthy = true := by
  unfold plan at h
  split at h
  · cases h
  · cases h
  · cases h
  · cases h
  · rename_i values hread
    obtain ⟨p, hparse, hvalues⟩ := read_eq_start hread
    split at h
    · cases h
    · rename_i loaded hloaded
      unfold planOfSettings at h
      dsimp only at h
      split at h
      · rename_i hnode
        cases h
        exact ⟨p, values, loaded, hparse, hvalues, hloaded, rfl, hnode⟩
      · cases h

end CommandLine

open CommandLine in
/-- **An agent starts with valid settings, unless an option passes unchecked.** Settings that the
environment gives are valid. When the program starts an agent, the agent has a node, and each
setting is what it may be, exactly if its option was not last given a text that passes unchecked;
the settings without an option always are. -/
theorem started_settings_valid (t : FileTree) (env : Environment) (args : List String) :
    (∀ s, Settings.ofEnvironment env = .ok s → s.IsValid) ∧
      ∀ s, plan t env args = .start s →
        (∃ node, s.driver.nodeName = .text node ∧ node ≠ "") ∧
          ∃ p, parse args = .ok p ∧ (∀ o : SettingOption, o.Allows (s.get o) ↔ ¬p.Slips o) ∧
            (∀ f : FixedSetting, f.Allows (s.getFixed f)) ∧ (s.IsValid ↔ ∀ o, ¬p.Slips o) := by
  refine ⟨fun s => Settings.isValid_of_ofEnvironment, fun s hplan => ?_⟩
  obtain ⟨p, values, loaded, hparse, hvalues, hloaded, rfl, hnode⟩ := plan_eq_start hplan
  have hvalid : loaded.IsValid := Settings.isValid_of_ofEnvironment hloaded
  have hoption := allows_iff_of_valuesOf hvalues hvalid
  have hfixed (f : FixedSetting) : f.Allows ((loaded.override values).getFixed f) := by
    rw [Settings.getFixed_override]
    exact (Settings.isValid_iff.mp hvalid).2 f
  refine ⟨?_, p, hparse, hoption, hfixed, ?_⟩
  · -- No text for the node passes unchecked, so the node is a text.
    obtain ⟨node, htext⟩ := (hoption .nodeName).mpr fun ⟨_, _, hpasses⟩ => hpasses
    change (loaded.override values).driver.nodeName = .text node at htext
    refine ⟨node, htext, ?_⟩
    rintro rfl
    rw [htext] at hnode
    cases hnode
  · rw [Settings.isValid_iff]
    exact ⟨fun h o => (hoption o).mp (h.1 o), fun h => ⟨fun o => (hoption o).mpr (h o), hfixed⟩⟩

/-- An agent that gets its node from a variable, and options on top of other variables. -/
theorem started_settings_valid_of_options :
    let env : Environment :=
      [("NODE_NAME", "node-a"), ("ACCEL_DRA_SERVER__METRICS_PORT", "9100"),
        ("ACCEL_DRA_DISCOVERY__RESCAN_INTERVAL_SECONDS", "10")]
    let args := ["--log-level", "debug", "--rescan-interval", "2.5", "--dry-run"]
    let s : Settings :=
      { driver := { nodeName := .text "node-a" }
        discovery := { rescanInterval := .float ⟨0x4004000000000000⟩ }
        cluster := { dryRun := .bool true }
        server := { metricsPort := .int 9100 }
        observability := { logLevel := .text "DEBUG" } }
    CommandLine.plan ⟨[], []⟩ env args = .start s ∧ s.IsValid := by
  intro env args s
  have hplan : CommandLine.plan ⟨[], []⟩ env args = .start s := by decide +kernel
  obtain ⟨-, p, hparse, -, -, hvalid⟩ := (started_settings_valid ⟨[], []⟩ env args).2 s hplan
  have hp : p =
      { given := [⟨.setting .logLevel, some "debug"⟩, ⟨.setting .rescanInterval, some "2.5"⟩,
          ⟨.setting .dryRun, none⟩] } :=
    Except.ok.inj (hparse.symm.trans (by decide +kernel))
  subst hp
  exact ⟨hplan, hvalid.mpr fun o => by cases o <;> decide⟩

/-- A driver without a name and an interval that is no number are not refused. -/
theorem started_settings_unchecked :
    (∃ s, CommandLine.plan ⟨[], []⟩ [] ["--node-name", "n", "--driver-name", ""] = .start s ∧
        ¬s.IsValid) ∧
      ∃ s, CommandLine.plan ⟨[], []⟩ [] ["--node-name", "n", "--rescan-interval", "nan"] =
          .start s ∧ ¬s.IsValid := by
  refine ⟨⟨{ driver := { name := .text "", nodeName := .text "n" } }, by decide +kernel,
      fun h => ?_⟩,
    ⟨{ driver := { nodeName := .text "n" }, discovery := { rescanInterval := .float .nan } },
      by decide +kernel, fun h => ?_⟩⟩
  · obtain ⟨name, hname, hne⟩ := h.driver.name
    exact hne (Json.text.inj hname).symm
  · obtain ⟨x, hx, hpositive⟩ := h.discovery.rescanInterval
    obtain rfl := Json.float.inj hx
    exact absurd hpositive (by decide)

end SliceAgent
