import Mathlib.Data.List.Nodup
import Metering.Proofs.Report.Reporter

/-!
# Metering — reporters that are built in

What a built-in reporter is to be like can be read off its settings. Nothing but the host decides
whether it is built: once it is built, it is as the settings say.

* `NameFilter.read_error` — filters that cannot be read;
* `BuiltIn.Describes` — a reporter is as the settings of a built-in one say;
* `BuiltIn.build_off`, `BuiltIn.build_on` — what becomes of settings that are off, and of others;
* `BuiltIn.last?` — the last of several settings that is on, among those of a name.
-/

namespace Metering

open Report

/-! ## Filters that cannot be read -/

/-- When elements are mapped in turn, a failure is that of one of them. -/
theorem exists_of_mapM_error {α β ε : Type} {f : α → Except ε β} {as : List α} {e : ε}
    (h : as.mapM f = .error e) : ∃ a ∈ as, f a = .error e := by
  induction as with
  | nil => cases h
  | cons a rest ih =>
    rw [List.mapM_cons] at h
    cases hFirst : f a with
    | error first =>
      rw [hFirst] at h
      cases h
      exact ⟨a, List.mem_cons_self, hFirst⟩
    | ok b =>
      cases hRest : rest.mapM f with
      | error other =>
        rw [hFirst, hRest] at h
        cases h
        obtain ⟨c, hMem, hc⟩ := ih hRest
        exact ⟨c, List.mem_cons_of_mem a hMem, hc⟩
      | ok bs =>
        rw [hFirst, hRest] at h
        cases h

namespace Report

variable {reporter : String} {fault : ReportFault}

theorem Matcher.ofSet_error {useExpressions : Bool} {names : NameSet}
    (h : Matcher.ofSet useExpressions reporter names = .error fault) :
    ∃ expression, fault = .build reporter (.badExpression expression) := by
  rw [ofSet] at h
  split at h
  · cases hNames : names.names.mapM (readOne reporter) with
    | ok ps =>
      rw [hNames] at h
      cases h
    | error first =>
      rw [hNames] at h
      cases h
      obtain ⟨expression, -, hOne⟩ := exists_of_mapM_error hNames
      rw [readOne] at hOne
      split at hOne
      · cases hOne
      · cases hOne
        exact ⟨expression, rfl⟩
  · cases h

/-- A filter is refused because of one of its expressions. -/
theorem NameFilter.read_error {filter : NameFilter} (h : filter.read reporter = .error fault) :
    ∃ expression, fault = .build reporter (.badExpression expression) := by
  rw [NameFilter.read] at h
  cases hIncludes : Matcher.ofSet filter.useExpressions reporter filter.includes with
  | error first =>
    rw [hIncludes] at h
    cases h
    exact Matcher.ofSet_error hIncludes
  | ok includes =>
    cases hExcludes : Matcher.ofSet filter.useExpressions reporter filter.excludes with
    | error first =>
      rw [hIncludes, hExcludes] at h
      cases h
      exact Matcher.ofSet_error hExcludes
    | ok excludes =>
      rw [hIncludes, hExcludes] at h
      cases h

end Report

/-! ## Building -/

theorem ReporterSettings.checkEnabled_off {r : ReporterSettings} (h : r.enabled = false) :
    r.checkEnabled = .error (.disabled r.name) := by
  rw [checkEnabled, h, if_neg Bool.false_ne_true]

theorem ReporterSettings.checkEnabled_on {r : ReporterSettings} (h : r.enabled = true) :
    r.checkEnabled = .ok () := by
  rw [checkEnabled, if_pos h]

/-- What is checked of the settings of every reporter that is on: the period and the filter. -/
def ReporterSettings.checks (r : ReporterSettings) : Except ReportFault Selection := do
  r.checkPeriod
  r.filter.read r.name

/-- The checks fail with a defect, or the filter can be read. -/
theorem ReporterSettings.checks_cases (r : ReporterSettings) :
    (∃ defect, r.checks = .error (.build r.name defect)) ∨
    ∃ selection, r.checks = .ok selection ∧ r.filter.read r.name = .ok selection := by
  rw [checks, checkPeriod]
  split
  · exact .inl ⟨_, rfl⟩
  · cases hRead : r.filter.read r.name with
    | error fault =>
      obtain ⟨expression, rfl⟩ := Report.NameFilter.read_error hRead
      exact .inl ⟨_, rfl⟩
    | ok selection => exact .inr ⟨selection, rfl, rfl⟩

/-- The directory for tables cannot be had for a reason of the reporter's own. -/
theorem prepareDirectory_error {files after : Files} {reporter path : String} {fault : ReportFault}
    (h : prepareDirectory files reporter path = (after, .error fault)) (name : String) :
    fault ≠ .disabled name := by
  rw [prepareDirectory] at h
  split at h
  split at h
  · cases h
    exact nofun
  · split at h
    · cases h
    · cases h
      exact nofun

namespace BuiltIn

variable {b : BuiltIn}

/-- What the settings have in common with those of all reporters. -/
def common : BuiltIn → ReporterSettings
  | console r => r
  | log r => r.toReporterSettings
  | tables r => r.toReporterSettings

/-- Where the reporter is to write to. -/
def sink : BuiltIn → Sink
  | console _ => .console
  | log r => .log r.target r.format
  | tables r => .tables (r.location.getD "")

/-- A reporter has the name, the period, the filter and the sink that settings ask for. -/
structure Describes (b : BuiltIn) (p : Polled) : Prop where
  name : p.name = b.common.name
  period : p.period = b.common.period.toNat
  selection : b.common.filter.read b.common.name = .ok p.selection
  sink : p.sink = b.sink

/-- Settings that are off are refused at once. -/
theorem build_off (h : b.common.enabled = false) (host : Host) :
    b.build host none = (host, .error (.disabled b.common.name)) := by
  have hOff : b.common.checkEnabled = .error (.disabled b.common.name) :=
    ReporterSettings.checkEnabled_off h
  cases b with
  | console r =>
    have hOff : r.checkEnabled = .error (.disabled r.name) := hOff
    rw [build, ReporterSettings.build, hOff]
    rfl
  | log r =>
    have hOff : r.checkEnabled = .error (.disabled r.name) := hOff
    rw [build, LogSettings.build, hOff]
    rfl
  | tables r =>
    have hOff : r.checkEnabled = .error (.disabled r.name) := hOff
    rw [build, TableSettings.build, hOff]
    rfl

/-- Settings are refused with a fault that does not say that they are off, or the reporter is as
they say. -/
def Built (b : BuiltIn) (outcome : Except ReportFault Polled) : Prop :=
  (∃ fault, outcome = .error fault ∧ ∀ name, fault ≠ .disabled name) ∨
    ∃ p, outcome = .ok p ∧ b.Describes p

theorem built_error (name : String) (defect : BuildDefect) :
    b.Built (.error (.build name defect)) :=
  .inl ⟨_, rfl, fun _ h => by cases h⟩

/-- Where the checks that all reporters have in common fail, settings are refused; where they do
not, it depends on what is built of the filter. -/
theorem built_bind {next : Selection → Except ReportFault Polled}
    (h : ∀ selection, b.common.filter.read b.common.name = .ok selection →
      b.Built (next selection)) :
    b.Built (b.common.checks.bind next) := by
  rcases b.common.checks_cases with ⟨defect, hChecks⟩ | ⟨selection, hChecks, hRead⟩
  · rw [hChecks]
    exact built_error b.common.name defect
  · rw [hChecks]
    exact h selection hRead

theorem built_console {r : ReporterSettings} (h : r.enabled = true) (host : Host) :
    (console r).Built (r.build host none).2 := by
  have hBuild : (r.build host none).2 =
      r.checks.bind fun selection => .ok (r.polled selection .console) := by
    rw [ReporterSettings.build, ReporterSettings.checkEnabled_on h, ReporterSettings.checks]
    cases r.checkPeriod with
    | error fault => rfl
    | ok u => cases r.filter.read r.name <;> rfl
  rw [hBuild]
  exact built_bind fun selection hRead => .inr ⟨_, rfl, rfl, rfl, hRead, rfl⟩

theorem built_log {r : LogSettings} (h : r.enabled = true) (host : Host) :
    (log r).Built (r.build host).2 := by
  have hBuild : (r.build host).2 =
      if Text.trimmed r.target.toList = [] then .error (.build r.name .noTarget)
      else r.checks.bind fun selection => .ok (r.polled selection (.log r.target r.format)) := by
    rw [LogSettings.build, ReporterSettings.checkEnabled_on h, ReporterSettings.checks]
    by_cases hTarget : Text.trimmed r.target.toList = []
    · rw [if_pos hTarget, if_pos hTarget]
      rfl
    · rw [if_neg hTarget, if_neg hTarget]
      cases r.checkPeriod with
      | error fault => rfl
      | ok u => cases r.filter.read r.name <;> rfl
  rw [hBuild]
  split
  · exact built_error r.name .noTarget
  · exact built_bind fun selection hRead => .inr ⟨_, rfl, rfl, rfl, hRead, rfl⟩

theorem built_tables {r : TableSettings} (h : r.enabled = true) (host : Host) :
    (tables r).Built (r.build host).2 := by
  cases hLocation : r.location.filter (· ≠ "") with
  | none =>
    rw [TableSettings.build, ReporterSettings.checkEnabled_on h, hLocation]
    exact built_error r.name .noLocation
  | some location =>
    have hPath : r.location = some location := (Option.filter_eq_some_iff.mp hLocation).1
    -- the checks are those of all reporters; what is left to fail is the directory
    have hBuild : (r.build host).2 = r.checks.bind fun selection =>
        (prepareDirectory host.files r.name location).2.map fun _ =>
          r.polled selection (.tables location) := by
      rw [TableSettings.build, ReporterSettings.checkEnabled_on h, hLocation,
        ReporterSettings.checks]
      cases r.checkPeriod with
      | error fault => rfl
      | ok u =>
        cases r.filter.read r.name with
        | error fault => rfl
        | ok selection =>
          dsimp only [bind, Except.bind, pure, Except.pure]
          cases prepareDirectory host.files r.name location with
          | mk files made => cases made <;> rfl
    rw [hBuild]
    refine built_bind fun selection hRead => ?_
    cases hDirectory : (prepareDirectory host.files r.name location).2 with
    | error fault => exact .inl ⟨_, rfl, prepareDirectory_error (Prod.ext rfl hDirectory)⟩
    | ok u =>
      have hSink : (r.polled selection (.tables location)).sink = (tables r).sink := by
        rw [sink, hPath]
        rfl
      exact .inr ⟨_, rfl, rfl, rfl, hRead, hSink⟩

/-- What becomes of settings that are on. -/
theorem build_on (h : b.common.enabled = true) (host : Host) : b.Built (b.build host none).2 := by
  cases b with
  | console r => exact built_console h host
  | log r => exact built_log h host
  | tables r => exact built_tables h host

/-! ## The last of a name -/

/-- The last of several settings that is on, among those of a name. -/
def last? (bs : List BuiltIn) (name : String) : Option BuiltIn :=
  (bs.filter fun b => b.common.enabled && b.common.name == name).getLast?

theorem last?_append_singleton (bs : List BuiltIn) (b : BuiltIn) (name : String) :
    last? (bs ++ [b]) name =
      if b.common.enabled = true ∧ b.common.name = name then some b else last? bs name := by
  rw [last?, List.filter_append]
  by_cases hOn : b.common.enabled = true ∧ b.common.name = name
  · rw [if_pos hOn]
    simp [hOn]
  · have hOff : (b.common.enabled && b.common.name == name) = false := by
      simpa using hOn
    rw [if_neg hOn, List.filter_cons_of_neg (by simp [hOff]), List.filter_nil, List.append_nil,
      last?]

theorem mem_of_last? {bs : List BuiltIn} {name : String} (h : last? bs name = some b) :
    b ∈ bs ∧ b.common.enabled = true ∧ b.common.name = name := by
  obtain ⟨hMem, hBoth⟩ := List.mem_filter.mp (List.mem_of_getLast? h)
  rw [Bool.and_eq_true, beq_iff_eq] at hBoth
  exact ⟨hMem, hBoth.1, hBoth.2⟩

/-- Where no two settings that are on have a name in common, each of them is the last of its
name. -/
theorem last?_of_nodup {bs : List BuiltIn}
    (hNodup : ((bs.filter fun b => b.common.enabled).map fun b => b.common.name).Nodup)
    (hMem : b ∈ bs) (hOn : b.common.enabled = true) : last? bs b.common.name = some b := by
  have hListed : b ∈ bs.filter fun c => c.common.enabled && c.common.name == b.common.name :=
    List.mem_filter.mpr ⟨hMem, by simp [hOn]⟩
  cases hLast : last? bs b.common.name with
  | none =>
    rw [List.getLast?_eq_none_iff.mp hLast] at hListed
    cases hListed
  | some c =>
    -- the last one has the same name, and so the two are one
    obtain ⟨hOther, hOther', hName⟩ := mem_of_last? hLast
    have hSame : c = b := List.inj_on_of_nodup_map hNodup
      (List.mem_filter.mpr ⟨hOther, hOther'⟩) (List.mem_filter.mpr ⟨hMem, hOn⟩) hName
    rw [hSame]

end BuiltIn

end Metering
