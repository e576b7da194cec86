import CoreProver.Settings
import Mathlib.Tactic.Common

/-!
# What settings files say

Settings come from a file, or there are none. The default solvers of a file are kept without
repetition, and the settings of an engine are those of one of its sections, with the path of the
program taken from the directory of the file unless it is absolute or a bare name.
-/

namespace CoreProver

namespace Registry

theorem lookup_filter_ne {e other : Engine} (h : other ≠ e)
    (entries : List (Engine × EngineSettings)) :
    (entries.filter fun entry => entry.1 ≠ e).lookup other = entries.lookup other := by
  induction entries with
  | nil => rfl
  | cons entry rest ih => by_cases hentry : entry.1 = e <;> grind

theorem settings_configure (r : Registry) (e other : Engine) (s : EngineSettings) :
    (r.configure e s).settings other = if other = e then s else r.settings other := by
  by_cases h : other = e
  · simp [configure, settings, h]
  · simp only [configure, settings, List.lookup_cons, beq_eq_false_iff_ne.2 h, lookup_filter_ne h,
      if_neg h]

end Registry

namespace SettingsFile

/-- What a file says about the path of the program of an engine: the entry in one of the sections of
the engine, or nothing if it has no section. -/
def PathEntry (file : SettingsFile) (e : Engine) (entry : Option String) : Prop :=
  (∃ name s, (name, s) ∈ file.engines ∧ Engine.parse name = .ok e ∧ s.path = entry) ∨
    (entry = none ∧ ∀ name s, (name, s) ∈ file.engines → Engine.parse name ≠ .ok e)

end SettingsFile

namespace Settings

theorem selectors_eq_ok_iff (origin : String) (names : List String) (solvers : List Selector) :
    selectors origin names = .ok solvers ↔
      ∃ named, names.mapM Selector.parse = .ok named ∧ solvers = distinct named := by
  unfold selectors
  cases names.mapM Selector.parse with
  | error e => simp
  | ok named => simp [eq_comm]

/-- After all sections are taken, an engine is set by one of its sections, or it is set as before
and has no section. -/
theorem settings_of_configureAll {origin : String} {r registry : Registry}
    {sections : List (String × EngineSection)} (h : configureAll origin r sections = .ok registry)
    (e : Engine) :
    (∃ name s, (name, s) ∈ sections ∧ Engine.parse name = .ok e ∧
      registry.settings e = ⟨s.path.map (resolvePath (directory origin)), s.timeout, s.args⟩) ∨
    (registry.settings e = r.settings e ∧
      ∀ name s, (name, s) ∈ sections → Engine.parse name ≠ .ok e) := by
  induction sections generalizing r with
  | nil =>
    obtain rfl : r = registry := by simpa [configureAll] using h
    exact .inr ⟨rfl, by simp⟩
  | cons first rest ih =>
    obtain ⟨name, s⟩ := first
    unfold configureAll at h
    cases hparse : Engine.parse name with
    | error why => simp [hparse] at h
    | ok engine =>
      simp only [hparse] at h
      rcases ih h with ⟨name', s', hmem, hlater⟩ | ⟨hset, hlater⟩
      · exact .inl ⟨name', s', List.mem_cons_of_mem _ hmem, hlater⟩
      rw [Registry.settings_configure] at hset
      by_cases he : e = engine
      · subst he
        exact .inl ⟨name, s, List.mem_cons_self, hparse, by simpa using hset⟩
      · refine .inr ⟨by simpa [he] using hset, ?_⟩
        simp only [List.mem_cons, Prod.mk.injEq]
        rintro name' s' (⟨rfl, rfl⟩ | hmem)
        · simpa [hparse, eq_comm] using he
        · exact hlater name' s' hmem

/-- The settings of a file are its default solvers and the registry of its sections, taken in some
order. -/
theorem exists_of_ofFile {origin : String} {file : SettingsFile} {settings : Settings}
    (h : ofFile origin file = .ok settings) :
    ∃ solvers sections registry, selectors origin file.solvers = .ok solvers ∧
      sections.Perm file.engines ∧ configureAll origin .empty sections = .ok registry ∧
      settings = ⟨some origin, solvers, file.warnIfFails, registry⟩ := by
  unfold ofFile at h
  cases hsolvers : selectors origin file.solvers with
  | error e => simp [hsolvers, bind, Except.bind] at h
  | ok solvers =>
    rw [hsolvers] at h
    change (configureAll origin .empty _).bind _ = _ at h
    generalize hsections : file.engines.mergeSort _ = sections at h
    have hperm : sections.Perm file.engines := hsections ▸ List.mergeSort_perm _ _
    cases hregistry : configureAll origin .empty sections with
    | error e => simp [hregistry, Except.bind] at h
    | ok registry =>
      refine ⟨solvers, sections, registry, rfl, hperm, hregistry, ?_⟩
      simpa [hregistry, Except.bind, pure, Except.pure, eq_comm] using h

theorem exists_file_of_parse {text origin : String} {settings : Settings}
    (h : parse text origin = .ok settings) :
    ∃ file, (Toml.parse? text).bind SettingsFile.ofTable? = some file ∧
      ofFile origin file = .ok settings := by
  unfold parse at h
  cases hfile : (Toml.parse? text).bind SettingsFile.ofTable? with
  | none => simp [hfile] at h
  | some file => exact ⟨file, rfl, by simpa [hfile] using h⟩

/-- The path of a program is the one in the file, as seen from the directory of the file. -/
theorem exists_pathEntry_of_parse {text origin : String} {settings : Settings}
    (h : parse text origin = .ok settings) :
    ∃ file, (Toml.parse? text).bind SettingsFile.ofTable? = some file ∧
      ∀ e, ∃ entry, file.PathEntry e entry ∧
        (settings.registry.settings e).path = entry.map (resolvePath (directory origin)) := by
  obtain ⟨file, hread, hfile⟩ := exists_file_of_parse h
  obtain ⟨solvers, sections, registry, -, hperm, hregistry, rfl⟩ := exists_of_ofFile hfile
  refine ⟨file, hread, fun e => ?_⟩
  rcases settings_of_configureAll hregistry e with ⟨name, s, hmem, hname, hset⟩ | ⟨hset, hnone⟩
  · exact ⟨s.path, .inl ⟨name, s, hperm.mem_iff.1 hmem, hname, rfl⟩, by rw [hset]⟩
  · refine ⟨none, .inr ⟨rfl, fun name s hmem => hnone name s (hperm.mem_iff.2 hmem)⟩, ?_⟩
    rw [hset]
    rfl

/-- Settings are those of a file, or none are set. -/
theorem eq_default_or_parse_of_load {host : Host} {explicit : Option String} {start : String}
    {settings : Settings} (h : load host explicit start = .ok settings) :
    settings = default ∨ ∃ text origin, parse text origin = .ok settings := by
  unfold load at h
  cases hpath : explicit.or (find? host start) with
  | none =>
    left
    simpa [hpath, eq_comm] using h
  | some path =>
    right
    cases hread : host.read path with
    | error why => simp [hpath, hread] at h
    | ok text => exact ⟨text, path, by simpa [hpath, hread] using h⟩

theorem nodup_defaultSolvers {host : Host} {explicit : Option String} {start : String}
    {settings : Settings} (h : load host explicit start = .ok settings) :
    settings.defaultSolvers.Nodup := by
  rcases eq_default_or_parse_of_load h with rfl | ⟨text, origin, hparse⟩
  · exact List.nodup_nil
  · obtain ⟨file, -, hfile⟩ := exists_file_of_parse hparse
    obtain ⟨solvers, -, -, hsolvers, -, -, rfl⟩ := exists_of_ofFile hfile
    obtain ⟨named, -, rfl⟩ := (selectors_eq_ok_iff origin file.solvers solvers).1 hsolvers
    exact nodup_distinct named

end Settings

end CoreProver
