import CoreProver.Proofs.Host.Programs
import CoreProver.Proofs.Settings

/-!
# Engines that are there and engines that can be started

An engine counts as installed if the path in its settings leads somewhere, or if its usual program
is looked up with success. It can be started if the machine finds the program that its backend
runs. The two agree for every path of several components. A bare name in a settings file tells them
apart: it is tested as a file in the working directory and started by a look-up.
-/

namespace CoreProver

namespace Settings

theorem resolvePath_of_bare {path : String} (h : Path.componentCount path = 1) (base : String) :
    resolvePath base path = path := by
  simp [resolvePath, h]

/-- A path of several components has several also when it is seen from a directory. -/
theorem two_le_componentCount_resolvePath {path : String} (h : 2 ≤ Path.componentCount path)
    (base : String) : 2 ≤ Path.componentCount (resolvePath base path) := by
  unfold resolvePath
  split
  · exact h
  · exact Path.two_le_componentCount_join base h

end Settings

namespace Registry

/-- Whatever an engine is asked, its backend runs a program that the machine finds. -/
def CanStart (r : Registry) (host : Host) (e : Engine) : Prop :=
  ∀ o, ∃ command, r.command? host e o = some command ∧ host.finds command.program = true

variable {r : Registry} {host : Host} {e : Engine}

theorem canStart_iff :
    r.CanStart host e ↔
      ∃ program, r.program? host e = some program ∧ host.finds program = true := by
  simp only [CanStart, command?, Option.map_eq_some_iff]
  constructor
  · intro h
    obtain ⟨command, ⟨program, hprogram, rfl⟩, hfinds⟩ := h ⟨[], .bool true⟩
    exact ⟨program, hprogram, hfinds⟩
  · rintro ⟨program, hprogram, hfinds⟩ o
    exact ⟨_, ⟨program, hprogram, rfl⟩, hfinds⟩

/-- An engine with a path is tested by whether the path leads somewhere. -/
theorem isInstalled_of_path {path : String} (h : (r.settings e).path = some path) :
    r.isInstalled host e = host.exists? path := by
  simp [isInstalled, h]

/-- An engine with a path can be started if the machine finds a program for it. -/
theorem canStart_iff_of_path {path : String} (h : (r.settings e).path = some path) :
    r.CanStart host e ↔ host.finds path = true := by
  simp [canStart_iff, program?, h]

/-- Without a path both questions ask whether the usual program of the engine is found. -/
theorem isInstalled_iff_canStart_of_no_path (hsearch : host.AnswersFound e.executable)
    (h : (r.settings e).path = none) : r.isInstalled host e = true ↔ r.CanStart host e := by
  simp only [isInstalled, canStart_iff, program?, h, Option.isSome_iff_exists]
  constructor
  · rintro ⟨path, hpath⟩
    exact ⟨path, hpath, hsearch path hpath⟩
  · rintro ⟨path, hpath, -⟩
    exact ⟨path, hpath⟩

/-- Only a path of one component can tell the two questions apart, and does so where the look-up and
the working directory disagree about it. -/
theorem isInstalled_iff_canStart_iff (hsearch : host.AnswersFound e.executable) :
    (r.isInstalled host e = true ↔ r.CanStart host e) ↔
      ∀ path, (r.settings e).path = some path → Path.componentCount path = 1 →
        host.exists? path = (host.findProgram path).isSome := by
  cases hpath : (r.settings e).path with
  | none => simp [isInstalled_iff_canStart_of_no_path hsearch hpath]
  | some path =>
    rw [isInstalled_of_path hpath, canStart_iff_of_path hpath, Host.finds]
    by_cases hone : Path.componentCount path = 1 <;> simp [hone]

theorem mem_installed : e ∈ r.installed host ↔ r.isInstalled host e = true := by
  simp [installed, Engine.mem_all]

end Registry

/-- The engines of a settings file that are there, and those that can be started. For an engine
without path and for one whose entry has several components, absolute or not, these are the same
question. An entry that is a bare name is there if the working directory has it, and can be started
if the look-up finds it. So the engines that are there are those that can be started exactly when
the two agree about every path of one component. -/
theorem installed_iff_startable_unless_bare {text origin : String} {settings : Settings}
    {host : Host} (hparse : Settings.parse text origin = .ok settings)
    (hsearch : ∀ e : Engine, host.AnswersFound e.executable) :
    (∃ file, (Toml.parse? text).bind SettingsFile.ofTable? = some file ∧
      ∀ e, ∃ entry, file.PathEntry e entry ∧
        ((∀ p, entry = some p → 2 ≤ Path.componentCount p) →
          (settings.registry.isInstalled host e = true ↔ settings.registry.CanStart host e)) ∧
        ∀ p, entry = some p → Path.componentCount p = 1 →
          settings.registry.isInstalled host e = host.exists? p ∧
          (settings.registry.CanStart host e ↔ (host.findProgram p).isSome = true)) ∧
    ((∀ e, e ∈ settings.registry.installed host ↔ settings.registry.CanStart host e) ↔
      ∀ e p, (settings.registry.settings e).path = some p → Path.componentCount p = 1 →
        host.exists? p = (host.findProgram p).isSome) := by
  constructor
  · obtain ⟨file, hfile, hentries⟩ := Settings.exists_pathEntry_of_parse hparse
    refine ⟨file, hfile, fun e => ?_⟩
    obtain ⟨entry, hentry, hpath⟩ := hentries e
    refine ⟨entry, hentry, fun hseveral => ?_, ?_⟩
    · refine (Registry.isInstalled_iff_canStart_iff (hsearch e)).2 fun path hset hone => ?_
      obtain ⟨p, hp, rfl⟩ := Option.map_eq_some_iff.1 (hpath.symm.trans hset)
      have htwo := Settings.two_le_componentCount_resolvePath (hseveral p hp)
        (Settings.directory origin)
      omega
    · rintro p rfl hone
      rw [Option.map_some, Settings.resolvePath_of_bare hone] at hpath
      refine ⟨Registry.isInstalled_of_path hpath, ?_⟩
      rw [Registry.canStart_iff_of_path hpath, Host.finds, if_pos hone]
  · simp only [Registry.mem_installed]
    exact forall_congr' fun e => Registry.isInstalled_iff_canStart_iff (hsearch e)

/-- Two engines are there: `z3` where programs are looked up, and `cvc5` elsewhere. -/
def twoEngineMachine : Machine where
  nodes := [(["bin"], .directory), (["bin", "z3"], .program ⟨[], [], true, true⟩),
    (["tools"], .directory), (["tools", "cvc5"], .program ⟨[], [], true, true⟩)]
  workingDirectory := "/"
  programDirectories := ["/bin"]

/-- One engine is set by a relative path and one by a bare name. -/
def twoEngineFile : String :=
  "[solvers.cvc5]\npath = \"tools/cvc5\"\n[solvers.z3]\npath = \"z3\"\n"

theorem installed_iff_startable_unless_bare_of_twoEngineMachine :
    let host := twoEngineMachine.host
    let registry : Registry :=
      ⟨[(.z3, ⟨some "z3", none, []⟩), (.cvc5, ⟨some "/tools/cvc5", none, []⟩)]⟩
    Settings.parse twoEngineFile "/sprove.toml" =
      .ok ⟨some "/sprove.toml", [], false, registry⟩ ∧
    (∀ e : Engine, host.AnswersFound e.executable) ∧
    registry.installed host = [.cvc5] ∧ registry.CanStart host .cvc5 ∧ registry.CanStart host .z3 ∧
    ¬ ∀ e, e ∈ registry.installed host ↔ registry.CanStart host e := by
  intro host registry
  have hparse : Settings.parse twoEngineFile "/sprove.toml" =
      .ok ⟨some "/sprove.toml", [], false, registry⟩ := by
    have hfile : (Toml.parse? twoEngineFile).bind SettingsFile.ofTable? = some ⟨[], false,
        [("cvc5", ⟨some "tools/cvc5", none, []⟩), ("z3", ⟨some "z3", none, []⟩)]⟩ := by rfl
    simp only [Settings.parse, hfile, Settings.ofFile]
    rw [List.mergeSort_of_pairwise (by decide)]
    rfl
  have hsearch : ∀ e : Engine, host.AnswersFound e.executable := by
    intro e
    apply Machine.answersFound <;> cases e <;> decide
  obtain ⟨-, hagree⟩ := installed_iff_startable_unless_bare hparse hsearch
  refine ⟨hparse, hsearch, by decide +kernel, ?_, ?_, fun h => ?_⟩
  · exact (Registry.canStart_iff_of_path rfl).2 (by decide)
  · exact (Registry.canStart_iff_of_path rfl).2 (by decide)
  · have hsame := hagree.1 h .z3 "z3" rfl (by decide)
    exact absurd hsame (by decide)

end CoreProver
