import CoreProver.Proofs.Quantification
import CoreProver.Proofs.Run.Discipline
import CoreProver.Proofs.Settings
import Mathlib.Data.List.Forall2

/-!
# Selected engines

Selectors stand for engines, by name or for all that are installed. What they stand for is asked
once each, in order of first mention; selecting fails only if nothing is selected, or if installed
engines are asked for and there are none. What is selected are the backends that run the programs of
the engines. The selectors of a check come from the request, else from the flags, else from the
settings, and else there is a fixed engine, so there always are some.
-/

namespace CoreProver

theorem distinct_ne_nil {α : Type} [DecidableEq α] {xs : List α} (h : xs ≠ []) :
    distinct xs ≠ [] := by
  obtain ⟨x, hx⟩ := List.exists_mem_of_ne_nil xs h
  exact List.ne_nil_of_mem ((mem_distinct x xs).2 hx)

/-! ### The registry -/

namespace Registry

/-- The engines that a selector mentions: one by name, or those that are installed. -/
def mentionedBy (r : Registry) (host : Host) : Selector → List Engine
  | .engine e => [e]
  | .allInstalled => Engine.all.filter (r.isInstalled host)

/-- The engines that selectors mention, one selector after the other. -/
def mentioned (r : Registry) (host : Host) (selectors : List Selector) : List Engine :=
  selectors.flatMap (r.mentionedBy host)

/-- Installed engines are asked for, and there are none. -/
def LacksInstalled (r : Registry) (host : Host) (selectors : List Selector) : Prop :=
  .allInstalled ∈ selectors ∧ ∀ e, r.isInstalled host e = false

/-- The backend is that of an engine. It bears the engine's name. When it is asked, it runs the
program at the path that is set for the engine, or else the one found under the engine's usual name,
with the script of the obligation as input. The arguments are those for scripts, the time limit if
one is set, and those that are set. It answers what the program printed, and says so if there is no
program or the machine does not run it. -/
structure Serves (r : Registry) (host : Host) (verbose : Bool) (e : Engine) (b : Backend) :
    Prop where
  name_eq : b.name = e.name
  missing : (r.settings e).path.or (host.findProgram e.executable) = none →
    ∀ o, b.check o = .faulted (.notFound e e.executable)
  started : ∀ program, (r.settings e).path.or (host.findProgram e.executable) = some program →
    ∃ args, args = e.scriptArgs ++ ((r.settings e).timeout.bind e.timeoutArg?).toList ++
        (r.settings e).args ∧
      ∀ o : Obligation,
        (∀ why, host.run ⟨program, args, o.script true⟩ = .error why →
          b.check o = .faulted (.notRun e.name why.text)) ∧
        ∀ out, host.run ⟨program, args, o.script true⟩ = .ok out →
          b.check o = .answered (response verbose (o.script true) out)

variable (r : Registry) (host : Host)

theorem program?_eq (e : Engine) :
    r.program? host e = (r.settings e).path.or (host.findProgram e.executable) := by
  unfold program?
  cases (r.settings e).path <;> rfl

theorem serves_backend (verbose : Bool) (e : Engine) :
    r.Serves host verbose e (r.backend host verbose e) := by
  refine ⟨rfl, fun hnone o => ?_, fun program hsome => ⟨r.args e, rfl, fun o => ?_⟩⟩
  · rw [← program?_eq] at hnone
    simp [backend, command?, hnone]
  · rw [← program?_eq] at hsome
    constructor
    · intro why hrun
      simp [backend, command?, hsome, hrun]
    · intro out hrun
      simp [backend, command?, hsome, hrun]

/-- Different engines have backends with different names. -/
theorem nodup_names_of_forall₂_serves {r : Registry} {host : Host} {verbose : Bool}
    {engines : List Engine} {backends : List Backend}
    (h : engines.Forall₂ (r.Serves host verbose) backends) (hnodup : engines.Nodup) :
    (backends.map Backend.name).Nodup := by
  have hnames : backends.map Backend.name = engines.map Engine.name := by
    rw [← List.forall₂_eq_eq_eq, List.forall₂_map_left_iff, List.forall₂_map_right_iff]
    exact h.flip.imp fun _ _ hserves => hserves.name_eq
  rw [hnames]
  exact hnodup.map fun _ _ => Engine.name_injective

theorem installed_eq_nil_iff : r.installed host = [] ↔ ∀ e, r.isInstalled host e = false := by
  simp [installed, List.filter_eq_nil_iff, Engine.mem_all]

theorem mem_mentioned_iff (selectors : List Selector) (e : Engine) :
    e ∈ r.mentioned host selectors ↔
      .engine e ∈ selectors ∨ .allInstalled ∈ selectors ∧ r.isInstalled host e = true := by
  rw [mentioned, List.mem_flatMap]
  constructor
  · rintro ⟨selector, hselector, he⟩
    cases selector with
    | engine e' =>
      obtain rfl := List.mem_singleton.1 he
      exact .inl hselector
    | allInstalled => exact .inr ⟨hselector, (List.mem_filter.1 he).2⟩
  · rintro (he | ⟨hall, he⟩)
    · exact ⟨.engine e, he, List.mem_singleton_self e⟩
    · exact ⟨.allInstalled, hall, List.mem_filter.2 ⟨Engine.mem_all e, he⟩⟩

/-- Selectors mention some engine, unless there are none that could be meant. -/
theorem mentioned_ne_nil {selectors : List Selector} (hne : selectors ≠ [])
    (hlacks : ¬r.LacksInstalled host selectors) : r.mentioned host selectors ≠ [] := by
  obtain ⟨first, rest, rfl⟩ := List.exists_cons_of_ne_nil hne
  suffices hmem : ∃ e, e ∈ r.mentioned host (first :: rest) by
    obtain ⟨e, he⟩ := hmem
    exact List.ne_nil_of_mem he
  simp only [mem_mentioned_iff]
  cases first with
  | engine e => exact ⟨e, .inl List.mem_cons_self⟩
  | allInstalled =>
    by_contra hnone
    refine hlacks ⟨List.mem_cons_self, fun e => ?_⟩
    by_contra he
    exact hnone ⟨e, .inr ⟨List.mem_cons_self, Bool.not_eq_false _ ▸ he⟩⟩

theorem expand_allInstalled_of_forall_not (h : ∀ e, r.isInstalled host e = false) :
    r.expand host .allInstalled = .error .noneInstalled := by
  simp [expand, (r.installed_eq_nil_iff host).2 h]

theorem expand_of_not_lacksInstalled {selector : Selector}
    (h : ¬r.LacksInstalled host [selector]) :
    r.expand host selector = .ok (r.mentionedBy host selector) := by
  cases selector with
  | engine e => rfl
  | allInstalled =>
    have hne : r.installed host ≠ [] := fun hnil =>
      h ⟨List.mem_singleton_self _, (r.installed_eq_nil_iff host).1 hnil⟩
    simp only [expand, List.isEmpty_iff, hne, if_false]
    rfl

theorem LacksInstalled.mono {r : Registry} {host : Host} {selectors more : List Selector}
    (h : r.LacksInstalled host selectors) (hsub : selectors ⊆ more) :
    r.LacksInstalled host more :=
  ⟨hsub h.1, h.2⟩

/-- One selector that asks for installed engines in vain spoils the selection. -/
theorem mapM_expand_of_lacksInstalled {selectors : List Selector}
    (h : r.LacksInstalled host selectors) :
    selectors.mapM (r.expand host) = .error .noneInstalled := by
  obtain ⟨hmem, hnone⟩ := h
  induction selectors with
  | nil => simp at hmem
  | cons selector rest ih =>
    rw [List.mapM_cons]
    cases selector with
    | engine e =>
      have hrest : .allInstalled ∈ rest := by simpa using hmem
      rw [ih hrest]
      rfl
    | allInstalled =>
      rw [r.expand_allInstalled_of_forall_not host hnone]
      rfl

theorem mapM_expand_of_not_lacksInstalled {selectors : List Selector}
    (h : ¬r.LacksInstalled host selectors) :
    selectors.mapM (r.expand host) = .ok (selectors.map (r.mentionedBy host)) := by
  induction selectors with
  | nil => rfl
  | cons selector rest ih =>
    have hfirst : ¬r.LacksInstalled host [selector] := fun hlacks => h (hlacks.mono (by simp))
    have hrest : ¬r.LacksInstalled host rest := fun hlacks => h (hlacks.mono (by simp))
    rw [List.mapM_cons, r.expand_of_not_lacksInstalled host hfirst, ih hrest]
    rfl

variable (selectors : List Selector) (verbose : Bool)

/-- A selection goes wrong in one of two ways, or gives the engines mentioned, each once. -/
theorem backendsFor_cases :
    (selectors = [] ∧ r.backendsFor host selectors verbose = .error .empty) ∨
    (r.LacksInstalled host selectors ∧
      r.backendsFor host selectors verbose = .error .noneInstalled) ∨
    (selectors ≠ [] ∧ ¬r.LacksInstalled host selectors ∧
      r.backendsFor host selectors verbose =
        .ok ((distinct (r.mentioned host selectors)).map (r.backend host verbose))) := by
  by_cases hnil : selectors = []
  · exact .inl ⟨hnil, by rw [hnil]; rfl⟩
  · right
    by_cases hlacks : r.LacksInstalled host selectors
    · left
      refine ⟨hlacks, ?_⟩
      simp only [backendsFor, select, List.isEmpty_iff, hnil, if_false]
      rw [r.mapM_expand_of_lacksInstalled host hlacks]
      rfl
    · right
      refine ⟨hnil, hlacks, ?_⟩
      simp only [backendsFor, select, List.isEmpty_iff, hnil, if_false]
      rw [r.mapM_expand_of_not_lacksInstalled host hlacks, mentioned, List.flatMap_def]
      rfl

theorem backendsFor_eq_empty_iff :
    r.backendsFor host selectors verbose = .error .empty ↔ selectors = [] := by
  rcases r.backendsFor_cases host selectors verbose with ⟨hnil, h⟩ | ⟨hlacks, h⟩ | ⟨hne, -, h⟩
  · exact iff_of_true h hnil
  · have hne : selectors ≠ [] := List.ne_nil_of_mem hlacks.1
    simp [h, hne]
  · simp [h, hne]

/-- Installed engines are missed exactly when they are asked for and there are none. -/
theorem backendsFor_eq_noneInstalled_iff :
    r.backendsFor host selectors verbose = .error .noneInstalled ↔
      r.LacksInstalled host selectors := by
  rcases r.backendsFor_cases host selectors verbose with ⟨hnil, h⟩ | ⟨hlacks, h⟩ | ⟨-, hnot, h⟩
  · subst hnil
    simp [h, LacksInstalled]
  · simp [h, hlacks]
  · simp [h, hnot]

/-- Backends are selected as described: at least one, one for each engine that is mentioned, in
order of first mention. -/
theorem exists_backendsFor_eq (hne : selectors ≠ []) (hlacks : ¬r.LacksInstalled host selectors) :
    ∃ (engines : List Engine) (backends : List Backend),
      r.backendsFor host selectors verbose = .ok backends ∧
      engines.Forall₂ (r.Serves host verbose) backends ∧ backends ≠ [] ∧
      (backends.map Backend.name).Nodup ∧ engines.Nodup ∧
      (∀ e, e ∈ engines ↔
        .engine e ∈ selectors ∨ .allInstalled ∈ selectors ∧ r.isInstalled host e = true) ∧
      engines.Pairwise fun a b =>
        (r.mentioned host selectors).idxOf a < (r.mentioned host selectors).idxOf b := by
  rcases r.backendsFor_cases host selectors verbose with ⟨hnil, -⟩ | ⟨h, -⟩ | ⟨-, -, heq⟩
  · exact absurd hnil hne
  · exact absurd h hlacks
  · have hserves : (distinct (r.mentioned host selectors)).Forall₂ (r.Serves host verbose)
        ((distinct (r.mentioned host selectors)).map (r.backend host verbose)) := by
      rw [List.forall₂_map_right_iff, List.forall₂_same]
      exact fun e _ => r.serves_backend host verbose e
    have hsome := distinct_ne_nil (r.mentioned_ne_nil host hne hlacks)
    refine ⟨_, _, heq, hserves, by simpa using hsome,
      nodup_names_of_forall₂_serves hserves (nodup_distinct _), nodup_distinct _,
      fun e => ?_, pairwise_idxOf_distinct _⟩
    rw [mem_distinct, mem_mentioned_iff]

theorem ne_nil_of_backendsFor {backends : List Backend}
    (h : r.backendsFor host selectors verbose = .ok backends) : backends ≠ [] := by
  have hne : selectors ≠ [] := fun hnil => by
    simp [(r.backendsFor_eq_empty_iff host selectors verbose).2 hnil] at h
  have hlacks : ¬r.LacksInstalled host selectors := fun hlacks => by
    simp [(r.backendsFor_eq_noneInstalled_iff host selectors verbose).2 hlacks] at h
  obtain ⟨-, _, heq, -, hsome, -⟩ := r.exists_backendsFor_eq host selectors verbose hne hlacks
  obtain rfl := Except.ok.inj (heq.symm.trans h)
  exact hsome

end Registry

/-! ### Where selectors come from -/

namespace CommandLine

/-- The default solvers are those of the flags, else those of the settings, else one engine. -/
theorem exists_of_defaultSolvers {flags : List String} {settings : Settings}
    {solvers : List Selector} (h : defaultSolvers flags settings = .ok solvers) :
    ∃ named, flags.mapM Selector.parse = .ok named ∧
      [distinct named, settings.defaultSolvers, [.engine .z3]].find? (· ≠ []) = some solvers := by
  unfold defaultSolvers at h
  cases hflags : flags.mapM Selector.parse with
  | error e => simp [hflags] at h
  | ok named =>
    refine ⟨named, rfl, ?_⟩
    rw [hflags] at h
    cases named with
    | nil =>
      by_cases hsettings : settings.defaultSolvers = []
      · simpa [hsettings, distinct, appendNew] using h
      · simpa [hsettings, distinct, appendNew] using h
    | cons selector rest =>
      have hne := distinct_ne_nil (List.cons_ne_nil selector rest)
      simpa [hne] using h

variable {host : Host} {args : List String} {options : CheckOptions} {settings : Settings}
  {solvers : List Selector}

/-- The selectors of a request in a check: its own, else those of the flags, else those of the
settings, else one engine. -/
theorem Accepts.exists_selectorsFor (h : Accepts host args options settings solvers) :
    ∃ named, options.solvers.mapM Selector.parse = .ok named ∧
      ∀ r, [r.options.selectors, distinct named, settings.defaultSolvers,
          [.engine .z3]].find? (· ≠ []) =
        some ((checkSession host settings options solvers).selectorsFor r) := by
  obtain ⟨named, hnamed, hsolvers⟩ := exists_of_defaultSolvers h.solvers_eq
  refine ⟨named, hnamed, fun r => ?_⟩
  have hdefault : (checkSession host settings options solvers).settings.defaultSolvers = solvers :=
    rfl
  unfold Session.selectorsFor
  by_cases hown : r.options.selectors = []
  · rw [if_pos (List.isEmpty_iff.2 hown), hdefault, List.find?_cons_of_neg (by simp [hown]),
      hsolvers]
  · rw [if_neg (fun hempty => hown (List.isEmpty_iff.1 hempty)),
      List.find?_cons_of_pos (by simp [hown])]

theorem Accepts.selectorsFor_ne_nil_and_nodup (h : Accepts host args options settings solvers)
    (r : Request) :
    (checkSession host settings options solvers).selectorsFor r ≠ [] ∧
      ((checkSession host settings options solvers).selectorsFor r).Nodup := by
  obtain ⟨named, -, hfind⟩ := h.exists_selectorsFor
  obtain ⟨global, -, hload⟩ := h.settings_eq
  have hne := List.find?_some (hfind r)
  have hmem := List.mem_of_find?_eq_some (hfind r)
  refine ⟨by simpa using hne, ?_⟩
  generalize (checkSession host settings options solvers).selectorsFor r = selectors at hmem ⊢
  simp only [List.mem_cons, List.not_mem_nil, or_false] at hmem
  rcases hmem with rfl | rfl | rfl | rfl
  · exact nodup_distinct (r.options.filterMap ProofOptions.selector?)
  · exact nodup_distinct named
  · exact Settings.nodup_defaultSolvers hload
  · exact List.nodup_singleton _

end CommandLine

/-! ### Runs -/

namespace Session

variable {F : Type} [Foreign F] {s : Session F} {pool : Pool}

/-- Backends are asked for by the selectors of the request only. -/
theorem examine_withPool_congr {r : Request}
    (h : ∀ verbose, pool (s.selectorsFor r) verbose = s.pool (s.selectorsFor r) verbose)
    (c : Constants) (b : Binding) : (s.withPool pool).examine c b r = s.examine c b r := by
  have hsolve : (s.withPool pool).solve r = s.solve r := by
    funext o
    have hpool : (s.withPool pool).pool ((s.withPool pool).selectorsFor r)
        ((s.withPool pool).isVerbose r) = s.pool (s.selectorsFor r) (s.isVerbose r) := h _
    simp only [solve, hpool]
    rfl
  have hsettle : (s.withPool pool).settle r = s.settle r := by
    funext result
    unfold settle
    rw [hsolve]
  have hconclude : (s.withPool pool).conclude c b r = s.conclude c b r := by
    unfold conclude
    rw [hsettle]
    rfl
  unfold examine
  rw [hconclude]
  rfl

/-- A run depends on what the pool says to the selectors of its requests. -/
theorem examineAll_withPool_congr {requests : List (Binding × Request)}
    (h : ∀ b r verbose, (b, r) ∈ requests →
      pool (s.selectorsFor r) verbose = s.pool (s.selectorsFor r) verbose) (c : Constants) :
    (s.withPool pool).examineAll requests c = s.examineAll requests c := by
  induction requests generalizing c with
  | nil => rfl
  | cons request rest ih =>
    obtain ⟨b, r⟩ := request
    have hfirst := examine_withPool_congr (fun v => h b r v List.mem_cons_self) c b
    have hrest := ih fun b' r' v hmem => h b' r' v (List.mem_cons_of_mem _ hmem)
    rw [examineAll, examineAll, hfirst]
    split
    · rfl
    · rw [hrest]

end Session

/-- A run is aborted by the setup of backends only if the selectors of a request could not be turned
into any. -/
theorem Session.exists_pool_of_configuration {F : Type} [Foreign F] {s : Session F} {pool : Pool}
    {c : Constants} {b : Binding} {r : Request} {binding : String} {location : Location}
    {why : String}
    (h : ((s.withPool pool).examine c b r).abort? = some (.configuration binding location why)) :
    (∃ e, pool (s.selectorsFor r) (s.isVerbose r) = .error e ∧ why = e.message) ∨
      pool (s.selectorsFor r) (s.isVerbose r) = .ok [] ∧ why = noBackends.message := by
  have hends := (s.withPool pool).concludes_ending c b r
  unfold Examination.abort? at h
  generalize ((s.withPool pool).examine c b r).ending = ending at h hends
  cases hends with
  | unselected _ hp =>
    simp only [Option.some.injEq, RunError.configuration.injEq] at h
    exact .inl ⟨_, hp, h.2.2.symm⟩
  | unasked _ hp =>
    simp only [Option.some.injEq, RunError.configuration.injEq] at h
    exact .inr ⟨hp, h.2.2.symm⟩
  | _ => simp [Ending.failure?] at h

namespace CommandLine

/-- The pool of a check gives the backends of the registry. -/
theorem reorders_checkSession (host : Host) (settings : Settings) (options : CheckOptions)
    (solvers : List Selector) :
    (checkSession host settings options solvers).pool.Reorders
      (settings.registry.backendsFor host) := by
  intro selectors verbose
  change SameSelection ((settings.registry.backendsFor host selectors verbose).map List.reverse) _
  cases settings.registry.backendsFor host selectors verbose with
  | error e => exact .failed e
  | ok backends => exact .selected backends.reverse_perm

/-- The setup of backends aborts a run of a check only if no engine is installed. -/
theorem Accepts.why_eq {host : Host} {args : List String} {options : CheckOptions}
    {settings : Settings} {solvers : List Selector}
    (h : Accepts host args options settings solvers) {program : Program} {run : Run}
    (hrun : (checkSession host settings options solvers).AnyOrder program.requests .empty run)
    {binding : String} {location : Location} {why : String}
    (habort : run.aborted? = some (.configuration binding location why)) :
    why = SelectionError.noneInstalled.message ∧
      ∀ e, settings.registry.isInstalled host e = false := by
  obtain ⟨x, hx, hwhy⟩ := List.exists_of_findSome?_eq_some habort
  obtain ⟨before, after, rfl⟩ := List.append_of_mem hx
  obtain ⟨b, r, pool, hpool, -, rfl, -⟩ := hrun.exists_request
  have hselectors := (h.selectorsFor_ne_nil_and_nodup r).1
  -- what the request asks the pool for is what it would ask the registry for, in some order
  have hsame := hpool.trans (reorders_checkSession host settings options solvers)
    ((checkSession host settings options solvers).selectorsFor r)
    ((checkSession host settings options solvers).isVerbose r)
  rcases Session.exists_pool_of_configuration hwhy with ⟨e, he, rfl⟩ | ⟨hnil, -⟩
  · rw [he] at hsame
    generalize hbackends : settings.registry.backendsFor host _ _ = selection at hsame
    cases hsame
    cases e with
    | empty => exact absurd ((Registry.backendsFor_eq_empty_iff ..).1 hbackends) hselectors
    | noneInstalled => exact ⟨rfl, ((Registry.backendsFor_eq_noneInstalled_iff ..).1 hbackends).2⟩
  · rw [hnil] at hsame
    generalize hbackends : settings.registry.backendsFor host _ _ = selection at hsame
    cases hsame with
    | selected hperm =>
      exact absurd hperm.nil_eq.symm (Registry.ne_nil_of_backendsFor _ _ _ _ hbackends)

end CommandLine

/-- Selection is exact. It fails for an empty list of selectors, and if installed engines are asked
for and there are none; otherwise it gives one backend for each engine that is named or, if they are
asked for, installed, without repetition and in order of first mention. Each backend bears the name
of its engine and runs its program, and no two have one name.

In every check that gets as far as its settings and flags, the selectors of a request are its own,
else those of the flags, else those of the settings, else one engine. So there always are some, and
none stands twice: a pool is asked about no other lists. The pool gives the backends that are
selected, in some order. Hence, in whatever order backends finish at each request, no run is aborted
because nothing was selected or there was no backend, but only because no engine is installed. -/
theorem selection_exact_and_never_empty :
    (∀ (r : Registry) (host : Host) (selectors : List Selector) (verbose : Bool),
      (r.backendsFor host selectors verbose = .error .empty ↔ selectors = []) ∧
      (r.backendsFor host selectors verbose = .error .noneInstalled ↔
        .allInstalled ∈ selectors ∧ ∀ e, r.isInstalled host e = false) ∧
      (selectors ≠ [] → ¬(.allInstalled ∈ selectors ∧ ∀ e, r.isInstalled host e = false) →
        ∃ (engines : List Engine) (backends : List Backend),
          r.backendsFor host selectors verbose = .ok backends ∧
          engines.Forall₂ (r.Serves host verbose) backends ∧ backends ≠ [] ∧
          (backends.map Backend.name).Nodup ∧ engines.Nodup ∧
          (∀ e, e ∈ engines ↔
            .engine e ∈ selectors ∨ .allInstalled ∈ selectors ∧ r.isInstalled host e = true) ∧
          engines.Pairwise fun a b =>
            (r.mentioned host selectors).idxOf a < (r.mentioned host selectors).idxOf b)) ∧
    ∀ host args options settings solvers,
      CommandLine.Accepts host args options settings solvers →
      let session := CommandLine.checkSession host settings options solvers
      (∃ named, options.solvers.mapM Selector.parse = .ok named ∧
        ∀ r, [r.options.selectors, distinct named, settings.defaultSolvers,
          [.engine .z3]].find? (· ≠ []) = some (session.selectorsFor r)) ∧
      (∀ r, session.selectorsFor r ≠ [] ∧ (session.selectorsFor r).Nodup) ∧
      session.pool.Reorders (settings.registry.backendsFor host) ∧
      (∀ program pool, (∀ selectors verbose, selectors ≠ [] → selectors.Nodup →
          pool selectors verbose = session.pool selectors verbose) →
        (session.withPool pool).run program = session.run program) ∧
      ∀ (program : Program) run binding location why,
        session.AnyOrder program.requests .empty run →
        run.aborted? = some (.configuration binding location why) →
        why = SelectionError.noneInstalled.message ∧ why ≠ SelectionError.empty.message ∧
          why ≠ noBackends.message ∧ ∀ e, settings.registry.isInstalled host e = false := by
  refine ⟨fun r host selectors verbose => ⟨r.backendsFor_eq_empty_iff host selectors verbose,
    r.backendsFor_eq_noneInstalled_iff host selectors verbose,
    r.exists_backendsFor_eq host selectors verbose⟩, ?_⟩
  intro host args options settings solvers haccepts session
  have hselectors := haccepts.selectorsFor_ne_nil_and_nodup
  refine ⟨haccepts.exists_selectorsFor, hselectors,
    CommandLine.reorders_checkSession host settings options solvers,
    fun program pool hpool => ?_, ?_⟩
  · refine Session.examineAll_withPool_congr (fun b r verbose _ => ?_) .empty
    exact hpool _ verbose (hselectors r).1 (hselectors r).2
  · intro program run binding location why hrun habort
    obtain ⟨rfl, hnone⟩ := haccepts.why_eq hrun habort
    exact ⟨rfl, by decide, by decide, hnone⟩

/-- A machine with one engine and a settings file that names another one twice. -/
def oneEngineMachine : Machine where
  nodes := [(["bin"], .directory), (["bin", "z3"], .program ⟨[], [], true, true⟩),
    (["sprove.toml"], .file "[defaults]\nsolvers = [\"cvc5\", \"any\", \"CVC5\"]\n")]
  workingDirectory := "/"
  programDirectories := ["/bin"]

theorem selection_exact_and_never_empty_of_oneEngineMachine :
    let host := oneEngineMachine.host
    let settings : Settings := ⟨some "/sprove.toml", [.engine .cvc5, .allInstalled], false, .empty⟩
    let options : CommandLine.CheckOptions := ⟨"program.json", [], false, false, none⟩
    let session := CommandLine.checkSession host settings options settings.defaultSolvers
    CommandLine.Accepts host ["check"] options settings settings.defaultSolvers ∧
    session.selectorsFor (.prove []) = [.engine .cvc5, .allInstalled] ∧
    session.selectorsFor (.prove [.solver .z3, .anySolver, .solver .z3]) =
      [.engine .z3, .allInstalled] ∧
    (∀ r, session.selectorsFor r ≠ [] ∧ (session.selectorsFor r).Nodup) ∧
    ∃ backends, settings.registry.backendsFor host [.engine .cvc5, .allInstalled] true =
        .ok backends ∧ backends ≠ [] ∧ (backends.map Backend.name).Nodup := by
  intro host settings options session
  have hfile : (Toml.parse? "[defaults]\nsolvers = [\"cvc5\", \"any\", \"CVC5\"]\n").bind
      SettingsFile.ofTable? = some ⟨["cvc5", "any", "CVC5"], false, []⟩ := by rfl
  have hfind : Settings.find? host "/" = some "/sprove.toml" := by decide +kernel
  have hread : host.read "/sprove.toml" =
      .ok "[defaults]\nsolvers = [\"cvc5\", \"any\", \"CVC5\"]\n" := by rfl
  have hload : Settings.load host none "/" = .ok settings := by
    simp only [Settings.load, Option.none_or, hfind, hread, Settings.parse, hfile,
      Settings.ofFile, List.mergeSort_nil]
    rfl
  have haccepts : CommandLine.Accepts host ["check"] options settings settings.defaultSolvers :=
    ⟨⟨⟨none, false⟩, by decide, hload⟩, rfl⟩
  obtain ⟨hexact, hcheck⟩ := selection_exact_and_never_empty
  obtain ⟨-, hselectors, -⟩ := hcheck host ["check"] options settings _ haccepts
  obtain ⟨-, -, hsome⟩ := hexact settings.registry host [.engine .cvc5, .allInstalled] true
  have hz3 : settings.registry.isInstalled host .z3 = true := by decide
  obtain ⟨-, backends, heq, -, hne, hnames, -⟩ := hsome (by simp) fun h => by simp [h.2] at hz3
  exact ⟨haccepts, rfl, rfl, hselectors, backends, heq, hne, hnames⟩

end CoreProver
