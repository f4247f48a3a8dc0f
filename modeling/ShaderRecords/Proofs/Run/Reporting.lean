/-
ShaderRecords.Proofs.Run.Reporting — every problem of a run is told, once and in order.

`Running.Shows` relates what a run gives to the errors it has told on the way, whatever is answered to its commands;
so it does not matter what else works on the files meanwhile. Its rules follow the run: most steps tell no error
(`Running.Quietly`), and the problems of a document or of a product are told when they are looked through.

A command tells exactly the problems that its result has (`RunResult.shownErrors`), sorted by source and by the place
where they were met (`RunResult.IsOf`). `Command.tells_problems` says so of whole command lines too, which end well
exactly if there is none.
-/
import ShaderRecords.CommandLine.Execution
import ShaderRecords.Proofs.Console.Errors
import ShaderRecords.Proofs.Product.Problems
import ShaderRecords.Proofs.Product.Siblings
import ShaderRecords.Proofs.Run.Loading

namespace ShaderRecords

/-! ## Errors that a run tells -/

namespace Running

variable {α β σ : Type}

/-- What a run gives and what it has shown then, when its commands are answered from a state. -/
def outcome (handle : (c : FileCommand) → StateM σ c.Answer) (x : Running α) (console : Console) (s : σ) :
    Except Breakdown α × Console :=
  (x.run.run console).outcome handle s

/-- Whether a run that gives something has told errors that are related to it, whatever is answered to its
commands. -/
structure Shows (x : Running α) (P : List ShownError → α → Prop) : Prop where
  ends : ∀ c : Console, c.threshold ≤ LogLevel.error.number →
    (x.run.run c).Ends fun _ out => ∀ a, out.1 = .ok a → ∃ es, c.Tells es out.2 ∧ P es a

/-- Whether a run tells no error, and gives something of a property. -/
def Quietly (x : Running α) (P : α → Prop) : Prop :=
  Shows x fun es a => es = [] ∧ P a

theorem Shows.imp {x : Running α} {P Q : List ShownError → α → Prop} (h : Shows x P)
    (hPQ : ∀ es a, P es a → Q es a) : Shows x Q where
  ends c hc := (h.ends c hc).imp fun _ _ h a ha => (h a ha).imp fun es hes => ⟨hes.1, hPQ es a hes.2⟩

/-- A run after another tells its errors after those of the other. -/
theorem Shows.bind {x : Running α} {f : α → Running β} {P : List ShownError → α → Prop}
    {Q : List ShownError → β → Prop} (hx : Shows x P)
    (hf : ∀ es a, P es a → Shows (f a) fun es' b => Q (es ++ es') b) : Shows (x >>= f) Q := by
  refine ⟨fun c hc => ?_⟩
  rw [run_bind, FileProgram.ends_andThen]
  refine (hx.ends c hc).imp fun _ out h => ?_
  obtain ⟨result, shown⟩ := out
  cases result with
  | error b => exact fun _ hb => by cases hb
  | ok a =>
    obtain ⟨es, htells, hP⟩ := h a rfl
    refine ((hf es a hP).ends shown (htells.threshold_eq ▸ hc)).imp fun _ out' h' b hb => ?_
    obtain ⟨es', htells', hQ⟩ := h' b hb
    exact ⟨es ++ es', htells.trans htells', hQ⟩

/-- After a quiet run, the errors are those of what comes then. -/
theorem Quietly.bind {x : Running α} {f : α → Running β} {P : α → Prop} {Q : List ShownError → β → Prop}
    (hx : Quietly x P) (hf : ∀ a, P a → Shows (f a) Q) : Shows (x >>= f) Q := by
  refine Shows.bind hx ?_
  rintro _ a ⟨rfl, ha⟩
  exact hf a ha

/-- Before a quiet run, the errors are those of what came first. -/
theorem Shows.quiet {x : Running α} {f : α → Running β} {P : List ShownError → α → Prop}
    {Q : List ShownError → β → Prop} (hx : Shows x P) (hf : ∀ es a, P es a → Quietly (f a) (Q es)) :
    Shows (x >>= f) Q := by
  refine hx.bind fun es a ha => (hf es a ha).imp ?_
  rintro _ b ⟨rfl, hb⟩
  rwa [List.append_nil]

theorem quietly_pure {a : α} {P : α → Prop} (h : P a) : Quietly (pure a) P := by
  constructor
  rintro c - _ ⟨⟩
  exact ⟨[], .refl c, rfl, h⟩

theorem quietly_throw (b : Breakdown) (P : α → Prop) : Quietly (throw b) P :=
  ⟨fun _ _ _ ha => by cases ha⟩

theorem shows_tell {f : Console → Console} {es : List ShownError}
    (h : ∀ c : Console, c.threshold ≤ LogLevel.error.number → c.Tells es (f c)) :
    Shows (tell f) fun es' _ => es' = es :=
  ⟨fun c hc _ _ => ⟨es, h c hc, rfl⟩⟩

theorem quietly_tell {f : Console → Console} (h : ∀ c : Console, c.Tells [] (f c)) :
    Quietly (tell f) fun _ => True :=
  (shows_tell fun c _ => h c).imp fun _ _ he => ⟨he, trivial⟩

theorem quietly_log {level : LogLevel} (h : level ≠ .error) (message : String) :
    Quietly (log level message) fun _ => True :=
  quietly_tell fun c => c.tells_log h message

/-- An error with a code is told once. -/
theorem shows_logError {code : String} (hcode : code ≠ "") (message : String) :
    Shows (logError message code) fun es _ => es = [⟨some code, message⟩] :=
  shows_tell fun _ hc => Console.tells_logError hc hcode message

theorem quietly_onFiles {x : Filing α} {P : α → Prop} (h : Filing.Yields x P) : Quietly (onFiles x) P := by
  refine ⟨fun c _ => ?_⟩
  have hrun : (onFiles x).run.run c = x.run.andThen fun result => .done (result, c) := rfl
  rw [hrun, FileProgram.ends_andThen]
  exact h.imp fun _ _ hresult a ha => ⟨[], .refl c, rfl, hresult a ha⟩

theorem quietly_onProgram {x : FileProgram α} {P : α → Prop} (h : x.Ends fun _ a => P a) :
    Quietly (onProgram x) P := by
  refine ⟨fun c _ => ?_⟩
  have hrun : (onProgram x).run.run c = (x.andThen fun a => .done (a, c)).andThen fun
      | (a, shown) => .done (.ok a, shown) := rfl
  rw [hrun, FileProgram.andThen_assoc, FileProgram.ends_andThen]
  refine h.imp fun _ a hP _ ha => ?_
  cases ha
  exact ⟨[], .refl c, rfl, hP⟩

theorem quietly_lift (x : Except Breakdown α) : Quietly (lift x) fun a => x = .ok a :=
  ⟨fun c _ _ ha => ⟨[], .refl c, rfl, ha⟩⟩

/-- Steps on several things tell their errors one after another. -/
theorem shows_forM {f : α → Running Unit} {g : α → List ShownError} {l : List α}
    (h : ∀ a ∈ l, Shows (f a) fun es _ => es = g a) : Shows (l.forM f) fun es _ => es = l.flatMap g := by
  induction l with
  | nil => exact (quietly_pure (P := fun _ => True) trivial).imp fun es _ hes => hes.1
  | cons a l ih =>
    obtain ⟨ha, hl⟩ := List.forall_mem_cons.mp h
    show Shows (f a >>= fun _ => l.forM f) _
    refine ha.bind ?_
    rintro _ _ rfl
    refine (ih hl).imp ?_
    rintro _ _ rfl
    rw [List.flatMap_cons]

theorem quietly_forM {f : α → Running Unit} {l : List α} (h : ∀ a ∈ l, Quietly (f a) fun _ => True) :
    Quietly (l.forM f) fun _ => True := by
  refine (shows_forM (g := fun _ => []) fun a ha => (h a ha).imp fun _ _ he => he.1).imp fun es _ hes => ?_
  exact ⟨hes.trans (List.flatMap_eq_nil_iff.mpr fun _ _ => rfl), trivial⟩

/-- What is told after a quiet run that gives something is told by what comes then. -/
theorem outcome_bind (handle : (c : FileCommand) → StateM σ c.Answer) (s : σ) {x : Running α} {f : α → Running β}
    {P : α → Prop} {Q : α → List ShownError → β → Prop} {c shown : Console} {b : β} (hx : Quietly x P)
    (hf : ∀ a, P a → Shows (f a) (Q a)) (hc : c.threshold ≤ LogLevel.error.number)
    (h : (x >>= f).outcome handle c s = (.ok b, shown)) :
    ∃ a, (x.outcome handle c s).1 = .ok a ∧ ∃ es, c.Tells es shown ∧ Q a es b := by
  -- What comes then begins with the console and the state that the quiet run leaves.
  have hquiet := (hx.ends c hc).run handle s
  unfold outcome at h ⊢
  rw [run_bind, FileProgram.outcome_andThen] at h
  cases hfirst : (x.run.run c).outcome handle s with
  | mk result between =>
    rw [hfirst] at h hquiet
    cases result with
    | error e => cases h
    | ok a =>
      obtain ⟨_, htells, rfl, ha⟩ := hquiet a rfl
      have hrest := ((hf a ha).ends between (htells.threshold_eq ▸ hc)).run handle
        (((x.run.run c).runWith handle).run s).2
      rw [show ((f a).run.run between).outcome handle _ = (.ok b, shown) from h] at hrest
      obtain ⟨es, htells', hQ⟩ := hrest b rfl
      exact ⟨a, rfl, es, htells.after htells', hQ⟩

end Running

/-! ## Errors that results have -/

/-- The errors that tell the problems of a product, as seen from a directory. -/
def SourceProduct.shownErrors (env : Environment) (base : Path) (p : SourceProduct) : List ShownError :=
  p.allIssues.map fun issue => ⟨some issue.report.code,
    "Error converting " ++ Path.wayFrom env.here base p.includeTarget ++ ": " ++ issue.report.message⟩

namespace RunResult

/-- The errors that tell the problems of a result: those of the document as they are, the others with the files that
they keep from being what they should be. -/
def shownErrors (env : Environment) (base : Path) (r : RunResult) : List ShownError :=
  r.documentIssues.map (fun issue => ⟨some issue.report.code, issue.report.message⟩)
    ++ r.products.flatMap (·.shownErrors env base)

/-- Every problem has one error. -/
theorem length_shownErrors (env : Environment) (base : Path) (r : RunResult) :
    (r.shownErrors env base).length = r.allIssues.length := by
  simp [shownErrors, allIssues, SourceProduct.shownErrors, List.length_flatMap]

/-- Whether a result is that of what has been loaded: the problem of a document that cannot be loaded, or the
products of the sources of a description, in their order, which list the problems of their sources. -/
def IsOf (r : RunResult) : Except DocumentError Description → Prop
  | .error e => r = .ofDocumentError e
  | .ok d => r.documentIssues = [] ∧ ∃ registry, Registry.ofDescription d = .ok registry
    ∧ List.Forall₂ (SourceProduct.Lists registry d.defaults.debugStart) d.sources r.products

end RunResult

namespace Running

/-! ## Loading -/

theorem quietly_readDocument (input : Path) : Quietly (readDocument input) fun _ => True := by
  refine (quietly_onFiles (Filing.yields_any _)).bind fun answer _ => ?_
  split
  · exact quietly_pure trivial
  · refine (quietly_lift _).bind fun text _ => (quietly_lift _).bind fun doc _ => ?_
    split
    · exact quietly_pure trivial
    · exact quietly_pure trivial

/-- Whether the types of each source that has been loaded have different names. -/
def HasDifferentTypes (loaded : Except DocumentError Description) : Prop :=
  ∀ d, loaded = .ok d → ∀ s ∈ d.sources, s.TypesDiffer

theorem typesDiffer_of_describe {schema : Schema} {doc : Value} {d : Description}
    (h : describe schema doc = .ok d) : ∀ s ∈ d.sources, s.TypesDiffer := by
  unfold describe at h
  obtain ⟨_, -, h⟩ := bind_eq_ok_iff.mp h
  obtain ⟨_, -, h⟩ := bind_eq_ok_iff.mp h
  exact Description.typesDiffer_of_ofValue h

/-- Loading tells no error: what is wrong with a document is given. -/
theorem quietly_load (env : Environment) (input : Path) (schema : Option String) :
    Quietly (load env input schema) HasDifferentTypes := by
  refine (quietly_log (by simp) _).bind fun _ _ => ?_
  refine (quietly_readDocument input).bind fun read _ => ?_
  split
  · exact quietly_pure nofun
  · refine (quietly_onFiles (Filing.yields_any _)).bind fun origin _ => ?_
    refine (quietly_log (by simp) _).bind fun _ _ => ?_
    refine (quietly_lift _).bind fun doc _ => ?_
    refine (quietly_onFiles (Filing.yields_any _)).bind fun schema _ => ?_
    split
    next d hd =>
      refine quietly_pure fun d' hd' => ?_
      obtain rfl := Except.ok.inj hd'
      exact typesDiffer_of_describe hd
    · exact quietly_pure nofun
    · exact quietly_throw _ _

/-! ## Telling problems -/

/-- The problem of a document is told as it is. -/
theorem shows_tellDocumentError (env : Environment) (base : Path) (e : DocumentError) :
    Shows (tellDocumentError e) fun es r => es = r.shownErrors env base ∧ r.IsOf (.error e) := by
  refine (shows_logError e.code_ne_empty e.message).quiet ?_
  rintro _ _ rfl
  exact quietly_pure ⟨rfl, rfl⟩

/-- The problems of a product are told in their order. -/
theorem shows_tellProduct (env : Environment) (base : Path) (p : SourceProduct) :
    Shows (tellProduct env base p) fun es _ => es = p.shownErrors env base := by
  have hissues := shows_forM (l := p.allIssues) (g := fun issue => [⟨some issue.report.code,
    "Error converting " ++ Path.wayFrom env.here base p.includeTarget ++ ": " ++ issue.report.message⟩])
    fun issue _ => shows_logError issue.code_ne_empty _
  refine hissues.quiet fun es _ hes => ?_
  refine (quietly_forM fun path _ => quietly_log (by simp) _).bind fun _ _ => ?_
  refine (quietly_forM fun path _ => quietly_log (by simp) _).imp fun es' _ hes' => ⟨hes'.1, ?_⟩
  exact hes.trans List.map_eq_flatMap.symm

/-! ## Validation -/

/-- Sources that are checked one after another have their problems told one after another. -/
theorem shows_checkSources (env : Environment) (registry : Registry) (settings : Settings) {sources : List Source}
    (hdiffer : ∀ s ∈ sources, s.TypesDiffer) :
    Shows (checkSources env registry settings sources) fun es products =>
      es = products.flatMap (·.shownErrors env settings.outDir)
        ∧ List.Forall₂ (SourceProduct.Lists registry settings.debugStart) sources products := by
  induction sources with
  | nil => exact (quietly_pure (P := fun products => products = []) rfl).imp fun es _ h => h.2 ▸ ⟨h.1, .nil⟩
  | cons s rest ih =>
    obtain ⟨hs, hrest⟩ := List.forall_mem_cons.mp hdiffer
    refine (quietly_onFiles (SourceProduct.yields_build registry settings false hs)).bind fun p hp => ?_
    refine (shows_tellProduct env settings.outDir p).bind ?_
    rintro _ _ rfl
    refine (ih hrest).bind ?_
    rintro _ products ⟨rfl, hproducts⟩
    refine (quietly_pure (P := fun all => all = p :: products) rfl).imp ?_
    rintro _ _ ⟨rfl, rfl⟩
    exact ⟨by rw [List.append_nil, List.flatMap_cons], .cons hp hproducts⟩

/-- A validation loads a description, and tells the errors of its result. -/
theorem exists_validate_eq (env : Environment) (input : String) (schema : Option String) :
    ∃ rest : Except DocumentError Description → Running RunResult,
      validate env input schema = load env (.ofText input) schema >>= rest
        ∧ ∀ loaded, HasDifferentTypes loaded → (rest loaded).Shows fun es r =>
          es = r.shownErrors env (Path.ofText input).parent ∧ r.IsOf loaded := by
  refine ⟨_, rfl, fun loaded hdiffer => ?_⟩
  cases loaded with
  | error e => exact shows_tellDocumentError env _ e
  | ok d =>
    refine (quietly_lift _).bind fun registry hregistry => ?_
    refine (quietly_tell fun c => c.tells_heading _).bind fun _ _ => ?_
    refine (shows_checkSources _ _ _ (hdiffer d rfl)).quiet ?_
    rintro _ products ⟨rfl, hproducts⟩
    have hresult : Quietly (pure ({ products := products } : RunResult)) fun r =>
        products.flatMap (·.shownErrors env (Path.ofText input).parent)
            = r.shownErrors env (Path.ofText input).parent
          ∧ r.IsOf (.ok d) :=
      quietly_pure ⟨rfl, rfl, registry, hregistry, hproducts⟩
    -- Success is told only where there is no problem; the result is the same.
    dsimp only
    split
    · exact (quietly_log (by simp) _).bind fun _ _ => hresult
    · exact hresult

/-! ## Generation -/

/-- What is produced of each source lists its problems, whatever becomes of the others. -/
theorem ends_produceAll (registry : Registry) (settings : Settings) (dryRun : Bool) {sources : List Source}
    (hdiffer : ∀ s ∈ sources, s.TypesDiffer) :
    (produceAll registry settings dryRun sources).Ends fun _ outcomes =>
      List.Forall₂ (fun s outcome => ∀ p, outcome = .ok p → SourceProduct.Lists registry settings.debugStart s p)
        sources outcomes := by
  unfold produceAll
  induction sources with
  | nil => exact .nil
  | cons s rest ih =>
    obtain ⟨hs, hrest⟩ := List.forall_mem_cons.mp hdiffer
    have hproduce : Filing.Yields (produce registry settings dryRun s)
        (SourceProduct.Lists registry settings.debugStart s) := by
      refine (SourceProduct.yields_build registry settings true hs).bind fun p hp => ?_
      split
      · exact Filing.yields_pure hp
      · exact SourceProduct.yields_deliver hp
    rw [List.mapM_cons]
    refine FileProgram.ends_andThen.mpr (hproduce.imp fun _ outcome houtcome => ?_)
    refine FileProgram.ends_andThen.mpr ((ih hrest).imp fun _ outcomes houtcomes => ?_)
    exact .cons houtcome houtcomes

/-- Products are counted only if no source has broken down. -/
theorem quietly_countProducts (outcomes : List (Except Breakdown SourceProduct)) :
    Quietly (countProducts outcomes) fun products => outcomes = products.map .ok := by
  induction outcomes with
  | nil => exact quietly_pure rfl
  | cons outcome rest ih =>
    cases outcome with
    | error b => exact (quietly_tell fun c => c.tells_endTask ..).bind fun _ _ => quietly_throw b _
    | ok p =>
      refine (quietly_tell fun c => c.tells_advance ..).bind fun _ _ => ?_
      refine ih.bind fun products hproducts => ?_
      exact quietly_pure (by rw [hproducts, List.map_cons])

theorem quietly_produceSources (registry : Registry) (settings : Settings) (dryRun : Bool) {sources : List Source}
    (hdiffer : ∀ s ∈ sources, s.TypesDiffer) : Quietly (produceSources registry settings dryRun sources)
      (List.Forall₂ (SourceProduct.Lists registry settings.debugStart) sources) := by
  refine (quietly_tell fun c => c.tells_startTask ..).bind fun _ _ => ?_
  refine (quietly_onProgram (ends_produceAll registry settings dryRun hdiffer)).bind fun outcomes hlists => ?_
  refine (quietly_countProducts outcomes).bind ?_
  rintro products rfl
  refine (quietly_tell fun c => c.tells_endTask ..).bind fun _ _ => quietly_pure ?_
  exact (List.forall₂_map_right_iff.mp hlists).imp fun s p h => h p rfl

theorem quietly_tellOutcome (env : Environment) (q : GenerationRequest) (r : RunResult) :
    Quietly (tellOutcome env q r) fun _ => True := by
  unfold tellOutcome
  split
  · refine (quietly_log (by simp) _).bind fun _ _ => ?_
    exact quietly_forM fun p _ => quietly_forM fun output _ => quietly_log (by simp) _
  · split <;> exact quietly_log (by simp) _

/-- A generation names the tool and loads a description, and tells the errors of its result. -/
theorem exists_generate_eq (env : Environment) (q : GenerationRequest) :
    ∃ rest : Except DocumentError Description → Running RunResult,
      generate env q
          = (log .info (toolName ++ " " ++ toolVersion) >>= fun _ => load env (.ofText q.input) q.schema) >>= rest
        ∧ ∀ loaded, HasDifferentTypes loaded → (rest loaded).Shows fun es r =>
          es = r.shownErrors env q.root ∧ r.IsOf loaded := by
  refine ⟨_, (bind_assoc _ _ _).symm, fun loaded hdiffer => ?_⟩
  cases loaded with
  | error e => exact shows_tellDocumentError env q.root e
  | ok d =>
    refine (quietly_log (by simp) _).bind fun _ _ => ?_
    refine (quietly_lift _).bind fun registry hregistry => ?_
    refine (quietly_produceSources _ _ _ (hdiffer d rfl)).bind fun products hproducts => ?_
    refine (shows_forM fun p _ => shows_tellProduct env q.root p).quiet ?_
    rintro _ _ rfl
    refine (quietly_tellOutcome env q _).bind fun _ _ => quietly_pure ?_
    exact ⟨rfl, rfl, registry, hregistry, hproducts⟩

end Running

/-! ## Commands -/

namespace Command

/-- The directory that the files of a command are seen from. -/
def base : Command → Path
  | generate q => q.root
  | validate input _ => (Path.ofText input).parent

/-- What a command begins with: its description is loaded. -/
def load (env : Environment) : Command → Running (Except DocumentError Description)
  | generate q => do
    Running.log .info (toolName ++ " " ++ toolVersion)
    Running.load env (.ofText q.input) q.schema
  | validate input schema => Running.load env (.ofText input) schema

theorem quietly_load (env : Environment) (command : Command) :
    Running.Quietly (command.load env) Running.HasDifferentTypes := by
  cases command with
  | generate q => exact (Running.quietly_log (by simp) _).bind fun _ _ => Running.quietly_load _ _ _
  | validate input schema => exact Running.quietly_load _ _ _

/-- A command goes on with what it has loaded: it tells the errors of its result, which is that of what has been
loaded. -/
theorem exists_run_eq (env : Environment) (command : Command) :
    ∃ rest : Except DocumentError Description → Running RunResult,
      command.run env = command.load env >>= rest
        ∧ ∀ loaded, Running.HasDifferentTypes loaded → (rest loaded).Shows fun es r =>
          es = r.shownErrors env command.base ∧ r.IsOf loaded := by
  cases command with
  | generate q => exact Running.exists_generate_eq env q
  | validate input schema => exact Running.exists_validate_eq env input schema

/-- What a command line gives is what its command gives, with the messages that have been shown. -/
theorem outcome_execute {σ : Type} (handle : (c : FileCommand) → StateM σ c.Answer) (s : σ) (env : Environment)
    {args : List String} {settings : GlobalSettings} {command : Command}
    (hargs : Invocation.read args = .ok ⟨settings, command⟩) :
    (execute env args).outcome handle s
      = match (command.run env).outcome handle (settings.console env) s with
        | (result, shown) => result.map fun r =>
          { code := if r.isFine then 0 else 1, messages := shown.transcript } := by
  have hexecute : execute env args = ((command.run env).run.run (settings.console env)).andThen
      fun (result, shown) => .done (result.map fun r =>
        { code := if r.isFine then 0 else 1, messages := shown.transcript }) := by
    unfold execute
    rw [hargs]
    rfl
  rw [hexecute, FileProgram.outcome_andThen]
  rfl

/-- A command that gives a result has told its errors since it has begun, on any console that drops no errors. -/
theorem tells_of_outcome {σ : Type} {handle : (c : FileCommand) → StateM σ c.Answer} {s : σ} {env : Environment}
    {command : Command} {console shown : Console} {r : RunResult}
    (hthreshold : console.threshold ≤ LogLevel.error.number)
    (h : (command.run env).outcome handle console s = (.ok r, shown)) :
    console.Tells (r.shownErrors env command.base) shown
      ∧ ∃ loaded, ((command.load env).outcome handle console s).1 = .ok loaded ∧ r.IsOf loaded := by
  obtain ⟨rest, hrun, hrest⟩ := exists_run_eq env command
  obtain ⟨loaded, hloaded, _, htells, rfl, hof⟩ :=
    Running.outcome_bind handle s (quietly_load env command) hrest hthreshold (hrun ▸ h)
  exact ⟨htells, loaded, hloaded, hof⟩

/-- A command that gives a result has told the errors of the result, each one once and in order: those of what it has
loaded. A command line with such a command ends, and ends well exactly if there is no problem. -/
theorem tells_problems {σ : Type} (handle : (c : FileCommand) → StateM σ c.Answer) (s : σ) (env : Environment)
    (command : Command) :
    (∀ (console : Console) (verbosity : Int) (r : RunResult) (shown : Console),
      (command.run env).outcome handle (console.configureLog verbosity) s = (.ok r, shown) →
        shown.errors = console.errors ++ r.shownErrors env command.base
          ∧ shown.errorCount = console.errorCount + r.allIssues.length
          ∧ ∃ loaded, ((command.load env).outcome handle (console.configureLog verbosity) s).1 = .ok loaded
            ∧ r.IsOf loaded)
      ∧ ∀ args settings, Invocation.read args = .ok ⟨settings, command⟩ → ∀ (r : RunResult) (shown : Console),
        (command.run env).outcome handle (settings.console env) s = (.ok r, shown) →
          shown.errors = r.shownErrors env command.base
            ∧ ∃ exit, (execute env args).outcome handle s = .ok exit ∧ exit.messages = shown.transcript
              ∧ (exit.code = 0 ↔ r.allIssues = []) := by
  constructor
  · intro console verbosity r shown h
    obtain ⟨htells, hloaded⟩ := tells_of_outcome (console.threshold_configureLog verbosity) h
    have hcount := htells.errorCount_eq
    rw [RunResult.length_shownErrors] at hcount
    exact ⟨htells.errors_eq, hcount, hloaded⟩
  · intro args settings hargs r shown h
    have hthreshold : (settings.console env).threshold ≤ LogLevel.error.number :=
      Console.threshold_configureLog { style := (settings.console env).style } settings.verbosity
    have hexecute := outcome_execute handle s env hargs
    rw [h] at hexecute
    refine ⟨(tells_of_outcome hthreshold h).1.errors_eq, _, hexecute, rfl, ?_⟩
    simp [RunResult.isFine]

/-- A document with a binding of a type that there is not. -/
def strangeBinding : String :=
  "\x7b\"meta\":\x7b\"version\":\"1.0.0\"\x7d,\"sources\":[\x7b\"path\":\"A\",\"bindings\":["
    ++ "\x7b\"name\":\"x\",\"type\":\"y\"\x7d]\x7d]\x7d"

/-- Files of which that document is the only one. -/
def strangeFiles (c : FileCommand) : StateM Unit c.Answer :=
  pure (Running.onlyFile Running.documentPath strangeBinding c)

theorem tells_problems_of_strangeBinding :
    ∃ (r : RunResult) (shown : Console),
      ((validate "types.yaml" none).run { home := "/tool", here := [] }).outcome strangeFiles
          (Console.configureLog { style := .silent } 0) () = (.ok r, shown)
        ∧ shown.errors = [⟨some "E_UNRECOGNIZED_TYPE",
          "Error converting A.hlsl: failed to generate binding 'x': unrecognized data type 'y'"⟩]
        ∧ r.allIssues.length = 1
        ∧ ∃ exit, (execute { home := "/tool", here := [] } ["-r", "silent", "validate", "types.yaml"]).outcome
            strangeFiles () = .ok exit
          ∧ exit.code ≠ 0 := by
  have hargs : Invocation.read ["-r", "silent", "validate", "types.yaml"]
      = .ok ⟨{ reporter := "silent" }, .validate "types.yaml" none⟩ := rfl
  have hshown : (match ((validate "types.yaml" none).run { home := "/tool", here := [] }).outcome strangeFiles
        (Console.configureLog { style := .silent } 0) () with
      | (.ok _, shown) => shown.errors
      | (.error _, _) => []) = [⟨some "E_UNRECOGNIZED_TYPE",
        "Error converting A.hlsl: failed to generate binding 'x': unrecognized data type 'y'"⟩] := by
    decide +kernel
  have htold := tells_problems strangeFiles () { home := "/tool", here := [] } (validate "types.yaml" none)
  generalize houtcome : ((validate "types.yaml" none).run { home := "/tool", here := [] }).outcome strangeFiles
    (Console.configureLog { style := .silent } 0) () = outcome at hshown
  obtain ⟨result, shown⟩ := outcome
  cases result with
  | error b => cases hshown
  | ok r =>
    dsimp only at hshown
    obtain ⟨-, hcount, -⟩ := htold.1 { style := .silent } 0 r shown houtcome
    obtain ⟨-, exit, hexit, -, hcode⟩ := htold.2 _ _ hargs r shown houtcome
    have hone : r.allIssues.length = 1 := by
      rw [Console.errorCount, hshown, Console.errorCount, List.length_nil, Nat.zero_add] at hcount
      exact hcount.symm
    refine ⟨r, shown, rfl, hshown, hone, exit, hexit, fun hzero => ?_⟩
    rw [hcode.mp hzero] at hone
    cases hone

end Command

end ShaderRecords
