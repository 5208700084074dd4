import TmuxLayout.CommandLine.Run
import TmuxLayout.Proofs.Compile.Commands
import TmuxLayout.Proofs.Layout.Reading

/-!
# Layouts of the command line compile (SPEC_FULL.md §7)

Every layout that the command line works on was read from a document, so it is
valid, and a valid layout compiles. The fault of compiling, and the event that
tells of it, come from one place alone, which is therefore never reached.

- `Lacks`: no event of a row has a name.
- `Options.document_of_source`: a layout that options ask for comes from a
  document.
- `lacks_fullReport`: compiling is told to have failed only when a
  layout that options ask for does not compile.
- `Layout.compiles_of_read`: all of it together.
-/

namespace TmuxLayout

/-- No event of a row has a name. -/
def Lacks (name : String) (events : List Event) : Prop :=
  ∀ event ∈ events, event.name ≠ name

theorem lacks_nil (name : String) : Lacks name [] := nofun

section

variable {name other : String} {level : Level} {target : String}
  {details : List (String × FieldValue)}

theorem lacks_cons {events : List Event} (hother : other ≠ name) (h : Lacks name events) :
    Lacks name (⟨level, target, other, details⟩ :: events) := by
  intro event hevent
  cases List.mem_cons.mp hevent with
  | inl heq => exact heq ▸ hother
  | inr hmem => exact h event hmem

theorem lacks_singleton (hother : other ≠ name) :
    Lacks name [⟨level, target, other, details⟩] :=
  lacks_cons hother (lacks_nil name)

end

theorem lacks_append {name : String} {before after : List Event} (hbefore : Lacks name before)
    (hafter : Lacks name after) : Lacks name (before ++ after) := by
  intro event hevent
  cases List.mem_append.mp hevent with
  | inl hmem => exact hbefore event hmem
  | inr hmem => exact hafter event hmem

theorem lacks_flatMap {α : Type} {name : String} {items : List α} {record : α → List Event}
    (h : ∀ item, Lacks name (record item)) : Lacks name (items.flatMap record) := by
  intro event hevent
  obtain ⟨item, -, hmem⟩ := List.mem_flatMap.mp hevent
  exact h item event hmem

/-! ## Events of compiling that failed -/

/-- The name of the event that tells that compiling failed. -/
def compileFailed : String := "cli.compile_failed"

/-- Loading a file tells of no fault of compiling. -/
theorem lacks_loadRecord (files : Files) (path : String) :
    Lacks compileFailed (loadRecord files path) := by
  refine lacks_append (lacks_cons (by decide) ?_) ?_
  · rw [fileRead]
    split
    · exact lacks_singleton (by decide)
    · exact lacks_nil _
  · cases Layout.load files path with
    | error error => exact lacks_singleton (by decide)
    | ok layout => exact lacks_cons (by decide) (lacks_singleton (by decide))

theorem lacks_defaultRecord (files : Files) (paths : ConfigPaths) :
    Lacks compileFailed (defaultRecord files paths) := by
  rw [defaultRecord]
  split
  · refine lacks_append (lacks_loadRecord files _) ?_
    split
    · exact lacks_singleton (by decide)
    · exact lacks_nil _
  · exact lacks_singleton (by decide)

theorem lacks_sourceRecord (options : Options) (files : Files) (environment : Environment) :
    Lacks compileFailed (options.sourceRecord files environment) := by
  rw [Options.sourceRecord]
  split
  · exact lacks_cons (by decide) (lacks_loadRecord files _)
  · split
    · split
      · exact lacks_defaultRecord files _
      · exact lacks_nil _
    · exact lacks_nil _

/-- A fault of loading is told under a name of its own. -/
theorem lacks_sourceError (error : SourceError) : Lacks compileFailed error.events := by
  cases error with
  | noFile => exact lacks_singleton (by decide)
  | file path error => exact lacks_cons (by decide) (lacks_singleton (by decide))
  | default error =>
    cases error with
    | homeNotFound => exact lacks_singleton (by decide)
    | load error => exact lacks_cons (by decide) (lacks_singleton (by decide))
  | noDefault path => exact lacks_singleton (by decide)

/-- The record of compiling leaves its fault to the end of the program. -/
theorem lacks_compileRecord (layout : Layout) (directory window : Option String) :
    Lacks compileFailed (compileRecord layout directory window) := by
  refine lacks_cons (by decide) ?_
  cases layout.compileFrom directory window with
  | error fault => exact lacks_nil _
  | ok compiled =>
    refine lacks_append ?_ (lacks_singleton (by decide))
    intro event hevent
    obtain ⟨step, -, hstep⟩ := List.mem_filterMap.mp hevent
    rw [splitEvent?] at hstep
    split at hstep
    · cases hstep
      show "core.layout.split_computed" ≠ compileFailed
      decide
    · cases hstep

theorem lacks_lineRecord (shell line : String) (result : Except RunError Unit) :
    Lacks compileFailed (lineRecord shell line result) := by
  refine lacks_append (lacks_cons (by decide) ?_) ?_
  · cases exitCodeOf result with
    | none => exact lacks_nil _
    | some code => exact lacks_singleton (by decide)
  · split
    · exact lacks_singleton (by decide)
    · exact lacks_nil _

section Running

variable {σ : Type} (shell : String) (steps : List Step) (execution : Execution σ)

/-- Running the commands one by one tells of no fault of compiling. -/
theorem lacks_executeRecord : Lacks compileFailed (executeRecord shell steps execution) := by
  refine lacks_append (lacks_cons (by decide) (lacks_flatMap fun _ =>
    lacks_cons (by decide) (lacks_lineRecord shell _ _))) ?_
  split
  · exact lacks_singleton (by decide)
  · exact lacks_nil _

theorem lacks_batchRecord : Lacks compileFailed (batchRecord shell steps execution) := by
  rw [batchRecord]
  split
  · exact lacks_nil _
  · refine lacks_append (lacks_cons (by decide) (lacks_flatMap fun _ =>
      lacks_lineRecord shell _ _)) ?_
    split
    · exact lacks_singleton (by decide)
    · exact lacks_nil _

end Running

/-- No report on running commands tells of a fault of compiling. -/
theorem lacks_executeReport {σ : Type} (options : Options) (painter : Painter)
    (runner : Runner σ) (state : σ) (layout : Layout) (steps : List Step) :
    Lacks compileFailed
      (options.executeReport painter runner state layout steps).events := by
  have hrecord : ∀ execution : Execution σ, Lacks compileFailed
      (if options.batch then batchRecord defaultShell steps execution
        else executeRecord defaultShell steps execution) := by
    intro execution
    split
    · exact lacks_batchRecord defaultShell steps execution
    · exact lacks_executeRecord defaultShell steps execution
  rw [Options.executeReport]
  split
  · exact lacks_append (lacks_cons (by decide) (hrecord _)) (lacks_singleton (by decide))
  · exact lacks_append (lacks_cons (by decide) (hrecord _))
      (lacks_cons (by decide) (lacks_singleton (by decide)))

/-- Compiling is told to have failed only when a layout that options ask for does
not compile. -/
theorem lacks_fullReport {σ : Type} {options : Options} {files : Files}
    {environment : Environment} (runner : Runner σ) (state : σ)
    (h : ∀ layout source, options.source files environment = .ok (layout, source) →
      ∃ steps, layout.compile options.directory options.window = .ok steps) :
    Lacks compileFailed (options.fullReport files environment runner state).events := by
  have hbefore : Lacks compileFailed (startEvent :: options.sourceRecord files environment) :=
    lacks_cons (by decide) (lacks_sourceRecord options files environment)
  rw [Options.fullReport]
  cases hsource : options.source files environment with
  | error error => exact lacks_append hbefore (lacks_sourceError error)
  | ok found =>
    obtain ⟨layout, source⟩ := found
    obtain ⟨steps, hsteps⟩ := h layout source hsource
    have hcompile := lacks_append hbefore
      (lacks_compileRecord layout options.directory options.window)
    -- compiling succeeds, so the branch of the fault is gone
    dsimp only
    rw [hsteps]
    dsimp only
    split
    · exact lacks_append hcompile (lacks_executeReport options _ runner state layout steps)
    · exact lacks_append hcompile (lacks_singleton (by decide))

/-! ## Where layouts come from -/

/-- A layout that is loaded from a file comes from a document. -/
theorem Layout.document_of_load {files : Files} {path : String} {layout : Layout}
    (h : Layout.load files path = .ok layout) :
    ∃ document, Layout.ofDocument document = .ok layout := by
  rw [Layout.load] at h
  obtain ⟨format, -, h⟩ := Except.bind_eq_ok_iff.mp h
  obtain ⟨text, -, h⟩ := Except.bind_eq_ok_iff.mp h
  rw [Layout.read] at h
  obtain ⟨document, -, h⟩ := Except.bind_eq_ok_iff.mp h
  exact ⟨document, Except.mapError_eq_ok_iff.mp h⟩

/-- The default layout comes from a document. -/
theorem Layout.document_of_loadDefault {files : Files} {paths : ConfigPaths} {layout : Layout}
    (h : Layout.loadDefault files paths = .ok (some layout)) :
    ∃ document, Layout.ofDocument document = .ok layout := by
  rw [Layout.loadDefault] at h
  split at h
  · obtain ⟨loaded, hload, heq⟩ := Except.map_eq_ok_iff.mp (Except.mapError_eq_ok_iff.mp h)
    cases heq
    exact Layout.document_of_load hload
  · cases h

/-- A layout that options ask for comes from a document. -/
theorem Options.document_of_source {options : Options} {files : Files}
    {environment : Environment} {layout : Layout} {source : Source}
    (h : options.source files environment = .ok (layout, source)) :
    ∃ document, Layout.ofDocument document = .ok layout := by
  rw [Options.source] at h
  split at h
  · obtain ⟨loaded, hload, heq⟩ := Except.map_eq_ok_iff.mp (Except.mapError_eq_ok_iff.mp h)
    cases heq
    exact Layout.document_of_load hload
  · split at h
    · split at h
      · cases h
      · split at h
        · next hdefault =>
          cases h
          exact Layout.document_of_loadDefault hdefault
        · cases h
        · cases h
    · cases h

/-! ## Layouts of documents -/

namespace Layout

/-- A layout that was read compiles, to commands of its own. -/
theorem compile_of_ofDocument {document : Document} {layout : Layout}
    (h : Layout.ofDocument document = .ok layout) (directory window : Option String) :
    layout.compile directory window = .ok (layout.commands directory window) :=
  compile_of_checkRatios directory window (checkRatios_of_ofDocument h)

/-- **A document that is read compiles.** Its layout is valid, and compiles in
every directory and under every window name. So does each layout that options ask
for, from a file or by default, and the command line never tells that compiling
failed. -/
theorem compiles_of_read :
    (∀ document layout, Layout.ofDocument document = .ok layout →
      layout.validate = .ok () ∧
        ∀ directory window, ∃ steps, layout.compile directory window = .ok steps) ∧
    (∀ (options : Options) files environment layout source,
      options.source files environment = .ok (layout, source) →
        ∃ steps, layout.compile options.directory options.window = .ok steps) ∧
    ∀ (σ : Type) (options : Options) files environment (runner : Runner σ) state,
      Lacks compileFailed (options.fullReport files environment runner state).events := by
  have hsource : ∀ (options : Options) files environment layout source,
      options.source files environment = .ok (layout, source) →
        ∃ steps, layout.compile options.directory options.window = .ok steps := by
    intro options files environment layout source h
    obtain ⟨document, hdocument⟩ := Options.document_of_source h
    exact ⟨_, compile_of_ofDocument hdocument options.directory options.window⟩
  refine ⟨?_, hsource, ?_⟩
  · intro document layout h
    exact ⟨validate_of_ofDocument h, fun directory window =>
      ⟨_, compile_of_ofDocument h directory window⟩⟩
  · intro σ options files environment runner state
    exact lacks_fullReport runner state (hsource options files environment)

/-- A container with a ratio, and one without children in it, are read and
compile. -/
theorem compiles_of_read_nested :
    let document : Document := .mapping [(.string "layout", .mapping
      [(.string "type", .string "horizontal"), (.string "ratio", .sequence [.int 70, .int 30]),
        (.string "panes", .sequence [.mapping [(.string "command", .string "top")],
          .mapping [(.string "type", .string "vertical"), (.string "panes", .sequence [])]])])]
    ∃ layout, Layout.ofDocument document = .ok layout ∧ layout.validate = .ok () ∧
      ∃ steps, layout.compile none (some "main") = .ok steps := by
  intro document
  have hread : Layout.ofDocument document = .ok _ := rfl
  obtain ⟨hvalid, hcompile⟩ := compiles_of_read.1 document _ hread
  exact ⟨_, hread, hvalid, hcompile none (some "main")⟩

end Layout

end TmuxLayout
