import Mathlib.Data.List.TakeWhile
import TmuxLayout.Proofs.Compile.Commands
import TmuxLayout.Proofs.Except

/-!
# Weights are read within bounds

The arithmetic of splits checks nothing: the first weight and the rest of a list behind
an index are there only when the list is long enough. Functions on lists hide that, since
they have an answer for any index. Here compiling is watched: the same computation, which
also keeps every call for the percentages of a container, and which halts where a list is
read behind its end or a number would fall below zero.

- `Watched`: a computation with the calls it makes. `Halt` is how it ends early.
- `Watched.splitPercentages`, `Node.watchedSteps`, `Layout.watchedCompile`: the percentages
  of a container, the steps of a node and those of a layout, watched.
- `SplitCall.fits`, `Node.splitCalls`: a ratio has a weight for each child, and the calls
  for all containers of a tree.
- `Watched.Follows`: a watched computation ends as a plain one, and makes its calls up to
  the first that does not fit. `Node.follows_watchedSteps` says so of a node.
- `Layout.compile_within_bounds`: compiling never halts out of bounds, whatever the tree.
-/

namespace TmuxLayout

/-! ## Watched computations -/

/-- A call for the percentages of the splits of a container. -/
structure SplitCall where
  ratio : Option (List Float)
  childCount : Nat

/-- How a watched computation ends early. -/
inductive Halt where
  | fault (fault : Layout.Fault)
  /-- A list is read behind its end, or a number falls below zero. -/
  | outOfBounds

/-- A computation with the calls that it makes. -/
structure Watched (α : Type) where
  calls : List SplitCall
  result : Except Halt α

namespace Watched

variable {α β : Type}

instance : Monad Watched where
  pure a := ⟨[], .ok a⟩
  bind x f :=
    match x.result with
    | .error halt => ⟨x.calls, .error halt⟩
    | .ok a => ⟨x.calls ++ (f a).calls, (f a).result⟩

theorem pure_bind (a : α) (f : α → Watched β) : (pure a >>= f) = f a := rfl

/-- A computation that makes no calls. -/
def ofExcept (x : Except Layout.Fault α) : Watched α :=
  ⟨[], x.mapError .fault⟩

/-- Ends where bounds are left. -/
def outOfBounds : Watched α := ⟨[], .error .outOfBounds⟩

/-- The first of the weights. -/
def first : List Float → Watched Float
  | [] => outOfBounds
  | weight :: _ => pure weight

/-- The weights from an index on, which may be that of the end. -/
def slice (weights : List Float) (start : Nat) : Watched (List Float) :=
  if start ≤ weights.length then pure (weights.drop start) else outOfBounds

/-- A number less one. -/
def pred : Nat → Watched Nat
  | 0 => outOfBounds
  | n + 1 => pure n

/-- The share of the new pane of a split, read within bounds. -/
def newPaneShare (weights : List Float) (split : Nat) : Watched Float :=
  if split = 1 then do
    let weight ← first weights
    return (total weights - weight) / total weights * Weight.hundred
  else do
    let before ← pred split
    let space ← slice weights before
    let rest ← slice weights split
    return total rest / total space * Weight.hundred

/-- The percentages of splits, one after the other. -/
def percentages (weights : List Float) : (splits : List Nat) → Watched (List Float)
  | [] => pure []
  | split :: splits => do
    let share ← newPaneShare weights split
    let percents ← percentages weights splits
    return roundHalfUp share :: percents

/-- Keeps a call. -/
def call (call : SplitCall) : Watched Unit := ⟨[call], .ok ()⟩

/-- The percentages of the splits of a container, read within bounds. -/
def splitPercentages (ratio : Option (List Float)) (childCount : Nat) : Watched (List Float) := do
  call ⟨ratio, childCount⟩
  percentages (weightsOf ratio childCount) (List.range' 1 (childCount - 1))

/-- The splits of a container. -/
def splits (directory : String) (frame : Frame) (childCount : Nat) : Watched (List Step) := do
  let percents ← splitPercentages frame.ratio childCount
  return percents.zipIdx.map fun (percent, i) =>
    ⟨.splitWindow frame.direction percent directory, .split frame.direction (i + 1)⟩

end Watched

mutual

/-- The commands for a node, watched. -/
def Node.watchedSteps (directory path : String) :
    Node → (index : Nat) → Watched (List Step × Nat)
  | .pane pane, index => pure (paneSteps pane index, index + 1)
  | .container frame children, index => do
    Watched.ofExcept (checkRatio frame children.length path)
    let splits ← Watched.splits directory frame children.length
    let (steps, next) ← watchedChildSteps directory path 0 children index
    return (⟨.selectPane index, .enterContainer index⟩ :: splits ++ steps, next)

/-- The commands for a row of children, watched. -/
def watchedChildSteps (directory path : String) (position : Nat) :
    List Node → (index : Nat) → Watched (List Step × Nat)
  | [], index => pure ([], index)
  | node :: nodes, index => do
    let (steps, next) ← node.watchedSteps directory (childPath path position) index
    let (others, last) ← watchedChildSteps directory path (position + 1) nodes next
    return (steps ++ others, last)

end

/-- The commands for a layout and the number of its panes, watched. -/
def Layout.watchedCompile (layout : Layout) (directory window : Option String) :
    Watched (List Step × Nat) := do
  let directory := directory.getD currentPath
  Watched.ofExcept (checkRatio layout.frame layout.children.length rootPath)
  let splits ← Watched.splits directory layout.frame layout.children.length
  let (steps, next) ← watchedChildSteps directory rootPath 0 layout.children 1
  let panes ← Watched.pred next
  return (⟨.newWindow window directory, .createWindow⟩ :: splits ++ steps ++
    (layout.root.focusTitle?.map focusStep).toList, panes)

/-! ## Calls that fit -/

/-- The ratio, if there is one, has a weight for each child. -/
def SplitCall.fits (call : SplitCall) : Bool :=
  call.ratio.all (·.length = call.childCount)

namespace Node

mutual

/-- The calls for all containers of a tree, a container before those below it. -/
def splitCalls : Node → List SplitCall
  | pane _ => []
  | container frame children => ⟨frame.ratio, children.length⟩ :: childSplitCalls children

/-- The calls for all containers of a row of trees. -/
def childSplitCalls : List Node → List SplitCall
  | [] => []
  | node :: nodes => node.splitCalls ++ childSplitCalls nodes

end

end Node

/-- There are as many weights as children where the ratio fits. -/
theorem length_weightsOf {call : SplitCall} (h : call.fits = true) :
    (weightsOf call.ratio call.childCount).length = call.childCount := by
  obtain ⟨ratio, childCount⟩ := call
  cases ratio with
  | none => exact List.length_replicate
  | some weights => exact of_decide_eq_true h

theorem isOk_checkRatio (frame : Frame) (childCount : Nat) (path : String) :
    (checkRatio frame childCount path).isOk = SplitCall.fits ⟨frame.ratio, childCount⟩ := by
  rw [checkRatio, SplitCall.fits]
  dsimp only
  cases frame.ratio with
  | none => rfl
  | some weights =>
    by_cases hlength : weights.length = childCount
    · simp [hlength, Except.isOk, Except.toBool]
    · simp [hlength, Except.isOk, Except.toBool]

namespace Watched

/-! ## Percentages -/

/-- A split of as many children as there are weights reads nothing behind them. -/
theorem newPaneShare_eq {weights : List Float} {split : Nat} (hpos : 1 ≤ split)
    (hle : split ≤ weights.length) :
    newPaneShare weights split = pure (TmuxLayout.newPaneShare weights split) := by
  rw [newPaneShare, TmuxLayout.newPaneShare]
  by_cases hfirst : split = 1
  · rw [if_pos hfirst, if_pos hfirst]
    cases weights with
    | nil => exact absurd (Nat.le_trans hpos hle) (Nat.not_succ_le_zero 0)
    | cons weight weights => rfl
  · rw [if_neg hfirst, if_neg hfirst]
    obtain ⟨before, rfl⟩ := Nat.exists_eq_add_of_le' hpos
    have hspace : slice weights before = pure (weights.drop before) :=
      if_pos (Nat.le_of_succ_le hle)
    have hrest : slice weights (before + 1) = pure (weights.drop (before + 1)) := if_pos hle
    rw [pred, pure_bind, hspace, pure_bind, hrest]
    rfl

theorem percentages_eq {weights : List Float} {splits : List Nat}
    (h : ∀ split ∈ splits, 1 ≤ split ∧ split ≤ weights.length) :
    percentages weights splits =
      pure (splits.map fun split => roundHalfUp (TmuxLayout.newPaneShare weights split)) := by
  induction splits with
  | nil => rfl
  | cons split splits ih =>
    rw [List.forall_mem_cons] at h
    rw [percentages, newPaneShare_eq h.1.1 h.1.2, ih h.2]
    rfl

/-- The percentages of a container are read within bounds when its ratio fits. -/
theorem splitPercentages_eq {ratio : Option (List Float)} {childCount : Nat}
    (h : SplitCall.fits ⟨ratio, childCount⟩ = true) :
    splitPercentages ratio childCount =
      ⟨[⟨ratio, childCount⟩], .ok (TmuxLayout.splitPercentages ratio childCount)⟩ := by
  have hlength := length_weightsOf h
  have hbounds : ∀ split ∈ List.range' 1 (childCount - 1),
      1 ≤ split ∧ split ≤ (weightsOf ratio childCount).length := by
    intro split hsplit
    rw [List.mem_range'_1] at hsplit
    rw [hlength]
    dsimp only
    omega
  have hshares : (List.range' 1 (childCount - 1)).map (fun split =>
      roundHalfUp (TmuxLayout.newPaneShare (weightsOf ratio childCount) split)) =
      TmuxLayout.splitPercentages ratio childCount := by
    rw [List.range'_eq_map_range, List.map_map, TmuxLayout.splitPercentages]
    refine List.map_congr_left fun i _ => ?_
    rw [Function.comp_apply, Nat.add_comm]
  rw [splitPercentages, percentages_eq hbounds, hshares]
  rfl

theorem splits_eq {directory : String} {frame : Frame} {childCount : Nat}
    (h : SplitCall.fits ⟨frame.ratio, childCount⟩ = true) :
    splits directory frame childCount =
      ⟨[⟨frame.ratio, childCount⟩], .ok (TmuxLayout.splits directory frame childCount)⟩ := by
  rw [splits, splitPercentages_eq h]
  rfl

/-! ## Calls up to the first that does not fit -/

/-- A watched computation ends as a plain one does, and makes its calls up to the first
that does not fit; when all fit, the plain one succeeds, and only then. -/
structure Follows (x : Watched α) (calls : List SplitCall) (plain : Except Layout.Fault α) :
    Prop where
  calls_eq : x.calls = calls.takeWhile SplitCall.fits
  result_eq : x.result = plain.mapError .fault
  isOk_eq : plain.isOk = calls.all SplitCall.fits

namespace Follows

theorem pure (a : α) : Follows (Pure.pure a) [] (.ok a) := ⟨rfl, rfl, rfl⟩

/-- The calls of what comes second are made only when all calls before fit. -/
theorem bind {x : Watched α} {calls others : List SplitCall} {plain : Except Layout.Fault α}
    {f : α → Watched β} {g : α → Except Layout.Fault β} (h : x.Follows calls plain)
    (hf : ∀ a, plain = .ok a → (f a).Follows others (g a)) :
    (x >>= f).Follows (calls ++ others) (plain >>= g) := by
  obtain ⟨hcalls, hresult, hok⟩ := h
  obtain ⟨made, result⟩ := x
  subst hcalls hresult
  cases plain with
  | error fault =>
    have hsome : calls.all SplitCall.fits = false := hok.symm
    -- one of the calls does not fit, so none of the others is made
    have hstop : ¬ (calls.takeWhile SplitCall.fits).length = calls.length := by
      intro hlength
      have heq := (List.takeWhile_prefix SplitCall.fits).eq_of_length hlength
      rw [← heq, List.all_takeWhile] at hsome
      cases hsome
    refine ⟨?_, rfl, ?_⟩
    · rw [List.takeWhile_append, if_neg hstop]
      rfl
    · rw [List.all_append, hsome, Bool.false_and]
      rfl
  | ok a =>
    have hall : calls.all SplitCall.fits = true := hok.symm
    obtain ⟨hcalls, hresult, hok⟩ := hf a rfl
    have htake : calls.takeWhile SplitCall.fits = calls :=
      List.takeWhile_eq_self_iff.mpr (List.all_eq_true.mp hall)
    refine ⟨?_, hresult, ?_⟩
    · show calls.takeWhile SplitCall.fits ++ (f a).calls = _
      rw [hcalls, List.takeWhile_append_of_pos (List.all_eq_true.mp hall), htake]
    · show (g a).isOk = _
      rw [hok, List.all_append, hall, Bool.true_and]

/-- What comes second may make no calls. -/
theorem bind_nil {x : Watched α} {calls : List SplitCall} {plain : Except Layout.Fault α}
    {f : α → Watched β} {g : α → Except Layout.Fault β} (h : x.Follows calls plain)
    (hf : ∀ a, plain = .ok a → (f a).Follows [] (g a)) :
    (x >>= f).Follows calls (plain >>= g) := by
  have hbind : (x >>= f).Follows (calls ++ []) (plain >>= g) := h.bind hf
  rw [List.append_nil] at hbind
  exact hbind

theorem map {x : Watched α} {calls : List SplitCall} {plain : Except Layout.Fault α}
    (h : x.Follows calls plain) (f : α → β) :
    (do return f (← x) : Watched β).Follows calls (plain.map f) :=
  h.bind_nil (g := fun a => .ok (f a)) fun a _ => .pure (f a)

end Follows

/-- The ratio of a container is checked before its splits are worked out, and what comes
behind them is reached only when it fits. -/
theorem Follows.behind_splits (directory path : String) (frame : Frame) (childCount : Nat)
    {f : List Step → Watched β} {others : List SplitCall} {plain : Except Layout.Fault β}
    (h : (f (TmuxLayout.splits directory frame childCount)).Follows others plain) :
    (do
      ofExcept (checkRatio frame childCount path)
      let splits ← splits directory frame childCount
      f splits).Follows (⟨frame.ratio, childCount⟩ :: others)
        (checkRatio frame childCount path >>= fun _ => plain) := by
  have hok := isOk_checkRatio frame childCount path
  -- the check fails exactly where the call would not fit, and then nothing is called
  cases hcheck : checkRatio frame childCount path with
  | error fault =>
    rw [hcheck] at hok
    have hfits : SplitCall.fits ⟨frame.ratio, childCount⟩ = false := hok.symm
    refine ⟨?_, rfl, ?_⟩
    · rw [List.takeWhile_cons, hfits]
      rfl
    · rw [List.all_cons, hfits]
      rfl
  | ok _ =>
    rw [hcheck] at hok
    have hfits : SplitCall.fits ⟨frame.ratio, childCount⟩ = true := hok.symm
    rw [splits_eq hfits]
    refine ⟨?_, h.result_eq, ?_⟩
    · rw [List.takeWhile_cons, hfits, ← h.calls_eq]
      rfl
    · rw [List.all_cons, hfits, ← h.isOk_eq]
      rfl

end Watched

/-! ## Trees -/

mutual

/-- The steps of a node come out watched as they do plainly. -/
theorem Node.follows_watchedSteps (directory path : String) (node : Node) (index : Nat) :
    (node.watchedSteps directory path index).Follows node.splitCalls
      (node.steps directory path index) := by
  cases node with
  | pane pane => exact .pure _
  | container frame children =>
    rw [Node.watchedSteps, Node.steps, Node.splitCalls]
    refine .behind_splits directory path frame children.length ?_
    exact (follows_watchedChildSteps directory path 0 children index).map _

/-- The steps of a row of children come out watched as they do plainly. -/
theorem follows_watchedChildSteps (directory path : String) (position : Nat) (nodes : List Node)
    (index : Nat) :
    (watchedChildSteps directory path position nodes index).Follows (Node.childSplitCalls nodes)
      (childSteps directory path position nodes index) := by
  cases nodes with
  | nil => exact .pure _
  | cons node nodes =>
    rw [watchedChildSteps, childSteps, Node.childSplitCalls]
    refine (Node.follows_watchedSteps directory _ node index).bind fun (steps, next) _ => ?_
    exact (follows_watchedChildSteps directory path (position + 1) nodes next).map _

end

/-- Numbers of panes begin with one, so the number behind the last of them is never
zero. -/
theorem pos_of_childSteps {directory path : String} {position : Nat} {nodes : List Node}
    {steps : List Step} {next : Nat}
    (h : childSteps directory path position nodes 1 = .ok (steps, next)) : 0 < next := by
  rw [childSteps_eq] at h
  obtain ⟨-, -, heq⟩ := Except.map_eq_ok_iff.mp h
  cases heq
  omega

namespace Layout

/-- The steps of a layout come out watched as they do plainly. -/
theorem follows_watchedCompile (layout : Layout) (directory window : Option String) :
    (layout.watchedCompile directory window).Follows layout.root.splitCalls
      ((layout.compileFrom directory window).map fun (steps, next) => (steps, next - 1)) := by
  let finish (steps : List Step) : List Step :=
    ⟨.newWindow window (directory.getD currentPath), .createWindow⟩ ::
      splits (directory.getD currentPath) layout.frame layout.children.length ++ steps ++
        (layout.root.focusTitle?.map focusStep).toList
  have hplain : (layout.compileFrom directory window).map (fun (steps, next) => (steps, next - 1)) =
      checkRatio layout.frame layout.children.length rootPath >>= fun _ =>
        childSteps (directory.getD currentPath) rootPath 0 layout.children 1 >>=
          fun (steps, next) => .ok (finish steps, next - 1) := by
    rw [compileFrom]
    cases checkRatio layout.frame layout.children.length rootPath with
    | error fault => rfl
    | ok _ =>
      cases childSteps (directory.getD currentPath) rootPath 0 layout.children 1 with
      | error fault => rfl
      | ok _ => rfl
  rw [hplain, watchedCompile, root, Node.splitCalls]
  refine .behind_splits _ rootPath layout.frame layout.children.length ?_
  refine (follows_watchedChildSteps (directory.getD currentPath) rootPath 0
    layout.children 1).bind_nil (g := fun (steps, next) => .ok (finish steps, next - 1))
    fun found hsteps => ?_
  obtain ⟨steps, next⟩ := found
  -- the number behind the last pane is positive, so one can be taken off it
  obtain ⟨panes, rfl⟩ := Nat.exists_eq_add_of_le' (pos_of_childSteps hsteps)
  exact .pure _

/-- **Compiling reads weights within bounds.** Compiling a layout that was never checked
does the same when it is watched: it succeeds with the same steps or fails with the same
fault, and halts nowhere else, so no list is read behind its end and the number behind the
last pane is not zero. The percentages that are asked for are those of the containers up to
the first whose ratio does not fit. Each of them has no ratio, or a weight for each of its
children; then all that its splits read is there, and there is a percentage for each child
but the first. -/
theorem compile_within_bounds (layout : Layout) (directory window : Option String) :
    let run := layout.watchedCompile directory window
    run.result = ((layout.compileFrom directory window).map
      fun (steps, next) => (steps, next - 1)).mapError .fault ∧
    run.result ≠ .error .outOfBounds ∧
    (∀ steps next, layout.compileFrom directory window = .ok (steps, next) → 0 < next) ∧
    run.calls = layout.root.splitCalls.takeWhile SplitCall.fits ∧
    ∀ call ∈ run.calls,
      (call.ratio = none ∨
        ∃ weights, call.ratio = some weights ∧ weights.length = call.childCount) ∧
      (splitPercentages call.ratio call.childCount).length = call.childCount - 1 ∧
      ∀ split, 1 ≤ split → split < call.childCount →
        let weights := weightsOf call.ratio call.childCount
        0 < weights.length ∧ split - 1 ≤ weights.length ∧ split ≤ weights.length := by
  intro run
  have hrun : run.Follows layout.root.splitCalls _ :=
    layout.follows_watchedCompile directory window
  refine ⟨hrun.result_eq, ?_, ?_, hrun.calls_eq, ?_⟩
  · rw [hrun.result_eq]
    cases layout.compileFrom directory window with
    | error fault => nofun
    | ok _ => nofun
  · intro steps next hcompile
    rw [compileFrom_eq] at hcompile
    obtain ⟨-, -, heq⟩ := Except.map_eq_ok_iff.mp hcompile
    cases heq
    omega
  · intro call hcall
    rw [hrun.calls_eq] at hcall
    -- only calls before the first that does not fit are made
    have hfits := List.mem_takeWhile_imp hcall
    have hlength := length_weightsOf hfits
    refine ⟨?_, ?_, fun split hpos hlt => ?_⟩
    · rw [SplitCall.fits] at hfits
      cases hratio : call.ratio with
      | none => exact .inl rfl
      | some weights =>
        rw [hratio] at hfits
        exact .inr ⟨weights, rfl, of_decide_eq_true hfits⟩
    · rw [splitPercentages, List.length_map, List.length_range]
    · dsimp only
      rw [hlength]
      omega

-- the first child fits, the second does not, and the third is not reached
example :
    let fitting : Node := .container ((Frame.plain .vertical).withRatio [1.0]) [.pane .blank]
    let wrong : Node := .container ((Frame.plain .vertical).withRatio []) [.pane .blank]
    let layout : Layout := ⟨none, .plain .horizontal, [fitting, wrong, fitting]⟩
    (layout.watchedCompile none none).calls.map SplitCall.childCount = [3, 1] := by
  rfl

end Layout

end TmuxLayout
