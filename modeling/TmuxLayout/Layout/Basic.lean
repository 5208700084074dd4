import TmuxLayout.Layout.Direction

/-!
# Layouts (SPEC_FULL.md §3)

A layout is one window: a tree of containers whose leaves are panes.

- `Pane`: a leaf (`PaneSpec`), with `title` and `startupCommand`, which are never empty.
- `Frame`: what a container (`ContainerSpec`) has besides its children.
- `Node`: a pane, or a container with its children.
- `Layout`: a name and the container at the root (`LayoutSpec`).
- `Node.paneCount`, `Layout.paneCount`: the number of leaves (`pane_count`).
- `Node.focusTitle?`: the title of the first focused pane that has one
  (`find_focused_pane`, §4.2).
-/

namespace TmuxLayout

/-! ## Panes and containers -/

/-- A leaf of a layout: one pane. -/
structure Pane where
  name : Option String
  command : Option String
  focus : Bool
deriving Repr, DecidableEq, Inhabited

namespace Pane

/-- A pane with nothing given. -/
def blank : Pane := ⟨none, none, false⟩

/-- A pane with a name. -/
def named (name : String) : Pane := { blank with name := some name }

/-- The pane with a command. -/
def withCommand (pane : Pane) (command : String) : Pane :=
  { pane with command := some command }

/-- The pane with focus. -/
def focused (pane : Pane) : Pane :=
  { pane with focus := true }

/-- The name, if it is not empty. -/
def title? (pane : Pane) : Option String :=
  pane.name.filter (!·.isEmpty)

/-- The command, if it is not empty; blanks alone are a command. -/
def startupCommand? (pane : Pane) : Option String :=
  pane.command.filter (!·.isEmpty)

end Pane

/-- What a container has besides its children. The ratio gives each child a
weight; the weights need not sum up to anything. -/
structure Frame where
  direction : Direction
  ratio : Option (List Float)
  focus : Bool
deriving Inhabited

namespace Frame

/-- A container in a direction with nothing else given. -/
def plain (direction : Direction) : Frame := ⟨direction, none, false⟩

/-- The container with a ratio. -/
def withRatio (frame : Frame) (ratio : List Float) : Frame :=
  { frame with ratio := some ratio }

/-- The container with focus. -/
def focused (frame : Frame) : Frame :=
  { frame with focus := true }

end Frame

/-- A node of a layout. -/
inductive Node where
  | pane (pane : Pane)
  | container (frame : Frame) (children : List Node)

instance : Inhabited Node := ⟨.pane .blank⟩

namespace Node

/-- Whether a node has focus. -/
def isFocused : Node → Bool
  | pane p => p.focus
  | container frame _ => frame.focus

mutual

/-- The number of panes in a node. -/
def paneCount : Node → Nat
  | pane _ => 1
  | container _ children => paneCounts children

/-- The number of panes in a row of nodes. -/
def paneCounts : List Node → Nat
  | [] => 0
  | node :: nodes => node.paneCount + paneCounts nodes

end

mutual

/-- The title of the first focused pane that has one; focused containers do not
count. -/
def focusTitle? : Node → Option String
  | pane p => if p.focus then p.title? else none
  | container _ children => focusTitles? children

/-- The title of the first focused pane in a row of nodes. -/
def focusTitles? : List Node → Option String
  | [] => none
  | node :: nodes => node.focusTitle?.or (focusTitles? nodes)

end

end Node

/-- A layout: one window, with a container at its root. -/
structure Layout where
  name : Option String
  frame : Frame
  children : List Node

namespace Layout

/-- The container at the root. -/
def root (layout : Layout) : Node :=
  .container layout.frame layout.children

/-- The number of panes. -/
def paneCount (layout : Layout) : Nat :=
  layout.root.paneCount

end Layout

end TmuxLayout
