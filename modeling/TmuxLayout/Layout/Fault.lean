/-!
# Faults of layouts (SPEC_FULL.md §4.1, §10.3)

- `Layout.Fault`: why a document is no layout (`LayoutError`).
- `Layout.Fault.code`, `Layout.Fault.message`: the fault in short and in words.
-/

namespace TmuxLayout.Layout

/-- Why a document is no layout. Paths lead from the root of the document to the
container or pane that is at fault. -/
inductive Fault where
  | missingLayout
  | invalidContainerType (path found : String)
  | missingPanes (path : String)
  | ratioLengthMismatch (path : String) (ratioLength childCount : Nat)
  | multipleFocus (paths : List String)
  | invalidField (path field problem : String)
deriving Repr, DecidableEq

namespace Fault

/-- The fault in short. -/
def code : Fault → String
  | missingLayout => "LAYOUT_MISSING"
  | invalidContainerType _ _ => "INVALID_CONTAINER_TYPE"
  | missingPanes _ => "MISSING_PANES"
  | ratioLengthMismatch _ _ _ => "RATIO_LENGTH_MISMATCH"
  | multipleFocus _ => "MULTIPLE_FOCUS"
  | invalidField _ _ _ => "INVALID_FIELD"

/-- The fault in words. -/
def message : Fault → String
  | missingLayout => "Layout configuration must have a 'layout' property"
  | invalidContainerType path found =>
    "Container at " ++ path ++ " must have type 'horizontal' or 'vertical' (found " ++ found ++ ")"
  | missingPanes path => "Container at " ++ path ++ " must have a 'panes' array"
  | ratioLengthMismatch path ratioLength childCount =>
    "Configuration error at " ++ path ++ ": ratio array length (" ++ toString ratioLength ++
      ") must match panes array length (" ++ toString childCount ++ ")"
  | multipleFocus paths => "Multiple panes marked with focus: " ++ ", ".intercalate paths
  | invalidField path field problem => "Invalid '" ++ field ++ "' at " ++ path ++ ": " ++ problem

end Fault

end TmuxLayout.Layout
