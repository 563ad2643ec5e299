import AssistiveTree.Node.Key

/-!
# Actions

Assistive technology answers an exported tree with action requests, each for
one exported node.
-/

namespace AssistiveTree

/-- What assistive technology can ask of a node. -/
inductive Action
  | click
  | focus
  | blur
  | collapse
  | expand
  | customAction
  | decrement
  | increment
  | hideTooltip
  | showTooltip
  | replaceSelectedText
  | scrollBackward
  | scrollDown
  | scrollForward
  | scrollLeft
  | scrollRight
  | scrollUp
  | scrollIntoView
  | scrollToPoint
  | setScrollOffset
  | setTextSelection
  | setSequentialFocusNavigationStartingPoint
  | setValue
  | showContextMenu
  deriving DecidableEq

namespace Action

/-- Every action. Sets of actions are listed in this order. -/
def all : List Action :=
  [.click, .focus, .blur, .collapse, .expand, .customAction, .decrement,
    .increment, .hideTooltip, .showTooltip, .replaceSelectedText,
    .scrollBackward, .scrollDown, .scrollForward, .scrollLeft, .scrollRight,
    .scrollUp, .scrollIntoView, .scrollToPoint, .setScrollOffset,
    .setTextSelection, .setSequentialFocusNavigationStartingPoint, .setValue,
    .showContextMenu]

/-- The action's name. -/
def name : Action → String
  | .click => "Click"
  | .focus => "Focus"
  | .blur => "Blur"
  | .collapse => "Collapse"
  | .expand => "Expand"
  | .customAction => "CustomAction"
  | .decrement => "Decrement"
  | .increment => "Increment"
  | .hideTooltip => "HideTooltip"
  | .showTooltip => "ShowTooltip"
  | .replaceSelectedText => "ReplaceSelectedText"
  | .scrollBackward => "ScrollBackward"
  | .scrollDown => "ScrollDown"
  | .scrollForward => "ScrollForward"
  | .scrollLeft => "ScrollLeft"
  | .scrollRight => "ScrollRight"
  | .scrollUp => "ScrollUp"
  | .scrollIntoView => "ScrollIntoView"
  | .scrollToPoint => "ScrollToPoint"
  | .setScrollOffset => "SetScrollOffset"
  | .setTextSelection => "SetTextSelection"
  | .setSequentialFocusNavigationStartingPoint =>
      "SetSequentialFocusNavigationStartingPoint"
  | .setValue => "SetValue"
  | .showContextMenu => "ShowContextMenu"

/-- The action with a given name. -/
def ofName? (name : String) : Option Action :=
  all.find? fun action => action.name = name

end Action

/-- A request to perform an action on an exported node. -/
structure ActionRequest where
  action : Action
  target : NodeId
  deriving DecidableEq

end AssistiveTree
