import AssistiveTree.Bridge.Dispatch

/-!
# What notifications report of one widget

Each attribute that may change has one reading: the value that a notification
reports for the attribute of a widget, if it reports any. A primary node follows
six readings and a companion follows the reading of the selected text.

A notification takes one of four paths, and at most one of the readings reports
a value for one widget.
-/

namespace AssistiveTree
namespace Notification

/-- The name reported for a widget. -/
@[simp] def newName? (id : WidgetId) : Notification → Option String
  | .nameChanged widget => if widget.id = id then some widget.name else none
  | _ => none

/-- The description reported for a widget. The text of a text box or text field
counts as its description. -/
@[simp] def newDescription? (id : WidgetId) : Notification → Option String
  | .descriptionChanged widget =>
      if widget.id = id then some widget.description else none
  | .textChanged (.textBox control text) =>
      if control = id then some text else none
  | .textChanged (.textField control text) =>
      if control = id then some text else none
  | _ => none

/-- The progress reported for a widget. -/
@[simp] def newProgress? (id : WidgetId) : Notification → Option Quantity
  | .progressChanged bar _ after => if bar = id then some after else none
  | _ => none

/-- The toggle state reported for a widget. -/
@[simp] def newToggle? (id : WidgetId) : Notification → Option Bool
  | .toggleChanged widget on => if widget = id then some on else none
  | _ => none

/-- Whether an item is reported as expanded or as collapsed. -/
@[simp] def newExpansion? (id : WidgetId) : Notification → Option Bool
  | .structureChanged _ item .expanded =>
      if item = id then some true else none
  | .structureChanged _ item .collapsed =>
      if item = id then some false else none
  | _ => none

/-- The announcement made on behalf of a widget. -/
@[simp] def newAnnouncement? (id : WidgetId) :
    Notification → Option Announcement
  | .announced widget announcement =>
      if widget = id then some announcement else none
  | _ => none

/-- The text reported as selected in a text field. -/
@[simp] def newSelectedText? (id : WidgetId) : Notification → Option String
  | .selectionChanged (.textField selection) =>
      if selection.control = some id then some selection.text else none
  | _ => none

end Notification

namespace Node

/-- The primary node of a widget after a notification. -/
def notified
    (node : Node)
    (id : WidgetId)
    (notification : Notification) : Node :=
  { node with
    label := (notification.newName? id).getD node.label
    description := (notification.newDescription? id).getD node.description
    numericValue := notification.newProgress? id <|> node.numericValue
    toggled := notification.newToggle? id <|> node.toggled
    expanded := notification.newExpansion? id <|> node.expanded
    announcement := notification.newAnnouncement? id <|> node.announcement }

/-- The companion of a text field after a notification. -/
def selectionNotified
    (node : Node)
    (id : WidgetId)
    (notification : Notification) : Node :=
  { node with value := notification.newSelectedText? id <|> node.value }

end Node

namespace Notification

/-- The four paths that notifications take. -/
inductive Path
  /-- Change one attribute of the primary node of a widget. -/
  | update (id : WidgetId) (aspect : Aspect) (change : Node.Attribute)
  /-- Change no node and reach subscribers. -/
  | acknowledge (point : HookPoint)
  | moveFocus (focus : Option WidgetId)
  | changeSelection (selection : Selection)
  deriving DecidableEq

/-- The path that a notification takes. -/
def path : Notification → Path
  | .nameChanged widget => .update widget.id .name (.label widget.name)
  | .descriptionChanged widget =>
      .update widget.id .description (.description widget.description)
  | .textChanged (.textBox id text) => .update id .text (.description text)
  | .textChanged (.textField id text) => .update id .text (.description text)
  | .textChanged (.other id) => .acknowledge (.textChanged id)
  | .passwordUpdated id => .acknowledge (.passwordUpdated id)
  | .progressChanged id _ after => .update id .progress (.numericValue after)
  | .toggleChanged id on => .update id .toggle (.toggled on)
  | .buttonActivated id => .acknowledge (.buttonActivated id)
  | .controlActivated id => .acknowledge (.controlActivated id)
  | .windowFocusChanged focused => .acknowledge (.windowFocusChanged focused)
  | .structureChanged hierarchy id .expanded =>
      .update id (Bridge.aspectOf hierarchy) (.expanded true)
  | .structureChanged hierarchy id .collapsed =>
      .update id (Bridge.aspectOf hierarchy) (.expanded false)
  | .structureChanged _ id .itemAdded =>
      .acknowledge (.structureChanged id .itemAdded)
  | .structureChanged _ id .itemRemoved =>
      .acknowledge (.structureChanged id .itemRemoved)
  | .announced id announcement =>
      .update id .announcement (.announcement announcement)
  | .focusChanged _ after => .moveFocus after
  | .selectionChanged selection => .changeSelection selection

/-- The key of the one node that a notification may change. -/
def Path.key? : Path → Option NodeKey
  | .update id _ _ => some (.widget id)
  | .changeSelection (.textField selection) =>
      selection.control.map NodeKey.selection
  | _ => none

/-- A primary node follows exactly the updates of its widget. -/
theorem notified_eq
    (notification : Notification)
    (node : Node)
    (id : WidgetId) :
    node.notified id notification =
      match notification.path with
      | .update target _ change =>
          if target = id then node.set change else node
      | _ => node := by
  cases notification with
  | nameChanged widget =>
      by_cases same : widget.id = id <;>
        simp [Node.notified, Node.set, path, same]
  | descriptionChanged widget =>
      by_cases same : widget.id = id <;>
        simp [Node.notified, Node.set, path, same]
  | textChanged control =>
      cases control with
      | textBox target text =>
          by_cases same : target = id <;>
            simp [Node.notified, Node.set, path, same]
      | textField target text =>
          by_cases same : target = id <;>
            simp [Node.notified, Node.set, path, same]
      | other target => rfl
  | progressChanged target before after =>
      by_cases same : target = id <;>
        simp [Node.notified, Node.set, path, same]
  | toggleChanged target on =>
      by_cases same : target = id <;>
        simp [Node.notified, Node.set, path, same]
  | structureChanged hierarchy target change =>
      cases change with
      | expanded =>
          by_cases same : target = id <;>
            simp [Node.notified, Node.set, path, same]
      | collapsed =>
          by_cases same : target = id <;>
            simp [Node.notified, Node.set, path, same]
      | itemAdded => rfl
      | itemRemoved => rfl
  | announced target announcement =>
      by_cases same : target = id <;>
        simp [Node.notified, Node.set, path, same]
  | passwordUpdated target => rfl
  | buttonActivated target => rfl
  | controlActivated target => rfl
  | windowFocusChanged focused => rfl
  | focusChanged before after => rfl
  | selectionChanged selection => rfl

/-- A companion follows exactly the selections in its text field. -/
theorem selectionNotified_eq
    (notification : Notification)
    (node : Node)
    (id : WidgetId) :
    node.selectionNotified id notification =
      match notification.path with
      | .changeSelection (.textField selection) =>
          if selection.control = some id then
            { node with value := some selection.text }
          else node
      | _ => node := by
  cases notification with
  | selectionChanged selection =>
      cases selection with
      | textField selection =>
          by_cases same : selection.control = some id <;>
            simp [Node.selectionNotified, path, same]
      | _ => rfl
  | textChanged control => cases control <;> rfl
  | structureChanged hierarchy target change => cases change <;> rfl
  | _ => rfl

end Notification

namespace Bridge

/-- Dispatch is a matter of the path alone. -/
theorem notify_eq (bridge : Bridge) (notification : Notification) :
    bridge.notify notification =
      match notification.path with
      | .update id aspect change => bridge.update id aspect change
      | .acknowledge point => bridge.acknowledge point
      | .moveFocus focus => bridge.moveFocus focus
      | .changeSelection selection => bridge.changeSelection selection := by
  cases notification with
  | textChanged control => cases control <;> rfl
  | structureChanged hierarchy id change => cases change <;> rfl
  | _ => rfl

/-- Acknowledging changes nothing of a bridge. -/
@[simp] theorem acknowledge_bridge (bridge : Bridge) (point : HookPoint) :
    (bridge.acknowledge point).bridge = bridge := by
  unfold acknowledge
  split <;> rfl

/-- Only the selection of a named text field with a companion changes a
bridge. -/
theorem changeSelection_bridge (bridge : Bridge) (selection : Selection) :
    (bridge.changeSelection selection).bridge =
      match selection with
      | .textField selection => (bridge.repeatTextField selection).bridge
      | _ => bridge := by
  cases selection <;> rfl

/-- What a notification can do to a bridge: nothing, a change of one node, or a
move of the focus. -/
theorem notify_bridge (bridge : Bridge) (notification : Notification) :
    (bridge.notify notification).bridge = bridge ∨
      (∃ key change, (bridge.notify notification).bridge =
        { bridge with tree := bridge.tree.modify key change }) ∨
      ∃ focus, (bridge.notify notification).bridge =
        { bridge with focus, tree := bridge.tree.setActiveDescendant focus } := by
  rw [notify_eq]
  cases notification.path with
  | update id aspect change =>
      simp only [update]
      split
      · exact Or.inr (Or.inl ⟨_, _, rfl⟩)
      · exact Or.inl rfl
  | acknowledge point => exact Or.inl (acknowledge_bridge bridge point)
  | moveFocus focus => exact Or.inr (Or.inr ⟨focus, rfl⟩)
  | changeSelection selection =>
      simp only [changeSelection_bridge]
      cases selection with
      | textField selection =>
          simp only [repeatTextField]
          split
          · exact Or.inl rfl
          · split
            · split
              · exact Or.inr (Or.inl ⟨_, _, rfl⟩)
              · exact Or.inl rfl
            · exact Or.inl rfl
      | _ => exact Or.inl rfl

end Bridge
end AssistiveTree
