import AssistiveTree.Bridge

/-!
# Dispatch of notifications

Every notification takes one of four paths. It changes one attribute of one
node, it is acknowledged and passed to subscribers, it moves the focus, or it
is a selection. Notifications about unregistered widgets are dropped, and the
journal says so, because those widgets are invisible to assistive technology.
-/

namespace AssistiveTree
namespace Bridge

/-- A journal entry that is written only when ordinary notifications are. -/
def whenLogging (bridge : Bridge) (event : Journal.Event) :
    List Journal.Entry :=
  if bridge.config.logNotifications then [.event event] else []

/-- Drop a notification. -/
def drop
    (bridge : Bridge)
    (id : WidgetId)
    (what : Journal.Dropped) : Outcome where
  bridge := bridge
  journal := [.event (.dropped id what)]

/-- Change one attribute of the primary node of a registered widget. -/
def update
    (bridge : Bridge)
    (id : WidgetId)
    (aspect : Aspect)
    (change : Node.Attribute) : Outcome :=
  if bridge.isRegistered id && bridge.tree.contains (.widget id) then
    { bridge :=
        { bridge with
          tree := bridge.tree.modify (.widget id) fun node =>
            node.set change }
      journal := bridge.whenLogging (.updated id aspect) }
  else bridge.drop id (.update aspect)

/-- Pass a notification on to its subscribers, unless it is about an
unregistered widget. -/
def acknowledge (bridge : Bridge) (point : HookPoint) : Outcome :=
  match point.target.filter fun id => !bridge.isRegistered id with
  | some id => bridge.drop id (.acknowledgement point)
  | none =>
      { bridge
        journal := bridge.whenLogging (.acknowledged point)
        calls := bridge.notificationHooks.map fun subscriber =>
          .notification subscriber point }

/-- The focus moved. The new focus may be any widget, registered or not. -/
def moveFocus (bridge : Bridge) (focus : Option WidgetId) : Outcome where
  bridge :=
    { bridge with focus, tree := bridge.tree.setActiveDescendant focus }
  journal := [.event (.focusChanged focus)]

/-- A text box selection changes nothing. -/
def noteTextBox (bridge : Bridge) (selection : TextSelection) : Outcome where
  bridge := bridge
  journal :=
    match selection.control with
    | some _ => []
    | none => [.event .textBoxMissing]

/-- Repeat the selected text of a text field in its companion. -/
def repeatTextField (bridge : Bridge) (selection : TextSelection) : Outcome :=
  match selection.control with
  | none => { bridge, journal := [.event .textFieldMissing] }
  | some id =>
      if bridge.isRegistered id then
        if bridge.tree.contains (.selection id) then
          { bridge :=
              { bridge with
                tree := bridge.tree.modify (.selection id) fun node =>
                  { node with value := some selection.text } } }
        else { bridge, journal := [.event (.companionMissing id)] }
      else bridge.drop id .textFieldSelection

/-- Handle a selection by its shape. The result names the route taken. -/
def routeSelection
    (bridge : Bridge) : Selection → Outcome × SelectionKind
  | .textBox selection => (bridge.noteTextBox selection, .textBox)
  | .textField selection => (bridge.repeatTextField selection, .textField)
  | .tabPane _ => ({ bridge }, .tabPane)
  | .menu _ => ({ bridge }, .menu)
  | .tree _ => ({ bridge }, .tree)
  | .spreadsheet _ => ({ bridge }, .spreadsheet)
  | .list _ => ({ bridge }, .list)
  | .treeTable _ => ({ bridge }, .treeTable)
  | .buttonGroup _ => ({ bridge }, .buttonGroup)
  | .other => ({ bridge }, .other)

/-- A selection changed. After it is handled, every subscriber to selections
is called, whether or not the selection has a target. -/
def changeSelection (bridge : Bridge) (selection : Selection) : Outcome :=
  let routed := bridge.routeSelection selection
  { bridge := routed.1.bridge
    journal :=
      routed.1.journal ++ bridge.whenLogging (.selectionRouted routed.2)
    calls := bridge.selectionHooks.map fun subscriber =>
      .selection subscriber routed.2 selection }

/-- The aspect of a node that a change in a hierarchy is about. -/
def aspectOf : Hierarchy → Aspect
  | .menu => .menu
  | .tree => .tree
  | .treeTable => .treeTable

/-- The children of an item changed. Expanding and collapsing change its node,
added and removed children are passed on. -/
def changeStructure
    (bridge : Bridge)
    (hierarchy : Hierarchy)
    (id : WidgetId) : StructureChange → Outcome
  | .expanded => bridge.update id (aspectOf hierarchy) (.expanded true)
  | .collapsed => bridge.update id (aspectOf hierarchy) (.expanded false)
  | .itemAdded => bridge.acknowledge (.structureChanged id .itemAdded)
  | .itemRemoved => bridge.acknowledge (.structureChanged id .itemRemoved)

/-- The text of a control changed. Text boxes and text fields show their text
as the node's description. -/
def changeText (bridge : Bridge) : TextControl → Outcome
  | .textBox id text => bridge.update id .text (.description text)
  | .textField id text => bridge.update id .text (.description text)
  | .other id => bridge.acknowledge (.textChanged id)

/-- Handle one notification. -/
def notify (bridge : Bridge) : Notification → Outcome
  | .nameChanged widget => bridge.update widget.id .name (.label widget.name)
  | .descriptionChanged widget =>
      bridge.update widget.id .description (.description widget.description)
  | .textChanged control => bridge.changeText control
  | .passwordUpdated id => bridge.acknowledge (.passwordUpdated id)
  | .progressChanged id _ after =>
      bridge.update id .progress (.numericValue after)
  | .toggleChanged id on => bridge.update id .toggle (.toggled on)
  | .buttonActivated id => bridge.acknowledge (.buttonActivated id)
  | .controlActivated id => bridge.acknowledge (.controlActivated id)
  | .windowFocusChanged focused =>
      bridge.acknowledge (.windowFocusChanged focused)
  | .structureChanged hierarchy id change =>
      bridge.changeStructure hierarchy id change
  | .announced id announcement =>
      bridge.update id .announcement (.announcement announcement)
  | .focusChanged _ after => bridge.moveFocus after
  | .selectionChanged selection => bridge.changeSelection selection

end Bridge
end AssistiveTree
