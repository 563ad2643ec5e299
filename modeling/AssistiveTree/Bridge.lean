import AssistiveTree.Config
import AssistiveTree.Classification
import AssistiveTree.Registry
import AssistiveTree.Tree

/-!
# The bridge

A bridge keeps an accessible tree in step with a widget tree. It owns the
registry, the accessible tree and the focus. Adding a registered widget and
removing an unregistered one change nothing, so notifications about the life
of a widget may arrive more than once.
-/

namespace AssistiveTree

/-- Everything that the accessibility bridge knows. -/
structure Bridge where
  config : Config
  registry : Registry := .empty
  tree : Tree
  /-- The focused widget, whether it is registered or not. -/
  focus : Option WidgetId := none
  selectionHooks : List Subscriber := []
  notificationHooks : List Subscriber := []
  deriving DecidableEq

namespace Bridge

/-- A bridge after an operation, with what the operation journalled and which
subscribers it called, each in order. -/
structure Outcome where
  bridge : Bridge
  journal : List Journal.Entry := []
  calls : List HookCall := []

/-- A bridge without widgets and focus. -/
def new (config : Config) : Bridge where
  config := config
  tree := .new config.rootId config.rootLabel

/-- Create a bridge and journal its start. -/
def start (config : Config) : Outcome where
  bridge := new config
  journal := [.event (.started config.rootId)]

/-- The attached node with a key. -/
def node? (bridge : Bridge) (key : NodeKey) : Option Node :=
  bridge.tree.node? key

/-- Whether an id is registered. -/
def isRegistered (bridge : Bridge) (id : WidgetId) : Bool :=
  bridge.registry.contains id

/-- Number of registered widgets. -/
def registeredCount (bridge : Bridge) : Nat := bridge.registry.size

/-- Subscribe to selection changes. -/
def onSelection (bridge : Bridge) (subscriber : Subscriber) : Outcome where
  bridge :=
    { bridge with selectionHooks := bridge.selectionHooks ++ [subscriber] }

/-- Subscribe to notifications that change no node. -/
def onNotification (bridge : Bridge) (subscriber : Subscriber) : Outcome where
  bridge :=
    { bridge with
      notificationHooks := bridge.notificationHooks ++ [subscriber] }

/-- The primary node of a widget that is being added. -/
def primaryNode (widget : Widget) : Node :=
  let classification := classify widget.code
  let base : Node :=
    { role := classification.role
      label := widget.name
      description := widget.description
      activation := classification.rule.activation? }
  match classification.rule with
  | .roleDescription text => { base with roleDescription := some text }
  | .radioGroup => { base with groupName := some widget.name }
  | .liveSelection => { base with companion := some (.selection widget.id) }
  | .plain => base
  | .activatable _ => base

/-- The companion node of a widget that is being added, for text fields. -/
def companionNode? (widget : Widget) : Option Node :=
  if (classify widget.code).rule.hasCompanion then
    some (.selectionCompanion widget.id)
  else none

/-- Attach the companion node of a widget, if it has one. -/
def attachCompanion (tree : Tree) (widget : Widget) : Tree.Outcome Bool :=
  match companionNode? widget with
  | some companion => tree.attach (.selection widget.id) companion
  | none => ⟨tree, false, []⟩

/-- A widget was added to the widget tree. It gets an accessible node unless it
is not accessible or its id is registered already. -/
def add (bridge : Bridge) (object : WidgetRef) (widget : Widget) : Outcome :=
  if widget.isAccessible = false then
    { bridge, journal := [.event (.skippedInaccessible widget.id)] }
  else if bridge.isRegistered widget.id then
    { bridge, journal := [.event (.alreadyRegistered widget.id)] }
  else
    let registered := bridge.registry.register widget.id object
    let primary :=
      bridge.tree.attach (.widget widget.id) (primaryNode widget)
    let stray :=
      if primary.answer then []
      else [.event (.strayNode widget.id)]
    let companion := attachCompanion primary.tree widget
    { bridge :=
        { bridge with registry := registered.1, tree := companion.tree }
      journal :=
        Journal.within (.add widget.id)
          (primary.journal ++ stray ++ companion.journal ++
            [.event (.added widget.id widget.code
              (classify widget.code).role widget.name)]) }

/-- The widget with an id was removed from the widget tree. Its nodes are
detached, and it loses the focus. -/
def remove (bridge : Bridge) (id : WidgetId) : Outcome :=
  if bridge.isRegistered id then
    let primary := bridge.tree.detach (.widget id)
    let companion := primary.tree.detach (.selection id)
    let unregistered := bridge.registry.unregister id
    let unfocused := if bridge.focus = some id then none else bridge.focus
    let tree :=
      if bridge.focus = some id then companion.tree.setActiveDescendant none
      else companion.tree
    { bridge :=
        { bridge with
          registry := unregistered.1
          tree := tree
          focus := unfocused }
      journal :=
        Journal.within (.remove id)
          (primary.journal ++ companion.journal ++ [.event (.removed id)]) }
  else
    { bridge, journal := [.event (.notRegistered id)] }

/-- Detach every node and forget every widget and the focus. Subscribers
stay. -/
def shutdown (bridge : Bridge) : Outcome :=
  let detached := bridge.tree.detachAll
  { bridge :=
      { bridge with
        registry := bridge.registry.clear
        tree := detached.tree.setActiveDescendant none
        focus := none }
    journal :=
      Journal.within .shutdown
        (detached.journal ++
          [.event (.shutDown detached.answer bridge.registry.size)]) }

end Bridge

end AssistiveTree
