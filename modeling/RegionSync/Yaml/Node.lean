import RegionSync.Yaml.Event

/-!
# Nodes

The events of a text as a tree.  Where the events stop before a collection is
complete, the tree has a `cut`; whoever reads the tree in source order meets
it exactly when the events have run out.

An alias stands for the node with its number.  Anchors get the number of
different names that were in use before them, so a name that is used again
takes a new number, and the next new name takes the same one.  The last node
with a number is the one that counts.
-/

namespace RegionSync.Yaml

/-- A node of a YAML text. -/
inductive Node where
  /-- An alias of an anchored node. -/
  | reference (number : Nat)
  | scalar (scalar : Scalar)
  | list (items : List Node)
  /-- Keys and values in turn. -/
  | map (children : List Node)
  /-- The events stopped here. -/
  | cut
  deriving Repr

namespace Node

mutual

/-- Whether no events are missing from a node. -/
def isWhole : Node → Bool
  | reference _ => true
  | scalar _ => true
  | list items => areWhole items
  | map children => areWhole children
  | cut => false

/-- Whether no events are missing from some nodes. -/
def areWhole : List Node → Bool
  | [] => true
  | first :: rest => first.isWhole && areWhole rest

end

end Node

/-- A text as a tree, with the nodes that aliases stand for. -/
structure Tree where
  root : Node
  /-- The anchored nodes with their numbers, the last one first. -/
  anchored : List (Nat × Node)
  /-- Whether the text holds this one document and no error. -/
  isSound : Bool

namespace Tree

/-- A collection in progress. -/
structure Frame where
  isMap : Bool
  /-- The number of the collection's anchor, and its rank among anchors. -/
  anchor : Option (Nat × Nat)
  /-- The nodes in it, the latest first. -/
  nodes : List Node

namespace Frame

/-- The collection as a node. -/
def close (frame : Frame) : Node :=
  if frame.isMap then .map frame.nodes.reverse else .list frame.nodes.reverse

/-- The collection with one more node. -/
def push (frame : Frame) (node : Node) : Frame :=
  { frame with nodes := node :: frame.nodes }

end Frame

/-- A tree in progress. -/
structure Growth where
  /-- The collections around the next node, the innermost first. -/
  frames : List Frame
  /-- The names in use and their numbers. -/
  names : List (Text × Nat)
  /-- The number of anchors so far. -/
  anchors : Nat
  /-- The anchored nodes, each with its number and its rank. -/
  anchored : List ((Nat × Nat) × Node)

namespace Growth

/-- A tree without nodes. -/
def seed : Growth :=
  ⟨[], [], 0, []⟩

/-- Takes note of an anchor. -/
def enter (growth : Growth) : Option Text → Growth × Option (Nat × Nat)
  | none => (growth, none)
  | some name =>
      let number := growth.names.length
      let others := growth.names.filter (fun (used, _) => used ≠ name)
      ({ growth with
          names := (name, number) :: others
          anchors := growth.anchors + 1 },
        some (number, growth.anchors))

/-- Takes note of the node of an anchor. -/
def record
    (growth : Growth)
    (anchor : Option (Nat × Nat))
    (node : Node) :
    Growth :=
  match anchor with
  | none => growth
  | some anchor =>
      { growth with anchored := (anchor, node) :: growth.anchored }

/-- The anchored nodes, the last one first. -/
def ranked (growth : Growth) : List (Nat × Node) :=
  (growth.anchored.mergeSort fun left right => right.1.2 ≤ left.1.2).map
    fun ((number, _), node) => (number, node)

/-- The tree when the events run out in the middle of it. -/
def breakOff : Node → List Frame → Growth → Node × Growth
  | node, [], growth => (node, growth)
  | node, frame :: frames, growth =>
      let outer := (frame.push node).close
      breakOff outer frames (growth.record frame.anchor outer)

/-- Adds a node, which completes the tree if no collection is in progress. -/
def add (growth : Growth) (node : Node) : Growth × Option Node :=
  match growth.frames with
  | [] => (growth, some node)
  | frame :: frames =>
      ({ growth with frames := frame.push node :: frames }, none)

/-- Starts a collection. -/
def openFrame (growth : Growth) (isMap : Bool) (anchor : Option Text) : Growth :=
  let (growth, anchor) := growth.enter anchor
  { growth with frames := ⟨isMap, anchor, []⟩ :: growth.frames }

/-- Ends the innermost collection. -/
def closeFrame (growth : Growth) : Growth × Option Node :=
  match growth.frames with
  | [] => (growth, none)
  | frame :: frames =>
      let node := frame.close
      ({ growth.record frame.anchor node with frames }).add node

/-- The tree after an event, and its root if that completes it.

An alias without an anchor before it has no place in a tree. -/
def step? (growth : Growth) : Event → Option (Growth × Option Node)
  | .reference name =>
      (growth.names.lookup name).map fun number =>
        growth.add (.reference number)
  | .scalar anchor scalar =>
      let (growth, anchor) := growth.enter anchor
      let node := Node.scalar scalar
      some ((growth.record anchor node).add node)
  | .listStart anchor => some (growth.openFrame false anchor, none)
  | .mapStart anchor => some (growth.openFrame true anchor, none)
  | .collectionEnd => some growth.closeFrame

/-- The root of the tree that events make. -/
def ofEvents (growth : Growth) : List Event → Node × Growth
  | [] => breakOff .cut growth.frames growth
  | event :: rest =>
      match growth.step? event with
      | none => breakOff .cut growth.frames growth
      | some (growth, some root) => (root, growth)
      | some (growth, none) => growth.ofEvents rest

end Growth

def ofText (text : Text) : Tree :=
  let (events, isSound) := Event.ofText text
  let (root, growth) := Growth.seed.ofEvents events
  { root, anchored := growth.ranked, isSound }

def follow (tree : Tree) : Node → Node
  | .reference number => (tree.anchored.lookup number).getD .cut
  | node => node

end Tree

end RegionSync.Yaml
