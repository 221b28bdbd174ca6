import RegionSync.Number.Shortest
import RegionSync.Registry.Fault
import RegionSync.Yaml.Node
import RegionSync.Yaml.Value

/-!
# Registry files

A registry file is a YAML map with the format's `version`, which is the
number one, and a list of `sections`.  A section is a map with a `name`, a
`version` and a `body`.  Other keys are skipped.

The text is read in source order and the first fault counts.  Names and
bodies are taken as they are spelled.  The version of a section is not: a
whole number counts by its decimal digits, and any other number is refused,
so that `1.0` cannot become `1` unnoticed.
-/

namespace RegionSync

/-- Why the content of a registry file is refused. -/
inductive ContentFault where
  /-- The text is not a configuration. -/
  | unreadable
  /-- The version of a section is a number that has to be quoted. -/
  | numericVersion (number : Number.Binary64)
  /-- The sections do not make a registry. -/
  | sections (fault : SectionFault)
  deriving DecidableEq, Repr

/-- The outermost fault in words, and then its causes. -/
def ContentFault.causes : ContentFault → List Text
  | unreadable => ["deserialize registry".toList]
  | numericVersion number =>
      ["deserialize registry".toList,
        "version ".toList ++ number.text
          ++ " is a number; quote it, for example `version: \"1.0\"`".toList]
  | sections fault => [fault.message]

namespace Configuration

open Yaml (Node Scalar Tree Value)

/-- The parts of a section that have been read. -/
structure PartialSection where
  name : Option Text
  version : Option Text
  body : Option Text

/-- The spelling of a scalar. -/
def readText (tree : Tree) (node : Node) : Except ContentFault Text :=
  match tree.follow node with
  | .scalar scalar => .ok scalar.text
  | _ => .error .unreadable

def versionOf (scalar : Scalar) : Except ContentFault Text :=
  match Value.ofScalar? scalar with
  | some (.text text) => .ok text
  | some (.integer value) =>
      if 0 ≤ value && value.natAbs < Nat.pow 2 64 then
        .ok (Text.ofNat value.toNat)
      else if value < 0 && value.natAbs ≤ Nat.pow 2 63 then
        match Number.Magnitude.ofDecimal? value.natAbs 0 with
        | some magnitude => .error (.numericVersion (.finite true magnitude))
        | none => .error .unreadable
      else
        .error .unreadable
  | some (.number number) => .error (.numericVersion number)
  | _ => .error .unreadable

/-- The version of a section. -/
def readVersion (tree : Tree) (node : Node) : Except ContentFault Text :=
  match tree.follow node with
  | .scalar scalar => versionOf scalar
  | _ => .error .unreadable

/-- A part of a section that must not have been read before. -/
def readOnce
    (read : Except ContentFault Text) :
    Option Text → Except ContentFault Text
  | none => read
  | some _ => .error .unreadable

/-- Skips the value of an unknown key. -/
def skipNode (node : Node) : Except ContentFault Unit :=
  if node.isWhole then .ok () else .error .unreadable

/-- The section whose remaining keys and values these are. -/
def readSectionFrom
    (tree : Tree)
    (known : PartialSection) :
    List Node → Except ContentFault Section
  | [] =>
      match known with
      | ⟨some name, some version, some body⟩ => .ok ⟨name, version, body⟩
      | _ => .error .unreadable
  | [_] => .error .unreadable
  | keyNode :: node :: rest => do
      let key ← readText tree keyNode
      if key = "name".toList then
        let name ← readOnce (readText tree node) known.name
        readSectionFrom tree { known with name := some name } rest
      else if key = "version".toList then
        let version ← readOnce (readVersion tree node) known.version
        readSectionFrom tree { known with version := some version } rest
      else if key = "body".toList then
        let body ← readOnce (readText tree node) known.body
        readSectionFrom tree { known with body := some body } rest
      else
        skipNode node
        readSectionFrom tree known rest

def readSection (tree : Tree) (node : Node) : Except ContentFault Section :=
  match tree.follow node with
  | .map children => readSectionFrom tree ⟨none, none, none⟩ children
  | _ => .error .unreadable

/-- The sections of a list; nothing at all counts as an empty list. -/
def readSections
    (tree : Tree)
    (node : Node) :
    Except ContentFault (List Section) :=
  match tree.follow node with
  | .list items => items.mapM (readSection tree)
  | .scalar scalar =>
      if scalar.isPlain && scalar.text.isEmpty then .ok []
      else .error .unreadable
  | _ => .error .unreadable

def isFormatVersion (tree : Tree) (node : Node) : Bool :=
  match tree.follow node with
  | .scalar scalar => Value.ofScalar? scalar == some (.integer 1)
  | _ => false

/-- The sections of a configuration whose remaining keys and values these
are. -/
def readFrom
    (tree : Tree)
    (hasVersion : Bool)
    (sections : Option (List Section)) :
    List Node → Except ContentFault (List Section)
  | [] =>
      match hasVersion, sections with
      | true, some sections => .ok sections
      | _, _ => .error .unreadable
  | [_] => .error .unreadable
  | keyNode :: node :: rest => do
      let key ← readText tree keyNode
      if key = "version".toList then
        if !hasVersion && isFormatVersion tree node then
          readFrom tree true sections rest
        else
          .error .unreadable
      else if key = "sections".toList then
        match sections with
        | none =>
            let read ← readSections tree node
            readFrom tree hasVersion (some read) rest
        | some _ => .error .unreadable
      else
        skipNode node
        readFrom tree hasVersion sections rest

def ofTree (tree : Tree) : Except ContentFault (List Section) :=
  match tree.follow tree.root with
  | .map children => do
      let sections ← readFrom tree false none children
      if tree.isSound then .ok sections else .error .unreadable
  | _ => .error .unreadable

/-- The sections that the text of a registry file describes. -/
def ofText (text : Text) : Except ContentFault (List Section) :=
  ofTree (Tree.ofText text)

end Configuration

def Registry.ofText (text : Text) : Except ContentFault Registry := do
  let sections ← Configuration.ofText text
  (Registry.ofSections sections).mapError .sections

end RegionSync
