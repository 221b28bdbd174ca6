import RegionSync.Yaml.Token.Lexer

/-!
# Events

Events tell what a YAML text consists of, in source order: scalars, aliases,
and the starts and ends of lists and maps.  They leave out how it is written.

The grammar is a stack of goals.  A goal looks at the next token, produces
events, and is replaced by other goals.  When no goal fits the tokens, or the
tokens stop short, the events up to there still count, because a reader may
refuse the text for another reason before it gets that far.
-/

namespace RegionSync.Yaml

/-- A scalar with what decides how it is read. -/
structure Scalar where
  text : Text
  tag : Option Tag
  /-- Whether the scalar stands without quotes and not in a block. -/
  isPlain : Bool
  deriving DecidableEq, Repr

/-- The scalar of a node with nothing in it. -/
def Scalar.empty (tag : Option Tag) : Scalar :=
  ⟨[], tag, true⟩

/-- A part of a YAML text. -/
inductive Event where
  /-- An alias. -/
  | reference (name : Text)
  | scalar (anchor : Option Text) (scalar : Scalar)
  | listStart (anchor : Option Text)
  | mapStart (anchor : Option Text)
  | collectionEnd
  deriving DecidableEq, Repr

/-- What is still to be found in a text. -/
inductive Goal where
  /-- A node; whether it may be a block, and whether it may be a list whose
  dashes stand at the column of its key. -/
  | node (isBlock mayAlign : Bool)
  | blockItem
  | alignedItem
  | blockKey
  | blockValue
  | listItem (isFirst : Bool)
  | pairKey
  | pairValue
  | pairEnd
  | mapKey (isFirst : Bool)
  | mapValue
  | missingValue
  deriving DecidableEq, Repr

namespace Goal

/-- The prefixes of a document's tags, each with its handle. -/
abbrev Handles := List (Text × Tag)

/-- What a goal comes to: events, the goals in its place, and the tokens that
are left. -/
structure Outcome where
  events : List Event
  goals : List Goal
  rest : List Token

/-- The event of a node without content. -/
def emptyNode : Event :=
  .scalar none (.empty none)

/-- The anchor and the tag in front of a node, in either order. -/
structure Properties where
  anchor : Option Text
  tag : Option Tag

/-- A tag with its handle looked up. -/
def resolveTag?
    (handles : Handles)
    (handle : Text)
    (suffix : Tag) :
    Option Tag :=
  if handle.isEmpty then some suffix
  else (handles.lookup handle).map (fun head => head ++ suffix)

def properties?
    (handles : Handles) :
    List Token → Option (Properties × List Token)
  | .anchor anchor :: .tag handle suffix :: rest => do
      let tag ← resolveTag? handles handle suffix
      return (⟨some anchor, some tag⟩, rest)
  | .tag handle suffix :: .anchor anchor :: rest => do
      let tag ← resolveTag? handles handle suffix
      return (⟨some anchor, some tag⟩, rest)
  | .anchor anchor :: rest => some (⟨some anchor, none⟩, rest)
  | .tag handle suffix :: rest => do
      let tag ← resolveTag? handles handle suffix
      return (⟨none, some tag⟩, rest)
  | rest => some (⟨none, none⟩, rest)

/-- A node behind its properties. -/
def content?
    (isBlock mayAlign : Bool)
    (properties : Properties)
    (tokens : List Token) :
    Option Outcome :=
  let anchor := properties.anchor
  match tokens with
  | [] => none
  | .scalar text isPlain :: rest =>
      some ⟨[.scalar anchor ⟨text, properties.tag, isPlain⟩], [], rest⟩
  | .listStart :: rest =>
      some ⟨[.listStart anchor], [listItem true], rest⟩
  | .mapStart :: rest => some ⟨[.mapStart anchor], [mapKey true], rest⟩
  | token :: rest =>
      if mayAlign && token == .blockItem then
        some ⟨[.listStart anchor], [alignedItem], token :: rest⟩
      else if isBlock && token == .blockListStart then
        some ⟨[.listStart anchor], [blockItem], rest⟩
      else if isBlock && token == .blockMapStart then
        some ⟨[.mapStart anchor], [blockKey], rest⟩
      else if anchor.isSome || properties.tag.isSome then
        some ⟨[.scalar anchor (.empty properties.tag)], [], token :: rest⟩
      else
        none

/-- A node, or nothing if the next token is one of `ends`; then `next`. -/
def nodeUnless
    (ends : List Token)
    (node next : Goal)
    (tokens : List Token) :
    Option Outcome :=
  match tokens with
  | [] => none
  | token :: _ =>
      if ends.contains token then some ⟨[emptyNode], [next], tokens⟩
      else some ⟨[], [node, next], tokens⟩

def endCollection (rest : List Token) : Option Outcome :=
  some ⟨[.collectionEnd], [], rest⟩

/-- What a goal comes to at some tokens, if they fit it. -/
def step? (handles : Handles) : Goal → List Token → Option Outcome
  | node _ _, .reference name :: rest => some ⟨[.reference name], [], rest⟩
  | node isBlock mayAlign, tokens => do
      let (properties, rest) ← properties? handles tokens
      content? isBlock mayAlign properties rest
  | blockItem, .blockItem :: rest =>
      nodeUnless [.blockItem, .blockEnd] (node true false) blockItem rest
  | blockItem, .blockEnd :: rest => endCollection rest
  | blockItem, _ => none
  | alignedItem, .blockItem :: rest =>
      nodeUnless [.blockItem, .key, .value, .blockEnd] (node true false)
        alignedItem rest
  | alignedItem, [] => none
  | alignedItem, rest => endCollection rest
  | blockKey, .key :: rest =>
      nodeUnless [.key, .value, .blockEnd] (node true true) blockValue rest
  | blockKey, .blockEnd :: rest => endCollection rest
  | blockKey, _ => none
  | blockValue, .value :: rest =>
      nodeUnless [.key, .value, .blockEnd] (node true true) blockKey rest
  | blockValue, [] => none
  | blockValue, rest => some ⟨[emptyNode], [blockKey], rest⟩
  | listItem _, .listEnd :: rest => endCollection rest
  | listItem true, .key :: rest =>
      some ⟨[.mapStart none], [pairKey, listItem false], rest⟩
  | listItem true, rest =>
      some ⟨[], [node false false, listItem false], rest⟩
  | listItem false, .separator :: .listEnd :: rest => endCollection rest
  | listItem false, .separator :: .key :: rest =>
      some ⟨[.mapStart none], [pairKey, listItem false], rest⟩
  | listItem false, .separator :: rest =>
      some ⟨[], [node false false, listItem false], rest⟩
  | listItem false, _ => none
  | pairKey, [] => none
  | pairKey, token :: rest =>
      if [Token.value, .separator, .listEnd].contains token then
        some ⟨[emptyNode], [pairValue], rest⟩
      else
        some ⟨[], [node false false, pairValue], token :: rest⟩
  | pairValue, .value :: rest =>
      nodeUnless [.separator, .listEnd] (node false false) pairEnd rest
  | pairValue, [] => none
  | pairValue, rest => some ⟨[emptyNode], [pairEnd], rest⟩
  | pairEnd, [] => none
  | pairEnd, rest => endCollection rest
  | mapKey _, .mapEnd :: rest => endCollection rest
  | mapKey true, .key :: rest =>
      nodeUnless [.value, .separator, .mapEnd] (node false false) mapValue rest
  | mapKey true, rest =>
      some ⟨[], [node false false, missingValue], rest⟩
  | mapKey false, .separator :: .mapEnd :: rest => endCollection rest
  | mapKey false, .separator :: .key :: rest =>
      nodeUnless [.value, .separator, .mapEnd] (node false false) mapValue rest
  | mapKey false, .separator :: rest =>
      some ⟨[], [node false false, missingValue], rest⟩
  | mapKey false, _ => none
  | mapValue, .value :: rest =>
      nodeUnless [.separator, .mapEnd] (node false false) (mapKey false) rest
  | mapValue, [] => none
  | mapValue, rest => some ⟨[emptyNode], [mapKey false], rest⟩
  | missingValue, [] => none
  | missingValue, rest => some ⟨[emptyNode], [mapKey false], rest⟩

/-- The events of some goals, and the tokens behind them if the goals were
met.

A token takes part in at most four steps, so `fuel` of four times the number
of tokens is enough. -/
def run
    (handles : Handles) :
    (fuel : Nat) → List Goal → List Token → List Event × Option (List Token)
  | _, [], tokens => ([], some tokens)
  | 0, _ :: _, _ => ([], none)
  | fuel + 1, goal :: goals, tokens =>
      match goal.step? handles tokens with
      | none => ([], none)
      | some outcome =>
          let (events, rest) :=
            run handles fuel (outcome.goals ++ goals) outcome.rest
          (outcome.events ++ events, rest)

end Goal

namespace Event

/-- The handles of tags that every document knows. -/
def standardHandles : Goal.Handles :=
  [(['!'], Tag.mark), (['!', '!'], Tag.standard "")]

/-- The handles that the directives at the start of some tokens add, and the
tokens behind the directives.

There may be one version directive, of version 1.1 or 1.2, and one tag
directive for each handle. -/
def directives? :
    (hasVersion : Bool) → (handles : Goal.Handles) → List Token →
      Option (Goal.Handles × List Token)
  | hasVersion, handles, .versionDirective major minor :: rest =>
      if hasVersion || major != 1 || (minor != 1 && minor != 2) then none
      else directives? true handles rest
  | hasVersion, handles, .tagDirective handle head :: rest =>
      if (handles.lookup handle).isSome then none
      else directives? hasVersion ((handle, head) :: handles) rest
  | _, handles, rest => some (handles, rest)

/-- Whether a document starts at a token only with its own mark. -/
def isDocumentSign : Token → Bool
  | .versionDirective _ _ => true
  | .tagDirective _ _ => true
  | .documentStart => true
  | .documentEnd => true
  | .streamEnd => true
  | _ => false

/-- The events of a document's only node. -/
def ofNode
    (handles : Goal.Handles)
    (tokens : List Token) :
    List Event × Option (List Token) :=
  Goal.run (handles ++ standardHandles) (4 * tokens.length + 4)
    [.node true false] tokens

/-- The events of the first document, and the tokens behind its node. -/
def ofFirstDocument (tokens : List Token) : List Event × Option (List Token) :=
  match directives? false [] tokens with
  | none => ([], none)
  | some (handles, .documentStart :: rest) =>
      if rest.head?.any isDocumentSign then
        ([Goal.emptyNode], some rest)
      else
        ofNode handles rest
  | some (_, rest) =>
      match tokens with
      | .versionDirective _ _ :: _ => ([], none)
      | .tagDirective _ _ :: _ => ([], none)
      | .streamEnd :: _ => ([], some rest)
      | _ => ofNode [] rest

/-- Whether no further document follows. -/
def isLastDocument (rest : List Token) : Bool :=
  (rest.dropWhile fun token => token == .documentEnd).head? == some .streamEnd

/-- The events of a text with a single document, up to the first error, and
whether there is none. -/
def ofText (text : Text) : List Event × Bool :=
  let (tokens, isComplete) := Token.ofText text
  let (events, rest) := ofFirstDocument tokens
  (events, isComplete && rest.any isLastDocument)

end Event

end RegionSync.Yaml
