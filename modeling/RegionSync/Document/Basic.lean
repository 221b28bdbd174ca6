import RegionSync.Region

/-!
# Documents

A document is free text with marked regions in it: some free text, and then
any number of marked regions, each with the free text that follows it.  Free
text may be empty.  It belongs to the author, and no operation changes it.

`regions` lists both kinds in source order and numbers the free ones; `render`
gives the document's text.
-/

namespace RegionSync

/-- A document: free text, and marked regions each with the free text behind
it. -/
structure Document where
  lead : Text
  tail : List (MarkedRegion × Text)
  lineEnding : LineEnding
  deriving DecidableEq, Repr

/-- A region of either kind. -/
inductive Region where
  /-- Text outside all markers, with its position among such texts. -/
  | free (index : Nat) (text : Text)
  | marked (region : MarkedRegion)
  deriving DecidableEq, Repr

def Region.freeKey (index : Nat) : Text :=
  "custom-".toList ++ Text.ofNat index

namespace Document

/-- Marked regions and the free texts behind them, numbered from `index`. -/
def regionsFrom (index : Nat) : List (MarkedRegion × Text) → List Region
  | [] => []
  | (region, text) :: rest =>
      .marked region :: .free index text :: regionsFrom (index + 1) rest

/-- All regions in source order. -/
def regions (document : Document) : List Region :=
  .free 0 document.lead :: regionsFrom 1 document.tail

/-- The marked regions in source order, repetitions included. -/
def marked (document : Document) : List MarkedRegion :=
  document.tail.map Prod.fst

/-- The free texts in source order. -/
def free (document : Document) : List Text :=
  document.lead :: document.tail.map Prod.snd

def get? (document : Document) (name : Text) : Option MarkedRegion :=
  document.marked.find? (fun region => region.name == name)

/-- The names that occur for the second time, where `earlier` are the names
already seen. -/
def secondOccurrences (earlier : List Text) : List Text → List Text
  | [] => []
  | name :: rest =>
      let others := secondOccurrences (name :: earlier) rest
      if earlier.count name = 1 then name :: others else others

/-- The names of more than one marked region, by their second occurrence. -/
def duplicates (document : Document) : List Text :=
  secondOccurrences [] (document.marked.map MarkedRegion.name)

def render (document : Document) : Text :=
  document.lead
    ++ document.tail.flatMap (fun (region, text) => region.render ++ text)

/-- The document with every marked region changed by `change`. -/
def mapMarked
    (document : Document)
    (change : MarkedRegion → MarkedRegion) :
    Document :=
  { document with
    tail := document.tail.map (fun (region, text) => (change region, text)) }

/-- Fresh regions for sections, a line feed behind each and `trailer` behind
the last. -/
def freshTail (trailer : Text) : List Section → List (MarkedRegion × Text)
  | [] => []
  | [last] => [(.ofSection last .lf, '\n' :: trailer)]
  | first :: next :: rest =>
      (.ofSection first .lf, ['\n']) :: freshTail trailer (next :: rest)

/-- A fresh document: one region for each section, a blank line between two
of them, and `trailer` at the end. -/
def ofSections (sections : List Section) (trailer : Text) : Document :=
  { lead := if sections.isEmpty then trailer else []
    tail := freshTail trailer sections
    lineEnding := .lf }

end Document

end RegionSync
