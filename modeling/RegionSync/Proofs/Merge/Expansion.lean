import RegionSync.Proofs.Document.Expansion
import RegionSync.Proofs.Document.Pairing
import RegionSync.Proofs.Merge.Rereading

/-!
# Merging a document with expanded line feeds

A document read from a text without carriage returns has the same regions to
replace as the document read from the expanded text.  Drift is decided on
bodies with their breaks folded, and folding undoes the expansion.  A section
is written into both with the same lines, so the two results are again a text
and its expansion, also where the section's body holds carriage returns.

`Document.Mirrors` collects what the two documents have in common, and
`transparent_expandFeeds` states it for every text and registry, together
with the faults of a text that is not a document.
-/

namespace RegionSync

namespace Text

/-- A complete text without carriage returns says the same when its line
feeds are expanded. -/
theorem foldBreaks_content_expandFeeds
    {text : Text}
    (complete : text.IsComplete)
    (noReturn : '\r' ∉ text) :
    (expandFeeds text).content.foldBreaks = text.content.foldBreaks := by
  rcases complete with rfl | last
  · rfl
  · rcases List.getLast?_eq_some_iff.mp last with ⟨inner, rfl⟩
    have innerFree : '\r' ∉ inner :=
      fun member => noReturn (by simp [member])
    have shape :
        expandFeeds (inner ++ ['\n']) = expandFeeds inner ++ ['\r', '\n'] :=
      expandFeeds_append inner ['\n']
    rw [shape, content_append_return_feed, foldBreaks_expandFeeds,
      content_append_feed,
      dropFinal_eq_self (getLast?_ne_of_not_mem innerFree),
      foldBreaks_eq_self (hasCrlf_of_return_not_mem innerFree)]

end Text

/-- Lines written with CRLF are the expansion of those with line feeds. -/
theorem LineEnding.terminate_crlf
    {lines : List Text}
    (noFeed : ∀ line ∈ lines, '\n' ∉ line) :
    crlf.terminate lines = (lf.terminate lines).expandFeeds := by
  induction lines with
  | nil => rfl
  | cons line rest ih =>
      rcases List.forall_mem_cons.mp noFeed with ⟨first, below⟩
      have written (ending : LineEnding) :
          ending.terminate (line :: rest) =
            line ++ (ending.text ++ ending.terminate rest) := by
        simp [terminate]
      rw [written, written, ih below]
      exact (Text.expandFeeds_append_feed _ first).symm

/-! ## One region -/

namespace MarkedRegion

@[simp]
theorem expand_name (region : MarkedRegion) :
    region.expand.name = region.name :=
  rfl

/-- A region of which the body consists of whole lines without carriage
returns. -/
structure IsReturnFree (region : MarkedRegion) : Prop
    extends IsFramed region where
  body_noReturn : '\r' ∉ region.rawBody

variable {region : MarkedRegion} {canonical : Section}

theorem isDriftedFrom_expand
    (free : region.IsReturnFree)
    (canonical : Section) :
    region.expand.isDriftedFrom canonical =
      region.isDriftedFrom canonical := by
  have body : region.expand.body.foldBreaks = region.body.foldBreaks :=
    Text.foldBreaks_content_expandFeeds free.body_complete free.body_noReturn
  rw [isDriftedFrom, body]
  rfl

/-- Writing a section commutes with expanding a region. -/
theorem replaceWith_expand
    (framed : region.IsFramed)
    (stored : canonical.IsStored) :
    region.expand.replaceWith canonical .crlf =
      (region.replaceWith canonical .lf).expand := by
  have printable :=
    Marker.isPrintable_of_ofRawLine?
      (replaceWith_isFramed framed stored .lf).opening_marker
  have opening :
      Text.expandFeeds
          (Marker.print (.opening region.name (some canonical.version))
            ++ ['\n']) =
        Marker.print (.opening region.name (some canonical.version))
          ++ ['\r', '\n'] :=
    Text.expandFeeds_append_feed [] (Marker.feed_not_mem_print printable)
  have body :
      LineEnding.crlf.terminate canonical.body.lines =
        (LineEnding.lf.terminate canonical.body.lines).expandFeeds :=
    LineEnding.terminate_crlf fun _ => Text.feed_not_mem_of_mem_lines
  simp only [replaceWith, expand, LineEnding.text, opening, body]

end MarkedRegion

namespace Fate

variable {registry : Registry} {region : MarkedRegion}

theorem of_expand
    (free : region.IsReturnFree)
    (registry : Registry)
    (earlier : List Text) :
    of registry earlier region.expand = of registry earlier region := by
  simp only [of, MarkedRegion.expand_name,
    MarkedRegion.isDriftedFrom_expand free]

/-- A region and its expansion meet the same fate and stay a region and its
expansion. -/
theorem apply_expand
    (sound : registry.IsSound)
    (framed : region.IsFramed)
    (earlier : List Text) :
    (of registry earlier region).apply .crlf region.expand =
      ((of registry earlier region).apply .lf region).expand := by
  cases fate : of registry earlier region with
  | drifted canonical =>
      have owned := (of_eq_drifted_iff.mp fate).2.1
      have member := (Registry.mem_of_get? owned).1
      exact MarkedRegion.replaceWith_expand framed
        (sound.stored canonical member)
  | repeated => rfl
  | foreign => rfl
  | current => rfl

theorem assign_expandTail
    {tail : List (MarkedRegion × Text)}
    (free : ∀ entry ∈ tail, entry.1.IsReturnFree)
    (registry : Registry)
    (earlier : List Text) :
    assign registry earlier (Document.expandTail tail) =
      (assign registry earlier tail).map fun (fate, region, text) =>
        (fate, region.expand, text.expandFeeds) := by
  induction tail generalizing earlier with
  | nil => rfl
  | cons entry rest ih =>
      rcases entry with ⟨region, text⟩
      rcases List.forall_mem_cons.mp free with ⟨first, below⟩
      rw [Document.expandTail_cons, assign, of_expand first,
        MarkedRegion.expand_name, ih below]
      rfl

end Fate

/-! ## Whole documents -/

namespace Document

variable {registry : Registry} {text : Text} {document : Document}

/-- Every character of a region that is read stands in the text. -/
theorem mem_of_mem_render
    {char : Char}
    {entry : MarkedRegion × Text}
    (read : parse text = .ok document)
    (member : entry ∈ document.tail)
    (inside : char ∈ entry.1.render) :
    char ∈ text := by
  rw [← layoutText_of_parse read, layoutText]
  apply List.mem_append_right
  exact List.mem_flatMap.mpr ⟨entry, member, List.mem_append_left _ inside⟩

theorem isReturnFree_of_parse
    (noReturn : '\r' ∉ text)
    (read : parse text = .ok document) :
    ∀ entry ∈ document.tail, entry.1.IsReturnFree := by
  intro entry member
  constructor
  case toIsFramed =>
    exact ((isLaidOut_of_parse read).sound entry member).toIsFramed
  case body_noReturn =>
    intro inside
    apply noReturn
    apply mem_of_mem_render read member
    simp [MarkedRegion.render, inside]

/-- A text with a marked region has a line feed, behind the opening marker. -/
theorem feed_mem_of_parse
    (read : parse text = .ok document)
    (nonempty : document.tail ≠ []) :
    '\n' ∈ text := by
  rcases List.exists_mem_of_ne_nil _ nonempty with ⟨entry, member⟩
  have canonical := (isLaidOut_of_parse read).sound entry member
  rcases canonical.opening_full with ⟨inner, -, opening⟩
  apply mem_of_mem_render read member
  simp [MarkedRegion.render, opening]

theorem lineEnding_of_parse
    (noReturn : '\r' ∉ text)
    (read : parse text = .ok document) :
    document.lineEnding = .lf := by
  rw [(parse_eq_ok_iff.mp read).2, LineEnding.detect,
    Text.hasCrlf_of_return_not_mem noReturn]
  rfl

theorem lineEnding_expandedAs
    (read : parse text = .ok document)
    (nonempty : document.tail ≠ []) :
    (document.expandedAs text).lineEnding = .crlf := by
  rw [expandedAs, LineEnding.detect,
    Text.hasCrlf_expandFeeds (feed_mem_of_parse read nonempty)]
  rfl

theorem marked_expandedAs
    (document : Document)
    (text : Text) :
    (document.expandedAs text).marked =
      document.marked.map MarkedRegion.expand := by
  simp [marked, expandedAs, expandTail, Function.comp_def]

theorem get?_expandedAs
    (document : Document)
    (text name : Text) :
    (document.expandedAs text).get? name =
      (document.get? name).map MarkedRegion.expand := by
  rw [get?, marked_expandedAs, List.find?_map]
  rfl

/-! ### Checks -/

theorem hasDrift_expandedAs
    (free : ∀ entry ∈ document.tail, entry.1.IsReturnFree)
    (text : Text)
    (canonical : Section) :
    (document.expandedAs text).hasDrift canonical =
      document.hasDrift canonical := by
  rw [hasDrift, hasDrift, get?_expandedAs]
  cases found : document.get? canonical.name with
  | none => rfl
  | some region =>
      have member := List.mem_of_find?_eq_some found
      rcases List.mem_map.mp member with ⟨entry, inside, rfl⟩
      exact MarkedRegion.isDriftedFrom_expand (free entry inside) canonical

theorem check_expandedAs
    (free : ∀ entry ∈ document.tail, entry.1.IsReturnFree)
    (text : Text)
    (registry : Registry) :
    (document.expandedAs text).check registry = document.check registry := by
  have missing :
      (document.expandedAs text).isMissing = document.isMissing := by
    funext canonical
    rw [isMissing, isMissing, get?_expandedAs, Option.isNone_map]
  simp only [check, missing, hasDrift_expandedAs free]

/-! ### Merges -/

theorem mergedTail_expandTail
    (sound : registry.IsSound)
    (earlier : List Text)
    {tail : List (MarkedRegion × Text)}
    (free : ∀ entry ∈ tail, entry.1.IsReturnFree) :
    mergedTail registry .crlf earlier (expandTail tail) =
      expandTail (mergedTail registry .lf earlier tail) := by
  induction tail generalizing earlier with
  | nil => rfl
  | cons entry rest ih =>
      rcases entry with ⟨region, text⟩
      rcases List.forall_mem_cons.mp free with ⟨first, below⟩
      rw [expandTail_cons, mergedTail_cons, mergedTail_cons, expandTail_cons,
        MarkedRegion.expand_name, Fate.of_expand first,
        Fate.apply_expand sound first.toIsFramed, ih _ below]

theorem report_expandedAs
    (free : ∀ entry ∈ document.tail, entry.1.IsReturnFree)
    (text : Text)
    (registry : Registry) :
    ((document.expandedAs text).merge registry).2 =
      (document.merge registry).2 := by
  have fates :
      (document.expandedAs text).fates registry =
        (document.fates registry).map fun (fate, region, text) =>
          (fate, region.expand, text.expandFeeds) :=
    Fate.assign_expandTail free registry []
  have names (selected : Fate → Bool) :
      UpdateReport.namesWith selected
          ((document.expandedAs text).fates registry) =
        UpdateReport.namesWith selected (document.fates registry) := by
    rw [UpdateReport.namesWith, fates, List.filterMap_map]
    rfl
  simp only [merge, UpdateReport.ofFates, names]

/-- The merged expansion is the expansion of the merged document. -/
theorem render_merge_expandedAs
    (sound : registry.IsSound)
    (noReturn : '\r' ∉ text)
    (read : parse text = .ok document) :
    ((document.expandedAs text).merge registry).1.render =
      (document.merge registry).1.render.expandFeeds := by
  have free := isReturnFree_of_parse noReturn read
  have merged :
      mergedTail registry (document.expandedAs text).lineEnding []
          (expandTail document.tail) =
        expandTail (mergedTail registry document.lineEnding []
          document.tail) := by
    by_cases empty : document.tail = []
    · rw [empty]
      rfl
    · rw [lineEnding_expandedAs read empty, lineEnding_of_parse noReturn read]
      exact mergedTail_expandTail sound [] free
  rw [render_eq_layoutText, render_eq_layoutText, merge_fst, merge_fst,
    ← layoutText_expand, ← merged]
  rfl

/-! ## Transparency -/

/-- What a document has in common with the one read from its expanded
text. -/
structure Mirrors
    (registry : Registry)
    (expanded document : Document) :
    Prop where
  labels :
    expanded.marked.map MarkedRegion.label =
      document.marked.map MarkedRegion.label
  free : expanded.free = document.free.map Text.expandFeeds
  check : expanded.check registry = document.check registry
  report : (expanded.merge registry).2 = (document.merge registry).2
  render :
    (expanded.merge registry).1.render =
      (document.merge registry).1.render.expandFeeds

theorem mirrors_expandedAs
    (sound : registry.IsSound)
    (noReturn : '\r' ∉ text)
    (read : parse text = .ok document) :
    Mirrors registry (document.expandedAs text) document := by
  have regionsFree := isReturnFree_of_parse noReturn read
  constructor
  case labels =>
    rw [marked_expandedAs, List.map_map]
    rfl
  case free => simp [free, expandedAs, expandTail, Function.comp_def]
  case check => exact check_expandedAs regionsFree text registry
  case report => exact report_expandedAs regionsFree text registry
  case render => exact render_merge_expandedAs sound noReturn read

/-- Expanding the line feeds of a text without carriage returns is visible in
the texts and offsets of what is read, checked and merged, and nowhere
else. -/
theorem transparent_expandFeeds
    {sections : List Section}
    {registry : Registry}
    (accepted : Registry.ofSections sections = .ok registry)
    {text : Text}
    (noReturn : '\r' ∉ text) :
    ((∃ expanded, parse text.expandFeeds = .ok expanded) ↔
      ∃ document, parse text = .ok document) ∧
    (∀ moved malformed,
      parse text.expandFeeds = .error moved →
        parse text = .error malformed →
          moved.fault = malformed.fault ∧ moved.line = malformed.line ∧
            moved.span.start = malformed.span.start + (malformed.line - 1) ∧
            moved.span.stop = malformed.span.stop + (malformed.line - 1)) ∧
    ∀ expanded document,
      parse text.expandFeeds = .ok expanded →
        parse text = .ok document →
          Mirrors registry expanded document := by
  have sound := Registry.isSound_of_ofSections accepted
  have both := parse_expandFeeds noReturn
  cases read : parse text with
  | error malformed =>
      have moved : parse text.expandFeeds = .error malformed.expand := by
        rw [both, read]
      rw [moved]
      refine ⟨by simp, ?_, by simp⟩
      intro other same movedOther sameOther
      obtain rfl := Except.error.inj movedOther
      obtain rfl := Except.error.inj sameOther
      exact ⟨rfl, rfl, rfl, rfl⟩
  | ok document =>
      have expanded :
          parse text.expandFeeds = .ok (document.expandedAs text) := by
        rw [both, read]
      rw [expanded]
      refine ⟨by simp, by simp, ?_⟩
      intro other same expandedOther sameOther
      obtain rfl := Except.ok.inj expandedOther
      obtain rfl := Except.ok.inj sameOther
      exact mirrors_expandedAs sound noReturn read

/-- A padded region, and a body with carriage returns of its own. -/
theorem transparent_expandFeeds_padded :
    ∃ expanded document registry,
      '\r' ∉ "<!-- BEGIN: a v1 -->\n\nold\n<!-- END: a -->\nmine".toList ∧
        parse
            "<!-- BEGIN: a v1 -->\r\n\r\nold\r\n<!-- END: a -->\r\nmine".toList =
          .ok expanded ∧
        parse "<!-- BEGIN: a v1 -->\n\nold\n<!-- END: a -->\nmine".toList =
          .ok document ∧
        Registry.ofSections
            [⟨"a".toList, "2".toList, "x\ry\r\r\nz\r".toList⟩] =
          .ok registry ∧
        Mirrors registry expanded document := by
  have noReturn :
      '\r' ∉ "<!-- BEGIN: a v1 -->\n\nold\n<!-- END: a -->\nmine".toList := by
    decide
  have accepted :
      Registry.ofSections
          [⟨"a".toList, "2".toList, "x\ry\r\r\nz\r".toList⟩] =
        .ok ⟨[⟨"a".toList, "2".toList, "x\ry\r\nz\r".toList⟩]⟩ :=
    rfl
  have mirrored :=
    (transparent_expandFeeds accepted noReturn).2.2 _ _ rfl rfl
  exact ⟨_, _, _, noReturn, rfl, rfl, accepted, mirrored⟩

end Document

end RegionSync
