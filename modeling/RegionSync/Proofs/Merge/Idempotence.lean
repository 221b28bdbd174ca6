import RegionSync.Proofs.Merge.Keeping
import RegionSync.Proofs.Outcome
import RegionSync.Proofs.Region.Interrupted

/-!
# Updating twice

An update is idempotent for a document and a registry if what it writes reads
back, a second update with the same registry replaces nothing and gives the
same text, and a check reports the sections without a region and no others.

A document whose regions have not drifted is left alone by a merge, so it is
enough to know when a region has drifted after it was written and read.
`isIdempotent_iff_allCarried` gives the answer for whole documents: an update
is idempotent exactly if the document's line ending carries the body of each
section that is written.  A body with a carriage return in front of a line
feed, which registries accept, is never carried.
-/

namespace RegionSync

/-! ## Documents without drift -/

namespace Fate

variable {registry : Registry} {earlier : List Text}

/-- A region is left alone exactly if it has not drifted from the section it
is compared with. -/
theorem isDrifted_of_eq_false_iff
    {region : MarkedRegion} :
    (of registry earlier region).isDrifted = false ↔
      ∀ canonical,
        region.name ∉ earlier →
          registry.get? region.name = some canonical →
            region.isDriftedFrom canonical = false := by
  rcases of_cases registry earlier region with
    ⟨seen, fate⟩ | ⟨fresh, owned, fate⟩ |
      ⟨found, fresh, owned, ⟨drift, fate⟩ | ⟨drift, fate⟩⟩
  · simp [fate, isDrifted, seen]
  · simp [fate, isDrifted, owned]
  · simp [fate, isDrifted, owned, fresh, drift]
  · simp [fate, isDrifted, owned, drift]

/-- No region of a document is replaced. -/
def AllQuiet (fates : List (Fate × MarkedRegion × Text)) : Prop :=
  ∀ entry ∈ fates, entry.1.isDrifted = false

theorem allQuiet_assign_cons
    {region : MarkedRegion}
    {text : Text}
    {rest : List (MarkedRegion × Text)} :
    AllQuiet (assign registry earlier ((region, text) :: rest)) ↔
      (of registry earlier region).isDrifted = false ∧
        AllQuiet (assign registry (region.name :: earlier) rest) :=
  List.forall_mem_cons

theorem updated_eq_nil_iff
    {fates : List (Fate × MarkedRegion × Text)} :
    (UpdateReport.ofFates fates).updated = [] ↔ AllQuiet fates := by
  simp [UpdateReport.ofFates, UpdateReport.namesWith, AllQuiet]

end Fate

namespace Document

variable {registry : Registry} {ending : LineEnding}

theorem mergedTail_of_allQuiet
    {earlier : List Text}
    {tail : List (MarkedRegion × Text)}
    (quiet : Fate.AllQuiet (Fate.assign registry earlier tail)) :
    mergedTail registry ending earlier tail = tail := by
  induction tail generalizing earlier with
  | nil => rfl
  | cons entry rest ih =>
      rcases entry with ⟨region, text⟩
      rcases Fate.allQuiet_assign_cons.mp quiet with ⟨first, below⟩
      rw [mergedTail_cons, ih below, Fate.apply_of_not_isDrifted first]

/-- A merge that replaces nothing gives the document that it started from. -/
theorem merge_fst_of_isChanged_eq_false
    {document : Document}
    (unchanged : (document.merge registry).2.isChanged = false) :
    (document.merge registry).1 = document := by
  have updated : (document.merge registry).2.updated = [] := by
    simpa [UpdateReport.isChanged] using unchanged
  rw [merge_fst, mergedTail_of_allQuiet (Fate.updated_eq_nil_iff.mp updated)]

theorem isDriftedFrom_of_allQuiet
    {earlier : List Text}
    {tail : List (MarkedRegion × Text)}
    (quiet : Fate.AllQuiet (Fate.assign registry earlier tail))
    {canonical : Section}
    {region : MarkedRegion}
    (fresh : canonical.name ∉ earlier)
    (owned : registry.get? canonical.name = some canonical)
    (found :
      (tail.map Prod.fst).find? (fun other => other.name == canonical.name) =
        some region) :
    region.isDriftedFrom canonical = false := by
  induction tail generalizing earlier with
  | nil => simp at found
  | cons entry rest ih =>
      rcases entry with ⟨first, text⟩
      rcases Fate.allQuiet_assign_cons.mp quiet with ⟨alone, below⟩
      rw [List.map_cons, List.find?_cons] at found
      by_cases same : first.name = canonical.name
      · simp only [same, BEq.rfl, Option.some.injEq] at found
        subst found
        rw [← same] at fresh owned
        exact Fate.isDrifted_of_eq_false_iff.mp alone canonical fresh owned
      · have other : (first.name == canonical.name) = false := by simp [same]
        rw [other] at found
        exact ih below (by simp [fresh, Ne.symm same]) found

/-! ## What a check reports -/

/-- The names of the sections that have no region in a document. -/
def absent (document : Document) (registry : Registry) : List Text :=
  registry.names.filter fun name =>
    !(document.marked.map MarkedRegion.name).contains name

theorem isMissing_eq
    (document : Document)
    (canonical : Section) :
    document.isMissing canonical =
      !(document.marked.map MarkedRegion.name).contains canonical.name := by
  rw [Bool.eq_iff_iff]
  simp [isMissing, get?]

theorem check_missing
    (document : Document)
    (registry : Registry) :
    (document.check registry).missing = document.absent registry := by
  simp only [check, absent, Registry.names, List.filter_map]
  congr 1
  exact List.filter_congr fun canonical _ => document.isMissing_eq canonical

theorem absent_congr
    {document other : Document}
    (names :
      other.marked.map MarkedRegion.name =
        document.marked.map MarkedRegion.name)
    (registry : Registry) :
    other.absent registry = document.absent registry := by
  rw [absent, absent, names]

/-- Without drift a check reports the sections without a region. -/
theorem check_sections_of_allQuiet
    (sound : registry.IsSound)
    {document : Document}
    (quiet : Fate.AllQuiet (document.fates registry)) :
    (document.check registry).sections = document.absent registry := by
  rw [← check_missing]
  simp only [check]
  congr 1
  refine List.filter_congr fun canonical member => ?_
  have current : document.hasDrift canonical = false := by
    rw [hasDrift, get?]
    cases found : document.marked.find?
        (fun region => region.name == canonical.name) with
    | none => rfl
    | some region =>
        exact isDriftedFrom_of_allQuiet quiet (by simp)
          (sound.get?_name member) found
  rw [current, Bool.or_false]

/-! ## A second update -/

/-- A region whose new body is carried is left alone when it is read again. -/
theorem isDrifted_settle_apply
    (sound : registry.IsSound)
    {earlier : List Text}
    {region : MarkedRegion}
    (good : region.IsCanonical)
    (carried :
      ∀ canonical, Fate.of registry earlier region = .drifted canonical →
        ending.Carries canonical.body) :
    (Fate.of registry earlier
      ((Fate.of registry earlier region).apply
        ending region).settle).isDrifted = false := by
  rw [Fate.isDrifted_of_eq_false_iff]
  intro canonical fresh owned
  rw [MarkedRegion.settle_name, Fate.apply_name] at fresh owned
  rw [MarkedRegion.isDriftedFrom_congr
    (Fate.contents_settle_apply sound good)]
  cases drift : region.isDriftedFrom canonical with
  | true =>
      have fate := Fate.of_eq_drifted_iff.mpr ⟨fresh, owned, drift⟩
      have member := (Registry.mem_of_get? owned).1
      rw [fate]
      exact
        (MarkedRegion.isDriftedFrom_replaceWith_iff region
          (sound.stored canonical member).body_normal ending).mpr
          (carried canonical fate)
  | false =>
      have fate : Fate.of registry earlier region = .current := by
        simp [Fate.of, fresh, owned, drift]
      rw [fate]
      exact drift

theorem allQuiet_mergedTail
    (sound : registry.IsSound)
    {earlier : List Text}
    {tail : List (MarkedRegion × Text)}
    (good : ∀ entry ∈ tail, entry.1.IsCanonical)
    (carried : Fate.AllCarried ending (Fate.assign registry earlier tail)) :
    Fate.AllQuiet
      (Fate.assign registry earlier
        ((mergedTail registry ending earlier tail).map
          fun (region, text) => (region.settle, text))) := by
  induction tail generalizing earlier with
  | nil => simp [Fate.assign, Fate.AllQuiet]
  | cons entry rest ih =>
      rcases entry with ⟨region, text⟩
      rcases List.forall_mem_cons.mp good with ⟨canonical, goodBelow⟩
      rcases Fate.allCarried_cons.mp carried with ⟨first, below⟩
      rw [mergedTail_cons, List.map_cons, Fate.allQuiet_assign_cons,
        MarkedRegion.settle_name, Fate.apply_name]
      exact ⟨isDrifted_settle_apply sound canonical first, ih goodBelow below⟩

/-- What is read where a section was written has its name, and the section is
carried if that region has not drifted. -/
theorem exists_of_readLines_replaceWith
    {region written : MarkedRegion}
    (framed : region.IsFramed)
    {canonical : Section}
    (stored : canonical.IsStored)
    (isWritten : written = region.replaceWith canonical ending)
    {start place : Place}
    {behind : List Text}
    {lead : Text}
    {tail : List (MarkedRegion × Text)}
    (read :
      readLines
          (some
            ⟨written.name, written.version, written.openingLine, start, []⟩)
          place (written.innerLines ++ written.closingLine :: behind) =
        .ok (lead, tail)) :
    ∃ found text rest,
      tail = (found, text) :: rest ∧
        found.name = region.name ∧
        (found.isDriftedFrom canonical = false →
          ending.Carries canonical.body) := by
  rcases exists_closing_of_readLines read with
    ⟨taken, closing, after, text, rest, cut, unmarked, marker, rfl⟩
  subst isWritten
  refine ⟨_, text, rest, rfl, rfl, fun current => ?_⟩
  have whole
      (all : taken = (region.replaceWith canonical ending).innerLines)
      (same : closing = (region.replaceWith canonical ending).closingLine) :
      ending.Carries canonical.body := by
    subst all same
    rw [← MarkedRegion.isDriftedFrom_replaceWith_iff region
      stored.body_normal ending, ← current]
    exact MarkedRegion.isDriftedFrom_congr
      (MarkedRegion.contents_settle_replaceWith framed
        stored.body_normal ending).symm canonical
  have closingMarker :
      Marker.ofRawLine? (region.replaceWith canonical ending).closingLine =
        some (.closing region.name) :=
    framed.closing_marker
  -- The region ends at its own closing line or inside the body.
  rcases List.append_eq_append_iff.mp cut with
    ⟨more, longer, closingCut⟩ | ⟨more, shorter, closingCut⟩
  · cases more with
    | nil =>
        exact whole (by simpa using longer)
          (List.cons.inj closingCut).1.symm
    | cons line more =>
        have passed := unmarked line (by simp [longer])
        rw [← (List.cons.inj closingCut).1, closingMarker] at passed
        cases passed
  · cases more with
    | nil =>
        exact whole (by simpa using shorter.symm)
          (List.cons.inj closingCut).1
    | cons line more =>
        obtain rfl := (List.cons.inj closingCut).1
        have isMarker : closing.isMarkerLine = true := by
          simp [Text.isMarkerLine, marker]
        have drift :=
          MarkedRegion.isDriftedFrom_interrupted framed stored shorter
            isMarker region.name (some canonical.version)
            (region.replaceWith canonical ending).openingLine closing
        rw [List.reverse_nil, List.nil_append] at current
        exact absurd (drift.symm.trans current) (by decide)

/-- If what is read where a layout was merged is left alone, then the section
that was written first is carried. -/
theorem carries_of_readLines
    (sound : registry.IsSound)
    {earlier : List Text}
    {lead text readLead : Text}
    {region : MarkedRegion}
    {rest readTail : List (MarkedRegion × Text)}
    {place : Place}
    (plain : lead.IsPlain)
    (complete : lead.IsComplete)
    (good : region.IsCanonical)
    (ended : region.closingLine.IsFullLine ∨ text = [] ∧ rest = [])
    (read :
      readLines none place
          (layoutText lead
            (((Fate.of registry earlier region).apply
              ending region, text) :: rest)).rawLines =
        .ok (readLead, readTail))
    (quiet : Fate.AllQuiet (Fate.assign registry earlier readTail))
    (canonical : Section)
    (fate : Fate.of registry earlier region = .drifted canonical) :
    ending.Carries canonical.body := by
  rcases Fate.of_eq_drifted_iff.mp fate with ⟨fresh, owned, -⟩
  have stored := sound.stored canonical (Registry.mem_of_get? owned).1
  have framed := MarkedRegion.replaceWith_isFramed good.toIsFramed stored ending
  rw [fate, Fate.apply,
    readLines_layoutText_opening plain complete framed ended place] at read
  rcases Except.map_eq_ok_iff.mp read with ⟨⟨inside, below⟩, readInside, same⟩
  obtain rfl : below = readTail := congrArg Prod.snd same
  rcases exists_of_readLines_replaceWith good.toIsFramed stored rfl
      readInside with
    ⟨found, foundText, others, rfl, name, carries⟩
  have alone := (Fate.allQuiet_assign_cons.mp quiet).1
  rw [Fate.isDrifted_of_eq_false_iff, name] at alone
  exact carries (alone canonical fresh owned)

/-- If what is read where a merge was written is left alone, then all that was
written is carried. -/
theorem allCarried_of_readLines
    (sound : registry.IsSound)
    {earlier : List Text}
    {lead readLead : Text}
    {tail readTail : List (MarkedRegion × Text)}
    {place : Place}
    (laid : IsLaidOut MarkedRegion.IsCanonical lead tail)
    (read :
      readLines none place
          (layoutText lead
            (mergedTail registry ending earlier tail)).rawLines =
        .ok (readLead, readTail))
    (quiet : Fate.AllQuiet (Fate.assign registry earlier readTail)) :
    Fate.AllCarried ending (Fate.assign registry earlier tail) := by
  induction laid generalizing earlier place readLead readTail with
  | last _ => simp [Fate.assign, Fate.AllCarried]
  | @next lead text region rest plain complete good ended _ ih =>
      rw [mergedTail_cons] at read
      have stillEnded :
          ((Fate.of registry earlier region).apply
                ending region).closingLine.IsFullLine ∨
            text = [] ∧
              mergedTail registry ending (region.name :: earlier) rest =
                [] := by
        simpa using ended
      have first :=
        carries_of_readLines sound plain complete good
          (by simpa using ended) read quiet
      have readable := Fate.apply_isReadable sound good first
      obtain ⟨next, split⟩ :=
        readLines_layoutText_cons plain complete readable stillEnded place
      rcases Except.map_eq_ok_iff.mp (split.symm.trans read) with
        ⟨⟨below, others⟩, readBelow, same⟩
      obtain rfl := congrArg Prod.snd same
      have later := (Fate.allQuiet_assign_cons.mp quiet).2
      rw [MarkedRegion.settle_name, Fate.apply_name] at later
      exact Fate.allCarried_cons.mpr ⟨first, ih readBelow later⟩

/-! ## The exact condition -/

/-- An update of a document with a registry that changes nothing when it is
repeated: what it writes reads back, the second update replaces nothing and
gives the same text, and a check reports the sections without a region
alone. -/
def IsIdempotent (document : Document) (registry : Registry) : Prop :=
  ∃ reread,
    parse (document.merge registry).1.render = .ok reread ∧
      (reread.merge registry).2.updated = [] ∧
      (reread.merge registry).1.render =
        (document.merge registry).1.render ∧
      (reread.check registry).sections = document.absent registry ∧
      (reread.check registry).missing = document.absent registry

/-- An update is idempotent exactly if the line ending of the document carries
the body of each section that is written. -/
theorem isIdempotent_iff_allCarried
    {text : Text}
    {document : Document}
    (read : parse text = .ok document)
    {sections : List Section}
    {registry : Registry}
    (accepted : Registry.ofSections sections = .ok registry) :
    document.IsIdempotent registry ↔
      Fate.AllCarried document.lineEnding (document.fates registry) := by
  have sound := Registry.isSound_of_ofSections accepted
  have laid := isLaidOut_of_parse read
  constructor
  · rintro ⟨reread, readAgain, quiet, -⟩
    rcases parse_eq_ok_iff.mp readAgain with ⟨below, -⟩
    exact allCarried_of_readLines sound laid below
      (Fate.updated_eq_nil_iff.mp quiet)
  · intro carried
    have readAgain := parse_render_merge sound read carried
    have quiet :
        Fate.AllQuiet
          (((document.merge registry).1.mapMarked
            MarkedRegion.settle).fates registry) :=
      allQuiet_mergedTail sound laid.sound carried
    have names := absent_congr (keeps_merge document registry).names registry
    refine ⟨_, readAgain, Fate.updated_eq_nil_iff.mpr quiet, ?_, ?_, ?_⟩
    · rw [merge_fst, mergedTail_of_allQuiet quiet, render_eq_layoutText]
      exact layoutText_of_parse readAgain
    · rw [check_sections_of_allQuiet sound quiet, names]
    · rw [check_missing, names]

/-- With CRLF, a carriage return at the end of a body does no harm. -/
theorem isIdempotent_crlf_final_return :
    ∃ document registry,
      parse "<!-- BEGIN: a v1 -->\r\nold\r\n<!-- END: a -->".toList =
          .ok document ∧
        Registry.ofSections [⟨"a".toList, "2".toList, "new\r".toList⟩] =
          .ok registry ∧
        document.IsIdempotent registry := by
  have read :
      parse "<!-- BEGIN: a v1 -->\r\nold\r\n<!-- END: a -->".toList =
        .ok
          { lead := []
            tail :=
              [({ name := "a".toList
                  version := some "1".toList
                  openingLine := "<!-- BEGIN: a v1 -->\r\n".toList
                  leadingPad := none
                  rawBody := "old\r\n".toList
                  trailingPad := none
                  closingLine := "<!-- END: a -->".toList }, [])]
            lineEnding := .crlf } :=
    rfl
  have accepted :
      Registry.ofSections [⟨"a".toList, "2".toList, "new\r".toList⟩] =
        .ok ⟨[⟨"a".toList, "2".toList, "new\r".toList⟩]⟩ :=
    rfl
  refine ⟨_, _, read, accepted,
    (isIdempotent_iff_allCarried read accepted).mpr ?_⟩
  intro canonical written
  obtain rfl :=
    List.mem_singleton.mp (Fate.mem_sections_of_drifted written)
  decide

/-- Of two carriage returns in front of a line feed one is stored, and then
every update replaces the region again. -/
theorem not_isIdempotent_inner_return :
    ∃ document registry,
      parse "<!-- BEGIN: a v1 -->\nold\n<!-- END: a -->\n".toList =
          .ok document ∧
        Registry.ofSections [⟨"a".toList, "2".toList, "x\r\r\ny".toList⟩] =
          .ok registry ∧
        ¬document.IsIdempotent registry := by
  have read :
      parse "<!-- BEGIN: a v1 -->\nold\n<!-- END: a -->\n".toList =
        .ok
          { lead := []
            tail :=
              [({ name := "a".toList
                  version := some "1".toList
                  openingLine := "<!-- BEGIN: a v1 -->\n".toList
                  leadingPad := none
                  rawBody := "old\n".toList
                  trailingPad := none
                  closingLine := "<!-- END: a -->\n".toList }, [])]
            lineEnding := .lf } :=
    rfl
  have accepted :
      Registry.ofSections [⟨"a".toList, "2".toList, "x\r\r\ny".toList⟩] =
        .ok ⟨[⟨"a".toList, "2".toList, "x\r\ny".toList⟩]⟩ :=
    rfl
  refine ⟨_, _, read, accepted, ?_⟩
  rintro ⟨reread, readAgain, quiet, -⟩
  -- The carriage return is lost in writing, so the body differs once more.
  have written :
      parse "<!-- BEGIN: a v2 -->\nx\ny\n<!-- END: a -->\n".toList =
        .ok
          { lead := []
            tail :=
              [({ name := "a".toList
                  version := some "2".toList
                  openingLine := "<!-- BEGIN: a v2 -->\n".toList
                  leadingPad := none
                  rawBody := "x\ny\n".toList
                  trailingPad := none
                  closingLine := "<!-- END: a -->\n".toList }, [])]
            lineEnding := .lf } :=
    rfl
  obtain rfl := Except.ok.inj (written.symm.trans readAgain)
  revert quiet
  decide

end Document

end RegionSync
