import RegionSync.Proofs.Registry.Acceptance
import RegionSync.Proofs.Registry.HiddenMarker

/-!
# Registering a registry again

The sections of a registry are a list of sections, so a registry can be made
of them once more, as it is when a registry is written to a file and loaded
again.  A registry is canonical if no body holds a CRLF and this gives the
same registry.

Not every registry is.  A line of a body loses one carriage return, and a
second one then stands in front of the line feed that joins the lines.  Every
renewal folds one such break on each line, `foldBreaks`, and a marker that
comes to light on the way is refused.  `renewal_decided` gives the exact
conditions; `isCanonical_of_renewals` says that renewals come to an end.
-/

namespace RegionSync

/-! ## Breaks in a text -/

namespace Text

theorem hasCrlf_eq_true_iff
    {text : Text} :
    text.hasCrlf = true ↔ ['\r', '\n'] <:+: text := by
  fun_induction hasCrlf text with
  | case1 => simp
  | case2 rest => simp [List.infix_cons_iff]
  | case3 char rest different ih =>
      rw [ih, List.infix_cons_iff, or_iff_right]
      intro start
      rcases List.cons_prefix_cons.mp start with ⟨rfl, feed⟩
      rcases rest with _ | ⟨next, others⟩
      · simp at feed
      · obtain rfl := (List.cons_prefix_cons.mp feed).1
        exact different others rfl rfl

theorem foldBreaks_eq_self_iff
    {text : Text} :
    foldBreaks text = text ↔ text.hasCrlf = false := by
  constructor
  · intro same
    exact hasCrlf_eq_false_of_length (congrArg List.length same)
  · exact foldBreaks_eq_self

theorem count_return_pos
    {text : Text}
    (broken : text.hasCrlf = true) :
    0 < text.count '\r' := by
  rw [List.count_pos_iff]
  exact (hasCrlf_eq_true_iff.mp broken).subset (by simp)

theorem count_return_foldBreaks_le (text : Text) :
    (foldBreaks text).count '\r' ≤ text.count '\r' := by
  fun_induction foldBreaks text with
  | case1 => simp
  | case2 rest ih => simp; omega
  | case3 char rest _ ih => simpa [List.count_cons] using ih

/-- Each break that is folded takes a carriage return away. -/
theorem count_return_foldBreaks_lt
    {text : Text}
    (broken : text.hasCrlf = true) :
    (foldBreaks text).count '\r' < text.count '\r' := by
  fun_induction foldBreaks text with
  | case1 => cases broken
  | case2 rest ih =>
      have fewer := count_return_foldBreaks_le rest
      simp; omega
  | case3 char rest different ih =>
      rw [hasCrlf] at broken
      · simpa [List.count_cons] using ih broken
      · exact different

/-- Joining the lines of a body folds its breaks. -/
theorem joinLines_lines
    {text : Text}
    (incomplete : ¬IsComplete text) :
    joinLines text.lines = foldBreaks text := by
  induction text using line_induction with
  | last text noFeed =>
      have nonempty : text ≠ [] := fun empty => incomplete (Or.inl empty)
      rw [lines_of_not_mem nonempty noFeed, foldBreaks_of_not_mem noFeed]
      simp [joinLines]
  | line inner rest noFeed ih =>
      have below := not_isComplete_of_append_feed incomplete
      have nonempty : rest.lines ≠ [] := by
        intro none_left
        apply below
        left
        simpa [lines] using none_left
      rcases List.exists_cons_of_ne_nil nonempty with ⟨next, others, cut⟩
      rw [lines_append_feed rest noFeed, cut,
        Section.joinLines_cons_cons, ← cut, ih below,
        foldBreaks_append_feed rest noFeed]

end Text

/-! ## Bodies -/

namespace Section

/-- Whether a line of a body ends in a carriage return in front of its break,
between the first and the last line that are not blank. -/
def HasInnerReturn (raw : Text) : Prop :=
  ∃ above kept below,
    IsTrimmed raw.lines above kept below ∧
      ∃ line ∈ kept.dropLast, line.getLast? = some '\r'

theorem hasCrlf_normalBody_iff
    {raw : Text} :
    (normalBody raw).hasCrlf = true ↔ HasInnerReturn raw := by
  have decided
      {above kept below : List Text}
      (trimmed : IsTrimmed raw.lines above kept below) :
      (normalBody raw).hasCrlf = true ↔
        ∃ line ∈ kept.dropLast, line.getLast? = some '\r' := by
    rw [normalBody_of_isTrimmed trimmed]
    by_cases nonempty : kept = []
    · subst nonempty
      simp [Text.joinLines, Text.hasCrlf]
    · rw [← Bool.not_eq_false, Text.hasCrlf_eq_false_iff_splitOn,
        (trimmed.splitOn_joinLines nonempty).2]
      simp
  constructor
  · intro broken
    rcases exists_isTrimmed raw.lines with ⟨above, kept, below, trimmed⟩
    exact ⟨above, kept, below, trimmed, (decided trimmed).mp broken⟩
  · rintro ⟨above, kept, below, trimmed, inner⟩
    exact (decided trimmed).mpr inner

/-- Of a stored body, only its breaks change in normal form. -/
theorem IsNormalBody.normalBody_eq
    {body : Text}
    (normal : IsNormalBody body) :
    normalBody body = body.foldBreaks := by
  by_cases empty : body = []
  · rw [empty]
    rfl
  · have trimmed : IsTrimmed body.lines [] body.lines [] :=
      { whole := by simp
        above_blank := by simp
        below_blank := by simp
        first_solid := normal.first_solid
        last_solid := normal.last_solid }
    rw [normalBody_of_isTrimmed trimmed,
      Text.joinLines_lines (Text.not_isComplete_of_unended empty normal.unended)]

/-- The markers on the lines of a stored body are those that it hides. -/
theorem IsNormalBody.lines_hold_no_marker_iff
    {body : Text}
    (normal : IsNormalBody body) :
    (∀ line ∈ body.lines, ¬line.HoldsMarker) ↔ hiddenMarkers body = [] := by
  by_cases empty : body = []
  · subst empty
    simp [hiddenMarkers]
  rcases Text.exists_splitOn_eq
      (Text.not_isComplete_of_unended empty normal.unended) with
    ⟨front, last, pieces, lines⟩
  have noFeed : ∀ line ∈ front ++ [last], '\n' ∉ line := by
    rw [← pieces]
    exact fun line member => Text.not_mem_of_mem_splitOn member
  have lastUnmarked : ¬Text.HoldsMarker last := by
    rw [← Text.isMarkerLine_iff_holdsMarker (noFeed last (by simp)),
      Bool.not_eq_true]
    exact normal.unmarked last (by simp [pieces])
  rw [hiddenMarkers, pieces, List.dropLast_concat,
    List.filterMap_eq_nil_iff, lines]
  simp only [List.forall_mem_append, List.forall_mem_map,
    List.forall_mem_singleton, lastUnmarked, not_false_eq_true, and_true]
  refine forall₂_congr fun line member => ?_
  have lineFeed := noFeed line (by simp [member])
  have stillFree := Text.feed_not_mem_dropFinal lineFeed
  have unmarked := normal.unmarked line (by simp [pieces, member])
  rw [← Marker.ofRawLine?_dropFinal_lf lineFeed unmarked,
    Marker.ofRawLine?, LineEnding.text, Text.content_append_feed,
    ← Text.content_of_not_mem stillFree,
    ← Text.isMarkerLine_iff_holdsMarker stillFree, Bool.not_eq_true,
    Text.isMarkerLine_eq_false_iff, Marker.ofRawLine?]

/-- A section as it is stored when it is registered again. -/
def foldBreaks (canonical : Section) : Section :=
  { canonical with body := canonical.body.foldBreaks }

theorem IsStored.normalize_eq
    {canonical : Section}
    (stored : canonical.IsStored) :
    canonical.normalize = canonical.foldBreaks := by
  rw [normalize, foldBreaks, stored.body_normal.normalBody_eq]

theorem foldBreaks_eq_self_iff
    {canonical : Section} :
    canonical.foldBreaks = canonical ↔ canonical.body.hasCrlf = false := by
  rw [← Text.foldBreaks_eq_self_iff]
  rcases canonical with ⟨name, version, body⟩
  simp [foldBreaks]

/-- A stored section that follows others can only be refused for a marker
that it hides. -/
theorem IsStored.hasFault_iff
    {canonical : Section}
    (stored : canonical.IsStored)
    {earlier : List Text}
    (fresh : canonical.name ∉ earlier)
    {fault : SectionFault} :
    canonical.HasFault earlier fault ↔
      ∃ number line,
        IsFirstMarkerLine canonical.body number line ∧
          fault = .markerInBody canonical.name number line := by
  have name := Text.isToken_iff_isSolid.mp stored.name_token
  have version := Text.isToken_iff_isSolid.mp stored.version_token
  constructor
  · intro faulty
    cases faulty with
    | name hollow => exact absurd name hollow
    | version _ hollow => exact absurd version hollow
    | repeated _ _ seen => exact absurd seen fresh
    | marker _ _ _ first => exact ⟨_, _, first, rfl⟩
  · rintro ⟨number, line, first, rfl⟩
    exact .marker name version fresh first

end Section

/-! ## Registries -/

namespace Registry

open Section

variable {sections : List Section} {registry : Registry}

/-- Sections of a registry are valid again if they hide no marker. -/
theorem IsSound.areValid_iff
    (sound : registry.IsSound)
    (within : sections.Sublist registry.sections) :
    AreValid sections ↔
      ∀ canonical ∈ sections, hiddenMarkers canonical.body = [] := by
  have stored : ∀ canonical ∈ sections, canonical.IsStored :=
    fun canonical member => sound.stored canonical (within.subset member)
  constructor
  · intro valid canonical member
    rw [← (stored canonical member).body_normal.lines_hold_no_marker_iff]
    exact valid.unmarked canonical member
  · intro hidesNone
    constructor
    · intro canonical member
      exact Text.isToken_iff_isSolid.mp (stored canonical member).name_token
    · intro canonical member
      exact Text.isToken_iff_isSolid.mp (stored canonical member).version_token
    · exact sound.distinct.sublist (within.map Section.name)
    · intro canonical member
      rw [(stored canonical member).body_normal.lines_hold_no_marker_iff]
      exact hidesNone canonical member

/-- A registry as it is when its own sections are registered again. -/
def foldBreaks (registry : Registry) : Registry :=
  ⟨registry.sections.map Section.foldBreaks⟩

theorem foldBreaks_eq_self_iff :
    registry.foldBreaks = registry ↔
      ∀ canonical ∈ registry.sections, canonical.body.hasCrlf = false := by
  rcases registry with ⟨sections⟩
  have each :
      sections.map Section.foldBreaks = sections ↔
        ∀ canonical ∈ sections, canonical.foldBreaks = canonical := by
    simpa using List.map_inj_left (f := Section.foldBreaks) (g := id)
      (l := sections)
  rw [foldBreaks, mk.injEq, each]
  exact forall₂_congr fun canonical _ => Section.foldBreaks_eq_self_iff

/-- Whether no body holds a CRLF, and the registry of the sections is the
registry itself. -/
structure IsCanonical (registry : Registry) : Prop where
  noBreak :
    ∀ canonical ∈ registry.sections, ¬['\r', '\n'] <:+: canonical.body
  renewed : ofSections registry.sections = .ok registry

/-- The first section that hides a marker, and the fault that it is refused
for: the first line that holds a marker when the body is cut into lines. -/
def FirstHides (registry : Registry) (fault : SectionFault) : Prop :=
  ∃ before faulty behind number line,
    registry.sections = before ++ faulty :: behind ∧
      (∀ other ∈ before, hiddenMarkers other.body = []) ∧
      IsFirstMarkerLine faulty.body number line ∧
      fault = .markerInBody faulty.name number line

/-- Registered again, a registry that hides no marker has its breaks
folded. -/
theorem IsSound.ofSections_eq_ok_iff
    (sound : registry.IsSound)
    {again : Registry} :
    ofSections registry.sections = .ok again ↔
      (∀ canonical ∈ registry.sections, hiddenMarkers canonical.body = []) ∧
        again = registry.foldBreaks := by
  have normal :
      registry.sections.map Section.normalize =
        registry.sections.map Section.foldBreaks :=
    List.map_congr_left fun canonical member =>
      (sound.stored canonical member).normalize_eq
  rw [Registry.ofSections_eq_ok_iff, sound.areValid_iff (List.Sublist.refl _),
    normal]
  rfl

/-- Registered again, a registry is refused for the first marker that it
hides. -/
theorem IsSound.ofSections_eq_error_iff
    (sound : registry.IsSound)
    {fault : SectionFault} :
    ofSections registry.sections = .error fault ↔
      registry.FirstHides fault := by
  rw [Registry.ofSections_eq_error_iff, IsFirstFault, FirstHides]
  refine exists_congr fun before => exists_congr fun faulty =>
    exists_congr fun behind => ?_
  have inFront (cut : registry.sections = before ++ faulty :: behind) :
      AreValid before ↔ ∀ other ∈ before, hiddenMarkers other.body = [] := by
    apply sound.areValid_iff
    rw [cut]
    exact List.sublist_append_left before _
  have here (cut : registry.sections = before ++ faulty :: behind) :
      faulty.HasFault (before.map Section.name) fault ↔
        ∃ number line,
          IsFirstMarkerLine faulty.body number line ∧
            fault = .markerInBody faulty.name number line := by
    have distinct := sound.distinct
    rw [names, cut, List.map_append, List.map_cons, List.nodup_append]
      at distinct
    refine (sound.stored faulty (by simp [cut])).hasFault_iff fun seen => ?_
    exact distinct.2.2 faulty.name seen faulty.name (by simp) rfl
  constructor
  · rintro ⟨cut, valid, fault⟩
    rcases (here cut).mp fault with ⟨number, line, first, same⟩
    exact ⟨number, line, cut, (inFront cut).mp valid, first, same⟩
  · rintro ⟨number, line, cut, hidesNone, first, same⟩
    exact ⟨cut, (inFront cut).mpr hidesNone,
      (here cut).mpr ⟨number, line, first, same⟩⟩

/-- A marker is hidden by two carriage returns in front of a line feed. -/
theorem hiddenMarkers_eq_nil_of_hasCrlf
    {body : Text}
    (noBreak : body.hasCrlf = false) :
    hiddenMarkers body = [] := by
  refine List.filterMap_eq_nil_iff.mpr fun line member => ?_
  have noReturn := Text.hasCrlf_eq_false_iff_splitOn.mp noBreak line member
  cases cut : Text.before? ['\r', '\r'] line with
  | none => rfl
  | some inner =>
      rw [Text.before?_eq_some_iff.mp cut] at noReturn
      simp at noReturn

/-- A registry is canonical if no body holds a CRLF, for then no marker is
hidden either. -/
theorem IsSound.isCanonical_iff
    (sound : registry.IsSound) :
    registry.IsCanonical ↔
      ∀ canonical ∈ registry.sections, canonical.body.hasCrlf = false := by
  constructor
  · intro settled
    have same := (sound.ofSections_eq_ok_iff.mp settled.renewed).2
    exact foldBreaks_eq_self_iff.mp same.symm
  · intro noBreak
    constructor
    · intro canonical member
      rw [← Text.hasCrlf_eq_true_iff, noBreak canonical member]
      exact Bool.false_ne_true
    · rw [sound.ofSections_eq_ok_iff, foldBreaks_eq_self_iff.mpr noBreak]
      exact
        ⟨fun canonical member =>
          hiddenMarkers_eq_nil_of_hasCrlf (noBreak canonical member), rfl⟩

/-! ## Renewals -/

/-- The registry after a number of renewals. -/
def renewals : Nat → Registry → Except SectionFault Registry
  | 0, registry => .ok registry
  | count + 1, registry => do
      renewals count (← ofSections registry.sections)

theorem renewals_succ_eq_ok_iff
    {count : Nat}
    {last : Registry} :
    registry.renewals (count + 1) = .ok last ↔
      ∃ again,
        ofSections registry.sections = .ok again ∧
          again.renewals count = .ok last := by
  cases renewed : ofSections registry.sections <;>
    simp [renewals, renewed, bind, Except.bind]

/-- Renewals come to an end: after as many as a body with a CRLF has carriage
returns, a registry that was never refused is canonical. -/
theorem isCanonical_of_renewals
    (sound : registry.IsSound)
    {count : Nat}
    {last : Registry}
    (enough :
      ∀ canonical ∈ registry.sections,
        canonical.body.hasCrlf = true → canonical.body.count '\r' ≤ count)
    (renewed : registry.renewals count = .ok last) :
    last.IsCanonical := by
  induction count generalizing registry with
  | zero =>
      obtain rfl := Except.ok.inj renewed
      rw [sound.isCanonical_iff]
      intro canonical member
      rw [← Bool.not_eq_true]
      intro broken
      have none_left := enough canonical member broken
      have found := Text.count_return_pos broken
      omega
  | succ count ih =>
      rcases renewals_succ_eq_ok_iff.mp renewed with ⟨again, first, later⟩
      refine ih (isSound_of_ofSections first) ?_ later
      rw [(sound.ofSections_eq_ok_iff.mp first).2, foldBreaks]
      refine List.forall_mem_map.mpr fun canonical member stillBroken => ?_
      have broken : canonical.body.hasCrlf = true := by
        by_contra noBreak
        rw [Bool.not_eq_true] at noBreak
        have same := Section.foldBreaks_eq_self_iff.mpr noBreak
        rw [same, noBreak] at stillBroken
        cases stillBroken
      have bounded := enough canonical member broken
      have fewer := Text.count_return_foldBreaks_lt broken
      show canonical.body.foldBreaks.count '\r' ≤ count
      omega

/-- A registry is canonical exactly if no given body has a carriage return in
front of a break, between its first and its last line that are not blank.
Registered again, a registry has its breaks folded, unless a section hides a
marker, for which it is then refused. -/
theorem renewal_decided
    (accepted : ofSections sections = .ok registry) :
    (registry.IsCanonical ↔
      ∀ given ∈ sections, ¬HasInnerReturn given.body) ∧
    (∀ again,
      ofSections registry.sections = .ok again ↔
        (∀ canonical ∈ registry.sections,
          hiddenMarkers canonical.body = []) ∧
          again = registry.foldBreaks) ∧
    ∀ fault,
      ofSections registry.sections = .error fault ↔
        registry.FirstHides fault := by
  have sound := isSound_of_ofSections accepted
  refine
    ⟨?_, fun again => sound.ofSections_eq_ok_iff,
      fun fault => sound.ofSections_eq_error_iff⟩
  rw [sound.isCanonical_iff, (Registry.ofSections_eq_ok_iff.mp accepted).2,
    List.forall_mem_map]
  refine forall₂_congr fun given _ => ?_
  rw [← hasCrlf_normalBody_iff, Bool.not_eq_true]
  rfl

/-- Line breaks of both kinds, blank edges and a carriage return at the end of
the body. -/
theorem renewal_decided_final_return :
    ∃ registry,
      ofSections
          [⟨"a".toList, "1".toList, "\r\n one\r\n\ntwo\r".toList⟩,
            ⟨"b".toList, "v".toList, " \r\n".toList⟩] = .ok registry ∧
        registry.IsCanonical := by
  have accepted :
      ofSections
          [⟨"a".toList, "1".toList, "\r\n one\r\n\ntwo\r".toList⟩,
            ⟨"b".toList, "v".toList, " \r\n".toList⟩] =
        .ok
          ⟨[⟨"a".toList, "1".toList, " one\n\ntwo\r".toList⟩,
            ⟨"b".toList, "v".toList, []⟩]⟩ :=
    rfl
  refine ⟨_, accepted, (renewal_decided accepted).1.mpr ?_⟩
  intro given member
  rw [← hasCrlf_normalBody_iff]
  revert given
  decide

/-- Of two carriage returns in front of a line feed one is stored, and it is
lost when the registry is registered again.  Of three behind a marker two are
stored, and then the registry is refused. -/
theorem not_isCanonical_inner_return :
    (∃ registry again,
      ofSections [⟨"a".toList, "1".toList, "x\r\r\ny".toList⟩] =
          .ok registry ∧
        ofSections registry.sections = .ok again ∧
        again ≠ registry ∧
        ¬registry.IsCanonical) ∧
    ∃ registry fault,
      ofSections
          [⟨"a".toList, "1".toList,
            "x\n<!-- END: a -->\r\r\r\ny".toList⟩] = .ok registry ∧
        ofSections registry.sections = .error fault ∧
        ¬registry.IsCanonical := by
  have altered :
      ofSections [⟨"a".toList, "1".toList, "x\r\ny".toList⟩] =
        .ok ⟨[⟨"a".toList, "1".toList, "x\ny".toList⟩]⟩ :=
    rfl
  have refused :
      ofSections
          [⟨"a".toList, "1".toList, "x\n<!-- END: a -->\r\r\ny".toList⟩] =
        .error
          (.markerInBody "a".toList 2 "<!-- END: a -->\r".toList) :=
    rfl
  constructor
  · refine ⟨_, _, rfl, altered, by decide, fun settled => ?_⟩
    cases settled.renewed.symm.trans altered
  · refine ⟨_, _, rfl, refused, fun settled => ?_⟩
    cases settled.renewed.symm.trans refused

end Registry

end RegionSync
