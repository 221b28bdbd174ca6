import RegionSync.Proofs.Merge.Keeping

/-!
# Runs of updates

An update reads a text, merges a registry into it and writes the result, which
is the text of the next update.  `runUpdates` does this for a list of
registries, and reads each result.

If no line of a stored body ends in a carriage return, every run goes through,
whatever the text and whatever the registries: `runUpdates_keeps`.
-/

namespace RegionSync.Document

variable {registry : Registry}

/-- One update: the merged document, and what is read where it was written. -/
structure UpdateStep where
  merged : Document
  reread : Document

/-- Updates with some registries, one after the other. -/
def runUpdates
    (text : Text) :
    List Registry → Except Malformed (List UpdateStep)
  | [] => .ok []
  | registry :: rest => do
      let document ← parse text
      let merged := (document.merge registry).1
      let reread ← parse merged.render
      let later ← runUpdates merged.render rest
      return ⟨merged, reread⟩ :: later

theorem runUpdates_cons
    {text : Text}
    {document reread : Document}
    {registry : Registry}
    {rest : List Registry}
    {later : List UpdateStep}
    (read : parse text = .ok document)
    (readAgain :
      parse (document.merge registry).1.render = .ok reread)
    (below :
      runUpdates (document.merge registry).1.render rest = .ok later) :
    runUpdates text (registry :: rest) =
      .ok (⟨(document.merge registry).1, reread⟩ :: later) := by
  simp [runUpdates, read, readAgain, below, bind, Except.bind, pure,
    Except.pure]

theorem allCarried_of_splitOn
    (noReturn :
      ∀ canonical ∈ registry.sections,
        ∀ line ∈ canonical.body.splitOn '\n', line.getLast? ≠ some '\r')
    (ending : LineEnding)
    (document : Document) :
    Fate.AllCarried ending (document.fates registry) := by
  intro canonical written
  have member := Fate.mem_sections_of_drifted written
  exact ending.carries_of_splitOn (noReturn canonical member)

/-- Every run of updates goes through.  At each step the names, the free
texts, the closing lines, the line ending and the regions that are not the
registries' stand as in the first text, and what is read says what was
written. -/
theorem runUpdates_keeps
    {text : Text}
    {document : Document}
    {registries : List Registry}
    (read : parse text = .ok document)
    (accepted :
      ∀ registry ∈ registries,
        ∃ sections, Registry.ofSections sections = .ok registry)
    (noReturn :
      ∀ registry ∈ registries, ∀ canonical ∈ registry.sections,
        ∀ line ∈ canonical.body.splitOn '\n', line.getLast? ≠ some '\r') :
    ∃ steps,
      runUpdates text registries = .ok steps ∧
        steps.length = registries.length ∧
        ∀ step ∈ steps,
          Keeps registries document step.reread ∧
            step.reread.marked.map MarkedRegion.contents =
              step.merged.marked.map MarkedRegion.contents := by
  induction registries generalizing text document with
  | nil => exact ⟨[], rfl, rfl, by simp⟩
  | cons registry rest ih =>
      rcases accepted registry (by simp) with ⟨sections, built⟩
      have sound := Registry.isSound_of_ofSections built
      have carried :=
        allCarried_of_splitOn (noReturn registry (by simp))
          document.lineEnding document
      have readAgain := parse_render_merge sound read carried
      rcases ih readAgain
          (fun other member => accepted other (by simp [member]))
          (fun other member => noReturn other (by simp [member])) with
        ⟨later, run, length, below⟩
      have first :
          Keeps (registry :: rest) document
            ((document.merge registry).1.mapMarked MarkedRegion.settle) :=
        (keeps_merge document registry).mono (by simp)
      refine ⟨_, runUpdates_cons read readAgain run, by simp [length], ?_⟩
      refine List.forall_mem_cons.mpr
        ⟨⟨first, contents_marked_settle sound read⟩, ?_⟩
      intro step member
      rcases below step member with ⟨kept, same⟩
      exact ⟨first.trans (kept.mono (List.subset_cons_self _ _)), same⟩

/-- Two updates of a text with mixed breaks, a repeated name and no final line
feed; the second one empties the body. -/
theorem runUpdates_keeps_mixed_breaks :
    ∃ document,
      parse
          ("<!-- BEGIN: a v1 -->\r\n\nold\n<!-- END: a -->\nmine\r\n"
            ++ "<!-- BEGIN: a -->\n<!-- END: a -->").toList = .ok document ∧
        ∃ steps,
          runUpdates
              ("<!-- BEGIN: a v1 -->\r\n\nold\n<!-- END: a -->\nmine\r\n"
                ++ "<!-- BEGIN: a -->\n<!-- END: a -->").toList
              [⟨[⟨"a".toList, "2".toList, "one\n\ntwo".toList⟩]⟩,
                ⟨[⟨"b".toList, "1".toList, []⟩,
                  ⟨"a".toList, "3".toList, []⟩]⟩] = .ok steps ∧
            steps.length = 2 ∧
            ∀ step ∈ steps,
              Keeps
                  [⟨[⟨"a".toList, "2".toList, "one\n\ntwo".toList⟩]⟩,
                    ⟨[⟨"b".toList, "1".toList, []⟩,
                      ⟨"a".toList, "3".toList, []⟩]⟩]
                  document step.reread ∧
                step.reread.marked.map MarkedRegion.contents =
                  step.merged.marked.map MarkedRegion.contents := by
  have accepted :
      ∀ registry ∈
        ([⟨[⟨"a".toList, "2".toList, "one\n\ntwo".toList⟩]⟩,
          ⟨[⟨"b".toList, "1".toList, []⟩,
            ⟨"a".toList, "3".toList, []⟩]⟩] : List Registry),
        ∃ sections, Registry.ofSections sections = .ok registry := by
    rw [List.forall_mem_cons, List.forall_mem_singleton]
    exact
      ⟨⟨[⟨"a".toList, "2".toList, "\none\r\n\r\ntwo\n".toList⟩], rfl⟩,
        ⟨[⟨"b".toList, "1".toList, []⟩, ⟨"a".toList, "3".toList, []⟩],
          rfl⟩⟩
  exact ⟨_, rfl, runUpdates_keeps rfl accepted (by decide)⟩

end RegionSync.Document
