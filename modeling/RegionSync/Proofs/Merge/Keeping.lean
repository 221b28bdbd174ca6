import RegionSync.Proofs.Merge.Rereading

/-!
# What an update keeps

`Keeps` is what an update promises to the author of a text: the names of the
regions, the free texts, the closing lines and the line ending stay, and so
does the text of every region that belongs to no registry or repeats a name.
A merge keeps its promise, also when its result is read again.
-/

namespace RegionSync.Document

/-! ## The promise -/

/-- What updates with some registries leave of a document. -/
structure Keeps
    (registries : List Registry)
    (start reached : Document) :
    Prop where
  names :
    reached.marked.map MarkedRegion.name =
      start.marked.map MarkedRegion.name
  free : reached.free = start.free
  closingLines :
    reached.marked.map MarkedRegion.closingLine =
      start.marked.map MarkedRegion.closingLine
  lineEnding : reached.lineEnding = start.lineEnding
  /-- A region stands as it was if its name has occurred before or belongs to
  no registry. -/
  untouched :
    ∀ index before,
      start.marked[index]? = some before →
        (before.name ∈ (start.marked.map MarkedRegion.name).take index ∨
          ∀ registry ∈ registries, registry.get? before.name = none) →
        ∃ after,
          reached.marked[index]? = some after ∧
            after.render = before.render

namespace Keeps

variable {registries : List Registry} {start middle reached : Document}

theorem mono
    {more : List Registry}
    (within : registries ⊆ more)
    (kept : Keeps registries start reached) :
    Keeps more start reached where
  names := kept.names
  free := kept.free
  closingLines := kept.closingLines
  lineEnding := kept.lineEnding
  untouched index before found spared :=
    kept.untouched index before found <|
      spared.imp_right fun unowned registry member =>
        unowned registry (within member)

theorem trans
    (first : Keeps registries start middle)
    (second : Keeps registries middle reached) :
    Keeps registries start reached where
  names := second.names.trans first.names
  free := second.free.trans first.free
  closingLines := second.closingLines.trans first.closingLines
  lineEnding := second.lineEnding.trans first.lineEnding
  untouched index before found spared := by
    rcases first.untouched index before found spared with
      ⟨between, foundBetween, sameBetween⟩
    have name : between.name = before.name := by
      have atIndex := congrArg (fun names => names[index]?) first.names
      simpa [found, foundBetween] using atIndex
    rcases second.untouched index between foundBetween
        (by rwa [name, first.names]) with
      ⟨after, foundAfter, sameAfter⟩
    exact ⟨after, foundAfter, sameAfter.trans sameBetween⟩

end Keeps

/-! ## One update -/

variable {registry : Registry} {ending : LineEnding}

/-- A merge leaves a region that repeats a name or belongs to no section. -/
theorem getElem?_mergedTail_of_spared
    {earlier : List Text}
    {tail : List (MarkedRegion × Text)}
    {index : Nat}
    {region : MarkedRegion}
    (found : (tail.map Prod.fst)[index]? = some region)
    (spared :
      region.name ∈ earlier ∨
        region.name ∈
            ((tail.map Prod.fst).map MarkedRegion.name).take index ∨
          registry.get? region.name = none) :
    ((mergedTail registry ending earlier tail).map Prod.fst)[index]? =
      some region := by
  induction tail generalizing earlier index with
  | nil => simp at found
  | cons entry rest ih =>
      rcases entry with ⟨first, text⟩
      cases index with
      | zero =>
          obtain rfl : first = region := by simpa using found
          have kept :
              (Fate.of registry earlier first).apply ending first =
                first := by
            rcases spared with seen | absurdity | unowned
            · simp [Fate.of, seen, Fate.apply]
            · simp at absurdity
            · by_cases seen : first.name ∈ earlier
              · simp [Fate.of, seen, Fate.apply]
              · simp [Fate.of, seen, unowned, Fate.apply]
          simpa using kept
      | succ index =>
          rw [mergedTail_cons]
          refine ih (by simpa using found) ?_
          rcases spared with seen | before | unowned
          · exact Or.inl (List.mem_cons_of_mem _ seen)
          · rw [List.map_cons, List.map_cons, List.take_succ_cons,
              List.mem_cons] at before
            rcases before with same | below
            · exact Or.inl (List.mem_cons.mpr (Or.inl same))
            · exact Or.inr (Or.inl below)
          · exact Or.inr (Or.inr unowned)

/-- A merge keeps its promise, also when its result is read again. -/
theorem keeps_merge
    (document : Document)
    (registry : Registry) :
    Keeps [registry] document
      ((document.merge registry).1.mapMarked MarkedRegion.settle) where
  names := by
    rw [marked_mapMarked, List.map_map, merge_fst, marked, marked,
      List.map_map, List.map_map]
    exact map_mergedTail (fun fate region text => fate.apply_name _ region)
      [] document.tail
  free := by
    rw [free_mapMarked, merge_fst, free, free]
    exact congrArg (List.cons document.lead)
      (map_mergedTail (fun _ _ _ => rfl) [] document.tail)
  closingLines := by
    rw [marked_mapMarked, List.map_map, merge_fst, marked, marked,
      List.map_map, List.map_map]
    exact map_mergedTail
      (fun fate region text => fate.apply_closingLine _ region)
      [] document.tail
  lineEnding := rfl
  untouched index before found spared := by
    have kept :
        (document.merge registry).1.marked[index]? = some before :=
      getElem?_mergedTail_of_spared found <|
        Or.inr (spared.imp_right fun unowned => unowned registry (by simp))
    refine ⟨before.settle, ?_, before.settle_render⟩
    rw [marked_mapMarked, List.getElem?_map, kept]
    rfl

end RegionSync.Document
