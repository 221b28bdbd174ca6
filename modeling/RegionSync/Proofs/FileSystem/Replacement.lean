import RegionSync.Proofs.FileSystem.Reach

/-!
# Replacing a file

`put` changes what one location shows and nothing else.  A temporary file has
a name that is not in use, so it can be added, filled and removed without a
trace, and while it is there every path leads where it led before.  Renamed to
a path, it stands where that path leads.
-/

namespace RegionSync.FileSystem

variable
  {files : FileSystem}
  {place location other : Location}
  {entry : Entry}
  {file : File}

/-! ## One location -/

theorem entry?_eq_lookup
    (outside : ¬location <:+ files.workDir) :
    files.entry? location = files.entries.lookup location := by
  unfold entry?
  simp [outside]

theorem not_suffix_of_route?_eq_none
    (free : files.route? location = none) :
    ¬location <:+ files.workDir := by
  intro above
  rw [route?_eq_directory_iff.mpr (entry?_of_suffix_workDir above)] at free
  cases free

theorem route?_eq_none_of_free
    (free : files.entry? location = none) :
    files.route? location = none := by
  rw [route?, free]
  rfl

theorem lookup_cons_of_ne
    (different : other ≠ place)
    (entries : List (Location × Entry)) :
    ((place, entry) :: entries).lookup other = entries.lookup other := by
  rw [List.lookup_cons, beq_false_of_ne different]

theorem entry?_remove
    (outside : ¬location <:+ files.workDir) :
    entry? (files.remove location) other =
      if other = location then none else files.entry? other := by
  have kept :
      (files.remove location).entries.lookup other =
        if other = location then none else files.entries.lookup other := by
    unfold remove
    induction files.entries with
    | nil => simp
    | cons first rest ih =>
        rcases first with ⟨place, entry⟩
        by_cases removed : place = location
        · rw [List.filter_cons_of_neg (by simp [removed]), ih]
          by_cases same : other = location
          · rw [if_pos same, if_pos same]
          · rw [if_neg same, if_neg same, removed, lookup_cons_of_ne same]
        · rw [List.filter_cons_of_pos (by simp [removed])]
          by_cases here : other = place
          · subst here
            rw [List.lookup_cons_self, List.lookup_cons_self,
              if_neg removed]
          · rw [lookup_cons_of_ne here, lookup_cons_of_ne here, ih]
  have sameWorkDir : (files.remove location).workDir = files.workDir := rfl
  unfold entry?
  rw [kept, sameWorkDir]
  by_cases same : other = location
  · subst same
    simp [outside]
  · simp [same]

theorem entry?_add
    (free : files.entry? location = none) :
    entry? (files.add location entry) other =
      if other = location then some entry else files.entry? other := by
  have outside :=
    not_suffix_of_route?_eq_none (route?_eq_none_of_free free)
  have sameWorkDir :
      (files.add location entry).workDir = files.workDir := rfl
  have added :
      (files.add location entry).entries.lookup other =
        (files.entries.lookup other).or
          (if other = location then some entry else none) := by
    unfold add
    rw [List.lookup_append]
    by_cases same : other = location
    · rw [same, List.lookup_cons_self, if_pos rfl]
    · rw [lookup_cons_of_ne same, if_neg same, List.lookup_nil]
  rw [entry?_eq_lookup outside] at free
  unfold entry?
  rw [added, sameWorkDir]
  by_cases same : other = location
  · subst same
    simp [outside, free]
  · simp [same]

/-- What a location shows after an entry was put somewhere. -/
theorem entry?_put
    (outside : ¬location <:+ files.workDir) :
    entry? (files.put location entry) other =
      if other = location then some entry else files.entry? other := by
  unfold put
  rw [entry?_add (by rw [entry?_remove outside, if_pos rfl]),
    entry?_remove outside]
  by_cases same : other = location
  · rw [if_pos same, if_pos same]
  · rw [if_neg same, if_neg same, if_neg same]

/-- A file in the place of a file or of nothing does not change the routes. -/
theorem route?_eq_of_file
    {after : FileSystem}
    (free : files.route? location = none)
    (shows :
      ∀ other,
        after.entry? other =
          if other = location then some (.file file)
          else files.entry? other) :
    after.route? = files.route? := by
  funext other
  unfold route?
  rw [shows other]
  by_cases same : other = location
  · subst same
    rw [if_pos rfl]
    exact free.symm
  · rw [if_neg same]

theorem route?_put_file
    (free : files.route? location = none) :
    (files.put location (.file file)).route? = files.route? :=
  route?_eq_of_file free fun _ =>
    entry?_put (not_suffix_of_route?_eq_none free)

/-! ## Temporary files -/

theorem mem_upward_of_suffix
    {above : Location}
    (suffix : above <:+ location) :
    above ∈ Location.upward location := by
  induction location with
  | nil =>
      rw [List.suffix_nil.mp suffix]
      exact List.mem_singleton_self _
  | cons name rest ih =>
      rcases List.suffix_cons_iff.mp suffix with rfl | below
      · exact List.mem_cons_self
      · exact List.mem_cons_of_mem _ (ih below)

theorem not_mem_entries_of_not_mem_locations
    (unused : place ∉ files.locations)
    (member : (other, entry) ∈ files.entries) :
    other ≠ place := by
  rintro rfl
  apply unused
  exact List.mem_append_right _ (List.mem_map_of_mem member)

theorem entry?_of_not_mem_locations
    (unused : place ∉ files.locations) :
    files.entry? place = none := by
  have outside : ¬place <:+ files.workDir := by
    intro above
    apply unused
    exact List.mem_append_left _ (mem_upward_of_suffix above)
  rw [entry?_eq_lookup outside, List.lookup_eq_none_iff]
  rintro ⟨other, entry⟩ member
  have different := not_mem_entries_of_not_mem_locations unused member
  simpa using different.symm

/-- No entry has the name of a temporary file. -/
theorem freshName_cons_not_mem
    (files : FileSystem)
    (directory : Location) :
    files.freshName :: directory ∉ files.locations := by
  intro member
  have inLengths :
      files.freshName.length ∈
        files.locations.map fun location => (location.headD []).length :=
    List.mem_map_of_mem (f := fun location => (location.headD []).length)
      member
  have bounded := List.le_max?_getD_of_mem (k := 0) inLengths
  simp only [freshName, List.foldl_max, List.length_append,
    List.length_replicate] at bounded
  have longer : (".tmp".toList).length = 4 := by decide
  omega

/-- A file that is added where nothing was can be taken away again. -/
theorem remove_add
    (unused : place ∉ files.locations) :
    (files.add place entry).remove place = files := by
  have kept :
      files.entries.filter (fun slot => slot.1 != place) =
        files.entries := by
    refine List.filter_eq_self.mpr ?_
    rintro ⟨other, entry⟩ member
    simpa using not_mem_entries_of_not_mem_locations unused member
  simp [add, remove, kept]

/-- A change to a file that was added changes nothing else. -/
theorem changeFile_add
    (unused : place ∉ files.locations)
    (change : File → File) :
    (files.add place (.file file)).changeFile place change =
      files.add place (.file (change file)) := by
  simp only [changeFile, add, List.map_append, List.map_cons, List.map_nil,
    if_true]
  congr 2
  refine (List.map_congr_left ?_).trans (List.map_id files.entries)
  rintro ⟨other, entry⟩ member
  simp [not_mem_entries_of_not_mem_locations unused member]

theorem writeTemporary_add
    (unused : place ∉ files.locations)
    (content : Content)
    (refusals : Refusals) :
    (files.add place (.file file)).writeTemporary place content refusals =
      refusals.permit .write
        (files.add place (.file { file with content })) := by
  rw [writeTemporary, changeFile_add unused]

theorem setTemporaryMode_add
    (unused : place ∉ files.locations)
    (mode : Nat)
    (refusals : Refusals) :
    (files.add place (.file file)).setTemporaryMode place mode refusals =
      refusals.permit .setMode (files.add place (.file { file with mode })) := by
  rw [setTemporaryMode, changeFile_add unused]

theorem syncTemporary_add
    (unused : place ∉ files.locations)
    (refusals : Refusals) :
    (files.add place (.file file)).syncTemporary place refusals =
      refusals.permit .sync (files.add place (.file file)) := by
  rw [syncTemporary, changeFile_add unused, id]

/-! ## Renaming a temporary file -/

theorem route?_add_file
    (free : files.entry? place = none) :
    (files.add place (.file file)).route? = files.route? :=
  route?_eq_of_file (route?_eq_none_of_free free) fun _ => entry?_add free

/-- A temporary file that is renamed to a path replaces what the path leads
to. -/
theorem rename_add
    {path : Path}
    {refusals : Refusals}
    {after : FileSystem}
    (unused : place ∉ files.locations)
    (renamed :
      (files.add place (.file file)).rename place path refusals =
        .ok after) :
    ∃ location,
      files.entry? location ≠ some .directory ∧
        after = files.put location (.file file) ∧
        ∀ last,
          files.route? location = none ∨ last = .keep →
            files.Reaches last path location := by
  have free := entry?_of_not_mem_locations unused
  have sameRoutes :
      (files.add place (.file file)).route? = files.route? :=
    route?_add_file free
  have atPlace :
      entry? (files.add place (.file file)) place = some (.file file) := by
    rw [entry?_add free, if_pos rfl]
  unfold rename at renamed
  cases found : (files.add place (.file file)).destination path with
  | error error =>
      rw [found] at renamed
      cases renamed
  | ok location =>
      simp only [found, atPlace, bind, Except.bind, remove_add unused]
        at renamed
      have moved := (Refusals.permit_eq_ok_iff.mp renamed).2
      refine ⟨location, ?_, moved.symm, ?_⟩
      · rcases exists_of_destination found with ⟨_, _, _, rfl, destination⟩
        rw [Ne, ← route?_eq_directory_iff, ← sameRoutes,
          route?_eq_directory_iff]
        exact destination.noDirectory
      · intro last kept
        rw [← sameRoutes] at kept
        exact (reaches_of_destination found kept).of_route?_eq
          sameRoutes.symm rfl

/-- A temporary file is an entry with a name that is not in use. -/
theorem createTemporary_eq_ok
    {path : Path}
    {refusals : Refusals}
    {created : FileSystem}
    (made : files.createTemporary path refusals = .ok (place, created)) :
    place ∉ files.locations ∧
      created =
        files.add place
          (.file ⟨files.freshIdentity, temporaryMode, .text []⟩) := by
  unfold createTemporary at made
  cases located : files.locate .follow path with
  | error error =>
      rw [located] at made
      cases made
  | ok arrival =>
      rw [located] at made
      rcases arrival with ⟨directory, _ | _ | _⟩ | _
      case found.directory =>
        have added := (Refusals.permit_eq_ok_iff.mp made).2
        obtain ⟨rfl, rfl⟩ := Prod.mk.inj added
        exact ⟨freshName_cons_not_mem files directory, rfl⟩
      all_goals cases made

end RegionSync.FileSystem
