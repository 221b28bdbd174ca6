import RegionSync.Proofs.Yaml.Source
import RegionSync.Yaml.Node

/-!
# The scalars of a tree

The grammar passes scalars on from the tokens to the events, and the tree
passes them on from the events to its nodes; both only add empty scalars of
their own.  So every plain scalar in a tree that holds no white space stands in
the text, also where an alias leads to it.
-/

namespace RegionSync.Yaml

/-! ## Events -/

/-- A scalar stands in a text, if it is plain and without white space. -/
def Scalar.IsFrom (source : Text) (scalar : Scalar) : Prop :=
  scalar.isPlain = true → IsUnbroken scalar.text → scalar.text <:+: source

/-- The scalar of an event stands in a text. -/
def Event.IsFrom (source : Text) (event : Event) : Prop :=
  ∀ anchor scalar, event = .scalar anchor scalar → scalar.IsFrom source

theorem Scalar.isFrom_empty
    (source : Text)
    (tag : Option Tag) :
    (Scalar.empty tag).IsFrom source :=
  fun _ _ => List.nil_infix

theorem Token.IsFrom.scalar
    {source text : Text}
    {isPlain : Bool}
    (literal : (Token.scalar text isPlain).IsFrom source)
    (tag : Option Tag) :
    Scalar.IsFrom source ⟨text, tag, isPlain⟩ := by
  intro plain unbroken
  obtain rfl : isPlain = true := plain
  exact literal text rfl unbroken

theorem Event.isFrom_scalar
    {source : Text}
    {anchor : Option Text}
    {scalar : Scalar}
    (literal : scalar.IsFrom source) :
    (Event.scalar anchor scalar).IsFrom source := by
  intro _ _ same
  obtain ⟨-, rfl⟩ := Event.scalar.inj same
  exact literal

namespace Goal

/-- What a goal comes to: scalars of the text, and some last tokens. -/
structure Outcome.IsFrom
    (outcome : Outcome)
    (source : Text)
    (tokens : List Token) :
    Prop where
  events : ∀ event ∈ outcome.events, event.IsFrom source
  rest : outcome.rest <:+ tokens

variable
  {source : Text}
  {tokens : List Token}
  {outcome : Outcome}

theorem Outcome.IsFrom.mono
    {more : List Token}
    (comes : outcome.IsFrom source tokens)
    (within : tokens <:+ more) :
    outcome.IsFrom source more :=
  ⟨comes.events, comes.rest.trans within⟩

/-- An outcome without scalars. -/
theorem isFrom_of_signs
    {events : List Event}
    {goals : List Goal}
    {rest : List Token}
    (signs : ∀ anchor scalar, Event.scalar anchor scalar ∉ events)
    (within : rest <:+ tokens) :
    Outcome.IsFrom ⟨events, goals, rest⟩ source tokens := by
  refine ⟨?_, within⟩
  rintro event member anchor scalar rfl
  exact absurd member (signs anchor scalar)

/-- An outcome whose only event is a scalar. -/
theorem isFrom_of_scalar
    {anchor : Option Text}
    {scalar : Scalar}
    {goals : List Goal}
    {rest : List Token}
    (literal : scalar.IsFrom source)
    (within : rest <:+ tokens) :
    Outcome.IsFrom ⟨[.scalar anchor scalar], goals, rest⟩ source tokens := by
  refine ⟨?_, within⟩
  intro event member
  rw [List.mem_singleton.mp member]
  exact Event.isFrom_scalar literal

theorem isFrom_of_nodeUnless
    {ends : List Token}
    {node next : Goal}
    (stepped : nodeUnless ends node next tokens = some outcome) :
    outcome.IsFrom source tokens := by
  unfold nodeUnless at stepped
  split at stepped
  · cases stepped
  split at stepped
  · obtain rfl := Option.some.inj stepped
    exact isFrom_of_scalar (Scalar.isFrom_empty source none) List.suffix_rfl
  · obtain rfl := Option.some.inj stepped
    exact isFrom_of_signs (by simp) List.suffix_rfl

theorem isFrom_of_endCollection
    (stepped : endCollection tokens = some outcome) :
    outcome.IsFrom source tokens := by
  obtain rfl := Option.some.inj stepped
  exact isFrom_of_signs (by simp) List.suffix_rfl

theorem suffix_of_properties?
    {handles : Handles}
    {properties : Properties}
    {rest : List Token}
    (read : properties? handles tokens = some (properties, rest)) :
    rest <:+ tokens := by
  unfold properties? at read
  split at read
  · rename_i anchor handle suffix behind
    rcases Option.bind_eq_some_iff.mp read with ⟨tag, -, result⟩
    obtain ⟨-, rfl⟩ := Prod.mk.inj (Option.some.inj result)
    exact List.suffix_append [.anchor anchor, .tag handle suffix] behind
  · rename_i handle suffix anchor behind
    rcases Option.bind_eq_some_iff.mp read with ⟨tag, -, result⟩
    obtain ⟨-, rfl⟩ := Prod.mk.inj (Option.some.inj result)
    exact List.suffix_append [.tag handle suffix, .anchor anchor] behind
  · obtain ⟨-, rfl⟩ := Prod.mk.inj (Option.some.inj read)
    exact List.suffix_cons _ _
  · rcases Option.bind_eq_some_iff.mp read with ⟨tag, -, result⟩
    obtain ⟨-, rfl⟩ := Prod.mk.inj (Option.some.inj result)
    exact List.suffix_cons _ _
  · obtain ⟨-, rfl⟩ := Prod.mk.inj (Option.some.inj read)
    exact List.suffix_rfl

theorem isFrom_of_content?
    {isBlock mayAlign : Bool}
    {properties : Properties}
    (literal : ∀ token ∈ tokens, token.IsFrom source)
    (read : content? isBlock mayAlign properties tokens = some outcome) :
    outcome.IsFrom source tokens := by
  unfold content? at read
  dsimp only at read
  split at read
  · cases read
  · rename_i text isPlain rest
    obtain rfl := Option.some.inj read
    exact isFrom_of_scalar
      ((literal _ List.mem_cons_self).scalar properties.tag)
      (List.suffix_cons _ rest)
  · obtain rfl := Option.some.inj read
    exact isFrom_of_signs (by simp) (List.suffix_cons _ _)
  · obtain rfl := Option.some.inj read
    exact isFrom_of_signs (by simp) (List.suffix_cons _ _)
  · split at read
    · obtain rfl := Option.some.inj read
      exact isFrom_of_signs (by simp) List.suffix_rfl
    split at read
    · obtain rfl := Option.some.inj read
      exact isFrom_of_signs (by simp) (List.suffix_cons _ _)
    split at read
    · obtain rfl := Option.some.inj read
      exact isFrom_of_signs (by simp) (List.suffix_cons _ _)
    split at read
    · obtain rfl := Option.some.inj read
      exact isFrom_of_scalar (Scalar.isFrom_empty source _) List.suffix_rfl
    · cases read

theorem isFrom_of_node
    {handles : Handles}
    {isBlock mayAlign : Bool}
    (literal : ∀ token ∈ tokens, token.IsFrom source)
    (stepped : (do
      let (properties, rest) ← properties? handles tokens
      content? isBlock mayAlign properties rest) = some outcome) :
    outcome.IsFrom source tokens := by
  rcases Option.bind_eq_some_iff.mp stepped with
    ⟨⟨properties, rest⟩, read, content⟩
  have within := suffix_of_properties? read
  exact (isFrom_of_content?
    (fun token member => literal token (within.subset member)) content).mono
      within

theorem isFrom_of_step?
    {handles : Handles}
    {goal : Goal}
    (literal : ∀ token ∈ tokens, token.IsFrom source)
    (stepped : goal.step? handles tokens = some outcome) :
    outcome.IsFrom source tokens := by
  have one (token : Token) (rest : List Token) : rest <:+ token :: rest :=
    List.suffix_cons token rest
  have two (first second : Token) (rest : List Token) :
      rest <:+ first :: second :: rest :=
    List.suffix_append [first, second] rest
  have noScalar := Scalar.isFrom_empty source none
  unfold step? at stepped
  split at stepped
  case h_2 => exact isFrom_of_node literal stepped
  case h_23 =>
    split at stepped
    · obtain rfl := Option.some.inj stepped
      exact isFrom_of_scalar noScalar (one _ _)
    · obtain rfl := Option.some.inj stepped
      exact isFrom_of_signs (by simp) List.suffix_rfl
  -- What is left is a node to come, the end of a collection, or nothing at
  -- all in the place of a node.
  all_goals
    first
    | (cases stepped; done)
    | exact (isFrom_of_nodeUnless stepped).mono (one _ _)
    | exact (isFrom_of_nodeUnless stepped).mono (two _ _ _)
    | exact isFrom_of_endCollection stepped
    | exact (isFrom_of_endCollection stepped).mono (one _ _)
    | exact (isFrom_of_endCollection stepped).mono (two _ _ _)
    | (obtain rfl := Option.some.inj stepped
       first
       | exact isFrom_of_scalar noScalar List.suffix_rfl
       | exact isFrom_of_signs (by simp) List.suffix_rfl
       | exact isFrom_of_signs (by simp) (one _ _)
       | exact isFrom_of_signs (by simp) (two _ _ _))

theorem isFrom_of_mem_run
    {handles : Handles}
    {fuel : Nat}
    {goals : List Goal}
    (literal : ∀ token ∈ tokens, token.IsFrom source) :
    ∀ event ∈ (run handles fuel goals tokens).1, event.IsFrom source := by
  induction fuel generalizing goals tokens with
  | zero =>
      intro event member
      cases goals <;> cases member
  | succ fuel ih =>
      intro event member
      rcases goals with _ | ⟨goal, goals⟩
      · cases member
      · unfold run at member
        split at member
        · cases member
        · rename_i outcome stepped
          have comes := isFrom_of_step? literal stepped
          rcases List.mem_append.mp member with here | below
          · exact comes.events event here
          · exact ih
              (fun token member => literal token (comes.rest.subset member))
              event below

end Goal

namespace Event

variable {source : Text} {tokens : List Token}

theorem suffix_of_directives?
    {hasVersion : Bool}
    {handles last : Goal.Handles}
    {rest : List Token}
    (read : directives? hasVersion handles tokens = some (last, rest)) :
    rest <:+ tokens := by
  fun_induction directives? hasVersion handles tokens with
  | case1 => cases read
  | case2 _ _ _ _ _ _ ih => exact (ih read).trans (List.suffix_cons _ _)
  | case3 => cases read
  | case4 _ _ _ _ _ _ ih => exact (ih read).trans (List.suffix_cons _ _)
  | case5 =>
      obtain ⟨-, rfl⟩ := Prod.mk.inj (Option.some.inj read)
      exact List.suffix_rfl

theorem isFrom_of_mem_ofFirstDocument
    (literal : ∀ token ∈ tokens, token.IsFrom source) :
    ∀ event ∈ (ofFirstDocument tokens).1, event.IsFrom source := by
  intro event member
  unfold ofFirstDocument at member
  split at member
  · cases member
  · rename_i handles rest read
    have within :=
      (List.suffix_cons Token.documentStart rest).trans
        (suffix_of_directives? read)
    split at member
    · rw [List.mem_singleton.mp member]
      exact isFrom_scalar (Scalar.isFrom_empty source none)
    · exact Goal.isFrom_of_mem_run
        (fun token member => literal token (within.subset member)) event member
  · rename_i handles rest _ read
    have within := suffix_of_directives? read
    split at member
    · cases member
    · cases member
    · cases member
    · exact Goal.isFrom_of_mem_run
        (fun token member => literal token (within.subset member)) event member

/-- The scalars of a text's events stand in the text. -/
theorem isFrom_of_mem_ofText
    {text : Text}
    {event : Event}
    (member : event ∈ (Event.ofText text).1) :
    event.IsFrom text :=
  isFrom_of_mem_ofFirstDocument (fun _ => Token.isFrom_of_mem_ofText) event
    member

end Event

/-! ## Nodes -/

/-- The scalars in a node stand in a text. -/
inductive Node.IsFrom (source : Text) : Node → Prop
  | reference (number : Nat) : IsFrom source (.reference number)
  | scalar {scalar}
      (literal : scalar.IsFrom source) :
      IsFrom source (.scalar scalar)
  | list {items}
      (each : ∀ item ∈ items, IsFrom source item) :
      IsFrom source (.list items)
  | map {children}
      (each : ∀ child ∈ children, IsFrom source child) :
      IsFrom source (.map children)
  | cut : IsFrom source .cut

namespace Tree

theorem Frame.isFrom_close
    {source : Text}
    {frame : Frame}
    (each : ∀ node ∈ frame.nodes, node.IsFrom source) :
    frame.close.IsFrom source := by
  have reversed : ∀ node ∈ frame.nodes.reverse, node.IsFrom source :=
    fun node member => each node (List.mem_reverse.mp member)
  unfold close
  split
  · exact .map reversed
  · exact .list reversed

namespace Growth

/-- The nodes of a tree in progress hold scalars of a text. -/
structure IsFrom (source : Text) (growth : Growth) : Prop where
  frames :
    ∀ frame ∈ growth.frames, ∀ node ∈ frame.nodes, node.IsFrom source
  anchored : ∀ entry ∈ growth.anchored, entry.2.IsFrom source

variable
  {source : Text}
  {growth : Growth}
  {node : Node}

theorem IsFrom.seed : seed.IsFrom source :=
  ⟨nofun, nofun⟩

theorem IsFrom.enter
    (sound : growth.IsFrom source)
    (anchor : Option Text) :
    (growth.enter anchor).1.IsFrom source := by
  cases anchor with
  | none => exact sound
  | some name => exact ⟨sound.frames, sound.anchored⟩

theorem IsFrom.record
    (sound : growth.IsFrom source)
    (anchor : Option (Nat × Nat))
    (literal : node.IsFrom source) :
    (growth.record anchor node).IsFrom source := by
  cases anchor with
  | none => exact sound
  | some anchor =>
      exact ⟨sound.frames,
        List.forall_mem_cons.mpr ⟨literal, sound.anchored⟩⟩

theorem IsFrom.add
    (sound : growth.IsFrom source)
    (literal : node.IsFrom source) :
    (growth.add node).1.IsFrom source ∧
      ∀ root, (growth.add node).2 = some root → root.IsFrom source := by
  unfold Growth.add
  split
  · refine ⟨sound, ?_⟩
    intro root same
    rw [← Option.some.inj same]
    exact literal
  · rename_i frame frames cut
    have within := sound.frames
    rw [cut, List.forall_mem_cons] at within
    refine ⟨⟨?_, sound.anchored⟩, nofun⟩
    exact List.forall_mem_cons.mpr
      ⟨List.forall_mem_cons.mpr ⟨literal, within.1⟩, within.2⟩

theorem IsFrom.openFrame
    (sound : growth.IsFrom source)
    (isMap : Bool)
    (anchor : Option Text) :
    (growth.openFrame isMap anchor).IsFrom source :=
  ⟨List.forall_mem_cons.mpr ⟨nofun, (sound.enter anchor).frames⟩,
    (sound.enter anchor).anchored⟩

theorem IsFrom.closeFrame
    (sound : growth.IsFrom source) :
    growth.closeFrame.1.IsFrom source ∧
      ∀ root, growth.closeFrame.2 = some root → root.IsFrom source := by
  unfold Growth.closeFrame
  split
  · exact ⟨sound, nofun⟩
  · rename_i frame frames cut
    have within := sound.frames
    rw [cut, List.forall_mem_cons] at within
    have closed := Frame.isFrom_close within.1
    have recorded := sound.record frame.anchor closed
    exact IsFrom.add ⟨within.2, recorded.anchored⟩ closed

theorem IsFrom.breakOff
    (sound : growth.IsFrom source)
    (literal : node.IsFrom source)
    (frames : List Frame)
    (each : ∀ frame ∈ frames, ∀ node ∈ frame.nodes, node.IsFrom source) :
    (Growth.breakOff node frames growth).1.IsFrom source ∧
      (Growth.breakOff node frames growth).2.IsFrom source := by
  induction frames generalizing node growth with
  | nil => exact ⟨literal, sound⟩
  | cons frame frames ih =>
      rw [List.forall_mem_cons] at each
      have outer : (frame.push node).close.IsFrom source :=
        Frame.isFrom_close (List.forall_mem_cons.mpr ⟨literal, each.1⟩)
      exact ih (sound.record frame.anchor outer) outer each.2

/-- A step over an event whose scalar stands in a text adds no other. -/
theorem IsFrom.step?
    (sound : growth.IsFrom source)
    {event : Event}
    (literal : event.IsFrom source)
    {stepped : Growth × Option Node}
    (steps : growth.step? event = some stepped) :
    stepped.1.IsFrom source ∧
      ∀ root, stepped.2 = some root → root.IsFrom source := by
  cases event with
  | reference name =>
      rcases Option.map_eq_some_iff.mp steps with ⟨number, -, rfl⟩
      exact sound.add (.reference number)
  | scalar anchor scalar =>
      obtain rfl := Option.some.inj steps
      have here : (Node.scalar scalar).IsFrom source :=
        .scalar (literal anchor scalar rfl)
      exact ((sound.enter anchor).record _ here).add here
  | listStart anchor =>
      obtain rfl := Option.some.inj steps
      exact ⟨sound.openFrame false anchor, nofun⟩
  | mapStart anchor =>
      obtain rfl := Option.some.inj steps
      exact ⟨sound.openFrame true anchor, nofun⟩
  | collectionEnd =>
      obtain rfl := Option.some.inj steps
      exact sound.closeFrame

/-- Events whose scalars stand in a text make a tree whose scalars do. -/
theorem IsFrom.ofEvents
    (sound : growth.IsFrom source)
    {events : List Event}
    (literal : ∀ event ∈ events, event.IsFrom source) :
    (growth.ofEvents events).1.IsFrom source ∧
      (growth.ofEvents events).2.IsFrom source := by
  induction events generalizing growth with
  | nil => exact sound.breakOff .cut growth.frames sound.frames
  | cons event rest ih =>
      rw [List.forall_mem_cons] at literal
      unfold Growth.ofEvents
      cases steps : growth.step? event with
      | none => exact sound.breakOff .cut growth.frames sound.frames
      | some stepped =>
          have next := sound.step? literal.1 steps
          rcases stepped with ⟨stepped, _ | root⟩
          · exact ih next.1 literal.2
          · exact ⟨next.2 root rfl, next.1⟩

theorem IsFrom.ranked
    (sound : growth.IsFrom source) :
    ∀ entry ∈ growth.ranked, entry.2.IsFrom source := by
  intro entry member
  rcases List.mem_map.mp member with ⟨anchored, among, rfl⟩
  exact sound.anchored anchored (List.mem_mergeSort.mp among)

end Growth

variable {text : Text}

theorem isFrom_ofText :
    (ofText text).root.IsFrom text ∧
      ∀ entry ∈ (ofText text).anchored, entry.2.IsFrom text := by
  have literal : ∀ event ∈ (Event.ofText text).1, event.IsFrom text :=
    fun _ => Event.isFrom_of_mem_ofText
  have grown := Growth.IsFrom.seed.ofEvents literal
  exact ⟨grown.1, grown.2.ranked⟩

/-- An alias leads to nodes of the text, too. -/
theorem isFrom_follow
    {node : Node}
    (literal : node.IsFrom text) :
    ((ofText text).follow node).IsFrom text := by
  cases node with
  | reference number =>
      rw [follow]
      cases found : (ofText text).anchored.lookup number with
      | none => exact .cut
      | some target =>
          rcases List.lookup_eq_some_iff.mp found with ⟨before, behind, cut, -⟩
          exact isFrom_ofText.2 (number, target) (by rw [cut]; simp)
  | _ => exact literal

end Tree

end RegionSync.Yaml
