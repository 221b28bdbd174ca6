import Mathlib.Control.Monad.Basic
import RegionSync.Proofs.Outcome
import RegionSync.Proofs.Registry.Acceptance
import RegionSync.Proofs.Registry.Resolution
import RegionSync.Proofs.Yaml.Tree
import RegionSync.Proofs.Yaml.Whole
import RegionSync.Registry.Resolution

/-!
# The versions in a registry file

`Configuration.versions?` says which scalars of a registry file are the
versions of its sections, apart from the reading of the sections.  A reading
goes over keys and values and takes the value of a key once; `TakesOnce` says
what that means for one step, and `TakesOnce.valueOf?_eq_some` that the value
taken is the one that stands at the key.

A version without quotes and without a tag stands in the file with its own
characters.  It is stored with these characters, unless it spells a whole
number of 64 bits with a sign or in another base than ten: then the decimal
digits of the number are stored.
-/

namespace RegionSync

open Yaml (IsWhole Node Scalar Tree Value)

/-! ## Where the versions are written -/

namespace Yaml.Tree

/-- The scalar at a node. -/
def scalar? (tree : Tree) (node : Node) : Option Scalar :=
  match tree.follow node with
  | .scalar scalar => some scalar
  | _ => none

/-- The nodes of the collection at a node. -/
def children (tree : Tree) (node : Node) : List Node :=
  match tree.follow node with
  | .list items => items
  | .map children => children
  | _ => []

/-- The first value of a key among keys and values in turn. -/
def valueOf? (tree : Tree) (key : Text) : List Node → Option Node
  | keyNode :: node :: rest =>
      if (tree.scalar? keyNode).map Scalar.text = some key then some node
      else valueOf? tree key rest
  | _ => none

variable
  {tree : Tree}
  {key text : Text}
  {node : Node}
  {scalar : Scalar}

theorem mem_of_valueOf? :
    ∀ {children}, tree.valueOf? key children = some node → node ∈ children
  | [], found => by cases found
  | [_], found => by cases found
  | keyNode :: other :: rest, found => by
      rw [valueOf?] at found
      split at found
      · obtain rfl := Option.some.inj found
        simp
      · exact List.mem_cons_of_mem _ (List.mem_cons_of_mem _
          (mem_of_valueOf? found))

theorem isFrom_of_mem_children
    (literal : node.IsFrom text) :
    ∀ child ∈ (ofText text).children node, child.IsFrom text := by
  have followed := isFrom_follow literal
  unfold children
  cases place : (ofText text).follow node with
  | list items =>
      rw [place] at followed
      cases followed with
      | list each => exact each
  | map children =>
      rw [place] at followed
      cases followed with
      | map each => exact each
  | _ => nofun

theorem isFrom_of_scalar?
    (literal : node.IsFrom text)
    (found : (ofText text).scalar? node = some scalar) :
    scalar.IsFrom text := by
  have followed := isFrom_follow literal
  unfold scalar? at found
  cases place : (ofText text).follow node with
  | scalar other =>
      rw [place] at found followed
      obtain rfl := Option.some.inj found
      cases followed with
      | scalar literal => exact literal
  | _ =>
      rw [place] at found
      cases found

end Yaml.Tree

namespace Configuration

/-- The version in a section. -/
def version? (tree : Tree) (item : Node) : Option Scalar := do
  tree.scalar? (← tree.valueOf? "version".toList (tree.children item))

/-- The versions in the sections of a registry file, in their order. -/
def versions? (text : Text) : Option (List Scalar) := do
  let tree := Tree.ofText text
  let list ← tree.valueOf? "sections".toList (tree.children tree.root)
  (tree.children list).mapM (version? tree)

end Configuration

/-! ## Reading a key once -/

namespace Configuration

variable
  {tree : Tree}
  {node : Node}
  {scalar : Scalar}
  {text version : Text}

theorem readText_eq_ok_iff :
    readText tree node = .ok text ↔
      (tree.scalar? node).map Scalar.text = some text := by
  unfold readText Tree.scalar?
  cases tree.follow node <;> simp

theorem readVersion_eq_ok_iff :
    readVersion tree node = .ok version ↔
      ∃ scalar,
        tree.scalar? node = some scalar ∧ versionOf scalar = .ok version := by
  unfold readVersion Tree.scalar?
  cases tree.follow node <;> simp

/-- A reading of keys and values in turn that takes the value of one key, and
takes it once.  What it has taken so far is `known`. -/
structure TakesOnce
    {State Part Result : Type}
    (tree : Tree)
    (key : Text)
    (readPart : Node → Except ContentFault Part)
    (read : State → List Node → Except ContentFault Result)
    (known : State → Option Part)
    (part : Result → Part) :
    Prop where
  complete :
    ∀ state result,
      read state [] = .ok result → known state = some (part result)
  paired : ∀ state node result, read state [node] ≠ .ok result
  step :
    ∀ state keyNode node rest result,
      read state (keyNode :: node :: rest) = .ok result →
        ∃ spelling next,
          readText tree keyNode = .ok spelling ∧
            read next rest = .ok result ∧
            ((spelling = key ∧
                known state = none ∧
                ∃ value, readPart node = .ok value ∧ known next = some value) ∨
              (spelling ≠ key ∧ known next = known state))

namespace TakesOnce

variable
  {State Part Result : Type}
  {key : Text}
  {readPart : Node → Except ContentFault Part}
  {read : State → List Node → Except ContentFault Result}
  {known : State → Option Part}
  {part : Result → Part}
  {result : Result}
  (takes : TakesOnce tree key readPart read known part)

include takes

/-- What has been taken is not taken again. -/
theorem part_eq_of_known
    {value : Part} :
    ∀ {children state},
      known state = some value →
        read state children = .ok result →
          part result = value
  | [], state, taken, accepted => by
      have last := takes.complete state result accepted
      exact Option.some.inj (last.symm.trans taken)
  | [node], state, _, accepted =>
      absurd accepted (takes.paired state node result)
  | keyNode :: node :: rest, state, taken, accepted => by
      rcases takes.step state keyNode node rest result accepted with
        ⟨spelling, next, -, below, ⟨-, untaken, -⟩ | ⟨-, leaves⟩⟩
      · cases untaken.symm.trans taken
      · exact part_eq_of_known (leaves.trans taken) below

/-- The part that is taken stands at the key. -/
theorem valueOf?_eq_some :
    ∀ {children} (state : State),
      known state = none →
        read state children = .ok result →
          ∃ node,
            tree.valueOf? key children = some node ∧
              readPart node = .ok (part result)
  | [], state, untaken, accepted => by
      cases untaken.symm.trans (takes.complete state result accepted)
  | [node], state, _, accepted =>
      absurd accepted (takes.paired state node result)
  | keyNode :: node :: rest, state, untaken, accepted => by
      rcases takes.step state keyNode node rest result accepted with
        ⟨spelling, next, spelled, below,
          ⟨rfl, -, value, read, taken⟩ | ⟨elsewhere, leaves⟩⟩
      · rw [Tree.valueOf?, readText_eq_ok_iff.mp spelled, if_pos rfl]
        exact ⟨node, rfl, by rw [takes.part_eq_of_known taken below, read]⟩
      · rw [Tree.valueOf?, readText_eq_ok_iff.mp spelled,
          if_neg (fun same => elsewhere (Option.some.inj same))]
        exact valueOf?_eq_some next (leaves.trans untaken) below

end TakesOnce

theorem readOnce_eq_ok_iff
    {read : Except ContentFault Text}
    {known : Option Text} :
    readOnce read known = .ok text ↔ known = none ∧ read = .ok text := by
  cases known <;> simp [readOnce]

theorem takesOnce_readSectionFrom :
    TakesOnce tree "version".toList (readVersion tree) (readSectionFrom tree)
      PartialSection.version Section.version where
  complete := by
    intro known described accepted
    unfold readSectionFrom at accepted
    split at accepted
    · rw [← Except.ok.inj accepted]
    · cases accepted
  paired := nofun
  step := by
    intro known keyNode node rest described accepted
    unfold readSectionFrom at accepted
    rcases Except.bind_eq_ok_iff.mp accepted with ⟨key, spelled, accepted⟩
    split at accepted
    · rename_i isName
      rcases Except.bind_eq_ok_iff.mp accepted with ⟨name, -, below⟩
      have noVersion : key ≠ "version".toList := by
        rw [isName]
        decide
      exact ⟨key, _, spelled, below, Or.inr ⟨noVersion, rfl⟩⟩
    split at accepted
    · rename_i isVersion
      rcases Except.bind_eq_ok_iff.mp accepted with ⟨version, once, below⟩
      rcases readOnce_eq_ok_iff.mp once with ⟨untaken, read⟩
      exact ⟨key, _, spelled, below,
        Or.inl ⟨isVersion, untaken, version, read, rfl⟩⟩
    -- The other keys leave the version alone.
    rename_i noVersion
    split at accepted
    · rcases Except.bind_eq_ok_iff.mp accepted with ⟨body, -, below⟩
      exact ⟨key, _, spelled, below, Or.inr ⟨noVersion, rfl⟩⟩
    · rcases Except.bind_eq_ok_iff.mp accepted with ⟨_, -, below⟩
      exact ⟨key, known, spelled, below, Or.inr ⟨noVersion, rfl⟩⟩

theorem takesOnce_readFrom :
    TakesOnce tree "sections".toList (readSections tree)
      (fun state : Bool × Option (List Section) =>
        readFrom tree state.1 state.2)
      Prod.snd id where
  complete := by
    rintro ⟨hasVersion, sections⟩ described accepted
    dsimp only at accepted
    unfold readFrom at accepted
    split at accepted
    · rw [← Except.ok.inj accepted]
      rfl
    · cases accepted
  paired := nofun
  step := by
    rintro ⟨hasVersion, sections⟩ keyNode node rest described accepted
    dsimp only at accepted
    unfold readFrom at accepted
    rcases Except.bind_eq_ok_iff.mp accepted with ⟨key, spelled, accepted⟩
    split at accepted
    · rename_i isVersion
      have noSections : key ≠ "sections".toList := by
        rw [isVersion]
        decide
      split at accepted
      · exact ⟨key, (true, sections), spelled, accepted,
          Or.inr ⟨noSections, rfl⟩⟩
      · cases accepted
    split at accepted
    · rename_i isSections
      split at accepted
      · rcases Except.bind_eq_ok_iff.mp accepted with ⟨read, reads, below⟩
        exact ⟨key, (hasVersion, some read), spelled, below,
          Or.inl ⟨isSections, rfl, read, reads, rfl⟩⟩
      · cases accepted
    · rename_i noSections
      rcases Except.bind_eq_ok_iff.mp accepted with ⟨_, -, below⟩
      exact ⟨key, (hasVersion, sections), spelled, below,
        Or.inr ⟨noSections, rfl⟩⟩

/-! ## The versions of the sections -/

/-- The version of a section is what its scalar says. -/
theorem version?_of_readSection
    {described : Section}
    (read : readSection tree node = .ok described) :
    ∃ scalar,
      version? tree node = some scalar ∧
        versionOf scalar = .ok described.version := by
  unfold readSection at read
  cases place : tree.follow node with
  | map children =>
      rw [place] at read
      rcases takesOnce_readSectionFrom.valueOf?_eq_some _ rfl read with
        ⟨valueNode, found, reads⟩
      rcases readVersion_eq_ok_iff.mp reads with ⟨scalar, atNode, means⟩
      refine ⟨scalar, ?_, means⟩
      unfold version? Tree.children
      rw [place]
      exact Option.bind_eq_some_iff.mpr ⟨valueNode, found, atNode⟩
  | _ =>
      rw [place] at read
      cases read

theorem versions_of_readSections
    {sections : List Section}
    (read : readSections tree node = .ok sections) :
    ∃ written,
      (tree.children node).mapM (version? tree) = some written ∧
        List.Forall₂
          (fun scalar described => versionOf scalar = .ok described.version)
          written sections := by
  unfold readSections at read
  unfold Tree.children
  cases place : tree.follow node with
  | list items =>
      rw [place] at read
      exact Except.forall₂_of_mapM_eq_ok (fun _ _ => version?_of_readSection) read
  | scalar scalar =>
      rw [place] at read
      dsimp only at read
      split at read
      · obtain rfl := Except.ok.inj read
        exact ⟨[], rfl, .nil⟩
      · cases read
  | _ =>
      rw [place] at read
      cases read

/-- The sections of a file that is read have the versions that are written
there. -/
theorem versions?_of_ofText
    {sections : List Section}
    (read : ofText text = .ok sections) :
    ∃ written,
      versions? text = some written ∧
        List.Forall₂
          (fun scalar described => versionOf scalar = .ok described.version)
          written sections := by
  unfold ofText ofTree at read
  cases root : (Tree.ofText text).follow (Tree.ofText text).root with
  | map children =>
      rw [root] at read
      rcases Except.bind_eq_ok_iff.mp read with ⟨described, reads, sound⟩
      split at sound
      · obtain rfl := Except.ok.inj sound
        rcases takesOnce_readFrom.valueOf?_eq_some (false, none) rfl
            reads with
          ⟨list, found, readsList⟩
        rcases versions_of_readSections readsList with ⟨written, all, agree⟩
        refine ⟨written, ?_, agree⟩
        have entries :
            (Tree.ofText text).children (Tree.ofText text).root = children := by
          rw [Tree.children, root]
        unfold versions?
        dsimp only
        rw [entries]
        exact Option.bind_eq_some_iff.mpr ⟨list, found, all⟩
      · cases sound
  | _ =>
      rw [root] at read
      cases read

/-! ## Where a version stands -/

theorem exists_of_mem_mapM
    {Item Part : Type}
    {readPart : Item → Option Part}
    {items : List Item}
    {parts : List Part}
    {part : Part}
    (read : items.mapM readPart = some parts)
    (member : part ∈ parts) :
    ∃ item ∈ items, readPart item = some part := by
  induction items generalizing parts with
  | nil =>
      obtain rfl := Option.some.inj read
      cases member
  | cons item rest ih =>
      rw [List.mapM_cons] at read
      rcases Option.bind_eq_some_iff.mp read with ⟨first, here, read⟩
      rcases Option.bind_eq_some_iff.mp read with ⟨others, below, result⟩
      obtain rfl := Option.some.inj result
      rcases List.mem_cons.mp member with rfl | among
      · exact ⟨item, List.mem_cons_self, here⟩
      · rcases ih below among with ⟨other, inRest, there⟩
        exact ⟨other, List.mem_cons_of_mem _ inRest, there⟩

/-- The scalars of the versions are those of the text. -/
theorem isFrom_of_mem_versions?
    {written : List Scalar}
    (found : versions? text = some written)
    (member : scalar ∈ written) :
    scalar.IsFrom text := by
  rcases Option.bind_eq_some_iff.mp found with ⟨list, atSections, all⟩
  rcases exists_of_mem_mapM all member with ⟨item, inList, atItem⟩
  rcases Option.bind_eq_some_iff.mp atItem with ⟨value, atVersion, atValue⟩
  have listFrom :=
    Tree.isFrom_of_mem_children Tree.isFrom_ofText.1 list
      (Tree.mem_of_valueOf? atSections)
  have itemFrom := Tree.isFrom_of_mem_children listFrom item inList
  have valueFrom :=
    Tree.isFrom_of_mem_children itemFrom value (Tree.mem_of_valueOf? atVersion)
  exact Tree.isFrom_of_scalar? valueFrom atValue

end Configuration

/-! ## What a version says -/

/-- A scalar without quotes and without a tag. -/
structure Yaml.Scalar.IsBare (scalar : Scalar) : Prop where
  plain : scalar.isPlain = true
  untagged : scalar.tag = none

/-- Whether a value can be a version: a text, or a whole number of 64 bits. -/
def Yaml.Value.isVersion : Value → Bool
  | text _ => true
  | integer value => 0 ≤ value && value.natAbs < Nat.pow 2 64
  | _ => false

/-- A text that spells a whole number of 64 bits, and not by decimal digits
alone. -/
structure IsDisguised (text : Text) : Prop where
  whole : ∃ number < Nat.pow 2 64, IsWhole text (number : Nat)
  undigital : ∃ char ∈ text, char.isDigit = false

/-- How a version without quotes is stored. -/
structure IsVersionOf (source written stored : Text) : Prop where
  stands : written <:+: source
  kept_iff : stored = written ↔ ¬IsDisguised written
  printed :
    ∀ number < Nat.pow 2 64,
      IsWhole written (number : Nat) → stored = Text.ofNat number

namespace Configuration

variable
  {scalar : Scalar}
  {version : Text}

/-- A version without quotes is a text or a whole number of 64 bits. -/
theorem versionOf_eq_ok_iff
    (bare : scalar.IsBare) :
    versionOf scalar = .ok version ↔
      Value.ofPlain scalar.text = .text version ∨
        ∃ number < Nat.pow 2 64,
          Value.ofPlain scalar.text = .integer (number : Nat) ∧
            version = Text.ofNat number := by
  have value : Value.ofScalar? scalar = some (Value.ofPlain scalar.text) := by
    simp [Value.ofScalar?, bare.plain, bare.untagged]
  unfold versionOf
  rw [value]
  generalize Nat.pow 2 64 = bound
  cases Value.ofPlain scalar.text with
  | integer value =>
      constructor
      · intro read
        dsimp only at read
        split at read
        · rename_i fits
          simp only [Bool.and_eq_true, decide_eq_true_eq] at fits
          refine
            Or.inr ⟨value.toNat, by omega, ?_, (Except.ok.inj read).symm⟩
          rw [Int.toNat_of_nonneg fits.1]
        split at read
        · split at read <;> cases read
        · cases read
      · rintro (isText | ⟨number, small, same, rfl⟩)
        · cases isText
        · obtain rfl := Value.integer.inj same
          simp [small]
  | _ => simp

theorem isVersion_of_versionOf
    (bare : scalar.IsBare)
    (read : versionOf scalar = .ok version) :
    (Value.ofPlain scalar.text).isVersion = true := by
  rcases (versionOf_eq_ok_iff bare).mp read with
    isText | ⟨number, small, isInteger, -⟩
  · rw [isText]
    rfl
  · rw [isInteger]
    simpa [Value.isVersion] using small

end Configuration

/-- A whole number of 64 bits is within the 128 bits that are read. -/
theorem Yaml.Value.ofPlain_of_isWhole
    {text : Text}
    {number : Nat}
    (small : number < Nat.pow 2 64)
    (spelled : IsWhole text number) :
    Value.ofPlain text = .integer number := by
  have bounds : Nat.pow 2 64 < Nat.pow 2 128 := by decide
  rw [Value.ofPlain_eq_integer_iff, Value.integer?_eq_some_iff]
  generalize Nat.pow 2 127 = least at *
  exact ⟨spelled, by omega, by omega⟩

/-- A version without quotes that is stored holds no white space. -/
theorem Configuration.isUnbroken_of_versionOf
    {version : Text}
    {scalar : Scalar}
    (bare : scalar.IsBare)
    (read : versionOf scalar = .ok version)
    (solid : version.isToken = true) :
    Yaml.IsUnbroken scalar.text := by
  rcases (versionOf_eq_ok_iff bare).mp read with
    isText | ⟨number, -, isInteger, -⟩
  · rw [← Value.eq_of_ofPlain_eq_text isText]
    exact (Text.isToken_iff.mp solid).2
  · have spelled :=
      Value.integer?_eq_some_iff.mp (Value.ofPlain_eq_integer_iff.mp isInteger)
    exact spelled.1.not_isWhiteSpace

theorem isDisguised_iff
    {text : Text} :
    IsDisguised text ↔
      ((Value.integer? text).any fun value =>
          0 ≤ value && value.natAbs < Nat.pow 2 64) = true ∧
        text.all Char.isDigit = false := by
  simp only [Option.any_eq_true, List.all_eq_false, Bool.and_eq_true,
    decide_eq_true_eq, Bool.not_eq_true]
  constructor
  · rintro ⟨⟨number, small, spelled⟩, undigital⟩
    have read :=
      Value.ofPlain_eq_integer_iff.mp (Value.ofPlain_of_isWhole small spelled)
    exact ⟨⟨number, read, by omega, small⟩, undigital⟩
  · rintro ⟨⟨value, read, positive, small⟩, undigital⟩
    have spelled := (Value.integer?_eq_some_iff.mp read).1
    rw [← Int.natAbs_of_nonneg positive] at spelled
    exact ⟨⟨value.natAbs, small, spelled⟩, undigital⟩

instance (text : Text) : Decidable (IsDisguised text) :=
  decidable_of_iff' _ isDisguised_iff

/-- What a version without quotes is stored as, if it stands in the file. -/
theorem isVersionOf_of_versionOf
    {source version : Text}
    {scalar : Scalar}
    (bare : scalar.IsBare)
    (read : Configuration.versionOf scalar = .ok version)
    (stands : scalar.text <:+: source) :
    IsVersionOf source scalar.text version := by
  rcases (Configuration.versionOf_eq_ok_iff bare).mp read with
    isText | ⟨number, small, isInteger, rfl⟩
  · have same := Value.eq_of_ofPlain_eq_text isText
    have noNumber
        {number : Nat}
        (small : number < Nat.pow 2 64) :
        ¬IsWhole scalar.text number := by
      intro spelled
      cases isText.symm.trans (Value.ofPlain_of_isWhole small spelled)
    refine ⟨stands, iff_of_true same ?_, ?_⟩
    · rintro ⟨⟨number, small, spelled⟩, -⟩
      exact noNumber small spelled
    · intro number small spelled
      exact absurd spelled (noNumber small)
  · have spelled : IsWhole scalar.text number :=
      (Value.integer?_eq_some_iff.mp
        (Value.ofPlain_eq_integer_iff.mp isInteger)).1
    refine ⟨stands, ?_, ?_⟩
    · rw [Value.ofNat_eq_iff spelled]
      constructor
      · intro allDigits disguised
        rcases disguised.undigital with ⟨char, member, noDigit⟩
        rw [allDigits char member] at noDigit
        cases noDigit
      · intro undisguised char member
        by_cases digit : char.isDigit = true
        · exact digit
        · exact absurd
            ⟨⟨number, small, spelled⟩, char, member,
              Bool.eq_false_iff.mpr digit⟩
            undisguised
    · intro other otherSmall otherSpelled
      have same :=
        isInteger.symm.trans (Value.ofPlain_of_isWhole otherSmall otherSpelled)
      rw [Int.ofNat.inj (Value.integer.inj same)]

namespace Registry

variable
  {files : FileSystem}
  {path : Path}
  {text : Text}
  {registry : Registry}

/-- Every version without quotes is stored as it is written. -/
def KeepsVersions (registry : Registry) (text : Text) : Prop :=
  ∃ written,
    Configuration.versions? text = some written ∧
      List.Forall₂
        (fun scalar stored =>
          scalar.IsBare → stored.version = scalar.text)
        written registry.sections

/-- A version without quotes is written so that it is stored as another
text. -/
def DisguisesVersion (text : Text) : Prop :=
  ∃ written,
    Configuration.versions? text = some written ∧
      ∃ scalar ∈ written, scalar.IsBare ∧ IsDisguised scalar.text

/-- What the sections of a registry have as versions stands in the text that
was read, and says what is stored. -/
theorem versions?_of_ofText
    (accepted : Registry.ofText text = .ok registry) :
    ∃ written,
      Configuration.versions? text = some written ∧
        List.Forall₂
          (fun scalar stored =>
            scalar.IsFrom text ∧
              stored.version.isToken = true ∧
              Configuration.versionOf scalar = .ok stored.version)
          written registry.sections := by
  rcases ofText_eq_ok_iff.mp accepted with ⟨sections, read, made⟩
  rcases Configuration.versions?_of_ofText read with ⟨written, found, agree⟩
  have tokens :
      ∀ stored ∈ registry.sections, stored.version.isToken = true :=
    fun stored member =>
      ((isSound_of_ofSections made).stored stored member).version_token
  have agreeStored :
      List.Forall₂
        (fun stored scalar =>
          Configuration.versionOf scalar = .ok stored.version)
        registry.sections written := by
    rw [(ofSections_eq_ok_iff.mp made).2]
    exact List.forall₂_map_left_iff.mpr agree.flip
  have solid :=
    ((List.forall₂_and_left _ _).mpr ⟨tokens, agreeStored⟩).flip
  exact ⟨written, found,
    (List.forall₂_and_left _ _).mpr
      ⟨fun scalar => Configuration.isFrom_of_mem_versions? found, solid⟩⟩

/-- How the versions of an accepted text are stored. -/
theorem isVersionOf_of_ofText
    (accepted : Registry.ofText text = .ok registry) :
    ∃ written,
      Configuration.versions? text = some written ∧
        List.Forall₂
          (fun scalar stored =>
            scalar.IsBare →
              (Value.ofPlain scalar.text).isVersion = true ∧
                IsVersionOf text scalar.text stored.version)
          written registry.sections := by
  rcases versions?_of_ofText accepted with ⟨written, found, agree⟩
  refine ⟨written, found, agree.imp ?_⟩
  rintro scalar stored ⟨literal, solid, read⟩ bare
  have unbroken := Configuration.isUnbroken_of_versionOf bare read solid
  exact ⟨Configuration.isVersion_of_versionOf bare read,
    isVersionOf_of_versionOf bare read (literal bare.plain unbroken)⟩

theorem load_eq_of_readText
    (readable : files.readText path = .ok text) :
    load files path =
      (Registry.ofText text).mapError (.content path text) := by
  rw [load, readable]

/-- The versions of an accepted text are kept exactly if none is disguised. -/
theorem keepsVersions_iff
    (accepted : Registry.ofText text = .ok registry) :
    registry.KeepsVersions text ↔ ¬DisguisesVersion text := by
  rcases isVersionOf_of_ofText accepted with ⟨written, found, agree⟩
  constructor
  · rintro ⟨_, foundKept, kept⟩ ⟨_, foundDisguised, scalar, member, disguises⟩
    obtain rfl := Option.some.inj (found.symm.trans foundKept)
    obtain rfl := Option.some.inj (found.symm.trans foundDisguised)
    have undisguised :
        List.Forall₂
          (fun scalar stored =>
            (scalar.IsBare → ¬IsDisguised scalar.text) ∧
              (scalar.IsBare → stored.version = scalar.text))
          written registry.sections :=
      List.Forall₂.mp
        (fun _ _ takes keeps =>
          ⟨fun bare => (takes bare).2.kept_iff.mp (keeps bare), keeps⟩)
        agree kept
    exact ((List.forall₂_and_left _ _).mp undisguised).1 scalar member
      disguises.1 disguises.2
  · intro undisguised
    have noneDisguised :
        ∀ scalar ∈ written, scalar.IsBare → ¬IsDisguised scalar.text :=
      fun scalar member bare disguised =>
        undisguised ⟨written, found, scalar, member, bare, disguised⟩
    refine ⟨written, found, ?_⟩
    refine ((List.forall₂_and_left _ _).mpr ⟨noneDisguised, agree⟩).imp ?_
    rintro scalar stored ⟨notDisguised, takes⟩ bare
    exact (takes bare).2.kept_iff.mpr (notDisguised bare)

/-- A text with a version that cannot be one is refused. -/
theorem exists_error_of_not_isVersion
    {written : List Scalar}
    {scalar : Scalar}
    (found : Configuration.versions? text = some written)
    (member : scalar ∈ written)
    (bare : scalar.IsBare)
    (noVersion : (Value.ofPlain scalar.text).isVersion = false) :
    ∃ fault, Registry.ofText text = .error fault := by
  cases read : Registry.ofText text with
  | error fault => exact ⟨fault, rfl⟩
  | ok registry =>
      rcases isVersionOf_of_ofText read with ⟨_, foundAgain, agree⟩
      obtain rfl := Option.some.inj (found.symm.trans foundAgain)
      have versions :
          List.Forall₂
            (fun scalar _ =>
              (scalar.IsBare →
                (Value.ofPlain scalar.text).isVersion = true) ∧ True)
            written registry.sections :=
        agree.imp fun _ _ takes => ⟨fun bare => (takes bare).1, trivial⟩
      have isVersion :=
        ((List.forall₂_and_left _ _).mp versions).1 scalar member bare
      rw [noVersion] at isVersion
      cases isVersion

/-- The versions that stand in a registry file without quotes and without a
tag are stored as they are written, unless one spells a whole number with a
sign or in another base than ten.  What reads as any other number is
refused. -/
theorem versions_decided
    (readable : files.readText path = .ok text) :
    (∀ registry,
      load files path = .ok registry →
        (registry.KeepsVersions text ↔ ¬DisguisesVersion text) ∧
          ∃ written,
            Configuration.versions? text = some written ∧
              List.Forall₂
                (fun scalar stored =>
                  scalar.IsBare →
                    IsVersionOf text scalar.text stored.version)
                written registry.sections) ∧
    ∀ written scalar,
      Configuration.versions? text = some written →
        scalar ∈ written →
          scalar.IsBare →
            (Value.ofPlain scalar.text).isVersion = false →
              ∃ fault, load files path = .error (.content path text fault) := by
  rw [load_eq_of_readText readable]
  constructor
  · intro registry loaded
    cases read : Registry.ofText text with
    | error fault =>
        rw [read] at loaded
        cases loaded
    | ok other =>
        rw [read] at loaded
        obtain rfl := Except.ok.inj loaded
        rcases isVersionOf_of_ofText read with ⟨written, found, agree⟩
        exact ⟨keepsVersions_iff read, written, found,
          agree.imp fun _ _ takes bare => (takes bare).2⟩
  · intro written scalar found member bare noVersion
    rcases exists_error_of_not_isVersion found member bare noVersion with
      ⟨fault, refused⟩
    rw [refused]
    exact ⟨fault, rfl⟩

/-- A version with leading zeros is kept.  A negative number is refused, in
whatever base it is written. -/
theorem versions_decided_leading_zeros :
    ∃ (files : FileSystem) (path other : Path) (text otherText : Text)
        (registry : Registry) (fault : ContentFault),
      files.readText path = .ok text ∧
        load files path = .ok registry ∧
        registry.sections.map Section.version = ["007".toList] ∧
        registry.KeepsVersions text ∧
        files.readText other = .ok otherText ∧
        load files other = .error (.content other otherText fault) := by
  let text : Text :=
    ("version: 1\nsections:\n"
      ++ "- name: a\n  version: 007\n  body: x\n").toList
  let negative : Text :=
    "version: 1\nsections:\n- version: -0x10\n".toList
  let files : FileSystem :=
    ⟨[(["a".toList], .file ⟨1, 0o644, .text text⟩),
      (["b".toList], .file ⟨2, 0o644, .text negative⟩)],
      []⟩
  have written :
      Configuration.versions? text = some [⟨"007".toList, none, true⟩] := by
    decide +kernel
  have undisguised : ¬DisguisesVersion text := by
    rintro ⟨_, found, scalar, member, -, disguised⟩
    obtain rfl := Option.some.inj (written.symm.trans found)
    revert disguised
    revert scalar
    decide +kernel
  have loaded :
      load files "a".toList =
        .ok ⟨[⟨"a".toList, "007".toList, "x".toList⟩]⟩ := by
    decide +kernel
  have readable : files.readText "a".toList = .ok text := rfl
  have kept :=
    ((versions_decided readable).1 _ loaded).1.mpr undisguised
  have writtenNegative :
      Configuration.versions? negative =
        some [⟨"-0x10".toList, none, true⟩] := by
    decide +kernel
  have otherReadable : files.readText "b".toList = .ok negative := rfl
  rcases
    (versions_decided otherReadable).2 _ _ writtenNegative
      List.mem_cons_self ⟨rfl, rfl⟩ (by decide +kernel) with
    ⟨fault, refused⟩
  exact ⟨files, _, _, text, negative, _, fault, readable, loaded, rfl, kept,
    otherReadable, refused⟩

/-- A version in hexadecimal digits is stored in decimal ones. -/
theorem not_keepsVersions_hexadecimal :
    ∃ (files : FileSystem) (path : Path) (text : Text) (registry : Registry),
      files.readText path = .ok text ∧
        load files path = .ok registry ∧
        ¬registry.KeepsVersions text := by
  let text : Text :=
    ("version: 1\nsections:\n"
      ++ "  - name: fw/a\n    version: 0x1F\n    body: a\n").toList
  let files : FileSystem :=
    ⟨[(["registry.yaml".toList], .file ⟨1, 0o644, .text text⟩)], []⟩
  have written :
      Configuration.versions? text = some [⟨"0x1F".toList, none, true⟩] := by
    decide +kernel
  have loaded :
      load files "registry.yaml".toList =
        .ok ⟨[⟨"fw/a".toList, "31".toList, "a".toList⟩]⟩ := by
    decide +kernel
  refine ⟨files, _, text, _, by decide +kernel, loaded, ?_⟩
  rintro ⟨_, found, kept⟩
  obtain rfl := Option.some.inj (written.symm.trans found)
  cases kept with
  | cons first =>
      have same := first ⟨rfl, rfl⟩
      revert same
      decide

end Registry

end RegionSync
