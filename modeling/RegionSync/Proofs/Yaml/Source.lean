import RegionSync.Proofs.Yaml.Scanning

/-!
# Scalars stand in the text

`Advances` is what every step of the lexer does: it moves on in the text, and
the tokens that it adds are signs, or scalars from the part of the text that
was still to be read.  The steps are composed of small moves, and each move
after an advance is an advance again, so this holds of a whole run.

Whatever the tokens are, then, a plain scalar without white space stands in
the text that they come from.
-/

namespace RegionSync.Yaml

namespace Token

/-- A token that is not a plain scalar. -/
def IsSign (token : Token) : Prop :=
  ∀ text, token ≠ .scalar text true

/-- A token stands in a text, if it is a plain scalar without white space. -/
def IsFrom (source : Text) (token : Token) : Prop :=
  ∀ text,
    token = .scalar text true → IsUnbroken text → text <:+: source

variable {source whole : Text} {token : Token}

theorem IsFrom.mono
    (within : source <:+: whole)
    (literal : token.IsFrom source) :
    token.IsFrom whole :=
  fun text same unbroken => (literal text same unbroken).trans within

theorem IsSign.isFrom
    (sign : token.IsSign)
    (source : Text) :
    token.IsFrom source :=
  fun text same => absurd same (sign text)

end Token

namespace Lexer

/-- The lexer moves on in the text, and adds tokens that stand there. -/
structure Advances (lexer next : Lexer) : Prop where
  rest : next.cursor.rest <:+ lexer.cursor.rest
  tokens :
    ∀ token ∈ next.reversed,
      token ∈ lexer.reversed ∨ token.IsFrom lexer.cursor.rest

namespace Advances

variable {lexer next last : Lexer} {token : Token}

theorem of_same
    (cursor : next.cursor.rest = lexer.cursor.rest)
    (tokens : next.reversed = lexer.reversed) :
    lexer.Advances next := by
  constructor
  · exact cursor ▸ List.suffix_rfl
  · intro token member
    rw [tokens] at member
    exact Or.inl member

theorem refl (lexer : Lexer) : lexer.Advances lexer :=
  of_same rfl rfl

theorem trans
    (first : lexer.Advances next)
    (second : next.Advances last) :
    lexer.Advances last := by
  constructor
  · exact second.rest.trans first.rest
  · intro token member
    rcases second.tokens token member with old | literal
    · exact first.tokens token old
    · exact Or.inr (literal.mono first.rest.isInfix)

/-- What else a lexer holds does not matter. -/
theorem toEnd
    (advances : lexer.Advances next)
    (last : Lexer)
    (cursor : last.cursor.rest = next.cursor.rest)
    (tokens : last.reversed = next.reversed) :
    lexer.Advances last :=
  advances.trans (of_same cursor tokens)

/-! ## Moves -/

theorem skip
    (advances : lexer.Advances next)
    (count : Nat) :
    lexer.Advances (next.skip count) :=
  advances.trans
    ⟨Cursor.skip_suffix count next.cursor, fun _ member => Or.inl member⟩

theorem moveTo
    (advances : lexer.Advances next)
    (rest : Text) :
    lexer.Advances (next.moveTo rest) :=
  advances.skip _

theorem allowKey
    (advances : lexer.Advances next)
    (allowed : Bool) :
    lexer.Advances (next.allowKey allowed) :=
  advances.toEnd _ rfl rfl

theorem emit
    (advances : lexer.Advances next)
    (token : Token)
    (literal : token.IsFrom next.cursor.rest) :
    lexer.Advances (next.emit token) := by
  refine advances.trans ⟨List.suffix_rfl, fun other member => ?_⟩
  rcases List.mem_cons.mp member with rfl | old
  · exact Or.inr literal
  · exact Or.inl old

theorem emitSign
    (advances : lexer.Advances next)
    (token : Token)
    (sign : token.IsSign) :
    lexer.Advances (next.emit token) :=
  advances.emit token (sign.isFrom _)

theorem insert
    (advances : lexer.Advances next)
    (position : Nat)
    (token : Token)
    (sign : token.IsSign) :
    lexer.Advances (next.insert position token) := by
  refine advances.trans ⟨List.suffix_rfl, fun other member => ?_⟩
  rcases List.mem_append.mp member with behind | member
  · exact Or.inl (List.mem_of_mem_take behind)
  rcases List.mem_cons.mp member with rfl | before
  · exact Or.inr (sign.isFrom _)
  · exact Or.inl (List.mem_of_mem_drop before)

theorem indent
    (advances : lexer.Advances next)
    (column position : Nat)
    (token : Token)
    (sign : token.IsSign) :
    lexer.Advances (next.indent column position token) := by
  unfold Lexer.indent
  split
  · exact advances
  · exact (advances.insert position token sign).toEnd _ rfl rfl

theorem dedentFrom
    (advances : lexer.Advances next)
    (level : Nat)
    (outer : List Nat) :
    lexer.Advances (next.dedentFrom level outer) := by
  induction outer generalizing next with
  | nil => exact advances
  | cons level' outer ih =>
      unfold Lexer.dedentFrom
      split
      · have ends : lexer.Advances (next.emit .blockEnd) :=
          advances.emitSign .blockEnd nofun
        exact ih (ends.toEnd _ rfl rfl)
      · exact advances

theorem dedent
    (advances : lexer.Advances next)
    (level : Nat) :
    lexer.Advances (next.dedent level) := by
  unfold Lexer.dedent
  split
  · exact advances
  · exact advances.dedentFrom level next.outerLevels

theorem skipSpace
    (advances : lexer.Advances next) :
    lexer.Advances next.skipSpace :=
  advances.trans
    ⟨skipSpaceFrom_suffix _ _ _ _ _, fun _ member => Or.inl member⟩

theorem expire?
    (advances : lexer.Advances next)
    (kept : next.expire? = some last) :
    lexer.Advances last := by
  simp only [Lexer.expire?, bind, Option.bind_eq_some_iff] at kept
  rcases kept with ⟨_, -, _, -, result⟩
  obtain rfl := Option.some.inj result
  exact advances.toEnd _ rfl rfl

theorem dropCandidate?
    (advances : lexer.Advances next)
    (dropped : next.dropCandidate? = some last) :
    lexer.Advances last := by
  unfold Lexer.dropCandidate? at dropped
  split at dropped
  · cases dropped
  · obtain rfl := Option.some.inj dropped
    exact advances.toEnd _ rfl rfl

theorem markCandidate?
    (advances : lexer.Advances next)
    (marked : next.markCandidate? = some last) :
    lexer.Advances last := by
  unfold Lexer.markCandidate? at marked
  split at marked
  · rcases Option.bind_eq_some_iff.mp marked with ⟨cleared, dropped, result⟩
    obtain rfl := Option.some.inj result
    exact (advances.dropCandidate? dropped).toEnd _ rfl rfl
  · obtain rfl := Option.some.inj marked
    exact advances

theorem startBlock?
    (advances : lexer.Advances next)
    (token : Token)
    (sign : token.IsSign)
    (started : next.startBlock? token = some last) :
    lexer.Advances last := by
  unfold Lexer.startBlock? at started
  split at started
  · obtain rfl := Option.some.inj started
    exact advances
  split at started
  · obtain rfl := Option.some.inj started
    exact advances.indent _ _ token sign
  · cases started

end Advances

/-! ## The readings of a token -/

section Readings

variable {lexer next : Lexer} {token : Token}

theorem advances_of_finish?
    (read : lexer.finish? = some next) :
    lexer.Advances next := by
  rcases Option.bind_eq_some_iff.mp read with ⟨dropped, drops, result⟩
  obtain rfl := Option.some.inj result
  have placed (place : Place) :
      lexer.Advances { lexer with cursor := ⟨lexer.cursor.rest, place⟩ } :=
    .of_same rfl rfl
  have closed := ((placed _).dedent 0).dropCandidate? drops
  exact ((closed.allowKey false).emitSign .streamEnd nofun).toEnd _ rfl rfl

theorem isSign_of_versionDirective?
    {text rest : Text}
    (read : Token.versionDirective? text = some (token, rest)) :
    token.IsSign := by
  rcases Option.bind_eq_some_iff.mp read with ⟨⟨major, minorText⟩, -, read⟩
  dsimp only at read
  split at read
  · rcases Option.bind_eq_some_iff.mp read with ⟨⟨minor, behind⟩, -, result⟩
    obtain ⟨rfl, -⟩ := Prod.mk.inj (Option.some.inj result)
    nofun
  · cases read

theorem isSign_of_tagDirective?
    {text rest : Text}
    (read : Token.tagDirective? text = some (token, rest)) :
    token.IsSign := by
  rcases Option.bind_eq_some_iff.mp read with ⟨⟨handle, behind⟩, -, read⟩
  dsimp only at read
  split at read
  · rcases Option.bind_eq_some_iff.mp read with ⟨⟨octets, end'⟩, -, read⟩
    dsimp only at read
    split at read
    · obtain ⟨rfl, -⟩ := Prod.mk.inj (Option.some.inj read)
      nofun
    · cases read
  · cases read

theorem isSign_of_directive?
    {text rest : Text}
    (read : Token.directive? text = some (token, rest)) :
    token.IsSign := by
  have same
      {named : Token}
      {behind : Text}
      (ends :
        (if startsLineEnd behind then some (named, behind.drop 1) else none) =
          some (token, rest)) :
      named = token := by
    split at ends
    · exact (Prod.mk.inj (Option.some.inj ends)).1
    · cases ends
  unfold Token.directive? at read
  dsimp only at read
  split at read
  · cases read
  split at read
  · rcases Option.bind_eq_some_iff.mp read with ⟨⟨named, behind⟩, kind, ends⟩
    obtain rfl := same ends
    exact isSign_of_versionDirective? kind
  split at read
  · rcases Option.bind_eq_some_iff.mp read with ⟨⟨named, behind⟩, kind, ends⟩
    obtain rfl := same ends
    exact isSign_of_tagDirective? kind
  · cases read

theorem isSign_of_tag?
    {text rest : Text}
    (read : Token.tag? text = some (token, rest)) :
    token.IsSign := by
  unfold Token.tag? at read
  split at read
  · rcases Option.bind_eq_some_iff.mp read with ⟨⟨octets, behind⟩, -, read⟩
    dsimp only at read
    split at read
    · split at read
      · cases read
      · obtain ⟨rfl, -⟩ := Prod.mk.inj (Option.some.inj read)
        nofun
    · cases read
  · dsimp only at read
    split at read
    · rcases Option.bind_eq_some_iff.mp read with ⟨⟨octets, behind⟩, -, read⟩
      dsimp only at read
      split at read
      · cases read
      · obtain ⟨rfl, -⟩ := Prod.mk.inj (Option.some.inj read)
        nofun
    · rcases Option.bind_eq_some_iff.mp read with ⟨⟨octets, behind⟩, -, read⟩
      dsimp only at read
      split at read
      all_goals
        obtain ⟨rfl, -⟩ := Prod.mk.inj (Option.some.inj read)
        nofun
  · cases read

theorem advances_of_directive?
    (read : lexer.directive? = some next) :
    lexer.Advances next := by
  unfold directive? at read
  rcases Option.bind_eq_some_iff.mp read with ⟨dropped, drops, read⟩
  rcases Option.bind_eq_some_iff.mp read with
    ⟨⟨token, rest⟩, directive, result⟩
  obtain rfl := Option.some.inj result
  have closed := ((Advances.refl lexer).dedent 0).dropCandidate? drops
  exact (((closed.allowKey false).skip 1).moveTo rest).emitSign _
    (isSign_of_directive? directive)

theorem advances_of_documentMark?
    (sign : token.IsSign)
    (read : lexer.documentMark? token = some next) :
    lexer.Advances next := by
  rcases Option.bind_eq_some_iff.mp read with ⟨dropped, drops, result⟩
  obtain rfl := Option.some.inj result
  have closed := ((Advances.refl lexer).dedent 0).dropCandidate? drops
  exact ((closed.allowKey false).skip 3).emitSign _ sign

theorem advances_of_openBracket?
    (sign : token.IsSign)
    (read : lexer.openBracket? token = some next) :
    lexer.Advances next := by
  rcases Option.bind_eq_some_iff.mp read with ⟨marked, marks, result⟩
  obtain rfl := Option.some.inj result
  have opened := (Advances.refl lexer).markCandidate? marks
  have inside := opened.toEnd
    { marked with
      candidate := none
      outerCandidates := marked.candidate :: marked.outerCandidates }
    rfl rfl
  exact ((inside.allowKey true).skip 1).emitSign _ sign

theorem advances_of_closeBracket?
    (sign : token.IsSign)
    (read : lexer.closeBracket? token = some next) :
    lexer.Advances next := by
  rcases Option.bind_eq_some_iff.mp read with ⟨dropped, drops, result⟩
  have closed := (Advances.refl lexer).dropCandidate? drops
  cases around : dropped.outerCandidates with
  | nil =>
      rw [around] at result
      obtain rfl := Option.some.inj result
      exact ((closed.allowKey false).skip 1).emitSign _ sign
  | cons candidate outerCandidates =>
      rw [around] at result
      obtain rfl := Option.some.inj result
      have outside :=
        closed.toEnd { dropped with candidate, outerCandidates } rfl rfl
      exact ((outside.allowKey false).skip 1).emitSign _ sign

theorem advances_of_separator?
    (read : lexer.separator? = some next) :
    lexer.Advances next := by
  rcases Option.bind_eq_some_iff.mp read with ⟨dropped, drops, result⟩
  obtain rfl := Option.some.inj result
  have closed := (Advances.refl lexer).dropCandidate? drops
  exact ((closed.allowKey true).skip 1).emitSign .separator nofun

theorem advances_of_blockItem?
    (read : lexer.blockItem? = some next) :
    lexer.Advances next := by
  rcases Option.bind_eq_some_iff.mp read with ⟨started, starts, read⟩
  rcases Option.bind_eq_some_iff.mp read with ⟨dropped, drops, result⟩
  obtain rfl := Option.some.inj result
  have opened :=
    ((Advances.refl lexer).startBlock? .blockListStart nofun
      starts).dropCandidate? drops
  exact ((opened.allowKey true).skip 1).emitSign .blockItem nofun

theorem advances_of_explicitKey?
    (read : lexer.explicitKey? = some next) :
    lexer.Advances next := by
  rcases Option.bind_eq_some_iff.mp read with ⟨started, starts, read⟩
  rcases Option.bind_eq_some_iff.mp read with ⟨dropped, drops, result⟩
  obtain rfl := Option.some.inj result
  have opened :=
    ((Advances.refl lexer).startBlock? .blockMapStart nofun
      starts).dropCandidate? drops
  exact ((opened.allowKey _).skip 1).emitSign .key nofun

theorem advances_of_value?
    (read : lexer.value? = some next) :
    lexer.Advances next := by
  unfold value? at read
  split at read
  · rename_i candidate _
    obtain rfl := Option.some.inj read
    have keyed :=
      ((Advances.refl lexer).insert candidate.position .key nofun).indent
        candidate.place.column candidate.position .blockMapStart nofun
    have settled := keyed.toEnd
      { (lexer.insert candidate.position .key).indent
        candidate.place.column candidate.position .blockMapStart with
        candidate := none }
      rfl rfl
    exact ((settled.allowKey false).skip 1).emitSign .value nofun
  · rcases Option.bind_eq_some_iff.mp read with ⟨started, starts, result⟩
    obtain rfl := Option.some.inj result
    have opened :=
      (Advances.refl lexer).startBlock? .blockMapStart nofun starts
    exact ((opened.allowKey _).skip 1).emitSign .value nofun

theorem advances_of_named?
    {named : Text → Token}
    (sign : ∀ name, (named name).IsSign)
    (read : lexer.named? named = some next) :
    lexer.Advances next := by
  rcases Option.bind_eq_some_iff.mp read with ⟨marked, marks, read⟩
  rcases Option.bind_eq_some_iff.mp read with ⟨⟨name, rest⟩, -, result⟩
  obtain rfl := Option.some.inj result
  have opened := (Advances.refl lexer).markCandidate? marks
  exact (((opened.allowKey false).skip 1).moveTo rest).emitSign _
    (sign name)

theorem advances_of_tag?
    (read : lexer.tag? = some next) :
    lexer.Advances next := by
  rcases Option.bind_eq_some_iff.mp read with ⟨marked, marks, read⟩
  rcases Option.bind_eq_some_iff.mp read with ⟨⟨token, rest⟩, tag, read⟩
  have opened := (Advances.refl lexer).markCandidate? marks
  dsimp only at read
  split at read
  · obtain rfl := Option.some.inj read
    exact ((opened.allowKey false).moveTo rest).emitSign _
      (isSign_of_tag? tag)
  · cases read

theorem advances_of_block?
    {isFolded : Bool}
    (read : lexer.block? isFolded = some next) :
    lexer.Advances next := by
  rcases Option.bind_eq_some_iff.mp read with ⟨dropped, drops, read⟩
  rcases Option.bind_eq_some_iff.mp read with ⟨scanned, scans, result⟩
  obtain rfl := Option.some.inj result
  have closed := (Advances.refl lexer).dropCandidate? drops
  have emitted :=
    (closed.allowKey true).emitSign (.scalar scanned.text false) nofun
  exact emitted.trans
    ⟨Block.scan_suffix scans, fun _ member => Or.inl member⟩

theorem advances_of_quoted?
    (read : lexer.quoted? = some next) :
    lexer.Advances next := by
  rcases Option.bind_eq_some_iff.mp read with ⟨marked, marks, read⟩
  rcases Option.bind_eq_some_iff.mp read with ⟨scanned, scans, result⟩
  obtain rfl := Option.some.inj result
  have opened := (Advances.refl lexer).markCandidate? marks
  have emitted :=
    (opened.allowKey false).emitSign (.scalar scanned.text false) nofun
  exact emitted.trans
    ⟨Quoted.scan_suffix scans, fun _ member => Or.inl member⟩

/-- A plain scalar is read from the cursor on. -/
theorem advances_of_plain?
    (read : lexer.plain? = some next) :
    lexer.Advances next := by
  rcases Option.bind_eq_some_iff.mp read with ⟨marked, marks, read⟩
  rcases Option.bind_eq_some_iff.mp read with ⟨scanned, scans, result⟩
  obtain rfl := Option.some.inj result
  have opened := (Advances.refl lexer).markCandidate? marks
  have literal :
      (Token.scalar scanned.text true).IsFrom marked.cursor.rest := by
    intro text same unbroken
    obtain ⟨rfl, -⟩ := Token.scalar.inj same
    exact (Plain.scan_prefix scans unbroken).isInfix
  have emitted :=
    (opened.allowKey scanned.onNewLine).emit
      (.scalar scanned.text true) literal
  exact emitted.trans
    ⟨Plain.scanFrom_suffix scans, fun _ member => Or.inl member⟩

/-- A reading that is chosen by a test is one of two. -/
theorem advances_of_ite
    {test : Bool}
    {reading other : Option Lexer}
    (read : (if test then reading else other) = some next)
    (first : reading = some next → lexer.Advances next)
    (second : other = some next → lexer.Advances next) :
    lexer.Advances next := by
  cases test
  · exact second read
  · exact first read

theorem advances_of_token?
    (read : lexer.token? = some next) :
    lexer.Advances next := by
  unfold token? at read
  cases text : lexer.cursor.rest with
  | nil =>
      rw [text] at read
      exact advances_of_finish? read
  | cons char rest =>
      rw [text] at read
      dsimp only at read
      refine advances_of_ite read advances_of_directive? fun read => ?_
      refine advances_of_ite read
        (advances_of_documentMark? nofun) fun read => ?_
      refine advances_of_ite read
        (advances_of_documentMark? nofun) fun read => ?_
      refine advances_of_ite read
        (advances_of_openBracket? nofun) fun read => ?_
      refine advances_of_ite read
        (advances_of_openBracket? nofun) fun read => ?_
      refine advances_of_ite read
        (advances_of_closeBracket? nofun) fun read => ?_
      refine advances_of_ite read
        (advances_of_closeBracket? nofun) fun read => ?_
      refine advances_of_ite read advances_of_separator? fun read => ?_
      refine advances_of_ite read advances_of_blockItem? fun read => ?_
      refine advances_of_ite read advances_of_explicitKey? fun read => ?_
      refine advances_of_ite read advances_of_value? fun read => ?_
      refine advances_of_ite read
        (advances_of_named? fun _ => nofun) fun read => ?_
      refine advances_of_ite read
        (advances_of_named? fun _ => nofun) fun read => ?_
      refine advances_of_ite read advances_of_tag? fun read => ?_
      refine advances_of_ite read advances_of_block? fun read => ?_
      refine advances_of_ite read advances_of_block? fun read => ?_
      refine advances_of_ite read advances_of_quoted? fun read => ?_
      exact advances_of_ite read advances_of_plain? nofun

/-- A step of the lexer is an advance. -/
theorem advances_of_step?
    (stepped : lexer.step? = some next) :
    lexer.Advances next := by
  rcases Option.bind_eq_some_iff.mp stepped with ⟨kept, expires, stepped⟩
  rcases Option.bind_eq_some_iff.mp stepped with ⟨read, reads, expiresAgain⟩
  have spaced := (Advances.refl lexer).skipSpace.expire? expires
  exact ((spaced.dedent _).trans (advances_of_token? reads)).expire?
    expiresAgain

end Readings

/-! ## Runs -/

/-- The tokens that a lexer holds, and those that a run adds, stand in the
text. -/
theorem isFrom_of_mem_run
    {source : Text}
    {fuel : Nat}
    {lexer : Lexer}
    (within : lexer.cursor.rest <:+ source)
    (literal : ∀ token ∈ lexer.reversed, token.IsFrom source) :
    ∀ token ∈ (run fuel lexer).1, token.IsFrom source := by
  have settles
      {lexer : Lexer}
      (literal : ∀ token ∈ lexer.reversed, token.IsFrom source) :
      ∀ token ∈ lexer.settled, token.IsFrom source := by
    intro token member
    exact literal token (List.mem_reverse.mp (List.mem_of_mem_take member))
  induction fuel generalizing lexer with
  | zero => exact settles literal
  | succ fuel ih =>
      unfold run
      split
      · exact settles literal
      · rename_i next stepped
        have advances := advances_of_step? stepped
        have further : ∀ token ∈ next.reversed, token.IsFrom source := by
          intro token member
          rcases advances.tokens token member with old | fresh
          · exact literal token old
          · exact fresh.mono within.isInfix
        split
        · intro token member
          exact further token (List.mem_reverse.mp member)
        · exact ih (advances.rest.trans within) further

end Lexer

/-! ## Texts -/

theorem eq_nil_of_prefix_feed
    {part rest : Text}
    (noFeed : '\n' ∉ part)
    (inFront : part <+: '\n' :: rest) :
    part = [] := by
  rcases List.prefix_cons_iff.mp inFront with empty | ⟨behind, rfl, -⟩
  · exact empty
  · exact absurd List.mem_cons_self noFeed

theorem prefix_cons_of_prefix_cons
    {part rest unified : Text}
    {char : Char}
    (noFeed : '\n' ∉ part)
    (below :
      ∀ {behind : Text},
        '\n' ∉ behind → behind <+: unified → behind <+: rest)
    (inFront : part <+: char :: unified) :
    part <+: char :: rest := by
  rcases List.prefix_cons_iff.mp inFront with rfl | ⟨behind, rfl, further⟩
  · exact List.nil_prefix
  · have noFeedBehind : '\n' ∉ behind :=
      fun member => noFeed (List.mem_cons_of_mem _ member)
    exact List.cons_prefix_cons.mpr ⟨rfl, below noFeedBehind further⟩

theorem prefix_of_prefix_unifyBreaks
    {part text : Text}
    (noFeed : '\n' ∉ part)
    (inFront : part <+: unifyBreaks text) :
    part <+: text := by
  fun_induction unifyBreaks text generalizing part with
  | case1 => exact inFront
  | case2 =>
      rw [eq_nil_of_prefix_feed noFeed inFront]
      exact List.nil_prefix
  | case3 =>
      rw [eq_nil_of_prefix_feed noFeed inFront]
      exact List.nil_prefix
  | case4 char rest _ _ ih =>
      exact prefix_cons_of_prefix_cons noFeed ih inFront

/-- Unifying line breaks does not touch what holds none. -/
theorem infix_of_infix_unifyBreaks
    {part text : Text}
    (noFeed : '\n' ∉ part)
    (within : part <:+: unifyBreaks text) :
    part <:+: text := by
  have afterFeed
      {rest : Text}
      (within : part <:+: '\n' :: rest) :
      part <:+: rest := by
    rcases List.infix_cons_iff.mp within with inFront | below
    · rw [eq_nil_of_prefix_feed noFeed inFront]
      exact List.nil_infix
    · exact below
  fun_induction unifyBreaks text with
  | case1 => exact within
  | case2 rest ih =>
      exact (ih (afterFeed within)).trans
        (List.suffix_append ['\r', '\n'] rest).isInfix
  | case3 char rest _ _ ih =>
      exact (ih (afterFeed within)).trans (List.suffix_cons char rest).isInfix
  | case4 char rest _ _ ih =>
      rcases List.infix_cons_iff.mp within with inFront | below
      · exact (prefix_cons_of_prefix_cons noFeed
          prefix_of_prefix_unifyBreaks inFront).isInfix
      · exact (ih below).trans (List.suffix_cons char rest).isInfix

/-- A plain scalar without white space stands in the text. -/
theorem Token.isFrom_of_mem_ofText
    {text : Text}
    {token : Token}
    (member : token ∈ (Token.ofText text).1) :
    token.IsFrom text := by
  unfold Token.ofText at member
  split at member
  · have literal :=
      Lexer.isFrom_of_mem_run
        (List.suffix_rfl : unifyBreaks text <:+ unifyBreaks text)
        (by simp [Lexer.start]) token member
    intro scalar same unbroken
    refine infix_of_infix_unifyBreaks ?_ (literal scalar same unbroken)
    intro ends
    have solid := unbroken '\n' ends
    revert solid
    decide
  · cases member

end RegionSync.Yaml
