import RegionSync.Proofs.Marker.Printing
import RegionSync.Snippet

/-!
# The page of a marker line

A marker fills its line, so a page about it starts at the first column.  What
does not fit is cut off on the right, and `IsShownAs` says what stands on the
page then.  The main statement is `exists_page`: whatever is cut off, the
number of the line and the bar behind it stay in front.
-/

namespace RegionSync

/-! ## Columns -/

namespace Text

/-- The wide characters begin with the Hangul letters. -/
theorem le_toNat_of_isBetween_wideBorders
    {char : Char}
    (wide : isBetween wideBorders char = true) :
    0x1100 ≤ char.toNat := by
  rcases Nat.lt_or_ge char.toNat 0x1100 with narrow | high
  · have borders : ∀ border ∈ wideBorders, 0x1100 ≤ border := by
      decide +kernel
    have none_passed :
        wideBorders.countP (fun border => border ≤ char.toNat) = 0 := by
      rw [List.countP_eq_zero]
      intro border member passed
      have above := borders border member
      simp only [decide_eq_true_eq] at passed
      omega
    rw [isBetween, none_passed] at wide
    cases wide
  · exact high

theorem two_le_utf8Size
    {char : Char}
    (high : 0x80 ≤ char.toNat) :
    2 ≤ char.utf8Size := by
  have positive := char.utf8Size_pos
  have several : char.utf8Size ≠ 1 := by
    rw [Ne, Char.utf8Size_eq_one_iff, UInt32.le_iff_toNat_le,
      Char.toNat_val]
    have last : (127 : UInt32).toNat = 127 := rfl
    omega
  omega

theorem charWidth_le_utf8Size (char : Char) :
    charWidth char ≤ char.utf8Size := by
  have positive := char.utf8Size_pos
  rw [charWidth]
  split
  · omega
  · split
    · rename_i wide
      have high := le_toNat_of_isBetween_wideBorders wide
      exact two_le_utf8Size (by omega)
    · omega

end Text

namespace Snippet

theorem shownWidth_le_utf8Size (char : Char) :
    shownWidth char ≤ char.utf8Size := by
  have positive := char.utf8Size_pos
  simp only [shownWidth]
  split
  · omega
  · exact Text.charWidth_le_utf8Size char

theorem shownColumns_le_byteSize (text : Text) :
    shownColumns text ≤ text.byteSize := by
  induction text with
  | nil => exact Nat.le_refl 0
  | cons char rest ih =>
      rw [shownColumns, Text.byteSize_cons]
      exact Nat.add_le_add (shownWidth_le_utf8Size char) ih

theorem shownColumns_append
    (left right : Text) :
    shownColumns (left ++ right) = shownColumns left + shownColumns right := by
  induction left with
  | nil => simp [shownColumns]
  | cons char rest ih => simp [shownColumns, ih, Nat.add_assoc]

theorem takeColumns_append
    {head : Text}
    {columns : Nat}
    (fits : shownColumns head ≤ columns)
    (rest : Text) :
    takeColumns columns (head ++ rest) =
      head ++ takeColumns (columns - shownColumns head) rest := by
  induction head generalizing columns with
  | nil => rfl
  | cons char head ih =>
      rw [shownColumns] at fits
      rw [List.cons_append, takeColumns, if_pos (by omega), ih (by omega),
        shownColumns, Nat.sub_add_eq]
      rfl

theorem takeColumns_of_byteSize_le
    {text : Text}
    {columns : Nat}
    (fits : text.byteSize ≤ columns) :
    takeColumns columns text = text := by
  have enough := Nat.le_trans (shownColumns_le_byteSize text) fits
  have taken := takeColumns_append enough []
  rw [List.append_nil] at taken
  simpa [takeColumns] using taken

theorem takeColumns_prefix
    (columns : Nat)
    (text : Text) :
    takeColumns columns text <+: text := by
  induction text generalizing columns with
  | nil => exact List.nil_prefix
  | cons char rest ih =>
      rw [takeColumns]
      split
      · exact List.prefix_cons_inj char |>.mpr (ih _)
      · exact List.nil_prefix

/-! ## The window of a line that starts with its text -/

theorem Window.around?_zero
    (room stop : Nat)
    (lead : Nat → Nat) :
    around? room 0 stop lead =
      if stop ≤ room then some ⟨0, room⟩ else none := by
  simp [around?]

/-- A page about the start of a line without white space in front starts at
the first column, and it is empty only if the line is. -/
theorem Window.ofSubject_of_flush
    {subject : Subject}
    (flush : subject.indent = some 0)
    (first : subject.start = 0)
    (room size : Nat) :
    (ofSubject room size subject).start = 0 ∧
      min slack subject.size ≤ (ofSubject room size subject).stop := by
  have shallow : pastIndent 0 = 0 := by decide
  simp only [ofSubject, flush, first, Nat.zero_sub, around?_zero, shallow]
  split
  · refine ⟨rfl, ?_⟩
    change min slack subject.size ≤ max subject.size 0
    omega
  · by_cases labelFits : subject.labelStop + slack ≤ room
    · rw [if_pos labelFits]
      refine ⟨rfl, ?_⟩
      change min slack subject.size ≤ room
      omega
    · rw [if_neg labelFits]
      by_cases spanFits : subject.stop + slack ≤ room
      · rw [if_pos spanFits]
        refine ⟨rfl, ?_⟩
        change min slack subject.size ≤ room
        omega
      · rw [if_neg spanFits]
        refine ⟨rfl, ?_⟩
        change min slack subject.size ≤ subject.stop + slack
        omega

theorem Window.room_lt_of_cutsRight
    {window : Window}
    {room size : Nat}
    {subject : Subject}
    (flush : window.start = 0)
    (cuts : window.cutsRight room size subject = true) :
    room < size := by
  simp only [cutsRight, flush, Nat.zero_add, Bool.and_eq_true,
    decide_eq_true_eq] at cuts
  exact cuts.2

theorem Window.le_right
    {window : Window}
    (flush : window.start = 0)
    (room size : Nat) :
    min size window.stop ≤ window.right room size := by
  rw [right, flush]
  split <;> omega

theorem Window.right_of_not_cutsRight
    {window : Window}
    {room size : Nat}
    {subject : Subject}
    (flush : window.start = 0)
    (keeps : window.cutsRight room size subject = false) :
    window.right room size = size := by
  rw [right, flush, Nat.sub_zero]
  split
  · rfl
  · rename_i long
    simp only [cutsRight, flush, Nat.zero_add, Bool.and_eq_false_iff,
      decide_eq_false_iff_not] at keeps
    split at keeps
    · omega
    · omega

/-! ## The row of a line -/

/-- A shown line on a page with room for some columns: the whole line, or the
start of a longer one with dots over its end. -/
inductive IsShownAs (room : Nat) (shown : Text) : Text → Prop where
  | whole : IsShownAs room shown shown
  | cut
      {start : Text}
      (long : room < shown.byteSize)
      (within : start <+: shown) :
      IsShownAs room shown
        (Text.overlay (shownColumns start - dots.length) dots start)

theorem isShownAs_lineRow
    {room : Nat}
    {window : Window}
    {shown : Text}
    (flush : window.start = 0)
    (inked :
      dots.length ≤
        shownColumns (takeColumns (window.right room shown.byteSize) shown))
    (number : Text)
    (subject : Subject) :
    ∃ text,
      IsShownAs room shown text ∧
        lineRow (number.length + 3) room subject window shown
            (number ++ " |".toList) =
          number ++ " | ".toList ++ text := by
  generalize taken :
    takeColumns (window.right room shown.byteSize) shown = visible at inked
  have within : visible <+: shown := by
    rw [← taken]
    exact takeColumns_prefix _ _
  have written : visible ≠ [] := by
    rintro rfl
    cases inked
  have row :
      Text.overlay (number.length + 3) visible (number ++ " |".toList) =
        (number ++ " | ".toList) ++ visible := by
    have behind := Text.overlay_behind written (number ++ " |".toList)
    simpa using behind
  have uncut : window.cutsLeft = false := by
    simp [Window.cutsLeft, flush]
  simp only [lineRow, Window.left, flush, Nat.zero_min, Nat.sub_zero,
    List.drop_zero, taken, uncut, row]
  cases cuts : window.cutsRight room shown.byteSize subject with
  | true =>
      have long := Window.room_lt_of_cutsRight flush cuts
      refine ⟨_, .cut long within, ?_⟩
      have margin : number.length + 3 = (number ++ " | ".toList).length := by
        simp
      rw [margin, Nat.add_sub_assoc inked]
      exact Text.overlay_append _ _ _ _
  | false =>
      have whole : visible = shown := by
        rw [← taken, Window.right_of_not_cutsRight flush cuts]
        exact takeColumns_of_byteSize_le (Nat.le_refl _)
      refine ⟨shown, .whole, ?_⟩
      rw [whole]
      rfl

/-! ## The page of a marker line -/

/-- What every marker line starts with. -/
def commentHead : Text :=
  "<!-- ".toList

theorem commentHead_prefix_print (marker : Marker) :
    commentHead <+: marker.print := by
  have heads :
      commentHead <+: Marker.openingHead ∧
        commentHead <+: Marker.closingHead := by
    decide
  cases marker with
  | opening name version =>
      rw [Marker.print_opening]
      exact heads.1.trans (List.prefix_append _ _)
  | closing name =>
      rw [Marker.print_closing]
      exact heads.2.trans (List.prefix_append _ _)

/-- The columns of a page for a line, behind its number and a bar. -/
def roomAt (number : Nat) : Nat :=
  pageWidth - (3 + (Text.ofNat (number + 1)).length)

theorem dots_le_shownColumns
    {columns : Nat}
    {shown : Text}
    (opening : commentHead <+: shown)
    (enough : 5 ≤ columns) :
    dots.length ≤ shownColumns (takeColumns columns shown) := by
  have width : shownColumns commentHead = 5 := by decide +kernel
  have size : dots.length = 3 := by decide
  rcases opening with ⟨rest, rfl⟩
  rw [takeColumns_append (by omega), shownColumns_append]
  omega

theorem indent?_of_commentHead
    {line : Text}
    (opening : commentHead <+: line) :
    indent? line = some 0 := by
  have solid : Text.isWhiteSpace '<' = false := by decide
  rcases opening with ⟨rest, rfl⟩
  simp [indent?, commentHead, Text.isBlank, solid]

theorem commentHead_prefix_shown
    {line : Text}
    (opening : commentHead <+: line) :
    commentHead <+: line.flatMap shownChar := by
  have same : commentHead.flatMap shownChar = commentHead := by decide
  rcases opening with ⟨rest, rfl⟩
  rw [List.flatMap_append, same]
  exact List.prefix_append _ _

theorem five_le_byteSize
    {line : Text}
    (opening : commentHead <+: line) :
    5 ≤ line.byteSize := by
  have size : Text.byteSize commentHead = 5 := by decide
  rcases opening with ⟨rest, rfl⟩
  rw [Text.byteSize_append]
  omega

/-- The row above and below the line of a page. -/
def barAt (number : Nat) : Text :=
  List.replicate (Text.ofNat number).length ' ' ++ " |".toList

/-- The page of an excerpt with one line. -/
theorem page_of_single
    {excerpt : Excerpt}
    {line : Text}
    (single : excerpt.lines = [line])
    (label : Text) :
    let number := Text.ofNat excerpt.number
    let subject := excerpt.subject label
    let shown := line.flatMap shownChar
    let window :=
      Window.ofSubject (roomAt excerpt.number) (Text.byteSize shown) subject
    page excerpt label =
      [barAt excerpt.number,
        lineRow (number.length + 3) (roomAt excerpt.number) subject window
          shown (number ++ " |".toList),
        caretRow (number.length + 3)
          (shownColumns (shown.take (window.left (Text.byteSize shown))))
          subject label (barAt excerpt.number),
        barAt excerpt.number] := by
  rw [page, single]
  rfl

theorem exists_page
    {excerpt : Excerpt}
    {line : Text}
    (first : excerpt.before = [])
    (single : excerpt.lines = [line])
    (opening : commentHead <+: line)
    (label : Text) :
    ∃ text carets,
      IsShownAs (roomAt excerpt.number) (line.flatMap shownChar) text ∧
        page excerpt label =
          [barAt excerpt.number,
            Text.ofNat excerpt.number ++ " | ".toList ++ text, carets,
            barAt excerpt.number] := by
  have indent : (excerpt.subject label).indent = some 0 := by
    simp [Excerpt.subject, single, indent?_of_commentHead opening]
  have start : (excerpt.subject label).start = 0 := by
    simp [Excerpt.subject, Excerpt.start, first]
  have size : (excerpt.subject label).size = line.byteSize := by
    simp [Excerpt.subject, single]
  have shownOpening := commentHead_prefix_shown opening
  have longLine := five_le_byteSize opening
  have longShown := five_le_byteSize shownOpening
  have slackSize : Window.slack = 6 := rfl
  rcases Window.ofSubject_of_flush indent start (roomAt excerpt.number)
      (Text.byteSize (line.flatMap shownChar)) with ⟨flush, wide⟩
  have inked :=
    Window.le_right flush (roomAt excerpt.number)
      (Text.byteSize (line.flatMap shownChar))
  have enough :=
    dots_le_shownColumns shownOpening (Nat.le_trans (by omega) inked)
  rcases isShownAs_lineRow flush enough (Text.ofNat excerpt.number)
      (excerpt.subject label) with ⟨text, shownAs, row⟩
  rw [page_of_single single, row]
  exact ⟨text, _, shownAs, rfl⟩

end Snippet

end RegionSync
