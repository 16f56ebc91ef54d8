import LobsterOS.Vga

/-! What the VGA writer shows, against the wrapped and scrolled layout of the text it was given. -/

namespace LobsterOS.Vga

/-- The text laid out so far: the finished lines and the line being written. -/
structure Layout where
  lines : List (List UInt8)
  cur : List UInt8

namespace Layout

/-- The line being written, ended. -/
def endLine (l : Layout) : Layout := ⟨l.lines ++ [l.cur], []⟩

/-- A character put at the end of the line being written. -/
def putChar (l : Layout) (b : UInt8) : Layout := ⟨l.lines, l.cur ++ [b]⟩

/-- The layout with one more byte of what `write_string` writes: a newline ends the line,
and so does a line's 80th character. -/
def push (l : Layout) (b : UInt8) : Layout :=
  if b = 0x0A then l.endLine
  else if (l.putChar b).cur.length = bufferWidth then (l.putChar b).endLine
  else l.putChar b

/-- Line `i`, the line being written last. -/
def line (l : Layout) (i : Nat) : List UInt8 := (l.lines ++ [l.cur]).getD i []

/-- The line on the screen's first row: the last 25 lines are shown. -/
def base (l : Layout) : Nat := l.lines.length-(bufferHeight-1)

/-- The character the screen shows at row `r` and column `c`: the character of the row's
line there, and a blank past the line's end or below the last line. -/
def screenChar (l : Layout) (r c : Nat) : UInt8 :=
  if l.base+r ≤ l.lines.length then (l.line (l.base+r)).getD c 0x20 else 0x20

@[simp] theorem endLine_lines (l : Layout) : l.endLine.lines = l.lines ++ [l.cur] := rfl

@[simp] theorem endLine_cur (l : Layout) : l.endLine.cur = [] := rfl

@[simp] theorem putChar_lines (l : Layout) (b : UInt8) : (l.putChar b).lines = l.lines := rfl

@[simp] theorem putChar_cur (l : Layout) (b : UInt8) : (l.putChar b).cur = l.cur ++ [b] := rfl

theorem getD_append_singleton (xs : List UInt8) (x d : UInt8) (i : Nat) :
    (xs ++ [x]).getD i d = if i = xs.length then x else xs.getD i d := by
  by_cases hi : i < xs.length
  · rw [if_neg (Nat.ne_of_lt hi), List.getD_append _ _ _ _ hi]
  · rw [List.getD_append_right _ _ _ _ (Nat.le_of_not_gt hi)]
    by_cases he : i = xs.length
    · simp [he]
    · -- past both lists
      rw [if_neg he, List.getD_eq_default _ _ (by simp; omega),
        List.getD_eq_default _ _ (Nat.le_of_not_gt hi)]

/-- After the line ends, the lines up to it are as before and the new one is empty. -/
theorem line_endLine (l : Layout) (i : Nat) :
    l.endLine.line i = if i ≤ l.lines.length then l.line i else [] := by
  unfold line
  rw [endLine_lines, endLine_cur]
  by_cases hi : i ≤ l.lines.length
  · rw [if_pos hi, List.getD_append _ _ _ _ (by simp; omega)]
  · rw [if_neg hi, List.getD_append_right _ _ _ _ (by simp; omega)]
    cases h : i-(l.lines ++ [l.cur]).length <;> rfl

/-- A character changes only the line being written. -/
theorem line_putChar (l : Layout) (b : UInt8) (i : Nat) :
    (l.putChar b).line i = if i = l.lines.length then l.cur ++ [b] else l.line i := by
  unfold line
  simp only [putChar_lines, putChar_cur]
  by_cases hi : i < l.lines.length
  · rw [if_neg (by omega), List.getD_append _ _ _ _ hi, List.getD_append _ _ _ _ hi]
  · rw [List.getD_append_right _ _ _ _ (by omega), List.getD_append_right _ _ _ _ (by omega)]
    by_cases he : i = l.lines.length
    · simp [he]
    · rw [if_neg he, List.getD_eq_default _ _ (by simp; omega),
        List.getD_eq_default _ _ (by simp; omega)]

/-- The screen row of line `n`, the line being written, is row `min n 24`. -/
theorem base_add_eq_iff (l : Layout) {r : Nat} (hr : r < bufferHeight) :
    l.base+r = l.lines.length ↔ r = min l.lines.length (bufferHeight-1) := by
  unfold base bufferHeight at *
  omega

/-- Ending a line that is not yet at the bottom row moves nothing on the screen. -/
theorem screenChar_endLine (l : Layout) (hn : l.lines.length < bufferHeight-1) (r c : Nat) :
    l.endLine.screenChar r c = l.screenChar r c := by
  have hbase : l.endLine.base = l.base := by
    simp only [base, endLine_lines, List.length_append, List.length_singleton]
    unfold bufferHeight at *
    omega
  unfold screenChar
  rw [hbase, line_endLine]
  simp only [endLine_lines, List.length_append, List.length_singleton]
  -- the new line is empty, and it lies below the old last line
  by_cases hr : l.base+r ≤ l.lines.length
  · have hr' : l.base+r ≤ l.lines.length+1 := by omega
    simp only [hr, hr', if_true]
  · simp only [hr, if_false]
    split <;> simp

/-- Ending a line at the bottom row moves every row up one, with an empty last row. -/
theorem screenChar_endLine_scroll (l : Layout) (hn : bufferHeight-1 ≤ l.lines.length) {r : Nat}
    (hr : r < bufferHeight) (c : Nat) :
    l.endLine.screenChar r c = if r < bufferHeight-1 then l.screenChar (r+1) c else 0x20 := by
  have hbase : l.endLine.base = l.base+1 := by
    simp only [base, endLine_lines, List.length_append, List.length_singleton]
    unfold bufferHeight at *
    omega
  have hlast : l.base+(bufferHeight-1) = l.lines.length := by
    unfold base bufferHeight at *
    omega
  unfold screenChar
  rw [hbase, line_endLine]
  simp only [endLine_lines, List.length_append, List.length_singleton]
  by_cases hlow : r < bufferHeight-1
  · rw [if_pos hlow, if_pos (by omega), if_pos (by omega), if_pos (by omega),
      show l.base+1+r = l.base+(r+1) by omega]
  · -- the last row shows the new, empty line
    rw [if_neg hlow, if_pos (by omega), if_neg (by omega)]
    rfl

/-- A character shows at the cursor, on the row of the line being written. -/
theorem screenChar_putChar (l : Layout) (b : UInt8) {r : Nat} (hr : r < bufferHeight) (c : Nat) :
    (l.putChar b).screenChar r c =
      if r = min l.lines.length (bufferHeight-1) ∧ c = l.cur.length then b else l.screenChar r c := by
  unfold screenChar
  rw [show (l.putChar b).base = l.base from rfl, line_putChar, putChar_lines]
  by_cases hrow : l.base+r = l.lines.length
  · -- on the cursor's row: the old text, then the new character at its column
    have hmin := (base_add_eq_iff l hr).1 hrow
    have hline : l.line l.lines.length = l.cur := by
      rw [line, List.getD_append_right _ _ _ _ (Nat.le_refl _), Nat.sub_self]
      rfl
    simp only [hrow, Nat.le_refl, if_true, hline, and_iff_right hmin]
    exact getD_append_singleton l.cur b 0x20 c
  · have hne : ¬ (r = min l.lines.length (bufferHeight-1) ∧ c = l.cur.length) :=
      fun h => hrow ((base_add_eq_iff l hr).2 h.1)
    simp only [hrow, hne, if_false]

end Layout

/-- The layout of a byte string. -/
def layout (s : List UInt8) : Layout := s.foldl (fun l b => l.push (printable b)) ⟨[], []⟩

/-! ### The writer against the layout -/

/-- The writer's buffer shows layout `l`, each cell in the writer's colour, and its row is the
screen row of the line being written. -/
structure Shows (w : Writer) (l : Layout) : Prop where
  row : w.row = min l.lines.length (bufferHeight-1)
  cells : ∀ r < bufferHeight, ∀ c < bufferWidth, w.buffer r c = ⟨l.screenChar r c, w.defaultColor⟩

/-- `Shows`, with the column after the text of the line being written, inside the row. -/
structure Cursor (w : Writer) (l : Layout) : Prop extends Shows w l where
  col : w.col = l.cur.length
  short : l.cur.length < bufferWidth

section Step

variable {w : Writer} {l : Layout}

theorem Shows.row_lt (h : Shows w l) : w.row < bufferHeight := by
  rw [h.row]
  unfold bufferHeight
  omega

/-- `new_line` ends the line: at the bottom it is the scroll and the cleared last row that
move the screen as the layout's first shown line moves. -/
theorem newLine_cursor (h : Shows w l) : Cursor (newLine w) l.endLine := by
  by_cases hn : l.lines.length < bufferHeight-1
  · -- below the bottom row the buffer stays
    have hrow : ¬ bufferHeight ≤ w.row+1 := by
      rw [h.row]
      unfold bufferHeight at *
      omega
    have hnl : newLine w = ⟨w.row+1, 0, w.defaultColor, w.buffer⟩ := if_neg hrow
    rw [hnl]
    refine ⟨⟨?_, fun r hr c hc => ?_⟩, rfl, by simp [bufferWidth]⟩
    · simp only [Layout.endLine_lines, List.length_append, List.length_singleton, h.row]
      unfold bufferHeight at *
      omega
    · rw [Layout.screenChar_endLine l hn]
      exact h.cells r hr c hc
  · have hrow : bufferHeight ≤ w.row+1 := by
      rw [h.row]
      unfold bufferHeight at *
      omega
    have hnl : newLine w =
        clearRow ⟨bufferHeight-1, 0, w.defaultColor, scrollUp w.buffer⟩ (bufferHeight-1) :=
      if_pos hrow
    rw [hnl]
    refine ⟨⟨?_, fun r hr c hc => ?_⟩, rfl, by simp [bufferWidth]⟩
    · simp only [clearRow_row, Layout.endLine_lines, List.length_append, List.length_singleton]
      unfold bufferHeight at *
      omega
    · rw [clearRow_buffer, Layout.screenChar_endLine_scroll l (by omega) hr]
      simp only [clearRow_defaultColor]
      by_cases hlast : r = bufferHeight-1
      · simp [hlast, hc]
      · -- a row above the last holds the row below it
        have hlow : r < bufferHeight-1 := by omega
        simp only [hlast, false_and, if_false, scrollUp_apply, hlow, hc, and_self]
        exact h.cells (r+1) (by omega) c hc

/-- A byte other than the newline is written at the cursor and keeps `Cursor`, through
`new_line` when it is the line's 80th. -/
theorem writeByte_char (h : Cursor w l) {b : UInt8} (hb : b ≠ 0x0A) :
    ∃ w', writeByte w b = .ok w' ∧ Cursor w' (l.push b) := by
  have hrow := h.row_lt
  have hcur := h.col
  have hshort := h.short
  have hcol : w.col < bufferWidth := hcur ▸ hshort
  -- the buffer and row with the character written, before any new line
  have hput : Shows ⟨w.row, w.col+1, w.defaultColor, setCell w.buffer w.row w.col ⟨b, w.defaultColor⟩⟩
      (l.putChar b) := by
    refine ⟨h.row, fun r hr c hc => ?_⟩
    simp only [setCell_apply, Layout.screenChar_putChar l b hr, h.row, h.col]
    by_cases hcell : r = min l.lines.length (bufferHeight-1) ∧ c = l.cur.length
    · rw [if_pos hcell, if_pos hcell]
    · rw [if_neg hcell, if_neg hcell]
      exact h.cells r hr c hc
  have hwb : writeByte w b = .ok (if bufferWidth ≤ w.col+1
      then newLine ⟨w.row, w.col+1, w.defaultColor, setCell w.buffer w.row w.col ⟨b, w.defaultColor⟩⟩
      else ⟨w.row, w.col+1, w.defaultColor, setCell w.buffer w.row w.col ⟨b, w.defaultColor⟩⟩) := by
    simp only [writeByte, hb, if_false, hrow, hcol, if_true]
  by_cases hfull : l.cur.length+1 = bufferWidth
  · refine ⟨_, hwb, ?_⟩
    have hpush : l.push b = (l.putChar b).endLine := by
      simp [Layout.push, hb, hfull]
    rw [if_pos (by omega), hpush]
    exact newLine_cursor hput
  · refine ⟨_, hwb, ?_⟩
    have hpush : l.push b = l.putChar b := by
      simp [Layout.push, hb, hfull]
    rw [if_neg (by omega), hpush]
    exact ⟨hput, by simp [h.col], by simp; omega⟩

/-- Every byte `write_string` writes keeps `Cursor`. -/
theorem writeByte_cursor (h : Cursor w l) (b : UInt8) :
    ∃ w', writeByte w b = .ok w' ∧ Cursor w' (l.push b) := by
  by_cases hb : b = 0x0A
  · refine ⟨newLine w, by simp [writeByte, hb], ?_⟩
    rw [show l.push b = l.endLine by simp [Layout.push, hb]]
    exact newLine_cursor h.toShows
  · exact writeByte_char h hb

/-- A whole `write_string` keeps `Cursor`, laying its bytes out after the text before. -/
theorem writeString_cursor (bytes : List UInt8) (h : Cursor w l) :
    ∃ w', writeString w bytes = .ok w' ∧
      Cursor w' (bytes.foldl (fun l b => l.push (printable b)) l) := by
  induction bytes generalizing w l with
  | nil => exact ⟨w, rfl, h⟩
  | cons b bytes ih =>
    obtain ⟨w₁, h₁, hc₁⟩ := writeByte_cursor h (printable b)
    obtain ⟨w', h', hc'⟩ := ih hc₁
    refine ⟨w', ?_, hc'⟩
    simp only [writeString, List.foldlM_cons, h₁, bind, Except.bind]
    exact h'

end Step

/-- Nothing laid out shows a blank screen. -/
theorem Layout.screenChar_empty (r c : Nat) : (⟨[], []⟩ : Layout).screenChar r c = 0x20 := by
  unfold Layout.screenChar
  split
  · -- the only line is the empty line being written, on row 0
    have hr : r = 0 := by simp [Layout.base] at *; omega
    simp [hr, Layout.line, Layout.base]
  · rfl

/-- `clear_screen` from row and column 0 shows the empty layout. -/
theorem clearScreen_cursor {w : Writer} (hrow : w.row = 0) (hcol : w.col = 0) :
    Cursor (clearScreen w) ⟨[], []⟩ := by
  refine ⟨⟨by simp [hrow], fun r hr c hc => ?_⟩, by simp [hcol], by decide⟩
  rw [clearScreen_buffer w hr hc, clearScreen_defaultColor, Layout.screenChar_empty]

theorem writeString_append (w : Writer) (xs ys : List UInt8) :
    writeString w (xs ++ ys) = writeString w xs >>= fun w' => writeString w' ys := by
  simp only [writeString, List.foldlM_append]

/-- Writing pieces one after another is writing their concatenation. -/
theorem foldlM_writeString (pieces : List (List UInt8)) (w : Writer) :
    pieces.foldlM writeString w = writeString w pieces.flatten := by
  induction pieces generalizing w with
  | nil => rfl
  | cons p ps ih =>
    rw [List.foldlM_cons, List.flatten_cons, writeString_append]
    cases writeString w p with
    | error e => rfl
    | ok w₁ => exact ih w₁

/-- From a cleared screen with the cursor at the top left, any pieces written one after
another never index the buffer out of range: after every byte the row is below 25 and the
column below 80. At the end each cell shows the character of the layout of their
concatenation, the last 25 lines padded with blanks, and the cursor stands on the row of the
last line, after its text. -/
theorem write_string_renders_layout {w : Writer} (hrow : w.row = 0) (hcol : w.col = 0)
    (pieces : List (List UInt8)) :
    (∀ k ≤ pieces.flatten.length, ∃ w', writeString (clearScreen w) (pieces.flatten.take k) = .ok w' ∧
      w'.row < bufferHeight ∧ w'.col < bufferWidth) ∧
    ∃ w', pieces.foldlM writeString (clearScreen w) = .ok w' ∧
      (∀ r < bufferHeight, ∀ c < bufferWidth,
        (w'.buffer r c).char = (layout pieces.flatten).screenChar r c) ∧
      w'.row = min (layout pieces.flatten).lines.length (bufferHeight-1) ∧
      w'.col = (layout pieces.flatten).cur.length := by
  have h₀ := clearScreen_cursor hrow hcol
  refine ⟨fun k _ => ?_, ?_⟩
  · obtain ⟨w', hw', hc⟩ := writeString_cursor (pieces.flatten.take k) h₀
    exact ⟨w', hw', hc.row_lt, hc.col ▸ hc.short⟩
  · obtain ⟨w', hw', hc⟩ := writeString_cursor pieces.flatten h₀
    refine ⟨w', by rw [foldlM_writeString, hw'], fun r hr c hc' => ?_, hc.row, hc.col⟩
    rw [hc.cells r hr c hc']
    rfl

/-- "H", a byte that is not ASCII and a newline, written in two pieces on a new writer: the
cursor ends at the start of row 1, and row 0 shows "H?". -/
theorem write_string_renders_layout_two_pieces :
    ∃ w', [[0x48, 0xC3], [0x0A]].foldlM writeString (clearScreen (Writer.new fun _ _ => ⟨0, 0⟩)) =
      .ok w' ∧ (w'.buffer 0 1).char = 0x3F ∧ w'.row = 1 ∧ w'.col = 0 := by
  obtain ⟨-, w', h, hcells, hrow, hcol⟩ :=
    write_string_renders_layout (w := Writer.new fun _ _ => ⟨0, 0⟩) rfl rfl [[0x48, 0xC3], [0x0A]]
  refine ⟨w', h, ?_, ?_, ?_⟩
  · rw [hcells 0 (by decide) 1 (by decide)]
    decide
  · rw [hrow]
    decide
  · rw [hcol]
    decide

end LobsterOS.Vga
