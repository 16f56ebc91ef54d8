import Mathlib

/-! The VGA text writer of `display/vga_text.rs` over the 25 rows of 80 cells at `0xb8000`. -/

namespace LobsterOS.Vga

/-- `BUFFER_WIDTH`. -/
def bufferWidth : Nat := 80

/-- `BUFFER_HEIGHT`. -/
def bufferHeight : Nat := 25

/-- `ScreenChar`: a character and its `ColorCode`. -/
structure ScreenChar where
  char : UInt8
  color : UInt8
  deriving DecidableEq, Repr

/-- The fields of `Writer`, with the buffer it points at. -/
structure Writer where
  row : Nat
  col : Nat
  defaultColor : UInt8
  buffer : Nat → Nat → ScreenChar

/-- How the writer can stop: an index past the end of a row or of the buffer. -/
inductive Panic where
  | indexOutOfBounds (len index : Nat)
  deriving DecidableEq, Repr

/-- `ColorCode::new(Color::White, Color::Black, false)`. -/
def whiteOnBlack : UInt8 := 0x0F

/-- `Writer::new()` over the buffer's content. -/
def Writer.new (buffer : Nat → Nat → ScreenChar) : Writer := ⟨0, 0, whiteOnBlack, buffer⟩

/-- The buffer after a write of one cell. -/
def setCell (buffer : Nat → Nat → ScreenChar) (row col : Nat) (c : ScreenChar) :
    Nat → Nat → ScreenChar :=
  fun r c' => if r = row ∧ c' = col then c else buffer r c'

/-- `clear_row(row)`: a blank in the writer's colour at every column of the row. -/
def clearRow (w : Writer) (row : Nat) : Writer :=
  let empty : ScreenChar := ⟨0x20, w.defaultColor⟩
  { w with buffer := (List.range bufferWidth).foldl (fun b col => setCell b row col empty) w.buffer }

/-- `clear_screen()`. -/
def clearScreen (w : Writer) : Writer := (List.range bufferHeight).foldl clearRow w

/-- The scroll of `new_line`: every row from 1 on copied, cell by cell, to the row above. -/
def scrollUp (buffer : Nat → Nat → ScreenChar) : Nat → Nat → ScreenChar :=
  (List.range' 1 (bufferHeight-1)).foldl
    (fun b row => (List.range bufferWidth).foldl (fun b col => setCell b (row-1) col (b row col)) b)
    buffer

/-- `new_line()`: the next row, and at the bottom the screen moved up a row with the last
row cleared. -/
def newLine (w : Writer) : Writer :=
  let w := { w with row := w.row+1, col := 0 }
  if bufferHeight ≤ w.row then
    clearRow { w with row := bufferHeight-1, buffer := scrollUp w.buffer } (bufferHeight-1)
  else w

/-- `write_byte(byte)`. -/
def writeByte (w : Writer) (byte : UInt8) : Except Panic Writer :=
  if byte = 0x0A then .ok (newLine w)
  else if w.row < bufferHeight then
    if w.col < bufferWidth then
      let w := { w with buffer := setCell w.buffer w.row w.col ⟨byte, w.defaultColor⟩, col := w.col+1 }
      -- wrap at end of line
      .ok (if bufferWidth ≤ w.col then newLine w else w)
    else .error (.indexOutOfBounds bufferWidth w.col)
  else .error (.indexOutOfBounds bufferHeight w.row)

/-- The byte `write_string` writes for a byte of its string: printable ASCII and the newline
as they are, `?` for the rest. -/
def printable (byte : UInt8) : UInt8 :=
  if (0x20 ≤ byte ∧ byte ≤ 0x7E) ∨ byte = 0x0A then byte else 0x3F

/-- `write_string(string)`, over the string's bytes. -/
def writeString (w : Writer) (bytes : List UInt8) : Except Panic Writer :=
  bytes.foldlM (fun w b => writeByte w (printable b)) w

/-! ### The loops in closed form -/

theorem setCell_apply (buffer : Nat → Nat → ScreenChar) (row col : Nat) (c : ScreenChar)
    (r c' : Nat) : setCell buffer row col c r c' = if r = row ∧ c' = col then c else buffer r c' :=
  rfl

/-- A loop over the columns `0..n` of row `dst` writing, at each, a value that does not
depend on row `dst`: the row's first `n` cells get the values, and nothing else changes. -/
theorem foldl_setCell_row (dst : Nat) (v : (Nat → Nat → ScreenChar) → Nat → ScreenChar)
    (hv : ∀ b col c x, v (setCell b dst c x) col = v b col) (b : Nat → Nat → ScreenChar)
    (n : Nat) :
    (List.range n).foldl (fun b col => setCell b dst col (v b col)) b =
      fun r c => if r = dst ∧ c < n then v b c else b r c := by
  induction n with
  | zero =>
    funext r c
    simp
  | succ n ih =>
    -- the value written at column `n` is read from the buffer the first `n` writes left
    have hkeep : ∀ k, v ((List.range k).foldl (fun b col => setCell b dst col (v b col)) b) n =
        v b n := by
      intro k
      induction k with
      | zero => rfl
      | succ k ihk => rw [List.range_succ, List.foldl_append, List.foldl_cons, List.foldl_nil, hv, ihk]
    rw [List.range_succ, List.foldl_append, List.foldl_cons, List.foldl_nil, hkeep n, ih]
    funext r c
    simp only [setCell_apply]
    by_cases hr : r = dst
    · by_cases hc : c = n
      · simp [hr, hc]
      · have hlt : c < n+1 ↔ c < n := by omega
        simp [hr, hc, hlt]
    · simp [hr]

/-- `clear_row(row)`: the row's cells blank, the others as they were. -/
theorem clearRow_buffer (w : Writer) (row : Nat) :
    (clearRow w row).buffer = fun r c =>
      if r = row ∧ c < bufferWidth then ⟨0x20, w.defaultColor⟩ else w.buffer r c :=
  foldl_setCell_row row (fun _ _ => ⟨0x20, w.defaultColor⟩) (fun _ _ _ _ => rfl) w.buffer _

@[simp] theorem clearRow_row (w : Writer) (row : Nat) : (clearRow w row).row = w.row := rfl

@[simp] theorem clearRow_col (w : Writer) (row : Nat) : (clearRow w row).col = w.col := rfl

@[simp] theorem clearRow_defaultColor (w : Writer) (row : Nat) :
    (clearRow w row).defaultColor = w.defaultColor := rfl

/-- The scroll: each row above the last holds what the row below it held. -/
theorem scrollUp_apply (buffer : Nat → Nat → ScreenChar) (r c : Nat) :
    scrollUp buffer r c =
      if r < bufferHeight-1 ∧ c < bufferWidth then buffer (r+1) c else buffer r c := by
  -- after the rows `1..k` each row below `k` holds the one under it, and the rest is as it was
  have hrows : ∀ k, (List.range' 1 k).foldl
      (fun b row => (List.range bufferWidth).foldl (fun b col => setCell b (row-1) col (b row col)) b)
      buffer = fun r c => if r < k ∧ c < bufferWidth then buffer (r+1) c else buffer r c := by
    intro k
    induction k with
    | zero =>
      funext r c
      simp
    | succ k ih =>
      rw [List.range'_concat, List.foldl_append, List.foldl_cons, List.foldl_nil, ih]
      simp only [Nat.one_mul, Nat.add_sub_cancel_left]
      -- row `k+1` is copied to row `k`, reading a row the earlier copies left alone
      rw [foldl_setCell_row k (fun b col => b (1+k) col) (fun b col c x => if_neg (by omega))]
      funext r c
      by_cases hr : r = k
      · -- the row below is one the earlier copies have not reached
        have hbelow : ¬ (k+1 < k) := by omega
        simp [hr, hbelow, Nat.add_comm 1 k]
      · have hlt : r < k+1 ↔ r < k := by omega
        simp [hr, hlt]
  unfold scrollUp
  rw [hrows]

/-- `clear_screen()`: every cell blank. -/
theorem clearScreen_buffer (w : Writer) {r c : Nat} (hr : r < bufferHeight) (hc : c < bufferWidth) :
    (clearScreen w).buffer r c = ⟨0x20, w.defaultColor⟩ := by
  -- after the rows `0..k` every cell of them is blank, and the colour never changes
  have hrows : ∀ k, ((List.range k).foldl clearRow w).defaultColor = w.defaultColor ∧
      ∀ r c, r < k → c < bufferWidth → ((List.range k).foldl clearRow w).buffer r c =
        ⟨0x20, w.defaultColor⟩ := by
    intro k
    induction k with
    | zero => exact ⟨rfl, fun _ _ h => absurd h (Nat.not_lt_zero _)⟩
    | succ k ih =>
      obtain ⟨hcol, hcells⟩ := ih
      rw [List.range_succ, List.foldl_append, List.foldl_cons, List.foldl_nil]
      refine ⟨by rw [clearRow_defaultColor, hcol], fun r c hr hc => ?_⟩
      rw [clearRow_buffer]
      by_cases hrk : r = k
      · simp [hrk, hc, hcol]
      · simp only [hrk, false_and, if_false]
        exact hcells r c (by omega) hc
  exact (hrows bufferHeight).2 r c hr hc

/-- Clearing rows changes only the buffer. -/
theorem foldl_clearRow_fields (rows : List Nat) (w : Writer) :
    (rows.foldl clearRow w).row = w.row ∧ (rows.foldl clearRow w).col = w.col ∧
      (rows.foldl clearRow w).defaultColor = w.defaultColor := by
  induction rows generalizing w with
  | nil => exact ⟨rfl, rfl, rfl⟩
  | cons row rows ih => exact ih (clearRow w row)

@[simp] theorem clearScreen_row (w : Writer) : (clearScreen w).row = w.row :=
  (foldl_clearRow_fields _ w).1

@[simp] theorem clearScreen_col (w : Writer) : (clearScreen w).col = w.col :=
  (foldl_clearRow_fields _ w).2.1

@[simp] theorem clearScreen_defaultColor (w : Writer) :
    (clearScreen w).defaultColor = w.defaultColor :=
  (foldl_clearRow_fields _ w).2.2

/-! ### Colours -/

/-- `Color`. -/
inductive Color where
  | Black
  | Blue
  | Green
  | Cyan
  | Red
  | Magenta
  | Brown
  | LightGray
  | DarkGray
  | LightBlue
  | LightGreen
  | LightCyan
  | LightRed
  | Pink
  | Yellow
  | White
  deriving DecidableEq, Repr

/-- `color as u8`, the discriminant of `repr(u8)`. -/
def Color.toUInt8 : Color → UInt8
  | .Black => 0
  | .Blue => 1
  | .Green => 2
  | .Cyan => 3
  | .Red => 4
  | .Magenta => 5
  | .Brown => 6
  | .LightGray => 7
  | .DarkGray => 8
  | .LightBlue => 9
  | .LightGreen => 10
  | .LightCyan => 11
  | .LightRed => 12
  | .Pink => 13
  | .Yellow => 14
  | .White => 15

/-- `ColorCode::new(foreground, background, blink)`. -/
def ColorCode.new (foreground background : Color) (blink : Bool) : UInt8 :=
  background.toUInt8 <<< 4 ||| foreground.toUInt8 ||| (if blink then (1 : UInt8) else 0) <<< 7

/-- `set_color(color)`. -/
def Writer.setColor (w : Writer) (color : UInt8) : Writer := { w with defaultColor := color }

/-- The colour `Writer::new` starts with. -/
theorem whiteOnBlack_eq : whiteOnBlack = ColorCode.new .White .Black false := by decide

example : ColorCode.new .Black .White true = ColorCode.new .Black .White false := by decide

end LobsterOS.Vga
