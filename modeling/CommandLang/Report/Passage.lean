/-
  CommandLang/Report/Passage.lean
  ===============================
  **Passages: text of which some stretches have a style.**

  A passage is laid out on lines of a limited width and then drawn.  Styles do not show where there
  is no colour, but a style that has a fault is noticed when the stretch is drawn: so stretches are
  followed through the layout, and those that are cut away do no harm.

    * `divide`       takes a passage apart;
    * `lines`        takes it apart at the ends of lines;
    * `wrap`         lays it out;
    * `draw`         gives the text of the lines, unless a style has a fault.

  Each of these does what rich 13.7.1 does with a text.
-/
import CommandLang.Report.Style
import CommandLang.Text.Wrap

namespace CommandLang

/-! ### Spans -/

/-- A stretch of a text, from one position up to another, and the name of its style. -/
structure Span where
  start : Nat
  stop : Nat
  style : Text
deriving DecidableEq, Repr

namespace Span

/-- The span in a text that has been put behind `n` characters. -/
def shift (n : Nat) (s : Span) : Span := { s with start := s.start + n, stop := s.stop + n }

/-- The part of the span between two positions, counted from the first, if anything is there. -/
def between? (start stop : Nat) (s : Span) : Option Span :=
  let first := s.start - start
  let last := min s.stop stop - start
  if first < last then some ⟨first, last, s.style⟩ else none

end Span

/-! ### Passages -/

/-- A text and its spans, in the order in which their styles are looked up. -/
structure Passage where
  text : Text
  spans : List Span := []
deriving DecidableEq, Repr

namespace Passage

def append (p q : Passage) : Passage :=
  ⟨p.text ++ q.text, p.spans ++ q.spans.map (·.shift p.text.length)⟩

/-- The part of a passage between two positions. -/
def between (start stop : Nat) (p : Passage) : Passage :=
  ⟨(p.text.take stop).drop start, p.spans.filterMap (·.between? start stop)⟩

/-- Takes a passage apart at some positions.  Without any, it stays as it is; else spans that hold
    no character are lost. -/
def divide (cuts : List Nat) (p : Passage) : List Passage :=
  if cuts.isEmpty then [p]
  else (List.zip (0 :: cuts) (cuts ++ [p.text.length])).map fun (a, b) => p.between a b

/-- Gives a passage another text.  Spans that begin beyond the end of a shorter text are lost. -/
def withText (t : Text) (p : Passage) : Passage :=
  if t.length < p.text.length then
    ⟨t, (p.spans.filter (·.start < t.length)).map fun s => { s with stop := min s.stop t.length }⟩
  else { p with text := t }

def prepend (t : Text) (p : Passage) : Passage := append ⟨t, []⟩ p

/-- Where lines begin and end, the first of which begins at `start`. -/
def lineBounds (start : Nat) : List Text → List (Nat × Nat)
  | [] => []
  | line :: rest =>
    (start, start + line.length) :: lineBounds (start + line.length + 1) rest

def lines (p : Passage) : List Passage :=
  match p.text.splitOn '\n' with
  | [_] => [p]
  | pieces => (lineBounds 0 pieces).map fun (a, b) => p.between a b

/-! ### Tabs -/

/-- The distance between the columns that tabs lead to. -/
def tabWidth : Nat := 8

/-- The parts of a line, each with the tab at its end. -/
def tabParts (p : Passage) : List Passage :=
  let cuts := (p.text.zipIdx.filter (·.1 == '\t')).map (·.2 + 1)
  let parts := p.divide cuts
  if p.text.getLast? = some '\t' then parts.dropLast else parts

/-- Puts spaces in place of the tabs, the first part beginning in a column.  Spans that reach the
    end of a part are drawn out over the spaces. -/
def expandParts (column : Nat) : List Passage → Passage
  | [] => ⟨[], []⟩
  | part :: rest =>
    let text : Text :=
      if part.text.getLast? = some '\t' then part.text.dropLast ++ [' '] else part.text
    let after := column + text.cells
    let missing :=
      if part.text.getLast? = some '\t' then (tabWidth - after % tabWidth) % tabWidth else 0
    let spans := part.spans.map fun s =>
      if text.length ≤ s.stop then { s with stop := s.stop + missing } else s
    append ⟨text ++ Text.spaces missing, spans⟩ (expandParts (after + missing) rest)

/-- A line with spaces in place of its tabs. -/
def expandTabs (p : Passage) : Passage :=
  if p.text.contains '\t' then expandParts 0 p.tabParts else p

/-! ### Layout -/

/-- Where the text of a line is put. -/
inductive Alignment where
  | ragged
  | left
  /-- In the middle, the odd space on the right. -/
  | centre
deriving DecidableEq, Repr

/-- What is done with a word that fits on no line. -/
inductive Overflow where
  | fold
  /-- It is cut off, with an ellipsis in place of the rest. -/
  | ellipsis
deriving DecidableEq, Repr

structure Layout where
  width : Nat
  alignment : Alignment := .ragged
  overflow : Overflow := .fold
deriving DecidableEq, Repr

/-- Cuts a line off that is too wide. -/
def truncate (layout : Layout) (p : Passage) : Passage :=
  if p.text.cells ≤ layout.width then p
  else
    match layout.overflow with
    | .fold => p.withText (p.text.fit layout.width)
    | .ellipsis => p.withText (p.text.fit (layout.width - 1) ++ ['…'])

/-- Takes blanks off the end of a line that has more than `size` characters, until it has not. -/
def trimEnd (size : Nat) (p : Passage) : Passage :=
  let blanks := p.text.length - p.text.trimRight.length
  p.withText (p.text.take (p.text.length - min blanks (p.text.length - size)))

/-- Puts the text of a line in its place. -/
def align (layout : Layout) (p : Passage) : Passage :=
  match layout.alignment with
  | .ragged => p
  | .left =>
    let p := p.truncate layout
    p.withText (p.text.fill layout.width)
  | .centre =>
    let p := (p.withText p.text.trimRight).truncate layout
    let p := p.prepend (Text.spaces ((layout.width - p.text.cells) / 2))
    p.withText (p.text.fill layout.width)

/-- Lays one line out on as many lines as it needs. -/
def wrapLine (layout : Layout) (p : Passage) : List Passage :=
  let p := p.expandTabs
  (p.divide (p.text.breaks layout.width (layout.overflow == .fold))).map fun line =>
    ((line.trimEnd layout.width).align layout).truncate layout

def wrap (layout : Layout) (p : Passage) : List Passage := p.lines.flatMap (·.wrapLine layout)

/-! ### Drawing -/

/-- Looks up the styles of some passages, one after another. -/
def checkStyles (ps : List Passage) : Except Numeral.Error Unit :=
  match (ps.flatMap Passage.spans).findSome? fun s => Style.fault? s.style with
  | some e => .error e
  | none => .ok ()

/-- The lines on which a passage is drawn.  Without any room nothing is drawn. -/
def draw (layout : Layout) (p : Passage) : Except Numeral.Error (List Text) :=
  if layout.width = 0 then .ok []
  else do
    let lines := p.wrap layout
    checkStyles lines
    return lines.map Passage.text

end Passage

end CommandLang
