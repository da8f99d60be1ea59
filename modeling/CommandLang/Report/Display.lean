/-
  CommandLang/Report/Display.lean
  ===============================
  **Showing messages and tables.**

  What can be shown depends on the devices at hand: a builder makes an object of a table, and a
  panel frames a message.  `showTable` and `showPanel` say which calls are made on the devices;
  `Console.perform` says what a call writes on a plain or on a boxed console.

  A boxed console is that of rich 13.7.1 with its usual settings, where the output is no terminal
  and is written in UTF-8: markup is rendered, emoji are put in place of their names and no colours
  are written.  How wide it is depends on where the program runs, and which emoji it has is left
  open (`Screen`).
-/
import CommandLang.Report.Box
import CommandLang.Report.Markup
import CommandLang.Report.Table

namespace CommandLang

/-! ### Messages -/

/-- Something to be shown: a text, or an object that is drawn in a way of its own. -/
inductive Message (α : Type) where
  | text (t : Text)
  | object (x : α)
deriving DecidableEq, Repr

/-- Whether a text holds the beginning of a closing tag; such a text is taken for markup. -/
def Markup.isMarkup : Text → Bool
  | [] => false
  | c :: t => (c == '[' && t.head? == some '/') || isMarkup t

def Message.isMarkup {α : Type} : Message α → Bool
  | text t => Markup.isMarkup t
  | object _ => false

/-! ### Calls -/

inductive Call (α : Type) where
  | build (table : Table) (style : Option Text)
  | report (message : α)
  | panel (message : α) (title style : Option Text)
deriving DecidableEq, Repr

/-- The devices at hand, beside the one that reports a message. -/
structure Devices where
  builder : Bool
  panel : Bool
deriving DecidableEq, Repr

/-- Shows a message in a panel, if there is one. -/
def Devices.showPanel {α : Type} (d : Devices) (message : α) (title style : Option Text) :
    List (Call α) :=
  if d.panel then [.panel message title style] else []

/-- A table that is made ready to be drawn in a style. -/
structure StyledTable where
  table : Table
  style : Option Text
deriving DecidableEq, Repr

/-- Shows a table: in its plain form if there is no builder, else as an object, which is put into a
    panel if that is asked for and there is one. -/
def Devices.showTable (d : Devices) (table : Table) (style : Option Text) (wrap : Bool) :
    List (Call (Message StyledTable)) :=
  if d.builder then
    .build table style ::
      if d.panel && wrap then d.showPanel (.object ⟨table, style⟩) table.title style
      else [.report (.object ⟨table, style⟩)]
  else [.report (.text table.plain)]

/-! ### Consoles -/

/-- What a boxed console writes on: its width, and the emoji it has. -/
structure Screen where
  width : Nat
  emoji : Markup.Emoji

/-- A screen of 120 columns without emoji. -/
def Screen.wide : Screen := ⟨120, .none⟩

/-- A plain console writes messages as they are; a boxed one renders markup and draws boxes. -/
inductive Console where
  | plain
  | boxed (screen : Screen := .wide)

namespace Console

def devices : Console → Devices
  | plain => ⟨false, false⟩
  | boxed _ => ⟨true, true⟩

inductive Error where
  | markup (e : Markup.Error)
  /-- A style that is asked for by name is none. -/
  | style (name : Text) (e : Style.Error)
deriving DecidableEq, Repr

/-- The wording of an error.  A number that cannot be read is a fault by itself. -/
def Error.message : Error → Text
  | markup e => e.message
  | style _ (.number e) => e.message
  | style name e => "Failed to get style " ++ name.quoted ++ "; " ++ e.message

/-- Brings what markup gives into what is written. -/
def ofMarkup {α : Type} (x : Except Markup.Error α) : Except Error α := x.mapError .markup

/-- Brings what is drawn into what is written. -/
def ofDrawing {α : Type} (x : Except Numeral.Error α) : Except Error α :=
  x.mapError fun e => .markup (.color e)

/-- Checks the style that is asked for, if one is. -/
def checkStyle (style : Option Text) : Except Error Unit :=
  match style with
  | none => .ok ()
  | some name => (Style.check name).mapError (.style name)

section Shown

variable (emoji : Markup.Emoji)

/-- What shows of a message; a text that is not taken for markup shows its tags. -/
def shownText (t : Text) : Except Markup.Error Passage :=
  Markup.render emoji (if Markup.isMarkup t then t else Markup.escape t)

/-- What shows of a cell: its tags always show. -/
def cell (t : Text) : Except Markup.Error Passage := Markup.render emoji (Markup.escape t)

/-- What shows of a title, if there is one; it is markup. -/
def shownTitle (title : Option Text) : Except Markup.Error (Option Passage) :=
  (Table.shownTitle? title).mapM (Markup.render emoji)

end Shown

/-! ### Tables -/

/-- A list made as long as is asked for. -/
def lengthened {α : Type} (filler : α) (n : Nat) (xs : List α) : List α :=
  xs ++ List.replicate (n - xs.length) filler

/-- The header and the rows of a table as they show, all with equally many cells. -/
structure Grid where
  header : List Passage
  rows : List (List Passage)
deriving DecidableEq, Repr

/-- As many columns as the longest row has cells. -/
def columnCount (table : Table) : Nat :=
  Columns.greatest (table.columns.length :: table.rows.map List.length)

/-- The room for the columns of a table where so much is available. -/
def columnRoom (available : Nat) (table : Table) : Nat :=
  available - Box.edgesWidth (columnCount table)

/-- What shows of a header, which is markup; where there is no room for more than padding, nothing
    is seen of it. -/
def shownHeader (emoji : Markup.Emoji) (room : Nat) (columns : List Text) :
    Except Markup.Error (List Passage) :=
  if room ≤ Columns.padding then .ok [] else columns.mapM (Markup.render emoji)

/-- What shows of a table whose columns have so much room. -/
def grid (emoji : Markup.Emoji) (room : Nat) (table : Table) : Except Markup.Error Grid := do
  let header ← shownHeader emoji room table.columns
  let rows ← table.rows.mapM fun row => row.mapM (cell emoji)
  let count := columnCount table
  return ⟨lengthened ⟨[], []⟩ count header, rows.map (lengthened ⟨[], []⟩ count)⟩

/-- The texts in a column. -/
def Grid.column (g : Grid) (j : Nat) : List Text :=
  (g.header :: g.rows).map fun row => (row[j]?.map Passage.text).getD []

/-- The widths of the columns in so much room. -/
def Grid.widths (room : Nat) (g : Grid) : List Nat :=
  Columns.widths room ((List.range g.header.length).map g.column)

/-- The lines of a table drawn as a grid where so much room is available.  A table without columns
    is an empty line. -/
def tableLines (emoji : Markup.Emoji) (available : Nat) (styled : StyledTable) :
    Except Error (List Text) :=
  let table := styled.table
  if columnCount table = 0 then .ok [[]]
  else do
    let room := columnRoom available table
    let g ← ofMarkup (grid emoji room table)
    let widths := g.widths room
    let title ← ofMarkup (shownTitle emoji table.title)
    let title ← ofDrawing (Box.gridTitle (Box.gridWidth widths) title)
    checkStyle styled.style
    return title ++ (← ofDrawing (Box.grid widths g.header g.rows))

/-! ### Messages -/

/-- The lines of a text where so much room is available. -/
def textLines (emoji : Markup.Emoji) (available : Nat) (t : Text) : Except Error (List Text) := do
  let p ← ofMarkup (shownText emoji t)
  ofDrawing (p.draw ⟨available, .ragged, .fold⟩)

/-- The lines of a message where so much room is available.  Without any room the message is not
    even looked at. -/
def messageLines (emoji : Markup.Emoji) (available : Nat) (message : Message StyledTable) :
    Except Error (List Text) :=
  if available = 0 then .ok []
  else
    match message with
    | .text t => textLines emoji available t
    | .object table => tableLines emoji available table

/-- The lines of a message that is reported: a text is looked at in any case. -/
def reportLines (screen : Screen) : Message StyledTable → Except Error (List Text)
  | .text t => textLines screen.emoji screen.width t
  | .object table => messageLines screen.emoji screen.width (.object table)

/-- The lines of a message in a panel. -/
def panelLines (screen : Screen) (message : Message StyledTable) (title style : Option Text) :
    Except Error (List Text) :=
  if screen.width = 0 then .ok []
  else do
    checkStyle style
    let title ← ofMarkup (shownTitle screen.emoji title)
    let lines ← messageLines screen.emoji (Box.panelWidth screen.width) message
    ofDrawing (Box.panel screen.width title lines)

/-! ### What a console writes -/

/-- A line without what lies beyond the edge of the screen. -/
def onScreen (width : Nat) (line : Text) : Text :=
  if line.cells ≤ width then line else line.fit width

/-- Lines as they are written, each with its end. -/
def written (lines : List Text) : Text := lines.flatMap fun line => line ++ "\n"

def perform : Console → Call (Message StyledTable) → Except Error Text
  | _, .build _ _ => .ok []
  | plain, .report (.text t) | plain, .panel (.text t) _ _ => .ok (written [t])
  | plain, .report (.object styled) | plain, .panel (.object styled) _ _ =>
    .ok (written [styled.table.plain])
  | boxed screen, .report message => do
    return written ((← reportLines screen message).map (onScreen screen.width))
  | boxed screen, .panel message title style => do
    return written ((← panelLines screen message title style).map (onScreen screen.width))

def performAll (console : Console) (calls : List (Call (Message StyledTable))) :
    Except Error Text := do
  return (← calls.mapM console.perform).flatten

def report (console : Console) (t : Text) : Except Error Text :=
  console.perform (.report (.text t))

def panel (console : Console) (t : Text) (title style : Option Text) : Except Error Text :=
  console.performAll (console.devices.showPanel (.text t) title style)

def table (console : Console) (t : Table) (style : Option Text) (wrap : Bool) :
    Except Error Text :=
  console.performAll (console.devices.showTable t style wrap)

/-- Writes a text that is framed where there are panels and reported where there are none. -/
def block (console : Console) (title t : Text) : Except Error Text :=
  if console.devices.panel then console.panel t (some title) none else console.report t

end Console

end CommandLang
