/-
  CommandLang/Report/Table.lean
  =============================
  **Tables of text, and their plain form.**

  In the plain form every row is one line with its cells side by side, whatever their widths.
-/
import CommandLang.Builtin
import CommandLang.Outcome

namespace CommandLang

/-- A table; its rows may be longer or shorter than the header. -/
structure Table where
  title : Option Text
  columns : List Text
  rows : List (List Text)
deriving DecidableEq, Repr

namespace Table

/-- The title that is shown; an empty title is none. -/
def shownTitle? (title : Option Text) : Option Text := title.filter (· ≠ [])

def plainRow (cells : List Text) : Text := Text.join " | " cells

/-- The title if there is one, the header, a rule as long as the header, and the rows. -/
def plain (table : Table) : Text :=
  let header := plainRow table.columns
  Text.join "\n" ((shownTitle? table.title).toList ++
    [header, List.replicate header.length '-'] ++ table.rows.map plainRow)

end Table

/-! ### The tables of the program -/

/-- A text, or a dash in its place if it is empty. -/
def orDash (t : Text) : Text := if t.isEmpty then "-" else t

def catalogColumns : List Text := ["Id", "Name", "Description", "Args"]

/-- The row of a command: its id, its name, its description and the names of its arguments. -/
def Vocabulary.row (v : Vocabulary) (c : Command) : List Text :=
  [Numeral.write c.id, c.name, c.description,
    orDash (Text.join ", " ((v.specsFor c.id).map Spec.name))]

def Vocabulary.table (v : Vocabulary) : Table :=
  ⟨some "Commands", catalogColumns, v.commands.map v.row⟩

def outcomeColumns : List Text := ["Definition", "Result", "Id", "Detail"]

/-- The row of an outcome: the definition, `ok` or the code of the refusal, the id and the text. -/
def Outcome.row (o : Outcome) : List Text :=
  [o.definition, if o.isAccepted then "ok" else o.code, Numeral.write o.id, orDash o.text]

/-- The table of the outcomes of several definitions. -/
def Outcome.table (outcomes : List Outcome) : Table :=
  ⟨some "Definitions", outcomeColumns, outcomes.map Outcome.row⟩

end CommandLang
