/-
  CommandLang/Literal/Token.lean
  ==============================
  **The tokens of an expression.**

  Tokens are names, fixed words and signs, numbers and quotations.  Outside of parentheses also the
  ends of lines count, and the indents of lines that are not blank.  A low line, a letter or any
  character beyond ASCII begins a name; whether a name is well formed is tested when it has been
  read.

  A text that cannot be taken apart to its end still has the tokens before that place
  (`Tokens.ofText`), because something else may be found wrong first.
-/
import CommandLang.Literal.Number
import CommandLang.Text.Letter

namespace CommandLang.Literal

/-! ### Tokens -/

inductive Token.Kind where
  | name
  /-- A sign, or a word that is no name. -/
  | fixed
  | number
  | quotation
  | lineEnd
  | indent
  | dedent
  | finish
deriving DecidableEq, Repr

/-- A token: how it is written, the line it begins on and the number of parentheses that are open
    after it. -/
structure Token where
  kind : Token.Kind
  text : Text
  line : Nat
  depth : Nat
deriving DecidableEq, Repr

inductive Ending where
  | complete
  | refused (fault : Fault)
  /-- The text breaks off or goes wrong between two tokens; the innermost parenthesis that is open
      there is known by the line of its token. -/
  | broken (fault : Fault) (opening : Option (Char × Nat))
deriving DecidableEq, Repr

/-- The tokens of a text and how they end. -/
structure Tokens where
  tokens : List Token
  ending : Ending
deriving DecidableEq, Repr

def fixedWords : List String :=
  ["False", "None", "True", "and", "as", "assert", "async", "await", "break", "class", "continue",
   "def", "del", "elif", "else", "except", "finally", "for", "from", "global", "if", "import", "in",
   "is", "lambda", "nonlocal", "not", "or", "pass", "raise", "return", "try", "while", "with",
   "yield"]

/-- The signs of more than one character, the longest first. -/
def longSigns : List Text :=
  ["...", "**=", "//=", "<<=", ">>=", "!=", "%=", "&=", "**", "*=", "+=", "-=", "->", "//", "/=",
   ":=", "<<", "<=", "<>", "==", ">=", ">>", "@=", "^=", "|="]

/-- The letters that may stand before a quotation. -/
def quotationMarks : List Text := ["", "b", "r", "u", "f", "br", "rb", "fr", "rf"]

def deepest : Nat := 200

def deepestIndent : Nat := 100

/-! ### Reading tokens -/

structure Cursor where
  rest : Text
  line : Nat
  atLineStart : Bool := true
  /-- The indents of the lines around, the innermost first: the column with wide and with narrow
      tabs. -/
  indents : List (Nat × Nat) := []
  /-- The tokens for indents that are still to be given; dedents count as negative. -/
  owed : Int := 0
  /-- The parentheses that are open and their lines, the innermost first. -/
  opened : List (Char × Nat) := []
deriving DecidableEq, Repr

namespace Cursor

def broken (c : Cursor) (fault : Fault) : Ending := .broken fault c.opened.head?

def breakOff (c : Cursor) : Ending :=
  match c.opened with
  | [] => c.broken .unexpectedEnd
  | (opening, _) :: _ => c.broken (.neverClosed opening)

/-- The cursor after a backslash that has been read. -/
def continueLine (c : Cursor) (t : Text) : Except Ending Cursor :=
  match t with
  | ['\n'] => .error c.breakOff
  | '\n' :: t => .ok { c with rest := t, line := c.line + 1 }
  | _ => .error (c.broken .afterBackslash)

/-- The width of the margin of a line. -/
structure Margin where
  column : Nat := 0
  narrow : Nat := 0
  /-- The column of the first backslash, or 0. -/
  continued : Nat := 0

def readMargin (c : Cursor) (m : Margin) : Nat → Except Ending (Cursor × Margin)
  | 0 => .ok (c, m)
  | steps + 1 =>
    match c.rest with
    | ' ' :: t =>
      readMargin { c with rest := t }
        { m with column := m.column + 1, narrow := m.narrow + 1 } steps
    | '\t' :: t =>
      readMargin { c with rest := t }
        { m with column := (m.column / 8 + 1) * 8, narrow := m.narrow + 1 } steps
    | '\x0C' :: t => readMargin { c with rest := t } { m with column := 0, narrow := 0 } steps
    | '\\' :: t => do
      let c ← c.continueLine t
      readMargin c { m with continued := if m.continued = 0 then m.column else m.continued } steps
    | _ => .ok (c, m)

/-- Compares the margin of a line with those around it. -/
def compareMargin (c : Cursor) (m : Margin) : Except Ending Cursor :=
  let column := if m.continued = 0 then m.column else m.continued
  let narrow := if m.continued = 0 then m.narrow else m.continued
  let indent := c.indents.headD (0, 0)
  if column = indent.1 then
    if narrow = indent.2 then .ok c else .error (c.broken .mixedIndents)
  else if indent.1 < column then
    if deepestIndent ≤ c.indents.length + 1 then .error (c.broken .tooManyIndents)
    else if narrow ≤ indent.2 then .error (c.broken .mixedIndents)
    else .ok { c with indents := (column, narrow) :: c.indents, owed := c.owed + 1 }
  else
    let outer := c.indents.dropWhile fun i => column < i.1
    let indent := outer.headD (0, 0)
    if column ≠ indent.1 then .error (c.broken .unknownIndent)
    else if narrow ≠ indent.2 then .error (c.broken .mixedIndents)
    else .ok { c with indents := outer, owed := c.owed - (c.indents.length - outer.length : Nat) }

/-- Reads the margin of a line; tells whether the line is blank. -/
def beginLine (c : Cursor) : Except Ending (Cursor × Bool) := do
  if !c.atLineStart then return (c, false)
  let (c, m) ← readMargin { c with atLineStart := false } {} (c.rest.length + 1)
  let blank := c.rest.head? == some '#' || c.rest.head? == some '\n'
  if blank || !c.opened.isEmpty then return (c, blank)
  return (← c.compareMargin m, false)

inductive Step where
  | token (t : Token) (next : Cursor)
  /-- Something that is no token has been passed over. -/
  | pass (next : Cursor)
  | stop (ending : Ending)

/-- Gives a token that ends where `rest` begins. -/
def give (c : Cursor) (kind : Token.Kind) (rest : Text) : Step :=
  let text := c.rest.take (c.rest.length - rest.length)
  .token ⟨kind, text, c.line, c.opened.length⟩
    { c with rest := rest, line := c.line + text.count '\n' }

/-- Gives a name or a fixed word, if all its characters may stand in a name. -/
def giveName (c : Cursor) : Step :=
  let name := c.rest.takeWhile mayBeInName
  let wrong? := match name with
    | first :: others =>
      if isNameStart first then others.find? (!isNameChar ·) else some first
    | [] => none
  match wrong? with
  | some x => .stop (.refused (.badCharacter x))
  | none =>
    let kind := if fixedWords.any (·.toList == name) then .fixed else .name
    c.give kind (c.rest.drop name.length)

def afterQuotation (quote : Char) : Text → Option Text
  | [] => none
  | '\\' :: _ :: t => afterQuotation quote t
  | c :: t => if c = quote then some t else if c = '\n' then none else afterQuotation quote t

/-- What follows a quotation that ends with three marks, `marks` of which have just been read. -/
def afterLongQuotation (quote : Char) (marks : Nat) : Text → Option Text
  | [] => none
  | c :: t =>
    if c = quote then if marks = 2 then some t else afterLongQuotation quote (marks + 1) t
    else
      match c, t with
      | '\\', _ :: t => afterLongQuotation quote 0 t
      | _, t => afterLongQuotation quote 0 t

/-- The line on which it is found that a text does not go on. -/
def lastLine (c : Cursor) (t : Text) : Nat :=
  let ends := t.count '\n'
  c.line + if t.getLast? = some '\n' then ends - 1 else ends

/-- The part of a text in which the end of a quotation on one line is looked for in vain. -/
def openLine : Text → Text
  | [] => []
  | '\\' :: c :: t => '\\' :: c :: openLine t
  | c :: t => if c = '\n' then [c] else c :: openLine t

/-- Gives a quotation; `t` begins after its first quotation mark. -/
def giveQuotation (c : Cursor) (quote : Char) (t : Text) : Step :=
  match t with
  | a :: b :: t =>
    if a = quote && b = quote then
      match afterLongQuotation quote 0 t with
      | some rest => c.give .quotation rest
      | none => .stop (.refused (.unterminated true (c.lastLine t)))
    else giveShort (a :: b :: t)
  | t => giveShort t
where
  giveShort (t : Text) : Step :=
    match afterQuotation quote t with
    | some rest => c.give .quotation rest
    | none => .stop (.refused (.unterminated false (c.lastLine (openLine t))))

def closing : Char → Char
  | '(' => ')'
  | '[' => ']'
  | _ => '\x7d'

def giveSign (c : Cursor) (x : Char) (t : Text) : Step :=
  match longSigns.find? (fun sign => c.rest.take sign.length == sign) with
  | some sign => c.give .fixed (c.rest.drop sign.length)
  | none =>
    if ['(', '[', '\x7b'].contains x then
      if deepest ≤ c.opened.length then .stop (.refused .tooDeep)
      else { c with opened := (x, c.line) :: c.opened }.give .fixed t
    else if [')', ']', '\x7d'].contains x then
      match c.opened with
      | [] => .stop (.refused (.unmatched x))
      | (opening, line) :: outer =>
        if closing opening = x then { c with opened := outer }.give .fixed t
        else
          let other := if line = c.line then none else some line
          .stop (.refused (.mismatched x opening other))
    else if !isPrintable x then .stop (.refused (.badCharacter x))
    else c.give .fixed t

def giveNumber (c : Cursor) : Step :=
  match afterNumber c.rest with
  | .ok rest => c.give .number rest
  | .error fault => .stop (.refused fault)

/-- The letters before a quotation and its quotation mark, if a text begins with a quotation. -/
def quotationStart? (t : Text) : Option (Text × Char) :=
  quotationMarks.findSome? fun letters =>
    match t.drop letters.length with
    | c :: _ =>
      if (t.take letters.length).map Char.toLower == letters && (c = '"' || c = '\'') then
        some (letters, c)
      else none
    | [] => none

/-- Gives the token at which the cursor stands, spaces and comments having been passed over. -/
def giveToken (c : Cursor) (blank : Bool) : Step :=
  match c.rest with
  | [] =>
    if c.opened.isEmpty then .token ⟨.finish, [], c.line, 0⟩ c else .stop c.breakOff
  | x :: t =>
    match quotationStart? c.rest with
    | some (letters, quote) => c.giveQuotation quote (t.drop letters.length)
    | none =>
      if mayBeInName x && !x.isDigit then c.giveName
      else if x = '\n' then
        if blank || !c.opened.isEmpty then
          .pass { c with rest := t, line := c.line + 1, atLineStart := true }
        else { c with atLineStart := true }.give .lineEnd t
      else if x.isDigit || (x = '.' && t.head?.any Char.isDigit) then c.giveNumber
      else if x = '\\' then
        match c.continueLine t with
        | .ok c => .pass c
        | .error ending => .stop ending
      else c.giveSign x t

def afterSpaces (t : Text) : Text :=
  let t := t.dropWhile fun c => c = ' ' || c = '\t' || c = '\x0C'
  if t.head? = some '#' then t.dropWhile (· ≠ '\n') else t

def step (c : Cursor) : Step :=
  match c.beginLine with
  | .error ending => .stop ending
  | .ok (c, blank) =>
    if c.owed < 0 then .token ⟨.dedent, [], c.line, 0⟩ { c with owed := c.owed + 1 }
    else if 0 < c.owed then .token ⟨.indent, [], c.line, 0⟩ { c with owed := c.owed - 1 }
    else { c with rest := afterSpaces c.rest }.giveToken blank

/-- Reads tokens in so many steps at most. -/
def read (c : Cursor) : Nat → Tokens
  | 0 => ⟨[], .complete⟩
  | steps + 1 =>
    match c.step with
    | .stop ending => ⟨[], ending⟩
    | .pass c => read c steps
    | .token t c =>
      if t.kind = .finish then ⟨[t], .complete⟩
      else
        let others := read c steps
        ⟨t :: others.tokens, others.ending⟩

end Cursor

/-- The text with all ends of lines written as line feeds. -/
def unifyLines : Text → Text
  | '\r' :: '\n' :: t => '\n' :: unifyLines t
  | '\r' :: t => '\n' :: unifyLines t
  | c :: t => c :: unifyLines t
  | [] => []

/-- The tokens of a text that begins on a line. -/
def Tokens.ofText (line : Nat) (t : Text) : Tokens :=
  let t := unifyLines t
  Cursor.read { rest := t, line := line } (3 * t.length + 3)

end CommandLang.Literal
