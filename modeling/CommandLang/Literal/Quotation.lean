/-
  CommandLang/Literal/Quotation.lean
  ==================================
  **Quotations in expressions.**

  A quotation stands for a text or, after a `b`, for bytes.  After an `f` it is a form: in curly
  brackets it holds fields, which are expressions, and brackets that are to show are written twice.
  A field may go on with `=`, with `!` and a letter, and with `:` and a format, which may have
  fields of its own.  After an `r` backslashes are ordinary characters, and else they begin escapes.

  Only what is wrong with a quotation counts here, and not what it says; in an escape, letters and
  digits pass for the name of a character.  Quotations that stand side by side are one
  (`Quotation.join`).  Their fields are found but not read.
-/
import CommandLang.Literal.Node
import CommandLang.Literal.Token

namespace CommandLang.Literal

/-! ### Escapes -/

/-- The escapes that give a character by its number: their letter, how many digits follow it and
    what is said if there are fewer. -/
def numberEscapes : List (Char × Nat × Text) :=
  [('x', 2, "truncated \\xXX escape"), ('u', 4, "truncated \\uXXXX escape"),
   ('U', 8, "truncated \\UXXXXXXXX escape")]

/-- A text in ASCII, in which positions are counted: characters beyond it are written as escapes,
    and so are backslashes before one of them and at the end. -/
def inAscii : Text → Text
  | [] => []
  | ['\\'] => "\\u005c"
  | '\\' :: c :: t =>
    if c.toNat < 0x80 then '\\' :: c :: inAscii t else ("\\u005c" : Text) ++ inAscii (c :: t)
  | c :: t =>
    (if c.toNat < 0x80 then [c] else ("\\U" : Text) ++ Text.hexCode 8 c.toNat) ++ inAscii t

/-- A character that may stand in the name of one. -/
def isOfCharacterName (c : Char) : Bool := c.isAlphanum || c == ' ' || c == '-'

/-- Checks the escape of a name; `t` begins after its `N`. -/
def checkNameEscape (position : Nat) (t : Text) : Except Fault Unit :=
  let reason : Text := "malformed \\N character escape"
  match t with
  | '\x7b' :: t =>
    let name := t.takeWhile (· ≠ '\x7d')
    let last := position + 2 + name.length
    if name.length = t.length || name.isEmpty then .error (.badEscape position last reason)
    else if name.all isOfCharacterName then .ok ()
    else .error (.badEscape position (last + 1) "unknown Unicode character name")
  | _ => .error (.badEscape position (position + 1) reason)

/-- Checks the escapes of a text in ASCII that begins at a position. -/
def checkEscapesFrom (position : Nat) : Text → Except Fault Unit
  | '\\' :: c :: t => do
    match numberEscapes.lookup c with
    | some (digits, reason) =>
      let given := (t.take digits).takeWhile Radix.hexadecimal.isDigit
      if given.length < digits then
        throw (.badEscape position (position + 1 + given.length) reason)
      if 0x10FFFF < digitsValue 16 given then
        throw (.badEscape position (position + 1 + digits) "illegal Unicode character")
    | none => if c = 'N' then checkNameEscape position t
    checkEscapesFrom (position + 2) t
  | _ :: t => checkEscapesFrom (position + 1) t
  | [] => .ok ()

def checkEscapes (t : Text) : Except Fault Unit := checkEscapesFrom 0 (inAscii t)

/-- Checks the escapes of bytes that begin at a position. -/
def checkByteEscapes (position : Nat) : Text → Except Fault Unit
  | '\\' :: c :: t => do
    if c = 'x' && ((t.take 2).filter Radix.hexadecimal.isDigit).length < 2 then
      throw (.badByteEscape position)
    checkByteEscapes (position + 2) t
  | _ :: t => checkByteEscapes (position + 1) t
  | [] => .ok ()

/-! ### Quotations -/

inductive Quotation.Kind where
  | text
  | bytes
  | form
deriving DecidableEq, Repr

/-- A quotation: what it stands for, whether its backslashes are ordinary characters, the line it
    begins on and what stands between its marks. -/
structure Quotation where
  kind : Quotation.Kind
  raw : Bool
  line : Nat
  body : Text
deriving DecidableEq, Repr

/-- What stands between the marks of a quotation. -/
def betweenMarks : Text → Text
  | a :: b :: c :: t =>
    if a = b && b = c && 3 ≤ t.length then t.take (t.length - 3) else (b :: c :: t).dropLast
  | t => (t.drop 1).dropLast

def Quotation.ofToken (token : Token) : Quotation :=
  let letters := (token.text.takeWhile Char.isAlpha).map Char.toLower
  let kind := if letters.contains 'b' then .bytes else if letters.contains 'f' then .form else .text
  ⟨kind, letters.contains 'r', token.line, betweenMarks (token.text.drop letters.length)⟩

namespace Quotation

/-! ### Forms -/

/-- The characters that end a literal part or stand for themselves when they are written twice. -/
def isBrace (c : Char) : Bool := c == '\x7b' || c == '\x7d'

/-- Where the reading of a literal part stands. -/
inductive Within where
  | plain
  | escape
  /-- After the letter of an escape that gives a character by its name. -/
  | nameEscape
  | name
deriving DecidableEq, Repr

/-- Where the reading stands after a character that is kept. -/
def Within.next (raw : Bool) (within : Within) (c : Char) : Within :=
  match within with
  | plain => if c = '\\' && !raw then escape else plain
  | escape => if c = 'N' then nameEscape else plain
  | nameEscape => if c = '\x7b' then name else plain
  | name => if c = '\x7d' then plain else name

structure LiteralPart where
  written : Text
  rest : Text
  /-- Whether a bracket that is written twice has ended the part. -/
  doubled : Bool := false
deriving DecidableEq, Repr

/-- Ends a literal part at a bracket.  In a format no bracket is written twice. -/
def LiteralPart.ofBrace (format : Bool) (c : Char) (t : Text) : Except Fault LiteralPart :=
  if format then .ok ⟨[], c :: t, false⟩
  else if t.head? = some c then .ok ⟨[c], t.drop 1, true⟩
  else if c = '\x7d' then .error .formLoneBrace
  else .ok ⟨[], c :: t, false⟩

/-- The literal part at the head of a text. -/
def LiteralPart.read (raw format : Bool) (within : Within) : Text → Except Fault LiteralPart
  | [] => .ok ⟨[], [], false⟩
  | c :: t =>
    if isBrace c && (within = .plain || within = .escape) then LiteralPart.ofBrace format c t
    else do
      let part ← read raw format (within.next raw c) t
      return { part with written := c :: part.written }

structure InField where
  passing : Nat := 0
  /-- The mark of the quotation around, and whether three of them end it. -/
  quote : Option (Char × Bool) := none
  /-- The parentheses that are open, the innermost first. -/
  opened : List Char := []
deriving DecidableEq, Repr

namespace InField

/-- Passes a mark of quotations, which `t` follows. -/
def afterMark (state : InField) (mark : Char) (t : Text) : InField :=
  let triple := t.take 2 == [mark, mark]
  match state.quote with
  | none => { state with quote := some (mark, triple), passing := if triple then 2 else 0 }
  | some (_, false) => { state with quote := none }
  | some (_, true) => if triple then { state with quote := none, passing := 2 } else state

def afterClosing (state : InField) (c : Char) : Except Fault InField :=
  match state.opened with
  | [] => .error (.formUnmatched c)
  | opening :: outer =>
    if Cursor.closing opening = c then .ok { state with opened := outer }
    else .error (.formMismatched c opening)

/-- Whether a field's expression may end before `c`, which `t` follows: the signs for comparisons do
    not end it. -/
def mayEnd (state : InField) (c : Char) (t : Text) : Bool :=
  state.quote.isNone && state.opened.isEmpty && ['!', ':', '\x7d', '='].contains c &&
    !(['!', '='].contains c && t.head? == some '=')

def after (state : InField) (c : Char) (t : Text) : Except Fault InField :=
  if c = '\\' then .error .formBackslash
  else
    match state.quote with
    | some (mark, _) => .ok (if c = mark then state.afterMark mark t else state)
    | none =>
      if c = '"' || c = '\'' then .ok (state.afterMark c t)
      else if ['(', '[', '\x7b'].contains c then
        if deepest ≤ state.opened.length then .error .formTooDeep
        else .ok { state with opened := c :: state.opened }
      else if c = '#' then .error .formComment
      else if [')', ']', '\x7d'].contains c then state.afterClosing c
      else if state.opened.isEmpty && ['!', '=', '<', '>'].contains c && t.head? == some '=' then
        .ok { state with passing := 1 }
      else .ok state

/-- The end of the text is no place for a field to end at. -/
def faultAtEnd (state : InField) : Fault :=
  match state.quote, state.opened with
  | some _, _ => .formQuotation
  | none, opening :: _ => .formUnmatched opening
  | none, [] => .formUnclosed

end InField

/-- The expression of a field and what follows it. -/
def fieldPart (state : InField) : Text → Except Fault (Text × Text)
  | [] => .error state.faultAtEnd
  | c :: t =>
    if 0 < state.passing then do
      let part ← fieldPart { state with passing := state.passing - 1 } t
      return (c :: part.1, part.2)
    else if state.mayEnd c t then .ok ([], c :: t)
    else do
      let part ← fieldPart (← state.after c t) t
      return (c :: part.1, part.2)

/-- The line of a form on which its rest begins. -/
def lineOf (q : Quotation) (rest : Text) : Nat :=
  q.line + (q.body.take (q.body.length - rest.length)).count '\n'

/-- A field of a form: its expression and the line on which that begins. -/
structure Field where
  line : Nat
  expression : Text
deriving DecidableEq, Repr

/-- Finds fields, the last one first, up to a fault. -/
abbrev Find := ExceptT Fault (StateM (List Field))

/-- Keeps a field with an expression, which stands before `rest`. -/
def keep (field : Field) (rest : Text) : Find Unit :=
  if field.expression.all fun c => [' ', '\t', '\n', '\x0C'].contains c then
    match rest with
    | c :: _ => throw (if c = '\x7d' then .formEmpty else .formMissing c)
    | [] => throw .formEmpty
  else modify (field :: ·)

/-- What follows the `=` of a field, if it has one. -/
def afterEquals : Text → Text
  | '=' :: t => t.dropWhile fun c => [' ', '\t', '\n', '\x0B', '\x0C', '\r'].contains c
  | t => t

/-- What follows the `!` of a field and its letter, if it has them. -/
def afterConversion : Text → Except Fault Text
  | '!' :: c :: t => if ['s', 'r', 'a'].contains c then .ok t else .error .formConversion
  | ['!'] => .error .formUnclosed
  | t => .ok t

/-- Finds the fields of a form, or of a format within so many fields, in so many steps at most, and
    gives what follows the form. -/
def findFields (q : Quotation) (within : Nat) (t : Text) : Nat → Find Text
  | 0 => return t
  | steps + 1 => do
    let part ← LiteralPart.read q.raw (0 < within) .plain t
    if !q.raw then checkEscapes part.written
    if part.doubled then findFields q within part.rest steps
    else
      match part.rest with
      | '\x7b' :: t =>
        if 2 ≤ within then throw .formNested
        let (expression, rest) ← fieldPart {} t
        keep ⟨q.lineOf part.rest, expression⟩ rest
        match ← afterConversion (afterEquals rest) with
        | ':' :: t =>
          match ← findFields q (within + 1) t steps with
          | '\x7d' :: t => findFields q within t steps
          | _ => throw .formUnclosed
        | '\x7d' :: t => findFields q within t steps
        | _ => throw .formUnclosed
      | rest => return rest

/-! ### Quotations as a whole -/

def checkPlain (q : Quotation) : Except Fault Unit := do
  match q.kind with
  | .bytes =>
    if q.body.any (0x80 ≤ ·.toNat) then throw .bytesBeyondAscii
    if !q.raw then checkByteEscapes 0 q.body
  | .text => if !q.raw then checkEscapes q.body
  | .form => return

/-- Checks a quotation that stands beside others, and finds its fields. -/
def addBeside (bytes : Bool) (q : Quotation) : Find Unit := do
  q.checkPlain
  if (q.kind == .bytes) != bytes then throw .mixedQuotations
  if q.kind == .form then
    let _ ← q.findFields 0 q.body (2 * q.body.length + 2)

/-- What quotations that stand side by side are: all of them are bytes, or none.  The fields come
    before the fault, if there is one. -/
def join (tokens : List Token) : Except Fault Node × List Field :=
  let quotations := tokens.map ofToken
  let bytes := quotations.head?.any (·.kind == .bytes)
  let (found, fields) := (quotations.forM (addBeside bytes)).run.run []
  let node :=
    if bytes then .bytes else if quotations.any (·.kind == .form) then .form else .text
  (found.map fun _ => node, fields.reverse)

end Quotation

end CommandLang.Literal
