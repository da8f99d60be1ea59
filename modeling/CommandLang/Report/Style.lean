/-
  CommandLang/Report/Style.lean
  =============================
  **Styles and their names.**

  A style is named by words.  Each word, or pair of words, says one thing:

      bold   not bold   red   on red   link address

  Attributes have short forms (`b` for `bold`).  If the same thing is said twice, the last counts,
  and the order is free otherwise.  So a style has many names, and `canonicalName` gives the one
  that stands for all of them.  A text that names no style stands for itself, in small letters.

  Whoever asks for a style by a name that is none is told why (`check`).  In markup such a name is
  passed over, unless a colour in it has a part that is no number (`fault?`).  The names and the
  reasons are those of rich 13.7.1.
-/
import CommandLang.Color.Name
import CommandLang.Text.Lower

namespace CommandLang

/-! ### Attributes -/

/-- What can be said about letters beside their colours. -/
inductive Attribute where
  | bold
  | dim
  | italic
  | underline
  | blink
  | blink2
  | reverse
  | conceal
  | strike
  | underline2
  | frame
  | encircle
  | overline
deriving DecidableEq, Repr

namespace Attribute

def label : Attribute → Text
  | bold => "bold"
  | dim => "dim"
  | italic => "italic"
  | underline => "underline"
  | blink => "blink"
  | blink2 => "blink2"
  | reverse => "reverse"
  | conceal => "conceal"
  | strike => "strike"
  | underline2 => "underline2"
  | frame => "frame"
  | encircle => "encircle"
  | overline => "overline"

/-- All attributes, in the order in which a canonical name has them. -/
def all : List Attribute :=
  [bold, dim, italic, underline, blink, blink2, reverse, conceal, strike, underline2, frame,
    encircle, overline]

/-- The short forms of the words for attributes. -/
def shortForms : List (Text × Attribute) :=
  [("b", bold), ("d", dim), ("i", italic), ("u", underline), ("r", reverse), ("c", conceal),
    ("s", strike), ("uu", underline2), ("o", overline)]

def ofWord? (word : Text) : Option Attribute :=
  all.find? (·.label == word) <|> shortForms.lookup word

end Attribute

/-! ### Styles -/

/-- A style: attributes that are on or off, colours of the letters and of the ground behind them,
    and an address. -/
structure Style where
  /-- What is said about attributes, the latest first. -/
  attributes : List (Attribute × Bool) := []
  color : Option Text := none
  ground : Option Text := none
  link : Option Text := none
deriving DecidableEq, Repr

namespace Style

def set (s : Style) (a : Attribute) (on : Bool) : Style :=
  { s with attributes := (a, on) :: s.attributes }

inductive Error where
  | noGround
  | badGround (word : Text) (e : Color.Refusal)
  /-- What follows `not` is no attribute; it may be nothing. -/
  | notAttribute (word : Text)
  | noAddress
  | badColor (word : Text) (e : Color.Refusal)
  /-- A part of a colour is no number. -/
  | number (e : Numeral.Error)
deriving DecidableEq, Repr

def Error.message : Error → Text
  | noGround => "color expected after 'on'"
  | badGround word e =>
    "unable to parse " ++ word.quoted ++ " as background color; " ++ e.message word
  | notAttribute word => "expected style attribute after 'not', found " ++ word.quoted
  | noAddress => "URL expected after 'link'"
  | badColor word e => "unable to parse " ++ word.quoted ++ " as color; " ++ e.message word
  | number e => e.message

/-- Checks a word for a colour; a part that is no number is the same fault wherever it stands. -/
def checkColor (word : Text) (error : Color.Refusal → Error) : Except Error Unit :=
  (Color.checkReference word).mapError fun
    | .number e => .number e
    | e => error e

/-- Adds what words say to a style.  The attribute after `not` is in small letters as it stands. -/
def addWords (s : Style) : List Text → Except Error Style
  | [] => .ok s
  | word :: rest =>
    let word := word.lower
    if word == "on" then
      match rest with
      | [] => .error .noGround
      | ground :: rest => do
        checkColor ground (.badGround ground)
        addWords { s with ground := some ground.lower } rest
    else if word == "not" then
      match rest with
      | [] => .error (.notAttribute [])
      | word :: rest =>
        match Attribute.ofWord? word with
        | some a => addWords (s.set a false) rest
        | none => .error (.notAttribute word)
    else if word == "link" then
      match rest with
      | [] => .error .noAddress
      | address :: rest => addWords { s with link := some address } rest
    else
      match Attribute.ofWord? word with
      | some a => addWords (s.set a true) rest
      | none => do
        checkColor word (.badColor word)
        addWords { s with color := some word } rest

def read (t : Text) : Except Error Style := addWords {} t.words

/-- The fault that shows when something is drawn in the style of that name: a part of a colour that
    is no number.  A text that names no style for any other reason is drawn plainly. -/
def fault? (t : Text) : Option Numeral.Error :=
  match read t with
  | .error (.number e) => some e
  | _ => none

def attributeWords (s : Style) : List Text :=
  Attribute.all.filterMap fun a =>
    (s.attributes.lookup a).map fun on => if on then a.label else "not " ++ a.label

def name (s : Style) : Text :=
  let ground := s.ground.map fun color : Text => "on " ++ color
  let link := s.link.map fun address : Text => "link " ++ address
  Text.join " " (s.attributeWords ++ s.color.toList ++ ground.toList ++ link.toList)

/-- The name that stands for all names of the same style, and for other texts the text itself. -/
def canonicalName (t : Text) : Except Numeral.Error Text :=
  match read t with
  | .ok s => .ok s.name
  | .error (.number e) => .error e
  | .error _ => .ok t.trim.lower

/-! ### Predefined styles -/

/-- The names of the predefined styles that are not made up of words for attributes and colours. -/
def predefined : List String :=
  ["reset", "bright", "strong", "code", "emphasize", "inspect.attr", "inspect.attr.dunder",
   "inspect.callable", "inspect.async_def", "inspect.def", "inspect.class", "inspect.error",
   "inspect.equals", "inspect.help", "inspect.doc", "inspect.value.border", "live.ellipsis",
   "layout.tree.row", "layout.tree.column", "logging.keyword", "logging.level.notset",
   "logging.level.debug", "logging.level.info", "logging.level.warning", "logging.level.error",
   "logging.level.critical", "log.level", "log.time", "log.message", "log.path", "repr.ellipsis",
   "repr.indent", "repr.error", "repr.str", "repr.brace", "repr.comma", "repr.ipv4", "repr.ipv6",
   "repr.eui48", "repr.eui64", "repr.tag_start", "repr.tag_name", "repr.tag_contents",
   "repr.tag_end", "repr.attrib_name", "repr.attrib_equal", "repr.attrib_value", "repr.number",
   "repr.number_complex", "repr.bool_true", "repr.bool_false", "repr.none", "repr.url", "repr.uuid",
   "repr.call", "repr.path", "repr.filename", "rule.line", "rule.text", "json.brace",
   "json.bool_true", "json.bool_false", "json.null", "json.number", "json.str", "json.key",
   "prompt", "prompt.choices", "prompt.default", "prompt.invalid", "prompt.invalid.choice",
   "pretty", "scope.border", "scope.key", "scope.key.special", "scope.equals", "table.header",
   "table.footer", "table.cell", "table.title", "table.caption", "traceback.error",
   "traceback.border.syntax_error", "traceback.border", "traceback.text", "traceback.title",
   "traceback.exc_type", "traceback.exc_value", "traceback.offset", "bar.back", "bar.complete",
   "bar.finished", "bar.pulse", "progress.description", "progress.filesize",
   "progress.filesize.total", "progress.download", "progress.elapsed", "progress.percentage",
   "progress.remaining", "progress.data.speed", "progress.spinner", "status.spinner", "tree",
   "tree.line", "markdown.paragraph", "markdown.text", "markdown.em", "markdown.emph",
   "markdown.strong", "markdown.code", "markdown.code_block", "markdown.block_quote",
   "markdown.list", "markdown.item", "markdown.item.bullet", "markdown.item.number", "markdown.hr",
   "markdown.h1.border", "markdown.h1", "markdown.h2", "markdown.h3", "markdown.h4", "markdown.h5",
   "markdown.h6", "markdown.h7", "markdown.link", "markdown.link_url", "markdown.s", "iso8601.date",
   "iso8601.time", "iso8601.timezone"]

/-- Checks the name of a style that is asked for: it is `none`, empty, predefined or made of
    words. -/
def check (t : Text) : Except Error Unit :=
  if t.trim == "none" || predefined.any (·.toList == t) then .ok ()
  else (read t).map fun _ => ()

end Style

end CommandLang
