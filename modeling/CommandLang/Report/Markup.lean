/-
  CommandLang/Report/Markup.lean
  ==============================
  **Markup: tags in square brackets.**

  A tag is a bracket, a small letter or one of `#`, `/` and `@`, any characters but brackets, and a
  closing bracket.  Backslashes before a tag belong to it: two of them show one backslash, and an
  odd one makes the tag plain text.  `[name]` opens a style, `[/name]` closes the one of that name
  that was opened last, and `[/]` closes the one that was opened last.  Names of the same style are
  the same name here.  What follows `=` in a tag belongs to the style and not to the name.  A name
  that begins with `@` is that of a handler and no style.

    * `pieces` takes a text apart into tags and other characters, and loses nothing
      (`source_pieces`);
    * `escape` changes a text so that its tags become plain text;
    * `chunks` gathers what is plain text between tags that act;
    * `render` gives the passage that shows of a text, unless a tag closes what is not open or a
      handler cannot be read.

  This is the markup of rich 13.7.1.  In plain text it also puts emoji in place of their names,
  unless it is told not to; which names there are is left open here (`Emoji`).
-/
import CommandLang.Report.Handler
import CommandLang.Report.Passage

namespace CommandLang.Markup

/-! ### Pieces -/

/-- A character that a tag may begin with. -/
def isTagStart (c : Char) : Bool := ('a' ≤ c && c ≤ 'z') || c == '#' || c == '/' || c == '@'

/-- The inside of the tag whose opening bracket was just read, and the text after the tag. -/
def tagBody? : Text → Option (Text × Text)
  | [] => none
  | c :: t =>
    if isTagStart c then
      match t.dropWhile fun x => x ≠ '[' ∧ x ≠ ']' with
      | ']' :: rest => some (c :: t.takeWhile (fun x => x ≠ '[' ∧ x ≠ ']'), rest)
      | _ => none
    else none

/-- A part of a text, with the backslashes before it. -/
inductive Piece where
  | char (slashes : Nat) (c : Char)
  | tag (slashes : Nat) (body : Text)
  | last (slashes : Nat)
deriving DecidableEq, Repr

def backslashes (n : Nat) : Text := List.replicate n '\\'

def bracketed (body : Text) : Text := '[' :: body ++ [']']

/-- The text that a piece was read from. -/
def Piece.source : Piece → Text
  | char slashes c => backslashes slashes ++ [c]
  | tag slashes body => backslashes slashes ++ bracketed body
  | last slashes => backslashes slashes

theorem eq_of_tagBody? {t body rest : Text} (h : tagBody? t = some (body, rest)) :
    t = body ++ ']' :: rest := by
  cases t with
  | nil => simp [tagBody?] at h
  | cons c t =>
    simp only [tagBody?] at h
    split at h
    · split at h
      · rename_i rest' hd
        simp only [Option.some.injEq, Prod.mk.injEq] at h
        obtain ⟨rfl, rfl⟩ := h
        rw [List.cons_append, ← hd, List.takeWhile_append_dropWhile]
      · cases h
    · cases h

theorem length_lt_of_tagBody? {t body rest : Text} (h : tagBody? t = some (body, rest)) :
    rest.length < t.length := by
  rw [eq_of_tagBody? h]
  simp only [List.length_append, List.length_cons]; omega

/-- Takes a text apart, some backslashes having been read before it. -/
def piecesAfter (slashes : Nat) : Text → List Piece
  | [] => [.last slashes]
  | c :: t =>
    if c = '\\' then piecesAfter (slashes + 1) t
    else if c = '[' then
      match _h : tagBody? t with
      | some (body, rest) => .tag slashes body :: piecesAfter 0 rest
      | none => .char slashes '[' :: piecesAfter 0 t
    else .char slashes c :: piecesAfter 0 t
termination_by t => t.length
decreasing_by
  · simp
  · have := length_lt_of_tagBody? _h
    simp only [List.length_cons]; omega
  · simp
  · simp

def pieces (t : Text) : List Piece := piecesAfter 0 t

theorem backslashes_succ (n : Nat) (t : Text) :
    backslashes (n + 1) ++ t = backslashes n ++ '\\' :: t := by
  simp [backslashes, List.replicate_succ']

theorem source_piecesAfter (slashes : Nat) (t : Text) :
    (piecesAfter slashes t).flatMap Piece.source = backslashes slashes ++ t := by
  fun_induction piecesAfter slashes t with
  | case1 slashes => simp [Piece.source]
  | case2 slashes t ih => rw [ih, backslashes_succ]
  | case3 slashes t body rest h _ ih =>
    rw [List.flatMap_cons, ih, eq_of_tagBody? h]
    simp [Piece.source, bracketed, backslashes]
  | case4 slashes t h _ ih =>
    rw [List.flatMap_cons, ih]
    simp [Piece.source, backslashes]
  | case5 slashes c t h1 h2 ih =>
    rw [List.flatMap_cons, ih]
    simp [Piece.source, backslashes]

/-- Nothing is lost when a text is taken apart. -/
theorem source_pieces (t : Text) : (pieces t).flatMap Piece.source = t := by
  simpa [pieces, backslashes] using source_piecesAfter 0 t

/-! ### Escaping -/

/-- A piece with its tag made plain text. -/
def Piece.escaped : Piece → Text
  | tag slashes body => backslashes (2 * slashes + 1) ++ bracketed body
  | other => other.source

/-- Whether a text ends in one backslash alone. -/
def endsInLoneBackslash (t : Text) : Bool :=
  match t.reverse with
  | '\\' :: '\\' :: _ => false
  | '\\' :: _ => true
  | _ => false

/-- The text with all tags made plain text.  A lone backslash at the end is doubled. -/
def escape (t : Text) : Text :=
  let escaped := (pieces t).flatMap Piece.escaped
  if endsInLoneBackslash escaped then escaped ++ ['\\'] else escaped

/-! ### Rendering -/

/-- Why a text cannot be rendered; the position is that of the tag's bracket in the text. -/
inductive Error where
  /-- A tag closes a style that is not open. -/
  | notOpen (body : Text) (position : Nat)
  /-- A tag closes the last style where none is open. -/
  | nothingOpen (position : Nat)
  /-- A tag names a colour one part of which is no number. -/
  | color (e : Numeral.Error)
  | handler (e : Handler.Error)
deriving DecidableEq, Repr

def Error.message : Error → Text
  | .notOpen body position =>
    "closing tag '" ++ bracketed body ++ "' at position " ++ Numeral.writeNat position ++
      " doesn't match any open tag"
  | .nothingOpen position =>
    "closing tag '[/]' at position " ++ Numeral.writeNat position ++ " has nothing to close"
  | .color e => e.message
  | .handler e => e.message

/-- A tag that is open: where it was opened in the text that shows, its name and what follows the
    name and `=`. -/
structure OpenTag where
  start : Nat
  name : Text
  parameters : Option Text
deriving DecidableEq, Repr

namespace OpenTag

/-- The name of the style that the tag gives: its parameters are words of the name. -/
def style (tag : OpenTag) : Text :=
  match tag.parameters with
  | some parameters => tag.name ++ " " ++ parameters
  | none => tag.name

/-- The stretch of text up to the place where the tag is closed. -/
def span (tag : OpenTag) (stop : Nat) : Span := ⟨tag.start, stop, tag.style⟩

def isHandler (tag : OpenTag) : Bool := tag.name.head? == some '@'

/-- Closes the tag: what a handler is given is read, and a style gives a stretch of text. -/
def close (tag : OpenTag) (stop : Nat) : Except Error (List Span) :=
  if tag.isHandler then
    match tag.parameters with
    | none | some [] => .ok []
    | some parameters => ((Handler.check parameters).mapError .handler).map fun _ => []
  else .ok [tag.span stop]

end OpenTag

def tagName (name : Text) : Except Error Text := (Style.canonicalName name).mapError .color

/-- What a tag does to the open tags, the last one first, when so many characters of text show
    before it, and the span that ends there. -/
def applyTag (tags : List OpenTag) (body : Text) (position shown : Nat) :
    Except Error (List OpenTag × List Span) :=
  match (body.cutAt '=').1 with
  | '/' :: name =>
    if Text.isAllBlank name then
      match tags with
      | [] => .error (.nothingOpen position)
      | tag :: others => do return (others, ← tag.close shown)
    else do
      let name ← tagName name
      match tags.find? (·.name == name) with
      | none => throw (.notOpen body position)
      | some tag => return (tags.eraseP (·.name == name), ← tag.close shown)
  | name => do
    let parameters := if body.contains '=' then some (body.cutAt '=').2 else none
    return (⟨shown, ← tagName name, parameters⟩ :: tags, [])

/-- Whether a character shows.  Bells, backspaces, vertical tabs and the like are left out. -/
def isShown (c : Char) : Bool := !(['\x07', '\x08', '\x0B', '\x0C', '\x0D'].contains c)

/-- What takes the place of the names of emoji in a stretch of text.  A name stands between colons,
    so that a text without a colon stays as it is. -/
structure Emoji where
  replace : Text → Text
  replace_of_not_mem : ∀ t, ':' ∉ t → replace t = t

/-- No name is known. -/
def Emoji.none : Emoji := ⟨id, fun _ _ => rfl⟩

/-- What a text is rendered from: stretches of plain text, and tags that act, each with the position
    of its bracket in the text. -/
inductive Chunk where
  | plain (t : Text)
  | tag (body : Text) (position : Nat)
deriving DecidableEq, Repr

/-- What pieces are rendered from that begin at a position, some plain text having been read before
    them.  A backslash before a bracket that begins no tag does not show.  A tag that is plain text
    is a stretch by itself, and so are the backslashes before a tag. -/
def chunksAfter (before : Text) (position : Nat) : List Piece → List Chunk
  | [] => [.plain before]
  | piece :: rest =>
    let after := position + piece.source.length
    match piece with
    | .char slashes c =>
      let slashes := if c = '[' then slashes - 1 else slashes
      chunksAfter (before ++ (backslashes slashes ++ [c])) after rest
    | .last slashes => chunksAfter (before ++ backslashes slashes) after rest
    | .tag slashes body =>
      let tag := if slashes % 2 = 1 then .plain (bracketed body) else .tag body (position + slashes)
      .plain before :: .plain (backslashes (slashes / 2)) :: tag :: chunksAfter [] after rest

def chunks (t : Text) : List Chunk := chunksAfter [] 0 (pieces t)

/-- Renders chunks, given the open tags and the number of characters that show before.  Tags that
    are never closed end with the text. -/
def renderChunks (emoji : Emoji) (tags : List OpenTag) (shown : Nat) :
    List Chunk → Except Error Passage
  | [] => .ok ⟨[], tags.map (·.span shown)⟩
  | .plain t :: rest => do
    let t := (emoji.replace t).filter isShown
    let p ← renderChunks emoji tags (shown + t.length) rest
    return ⟨t ++ p.text, p.spans⟩
  | .tag body position :: rest => do
    let (tags, ended) ← applyTag tags body position shown
    let p ← renderChunks emoji tags shown rest
    return ⟨p.text, ended ++ p.spans⟩

/-- What shows of a text, and its styles: those that begin later count later, and of those that
    begin together the one that was closed last comes first. -/
def render (emoji : Emoji) (t : Text) : Except Error Passage := do
  let p ← renderChunks emoji [] 0 (chunks t)
  return { p with spans := p.spans.reverse.mergeSort fun a b => a.start ≤ b.start }

end CommandLang.Markup
