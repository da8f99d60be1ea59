/-
  CommandLang/CommandLine/Options.lean
  ====================================
  **Reading the words of the command line.**

  A word is an option, an operand, or the terminator `--`, after which every word is an operand.  A
  long option may be shortened as long as it stays the only one that begins so, and its value may
  follow as the next word or after `=`.  What is attached to an option of one letter is taken for
  more such options.  The operands are definitions, and they stand in one run: later ones are not
  recognised.  The last of repeated options counts.

  This is how `argparse` reads words, and its releases differ in two points (`Edition`).  In the
  earlier ones a value after `=` is withheld where it is `--`, and all letters after `-h` must be
  `h`.  In the later ones, 3.11.10 and 3.12.3 among them, `--` is a value like any other, and
  letters after `-h` do not keep help from being given unless a dash or a value is met first.

  Words are first classified, all of them, and then taken in from left to right.
-/
import CommandLang.Log
import CommandLang.Numeral

namespace CommandLang.CommandLine

/-! ### Editions -/

/-- Which of its releases the reader is taken from. -/
inductive Edition where
  | earlier
  | later
deriving DecidableEq, Repr

/-! ### Options -/

inductive Switch where
  | help
  | list
  | describe
  | plain
  | logLevel
deriving DecidableEq, Repr

namespace Switch

/-- The spellings of all options, in the order in which they are searched. -/
def spellings : List (Text × Switch) :=
  [("-h", help), ("--help", help), ("--list", list), ("--describe", describe), ("--plain", plain),
    ("--log-level", logLevel)]

/-- The option that is spelled so in full. -/
def ofSpelling? (word : Text) : Option Switch := spellings.lookup word

/-- How messages refer to an option: by all of its spellings. -/
def reference (s : Switch) : Text :=
  Text.join "/" ((spellings.filter (·.2 == s)).map Prod.fst)

def takesValue : Switch → Bool
  | describe | logLevel => true
  | help | list | plain => false

end Switch

/-! ### Errors -/

inductive UsageError where
  /-- A shortened option could be any of several. -/
  | ambiguous (word : Text) (spellings : List Text)
  | valueMissing (s : Switch)
  | valueIgnored (s : Switch) (value : Text)
  | invalidLevel (value : Text)
  | unrecognized (words : List Text)
deriving DecidableEq, Repr

def UsageError.message : UsageError → Text
  | ambiguous word spellings =>
    "ambiguous option: " ++ word ++ " could match " ++ Text.join ", " spellings
  | valueMissing s => "argument " ++ s.reference ++ ": expected one argument"
  | valueIgnored s value =>
    "argument " ++ s.reference ++ ": ignored explicit argument " ++ value.quoted
  | invalidLevel value =>
    "argument " ++ Switch.logLevel.reference ++ ": invalid choice: " ++ value.quoted ++
      " (choose from " ++
      Text.join ", " (Log.Level.all.map fun level => level.label.quoted) ++ ")"
  | unrecognized words => "unrecognized arguments: " ++ Text.join " " words

/-! ### Words -/

/-- What is written in the same word after an option. -/
inductive Attached where
  | none
  | value (t : Text)
  | letters (t : Text)
deriving DecidableEq, Repr

/-- Whether an option is spelled with one letter. -/
def isOneLetter (spelling : Text) : Bool := spelling.length == 2

/-- What stands after `=` is a value.  In the earlier edition it is more letters if the option has
    one letter, unless it is empty. -/
def Attached.ofValue (edition : Edition) (spelling value : Text) : Attached :=
  match edition with
  | .earlier => if isOneLetter spelling && !value.isEmpty then .letters value else .value value
  | .later => .value value

inductive Word where
  | operand (t : Text)
  | terminator
  | switch (s : Switch) (attached : Attached)
  | unknown (t : Text)
deriving DecidableEq, Repr

/-- Whether a text is decimal digits, with or without a fraction. -/
def isDecimal (t : Text) : Bool :=
  let (whole, fraction) := t.cutAt '.'
  if t.contains '.' then whole.all isDigit && !fraction.isEmpty && fraction.all isDigit
  else !t.isEmpty && t.all isDigit

/-- Whether the text after a minus sign makes a negative number; a line feed may end it. -/
def isNegativeNumber (t : Text) : Bool := isDecimal ((t.beforeLast? '\n').getD t)

/-- The options that a word could be short for, with the spelling found and the attached value. -/
def candidates (word : Text) : List (Text × Switch × Attached) :=
  match word with
  | '-' :: '-' :: _ =>
    let (name, value) := word.cutAt '='
    let attached := if word.contains '=' then Attached.value value else .none
    (Switch.spellings.filter fun (spelling, _) => name.isPrefixOf spelling).map
      fun (spelling, s) => (spelling, s, attached)
  | _ =>
    (Switch.spellings.filter fun (spelling, _) => spelling == word.take 2).map
      fun (spelling, s) => (spelling, s, .letters (word.drop 2))

/-- The option spelled in full before the first `=` of a word, with what follows. -/
def withValue? (edition : Edition) (word : Text) : Option (Switch × Attached) :=
  let (name, value) := word.cutAt '='
  if word.contains '=' then (Switch.ofSpelling? name).map (·, .ofValue edition name value)
  else none

/-- Classifies a word that begins with a dash and is more than that dash. -/
def classifyDashed (edition : Edition) (word : Text) : Except UsageError Word :=
  match Switch.ofSpelling? word, withValue? edition word with
  | some s, _ => .ok (.switch s .none)
  | none, some (s, attached) => .ok (.switch s attached)
  | none, none =>
    match candidates word with
    | [(_, s, attached)] => .ok (.switch s attached)
    | [] =>
      if isNegativeNumber (word.drop 1) || word.contains ' ' then .ok (.operand word)
      else .ok (.unknown word)
    | several => .error (.ambiguous word (several.map Prod.fst))

def classify (edition : Edition) : List Text → Except UsageError (List Word)
  | [] => .ok []
  | word :: rest =>
    match word with
    | ['-', '-'] => .ok (.terminator :: rest.map .operand)
    | '-' :: _ :: _ => do
      let first ← classifyDashed edition word
      return first :: (← classify edition rest)
    | _ => do return .operand word :: (← classify edition rest)

/-! ### Settings -/

structure Settings where
  definitions : List Text := []
  list : Bool := false
  describe : Option Text := none
  plain : Bool := false
  /-- The least serious level that is shown, unless it was withheld. -/
  level : Option Log.Level := some .warning
deriving DecidableEq, Repr

inductive Request where
  | help
  | run (settings : Settings)
deriving DecidableEq, Repr

/-- How far the run of operands has come. -/
inductive Phase where
  | before
  | within
  | after
deriving DecidableEq, Repr

structure Progress where
  settings : Settings := {}
  phase : Phase := .before
  extras : List Text := []

namespace Progress

/-- Ends the run of operands if it has begun. -/
def leave (p : Progress) : Progress :=
  if p.phase = .within then { p with phase := .after } else p

/-- Takes in a word that is not recognised. -/
def addExtra (p : Progress) (t : Text) : Progress := { p with extras := p.extras ++ [t] }

def addOperand (p : Progress) (t : Text) : Progress :=
  if p.phase = .after then p.addExtra t
  else
    { p with
      phase := .within
      settings := { p.settings with definitions := p.settings.definitions ++ [t] } }

/-- Takes in the terminator, which belongs to the run of operands. -/
def addTerminator (p : Progress) : Progress :=
  if p.phase = .after then p.addExtra "--" else { p with phase := .within }

def addFlag (p : Progress) (s : Switch) : Progress :=
  match s with
  | .list => { p with settings := { p.settings with list := true } }
  | .plain => { p with settings := { p.settings with plain := true } }
  | .help | .describe | .logLevel => p

/-- Takes in an option with its value, which `--` withholds in the earlier edition. -/
def addValue (edition : Edition) (p : Progress) (s : Switch) (value : Text) :
    Except UsageError Progress :=
  let withheld := edition == .earlier && value == "--"
  match s with
  | .describe =>
    let describe := if withheld then none else some value
    .ok { p with settings := { p.settings with describe := describe } }
  | .logLevel =>
    match withheld, Log.Level.ofLabel? value with
    | false, none => .error (.invalidLevel value)
    | _, level => .ok { p with settings := { p.settings with level := level } }
  | .help | .list | .plain => .error (.valueIgnored s value)

/-- What has been asked for when all words are taken in. -/
def request (p : Progress) : Except UsageError Request :=
  if p.extras.isEmpty then .ok (.run p.settings) else .error (.unrecognized p.extras)

end Progress

/-- Checks the letters after the option `-h`: each must be that option again, since no other has one
    letter.  The first that is not is an error, together with all that follows. -/
def checkAllLetters : Text → Except UsageError Unit
  | [] => .ok ()
  | 'h' :: more => checkAllLetters more
  | other => .error (.valueIgnored .help other)

/-- Checks the letters after the option `-h`, as long as they are that option again: a dash is an
    error, together with all that follows, and so is a value. -/
def checkLeadingLetters : Text → Except UsageError Unit
  | 'h' :: '=' :: value => .error (.valueIgnored .help value)
  | 'h' :: more => checkLeadingLetters more
  | '-' :: more => .error (.valueIgnored .help ('-' :: more))
  | _ => .ok ()

def checkLetters : Edition → Text → Except UsageError Unit
  | .earlier => checkAllLetters
  | .later => checkLeadingLetters

def takeIn (edition : Edition) (p : Progress) : List Word → Except UsageError Request
  | [] => p.request
  | .operand t :: rest => takeIn edition (p.addOperand t) rest
  | .terminator :: rest => takeIn edition p.addTerminator rest
  | .unknown t :: rest => takeIn edition (p.leave.addExtra t) rest
  | .switch s (.value t) :: rest => do takeIn edition (← p.leave.addValue edition s t) rest
  | .switch _ (.letters t) :: _ => do
    checkLetters edition t
    return .help
  | .switch .help .none :: _ => .ok .help
  | .switch s .none :: rest =>
    if s.takesValue then
      match rest with
      | .operand t :: rest => do takeIn edition (← p.leave.addValue edition s t) rest
      | _ => .error (.valueMissing s)
    else takeIn edition (p.leave.addFlag s) rest

/-- Reads the words of a command line, as the earlier edition does unless told otherwise. -/
def read (words : List Text) (edition : Edition := .earlier) : Except UsageError Request := do
  takeIn edition {} (← classify edition words)

end CommandLang.CommandLine
