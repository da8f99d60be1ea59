/-
  CommandLang/Literal/Grammar.lean
  ================================
  **The grammar of expressions.**

  Each rule is written in terms of the others (`grammar`), which are found at work through the
  parameter `r`.  Alternatives are tried in the order in which they stand.  Rules named for what is
  wrong match only that, and end with a fault.

  There are no lists and no subscripts, because an expression in a tag holds no square brackets.
-/
import CommandLang.Literal.Matching

namespace CommandLang.Literal

open Match

namespace Grammar

variable (r : Rule → Match Node)

/-! ### Names and values -/

/-- A name that is given a value in passing. -/
def assignment : Match Node := do
  let _ ← name
  let _ ← fixed ":="
  let _ ← r .expression
  return .named

/-- An expression, or a name that is given a value in passing. -/
def value : Match Node :=
  firstOf [assignment r, do
    let a ← r .expression
    notAhead (fixed ":=")
    return a]

def starred : Match Node := do
  let _ ← fixed "*"
  return .starred (← r .expression)

/-- A member of a tuple or a set. -/
def member : Match Node :=
  firstOf [do let _ ← fixed "*"; return .starred (← r .bitwiseOr), r .namedExpression]

/-- Members with commas between, and perhaps one at the end. -/
def members : Match (List Node) := do
  let a ← commaSeparated (member r)
  let _ ← attempt (fixed ",")
  return a

/-- One expression, or a tuple of several without parentheses. -/
def oneOrTuple (item : Match Node) : Match Node := do
  let first ← item
  let others ← many (fixed "," *> item)
  let comma ← attempt (fixed ",")
  return if others.isEmpty && comma.isNone then first else .tuple (first :: others)

def yielded : Match Node := do
  let _ ← fixed "yield"
  firstOf
    [do let _ ← fixed "from"; let _ ← r .expression; return .yielded,
     do let _ ← attempt (r .starExpressions); return .yielded]

def wrongNamedExpression : Match Node := do
  let noSign := notAhead (anyFixed ["=", ":="])
  firstOf
    [do
      let a ← r .expression
      let _ ← fixed ":="
      let _ ← r .expression
      raise (.walrusFor a.description),
     do
      let _ ← name
      let _ ← fixed "="
      let _ ← r .bitwiseOr
      noSign
      raise .equalsForName,
     do
      notAhead (firstOf [r .tuple *> pure (), r .generator *> pure (), constant])
      let a ← r .bitwiseOr
      let _ ← fixed "="
      let _ ← r .bitwiseOr
      noSign
      raise (.equalsFor a.description)]
where
  constant : Match Unit := anyFixed ["True", "None", "False"] *> pure ()

/-! ### Parameters of functions -/

namespace Parameter

/-- What ends a parameter: a comma, or a colon which is not taken. -/
def separator : Match Unit := firstOf [fixed "," *> pure (), ahead (fixed ":")]

/-- The value of a parameter for which none is given. -/
def initial : Match Unit := do
  let _ ← fixed "="
  firstOf
    [do let _ ← r .expression,
     strictly do
      let _ ← ahead (anyFixed [")", ","])
      raise .noDefault]

def bare : Match Unit := name *> separator

def withInitial : Match Unit := do
  let _ ← name
  initial r
  separator

/-- A parameter with or without such a value. -/
def any : Match Unit := do
  let _ ← name
  let _ ← attempt (initial r)
  separator

/-- Parameters without such values that are given by place alone. -/
def placedBare : Match Unit := do
  let _ ← many1 bare
  let _ ← fixed "/"
  separator

/-- Parameters that are given by place alone, the last ones with such values. -/
def placedWithInitial : Match Unit := do
  let _ ← many bare
  let _ ← many1 (withInitial r)
  let _ ← fixed "/"
  separator

def placed : Match Unit := firstOf [placedBare, placedWithInitial r]

def bareOrComma : Match Unit := firstOf [bare, fixed "," *> pure ()]

def wrongOtherNamed : Match Unit := do
  let _ ← fixed "**"
  let _ ← name
  firstOf
    [fixed "=" *> raise .doubleStarDefault,
     fixed "," *> name *> raise .afterDoubleStar,
     fixed "," *> anyFixed ["*", "**", "/"] *> raise .afterDoubleStar]

def otherNamed : Match Unit :=
  firstOf [strictly wrongOtherNamed, fixed "**" *> bare]

def wrongNamed : Match Unit := do
  let _ ← fixed "*"
  firstOf
    [do
      firstOf
        [fixed ":" *> pure (), fixed "," *> anyFixed [":", "**"] *> pure ()]
      raise .starWithoutNames,
     name *> fixed "=" *> raise .starDefault,
     do
      bareOrComma
      let _ ← many (any r)
      let _ ← fixed "*"
      bareOrComma
      raise .starAgain]

def named : Match Unit :=
  firstOf
    [strictly (wrongNamed r),
     do
      let _ ← fixed "*"
      bare
      let _ ← many (any r)
      let _ ← attempt otherNamed,
     do
      let _ ← fixed "*"
      let _ ← fixed ","
      let _ ← many1 (any r)
      let _ ← attempt otherNamed,
     otherNamed]

def wrongOrder : Match Unit :=
  firstOf
    [do
      let _ ← many bare
      firstOf [placedWithInitial r, many1 (withInitial r) *> pure ()]
      bare
      raise .defaultOrder,
     do
      let _ ← many bare
      let _ ← fixed "("
      let _ ← commaSeparated name
      let _ ← attempt (fixed ",")
      let _ ← fixed ")"
      raise .lambdaParentheses,
     fixed "/" *> fixed "," *> raise .slashFirst,
     do
      placed r
      let _ ← many (any r)
      let _ ← fixed "/"
      raise .slashAgain,
     do
      let _ ← attempt (placed r)
      let _ ← many (any r)
      let _ ← fixed "*"
      firstOf [fixed "," *> pure (), bare]
      let _ ← many (any r)
      let _ ← fixed "/"
      raise .slashAfterStar,
     do
      let _ ← many1 (any r)
      let _ ← fixed "/"
      let _ ← fixed "*"
      raise .slashStar]

def all : Match Unit :=
  firstOf
    [strictly (wrongOrder r),
     do
      placedBare
      let _ ← many bare
      let _ ← many (withInitial r)
      let _ ← attempt (named r),
     do
      placedWithInitial r
      let _ ← many (withInitial r)
      let _ ← attempt (named r),
     do
      let _ ← many1 bare
      let _ ← many (withInitial r)
      let _ ← attempt (named r),
     do
      let _ ← many1 (withInitial r)
      let _ ← attempt (named r),
     named r]

end Parameter

def lambda : Match Node := do
  let _ ← fixed "lambda"
  let _ ← attempt (Parameter.all r)
  let _ ← fixed ":"
  let _ ← r .expression
  return .lambda

/-! ### Expressions -/

/-- An expression, apart from what may be wrong with it. -/
def plainExpression : Match Node :=
  firstOf
    [do
      let _ ← r .disjunction
      let _ ← fixed "if"
      let _ ← r .disjunction
      let _ ← fixed "else"
      let _ ← r .expression
      return .conditional,
     r .disjunction,
     lambda r]

/-- Whether an expression is the name of a former statement. -/
def isFormerStatement : Node → Bool
  | .name n => n == ("print" : Text) || n == ("exec" : Text)
  | _ => false

/-- Two expressions side by side in parentheses, or an `if` without its `else`. -/
def wrongExpression : Match Node :=
  ifMatches sideBySide
    (fun a => do
      require !(isFormerStatement a)
      require ((← depth) != 0)
      raise .forgottenComma)
    (do
      let _ ← r .disjunction
      let _ ← fixed "if"
      let _ ← r .disjunction
      notAhead (anyFixed ["else", ":"])
      raise .missingElse)
where
  /-- A word that is a name or none, depending on its place, or the beginning of such a word. -/
  softWord : Match Unit := do
    let n ← name
    require ((["_", "case", "match"] : List Text).any n.isPrefixOf)
  /-- Two expressions side by side, and the first of them. -/
  sideBySide : Match Node := do
    notAhead (firstOf [name *> token .quotation *> pure (), softWord])
    let a ← r .disjunction
    let _ ← r .lenientExpression
    return a

def formerStatement : Match Node := do
  let n ← name
  notAhead (fixed "(")
  let _ ← r .starExpressions
  require (isFormerStatement (.name n))
  raise (.missingCall n)

/-- Operands with a word between them, from the left on. -/
def joined (word : String) (operand : Match Node) : Match Node := do
  let first ← operand
  let others ← many (fixed word *> operand)
  return if others.isEmpty then first else .boolean

/-- Operands with signs between them, from the left on. -/
def chain (signs : List String) (operand : Match Node) : Match Node := do
  let first ← operand
  let others ← many do
    let sign ← anyFixed signs
    return (sign, ← operand)
  return others.foldl (fun left (sign, right) => .binary sign left right) first

def signed (signs : List String) (operand : Match Node) : Match Node := do
  return .unary (← anyFixed signs) (← operand)

def comparisonSign : Match Text :=
  firstOf
    [anyFixed ["==", "!=", "<=", "<", ">=", ">"],
     fixed "not" *> fixed "in" *> pure "not in",
     fixed "in",
     fixed "is" *> fixed "not" *> pure "is not",
     fixed "is"]

/-- A comparison, of more than two values too. -/
def comparison : Match Node := do
  let first ← r .bitwiseOr
  let signs ← many (comparisonSign <* r .bitwiseOr)
  return match signs with
    | [] => first
    | sign :: _ => .comparison sign first

/-! ### Comprehensions -/

def wrongTarget : Match Unit := do
  let _ ← attempt (fixed "async")
  let _ ← fixed "for"
  match (← r .starExpressions).wrongTarget? with
  | some wrong => raise (.assignment wrong.description)
  | none => mismatch

def targets : Match Unit := do
  let _ ← r .starTarget
  let _ ← many (fixed "," *> r .starTarget)
  let _ ← attempt (fixed ",")

def clause : Match Unit :=
  ifMatches
    (do
      let _ ← attempt (fixed "async")
      let _ ← fixed "for"
      targets r
      let _ ← fixed "in")
    (fun _ => do
      let _ ← r .disjunction
      let _ ← many (fixed "if" *> r .disjunction))
    (strictly (wrongTarget r))

def clauses : Match Unit := many1 (clause r) *> pure ()

/-- The wrong uses of a `for` in parentheses. -/
def wrongComprehension : Match Node :=
  firstOf
    [do
      let _ ← anyFixed ["(", "\x7b"]
      let _ ← starred r
      clauses r
      raise .starredComprehension,
     do
      let _ ← fixed "\x7b"
      let _ ← member r
      let _ ← fixed ","
      let _ ← members r
      clauses r
      raise .bareComprehension,
     do
      let _ ← fixed "\x7b"
      let _ ← member r
      let _ ← fixed ","
      clauses r
      raise .bareComprehension]

def generator : Match Node :=
  firstOf
    [do
      let _ ← fixed "("
      let _ ← value r
      clauses r
      let _ ← fixed ")"
      return .generator,
     strictly (wrongComprehension r)]

/-! ### Displays -/

def tuple : Match Node := do
  let _ ← fixed "("
  let content ← attempt do
    let first ← member r
    let _ ← fixed ","
    return first :: ((← attempt (members r)).getD [])
  let _ ← fixed ")"
  return .tuple (content.getD [])

def group : Match Node :=
  firstOf
    [do
      let _ ← fixed "("
      let a ← firstOf [yielded r, r .namedExpression]
      let _ ← fixed ")"
      return a,
     strictly do
      let _ ← fixed "("
      firstOf
        [starred r *> fixed ")" *> raise .starredHere,
         fixed "**" *> r .expression *> fixed ")" *> raise .doubleStarredHere]]

def set : Match Node := do
  let _ ← fixed "\x7b"
  let content ← members r
  let _ ← fixed "\x7d"
  return .set content

def setComprehension : Match Node :=
  firstOf
    [do
      let _ ← fixed "\x7b"
      let _ ← r .namedExpression
      clauses r
      let _ ← fixed "\x7d"
      return .setComprehension,
     strictly (wrongComprehension r)]

def entry : Match Node := do
  let key ← r .expression
  let _ ← fixed ":"
  return .entry key (← r .expression)

/-- A key with its value, or all the entries of another dictionary. -/
def entries : Match Node :=
  firstOf [fixed "**" *> r .bitwiseOr *> pure .unpacked, entry r]

/-- A key with something other than a value. -/
def wrongValue : Match Node := do
  let _ ← r .expression
  let _ ← fixed ":"
  firstOf
    [fixed "*" *> r .bitwiseOr *> raise .starredValue,
     ahead (anyFixed ["\x7d", ","]) *> raise .noValue]

/-- A key that lacks its value, after other entries or alone. -/
def wrongEntries : Match Node :=
  firstOf
    [do
      let _ ← commaSeparated (entries r)
      let _ ← fixed ","
      firstOf [r .expression *> notAhead (fixed ":") *> raise .noColon, wrongValue r],
     wrongValue r]

def dictionary : Match Node := do
  let _ ← fixed "\x7b"
  firstOf
    [do
      let content ← attempt (commaSeparated (entries r) <* attempt (fixed ","))
      let _ ← fixed "\x7d"
      return .dictionary (content.getD []),
     wrongEntries r <* fixed "\x7d"]

def dictionaryComprehension : Match Node := do
  let _ ← fixed "\x7b"
  firstOf
    [do
      let _ ← entry r
      clauses r
      let _ ← fixed "\x7d"
      return .dictionaryComprehension,
     strictly do
      let _ ← fixed "**"
      let _ ← r .bitwiseOr
      clauses r
      let _ ← fixed "\x7d"
      raise .unpackingComprehension]

/-! ### Arguments -/

/-- The wrong uses of `=` in a call. -/
def wrongKeyword : Match Node :=
  firstOf
    [do
      let word ← anyFixed ["True", "False", "None"]
      let _ ← fixed "="
      raise (.assignment word),
     do
      let _ ← name
      let _ ← fixed "="
      let _ ← r .expression
      clauses r
      raise .equalsForName,
     do
      notAhead (name *> fixed "=")
      let _ ← r .expression
      let _ ← fixed "="
      raise .assignmentInCall]

def keyword : Match Node := do
  let _ ← name
  let _ ← fixed "="
  let _ ← r .expression
  return .keyword

/-- The arguments from the first one on that is given by name. -/
def keywords : Match (List Node) := do
  let firstOnes := commaSeparated (firstOf [strictly (wrongKeyword r), keyword r, starred r])
  let lastOnes := commaSeparated (firstOf
    [strictly (wrongKeyword r), keyword r, fixed "**" *> r .expression *> pure .unpacked])
  firstOf [(· ++ ·) <$> firstOnes <*> (fixed "," *> lastOnes), firstOnes, lastOnes]

/-- The arguments of a call, without a comma at the end. -/
def argumentList : Match Node :=
  firstOf
    [do
      let placed ← commaSeparated (firstOf [starred r, value r <* notAhead (fixed "=")])
      let others ← attempt (fixed "," *> keywords r)
      return .arguments (placed ++ others.getD []),
     .arguments <$> keywords r]

def wrongArguments : Match Node :=
  firstOf
    [r .argumentList *> fixed "," *> fixed "*" *> raise .unpackingAfterKeywords,
     do
      generated
      let _ ← fixed ","
      let _ ← attempt (firstOf [r .argumentList *> pure (), generated])
      raise .generatorInCall,
     do
      let _ ← name
      let _ ← fixed "="
      generated
      raise .equalsForName,
     ifMatches (r .argumentList <* clauses r)
      (fun a => do
        require (1 < (a.given.filter (·.isPositional)).length)
        raise .generatorInCall)
      (firstOf
        [r .argumentList *> fixed "," *> generated *> raise .generatorInCall,
         do
          let a ← r .argumentList
          let _ ← fixed ","
          let _ ← r .argumentList
          raise (if a.given.any (·.isUnpacked) then .plainAfterUnpacking else .plainAfterKeyword)])]
where
  generated : Match Unit := r .expression *> clauses r

def arguments : Match Node :=
  firstOf
    [do
      let a ← r .argumentList
      let _ ← attempt (fixed ",")
      ahead (fixed ")")
      return a,
     strictly (wrongArguments r)]

/-! ### Calls and members -/

/-- What may follow a value to make another one of it. -/
def step : Match (Node → Node) :=
  firstOf
    [do
      let _ ← fixed "."
      let _ ← name
      return fun _ => .member,
     do
      let a ← r .generator
      return fun f => .call f [a],
     do
      let _ ← fixed "("
      let a ← attempt (r .arguments)
      let _ ← fixed ")"
      return fun f => .call f ((a.map (·.given)).getD [])]

/-- A value and what has been made of it. -/
def primary : Match Node := do
  let first ← r .atom
  return (← many (step r)).foldl (fun a f => f a) first

/-- The signs that may follow a value to make another one of it. -/
def stepSign : Match Text := anyFixed ["(", "."]

def targetPrimary : Match Node := do
  let first ← r .atom
  ahead stepSign
  return (← many (step r <* ahead stepSign)).foldl (fun a f => f a) first

/-- A name, a member or a tuple of such that is assigned to. -/
def starAtomTarget : Match Node :=
  firstOf
    [do
      let _ ← r .targetPrimary
      let _ ← fixed "."
      let _ ← name
      notAhead stepSign
      return .member,
     .name <$> name,
     fixed "(" *> r .starAtomTarget <* fixed ")",
     do
      let _ ← fixed "("
      let content ← attempt do
        let first ← r .starTarget
        let others ← many (fixed "," *> r .starTarget)
        let comma ← attempt (fixed ",")
        require (!others.isEmpty || comma.isSome)
        return first :: others
      let _ ← fixed ")"
      return .tuple (content.getD [])]

def starTarget : Match Node :=
  firstOf
    [do
      let _ ← fixed "*"
      notAhead (fixed "*")
      return .starred (← r .starTarget),
     r .starAtomTarget]

def number : Match Node := do
  match Number.read (← token .number).text with
  | .ok n => return .number n
  | .error fault => raise fault

def quotations : Match Node := do
  let (joined, fields) := Quotation.join (← many1 (token .quotation))
  fields.forM fun field => do
    match (← read).checkField field with
    | .ok () => return
    | .error fault => throw (.fault fault)
  match joined with
  | .ok a => return a
  | .error fault => raise fault

def atom : Match Node :=
  firstOf
    [.name <$> name,
     fixed "True" *> pure (.constant .yes),
     fixed "False" *> pure (.constant .no),
     fixed "None" *> pure (.constant .nothing),
     ahead (token .quotation) *> r .quotations,
     number,
     ahead (fixed "(") *> firstOf [r .tuple, group r, r .generator],
     ahead (fixed "\x7b") *>
      firstOf [dictionary r, set r, dictionaryComprehension r, setComprehension r],
     fixed "..." *> pure (.constant .dots)]

end Grammar

/-! ### All the rules -/

open Grammar in
/-- The rules, each in terms of the others. -/
def grammar (r : Rule → Match Node) : Rule → Match Node
  | .expressions => oneOrTuple (r .expression)
  | .starExpressions => oneOrTuple (r .starExpression)
  | .starExpression =>
    firstOf [do let _ ← fixed "*"; return .starred (← r .bitwiseOr), r .expression]
  | .expression =>
    firstOf [strictly (wrongExpression r), strictly (formerStatement r), plainExpression r]
  | .lenientExpression => leniently (plainExpression r)
  | .namedExpression =>
    firstOf
      [assignment r, strictly (r .wrongNamedExpression),
       r .expression <* notAhead (fixed ":=")]
  | .wrongNamedExpression => wrongNamedExpression r
  | .disjunction => joined "or" (r .conjunction)
  | .conjunction => joined "and" (r .inversion)
  | .inversion => firstOf [signed ["not"] (r .inversion), r .comparison]
  | .comparison => comparison r
  | .bitwiseOr => chain ["|"] (r .bitwiseXor)
  | .bitwiseXor => chain ["^"] (r .bitwiseAnd)
  | .bitwiseAnd => chain ["&"] (r .shift)
  | .shift => chain ["<<", ">>"] (r .sum)
  | .sum => chain ["+", "-"] (r .term)
  | .term => chain ["*", "/", "//", "%", "@"] (r .factor)
  | .factor => firstOf [signed ["+", "-", "~"] (r .factor), r .power]
  | .power =>
    firstOf
      [do let a ← r .awaited; return .binary (← fixed "**") a (← r .factor), r .awaited]
  | .awaited => firstOf [fixed "await" *> r .primary *> pure .awaited, r .primary]
  | .primary => primary r
  | .atom => atom r
  | .quotations => quotations
  | .tuple => tuple r
  | .generator => generator r
  | .arguments => arguments r
  | .argumentList => argumentList r
  | .starTarget => starTarget r
  | .starAtomTarget => starAtomTarget r
  | .targetPrimary => targetPrimary r

/-- A rule, in so many steps within one another at most. -/
def Rule.match : Nat → Rule → Match Node
  | 0, _ => mismatch
  | steps + 1, rule => remember rule (grammar (Rule.match steps) rule)

end CommandLang.Literal
