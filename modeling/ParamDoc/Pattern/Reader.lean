import ParamDoc.Pattern.Escape
import ParamDoc.Pattern.Height
import ParamDoc.Pattern.Mode
import ParamDoc.Text.Blank
import ParamDoc.Text.Hexadecimal
import ParamDoc.Text.Letter

/-!
# Reading patterns

A regular expression is read one character at a time. The reader keeps no tree: it knows the
place it has reached, which groups and brackets are open, and how deep the parts are nested. It
refuses a character that no pattern can have there. Counted repetitions are not read, because
the text of a pattern cannot hold the brace that ends one; nor are the edges of words, unless
words are those of ASCII.
-/

namespace ParamDoc.Pattern

inductive Spot where
  | outside
  /-- In brackets, where it may begin a range. -/
  | bracketed
  /-- At the end of a range that begins with the given code point. -/
  | rangeEnd (first : Nat)
deriving DecidableEq

/-- What the next character belongs to. -/
inductive Place where
  | plain
  /-- After a repetition, which a question mark makes lazy. -/
  | repeated
  /-- After an opening parenthesis. -/
  | opened
  /-- After an opening parenthesis and a question mark. -/
  | asked
  /-- The same and the letter `P`, which a name must follow. -/
  | named
  /-- In the name of a group; the latest character first. -/
  | name (read : List Char)
  /-- Among flags; the latest first. -/
  | flags (read : List Char)
  | escape (spot : Spot)
  /-- In the hexadecimal digits of a character: `left` more follow the next one. -/
  | digits (spot : Spot) (isByte : Bool) (value left : Nat)
  | property (spot : Spot)
  /-- At the start of brackets, which a caret negates if it comes first. -/
  | bracketStart (first : Bool)
  | bracket
  /-- After an item in brackets that begins a range if it is a character. -/
  | bracketItem (value : Option Nat)
  /-- After the dash of a range. -/
  | rangeDash (first : Nat)
  /-- In the name of a class of ASCII characters. -/
  | className
  /-- Between the two characters of an operator. -/
  | operator
deriving DecidableEq

/-- White space and comments may stand at this place in verbose mode. -/
def Place.isSpaced : Place → Bool
  | .asked | .named | .name _ | .flags _ | .escape _ | .className | .operator => false
  | _ => true

structure State where
  place : Place
  mode : Mode
  /-- What is read of the innermost group. -/
  body : Body
  /-- What was read around the open groups, and the mode there, the innermost first. -/
  groups : List (Body × Mode)
  /-- What is read of the open brackets, the innermost first. -/
  brackets : List Body
  /-- The names of groups. -/
  names : List (List Char)
  inComment : Bool
deriving DecidableEq

namespace State

def start : State :=
  ⟨.plain, .initial, .empty, [], [], [], false⟩

/-- Adds an item to the innermost group, and goes on in it. -/
def add (s : State) (height : Nat) : State :=
  { s with place := .plain, body := s.body.add height }

/-- Adds an item to the innermost brackets, and goes on at the given place. -/
def addToBrackets (s : State) (height : Nat) (place : Place) : State :=
  { s with
    place
    brackets := match s.brackets with
      | [] => []
      | b :: rest => b.add height :: rest }

def openGroup (s : State) (mode : Mode) : State :=
  { s with place := .plain, mode, body := .empty, groups := (s.body, s.mode) :: s.groups }

def closeGroup? (s : State) : Option State :=
  match s.groups with
  | [] => none
  | (outer, mode) :: groups =>
    some ({ s with mode, body := outer, groups }.add (s.body.height + 1))

def openBrackets (s : State) : State :=
  { s with place := .bracketStart true, brackets := .empty :: s.brackets }

def closeBrackets? (s : State) : Option State :=
  match s.brackets with
  | [] => none
  | [b] => some ({ s with brackets := [] }.add (b.height + 1))
  | b :: brackets => some ({ s with brackets }.addToBrackets (b.height + 1) .bracket)

/-- Begins the right side of an operator in brackets. -/
def beginOperand (s : State) : State :=
  { s with
    place := .operator
    brackets := match s.brackets with
      | [] => []
      | b :: rest => b.beginOperand :: rest }

/-- Adds a character. A pattern about bytes has single bytes in brackets. -/
def addCharacter? (s : State) (spot : Spot) (value : Nat) : Option State :=
  match spot with
  | .outside => some (s.add 0)
  | .bracketed =>
    if s.mode.unicode || value < 0x80 then some (s.addToBrackets 0 (.bracketItem (some value)))
    else none
  | .rangeEnd first =>
    if first ≤ value && (s.mode.unicode || value < 0x80) then some { s with place := .bracket }
    else none

/-- Adds a set of characters, which is no end of a range. -/
def addSet? (s : State) (spot : Spot) : Option State :=
  match spot with
  | .outside => some (s.add 0)
  | .bracketed => some (s.addToBrackets 0 (.bracketItem none))
  | .rangeEnd _ => none

/-- Adds a condition on the place of a match, which does not stand in brackets. -/
def addEdge? (s : State) (spot : Spot) : Option State :=
  match spot with
  | .outside => some (s.add 0)
  | _ => none

def repeatItem? (s : State) : Option State :=
  if s.body.row.repeatable then
    some { s with place := .repeated, body := { s.body with row := s.body.row.repeatLast } }
  else none

def plain? (s : State) (c : Char) : Option State :=
  match c with
  | '(' => some { s with place := .opened }
  | ')' => s.closeGroup?
  | '|' => some { s with place := .plain, body := s.body.beginAlternative }
  | '[' => some s.openBrackets
  | '{' => none
  | '?' => s.repeatItem?
  | '*' => s.repeatItem?
  | '+' => s.repeatItem?
  | '\\' => some { s with place := .escape .outside }
  | '.' => if s.mode.unicode then s.addSet? .outside else none
  | '^' => s.addEdge? .outside
  | '$' => s.addEdge? .outside
  | c => s.addCharacter? .outside c.toNat

def name? (s : State) (read : List Char) (c : Char) : Option State :=
  if c = '>' then
    if read.isEmpty || s.names.contains read then none
    else some ({ s with names := read :: s.names }.openGroup s.mode)
  else if c = '_' || Text.isLetter c ||
      (!read.isEmpty && (['.', '[', ']'].contains c || Text.isAlphanumeric c)) then
    some { s with place := .name (c :: read) }
  else none

def flags? (s : State) (read : List Char) (c : Char) : Option State :=
  let mode := s.mode.change true read.reverse
  if c = ':' then if read.head? = some '-' then none else some (s.openGroup mode)
  else if c = ')' then
    if read.isEmpty || read.head? = some '-' then none
    else some { s with place := .plain, mode, body := { s.body with row := s.body.row.addFlags } }
  else if (c = '-' || Mode.letters.contains c) && !read.contains c then
    some { s with place := .flags (c :: read) }
  else none

def escape? (s : State) (spot : Spot) (c : Char) : Option State :=
  match Escape.ofLetter? c with
  | none => none
  | some (.literal value) => s.addCharacter? spot value
  | some (.digits count) => some { s with place := .digits spot (count = 2) 0 (count - 1) }
  | some .property => some { s with place := .property spot }
  | some (.family negated) => if negated && !s.mode.unicode then none else s.addSet? spot
  | some .edge => s.addEdge? spot
  | some .wordEdge => if s.mode.unicode then none else s.addEdge? spot

/-- Adds a character that is spelled by its code point. A single byte is part of a character only
if it is ASCII. -/
def addSpelled? (s : State) (spot : Spot) (isByte : Bool) (value : Nat) : Option State :=
  if value.isValidChar && (s.mode.unicode || !isByte || value < 0x80) then
    s.addCharacter? spot value
  else none

def digit? (s : State) (spot : Spot) (isByte : Bool) (value left : Nat) (c : Char) :
    Option State :=
  match Text.hexValue? c, left with
  | none, _ => none
  | some d, 0 => s.addSpelled? spot isByte (16 * value + d)
  | some d, left + 1 => some { s with place := .digits spot isByte (16 * value + d) left }

/-- The text after an opening bracket continues the name of a class of ASCII characters, negated
or not. -/
def asciiClass? (rest : List Char) : Option Bool :=
  let (negated, name) := match rest with
    | ':' :: '^' :: name => (true, name)
    | ':' :: name => (false, name)
    | _ => (false, [])
  if asciiClasses.contains (String.ofList (name.takeWhile (· ≠ ':'))) &&
      [':', ']'].isPrefixOf (name.dropWhile (· ≠ ':')) then
    some negated
  else none

def bracket? (s : State) (c : Char) (rest : List Char) : Option State :=
  match c with
  | '[' =>
    match asciiClass? rest with
    | none => some s.openBrackets
    | some negated =>
      if negated && !s.mode.unicode then none else some (s.addToBrackets 0 .className)
  | ']' => s.closeBrackets?
  | '\\' => some { s with place := .escape .bracketed }
  | c =>
    if ['&', '-', '~'].contains c && rest.head? = some c then some s.beginOperand
    else s.addCharacter? .bracketed c.toNat

/-- Reads a character at the start of brackets, where dashes and then a closing bracket stand for
themselves. -/
def bracketStart? (s : State) (first : Bool) (c : Char) (rest : List Char) : Option State :=
  if c = '^' && first then
    if s.mode.unicode then some { s with place := .bracketStart false } else none
  else if c = '-' then some (s.addToBrackets 0 (.bracketStart false))
  else if c = ']' && s.brackets.head?.all (·.row.count = 0) then some (s.addToBrackets 0 .bracket)
  else s.bracket? c rest

/-- The next character of interest. In verbose mode white space does not count, and neither does
the sign of the first comment. -/
def following? (verbose : Bool) (rest : List Char) : Option Char :=
  if verbose then
    match rest.dropWhile Text.isBlank with
    | '#' :: comment => (comment.dropWhile Text.isBlank).head?
    | rest => rest.head?
  else rest.head?

/-- Reads the character after an item in brackets. A dash makes it the start of a range, unless a
closing bracket or another dash follows. -/
def afterItem? (s : State) (value : Option Nat) (c : Char) (rest : List Char) : Option State :=
  let next := following? s.mode.verbose rest
  if c = '-' && next ≠ some ']' && next ≠ some '-' then
    value.map fun first => { s with place := .rangeDash first }
  else s.bracket? c rest

/-- Reads a character that is not passed over; `rest` is the text after it. -/
def read? (s : State) (c : Char) (rest : List Char) : Option State :=
  match s.place with
  | .plain => s.plain? c
  | .repeated => if c = '?' then some { s with place := .plain } else s.plain? c
  | .opened =>
    if c = '?' then some { s with place := .asked } else (s.openGroup s.mode).plain? c
  | .asked =>
    if c = 'P' then some { s with place := .named }
    else if c = '<' then some { s with place := .name [] }
    else s.flags? [] c
  | .named => if c = '<' then some { s with place := .name [] } else none
  | .name read => s.name? read c
  | .flags read => s.flags? read c
  | .escape spot => s.escape? spot c
  | .digits spot isByte value left => s.digit? spot isByte value left c
  | .property spot =>
    if s.mode.unicode && propertyLetters.contains c then s.addSet? spot else none
  | .bracketStart first => s.bracketStart? first c rest
  | .bracket => s.bracket? c rest
  | .bracketItem value => s.afterItem? value c rest
  | .rangeDash first =>
    if c = '\\' then some { s with place := .escape (.rangeEnd first) }
    else s.addCharacter? (.rangeEnd first) c.toNat
  | .className => some (if c = ']' then { s with place := .bracket } else s)
  | .operator => some { s with place := .bracket }

/-- Passes over a character in verbose mode. A lazy repetition has its question mark at once. -/
def pass (s : State) (inComment : Bool) : State :=
  { s with place := if s.place = .repeated then .plain else s.place, inComment }

/-- Reads one character; `rest` is the text after it. -/
def step? (s : State) (c : Char) (rest : List Char) : Option State :=
  if s.inComment then some { s with inComment := c ≠ '\n' }
  else if s.mode.verbose && s.place.isSpaced && Text.isBlank c then some (s.pass false)
  else if s.mode.verbose && s.place.isSpaced && c = '#' then some (s.pass true)
  else s.read? c rest

def run? (s : State) : List Char → Option State
  | [] => some s
  | c :: rest => (s.step? c rest).bind (·.run? rest)

def greatestHeight : Nat := 250

def isComplete (s : State) : Bool :=
  (s.place = .plain || s.place = .repeated) && s.groups.isEmpty &&
    s.body.height ≤ greatestHeight

end State

def isPattern (text : List Char) : Bool :=
  (State.start.run? text).any State.isComplete

end ParamDoc.Pattern
