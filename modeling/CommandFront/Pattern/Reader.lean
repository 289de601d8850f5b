import CommandFront.Pattern.Basic
import CommandFront.Pattern.Error

/-!
# Reading patterns

- `PatternFlags`: what the flags of a pattern, as in `(?i)`, say.
- `PatternReader`: a pattern that is being read: what is left of it, and the flags that are in
  force.
- `Reading.escape`, `Reading.bracket`, `Reading.repetition`: the parts of the grammar.
- `Reading.branches`: reads alternatives; open groups are kept on a stack.
- `Pattern.parse`: reads a pattern, or says why it is refused.

The grammar decides first. Faults in the meaning of a pattern, such as a property that is not known,
are told only if the grammar has none.
-/

namespace CommandFront

/-- What the flags of a pattern say. -/
structure PatternFlags where
  /-- Case does not count. -/
  ignoreCase : Bool := false
  /-- The anchors of a text hold at each line. -/
  multiLine : Bool := false
  /-- The point matches line breaks. -/
  dotAll : Bool := false
  /-- Lines may also end in a carriage return. -/
  returns : Bool := false
  /-- Classes hold characters beyond ASCII. -/
  unicode : Bool := true
  /-- Blanks and comments are skipped. -/
  extended : Bool := false
deriving DecidableEq, Repr

namespace PatternFlags

/-- The letters of the flags. -/
def letters : List Char :=
  ['i', 'm', 's', 'U', 'u', 'R', 'x']

/-- Sets a flag by its letter. Whether repetitions are greedy does not matter here. -/
def set (f : PatternFlags) (on : Bool) (letter : Char) : PatternFlags :=
  match letter with
  | 'i' => { f with ignoreCase := on }
  | 'm' => { f with multiLine := on }
  | 's' => { f with dotAll := on }
  | 'u' => { f with unicode := on }
  | 'R' => { f with returns := on }
  | 'x' => { f with extended := on }
  | _ => f

/-- Sets the flags of a list; those after a minus sign are turned off. -/
def setAll (f : PatternFlags) (items : List Char) : PatternFlags :=
  let on := items.takeWhile (· ≠ '-')
  let off := items.dropWhile (· ≠ '-')
  off.foldl (fun f c => f.set false c) (on.foldl (fun f c => f.set true c) f)

/-- A class in which case counts only if it should. -/
def fold (f : PatternFlags) (k : CharClass) : CharClass :=
  if !f.ignoreCase then k else if f.unicode then .anyCase k else .anyAsciiCase k

/-- The characters of which words are made. -/
def word (f : PatternFlags) : CharClass :=
  if f.unicode then .word else .asciiWord

end PatternFlags

/-- A pattern that is being read. -/
structure PatternReader where
  /-- What is left of it. -/
  rest : List Char
  /-- Where it stands. -/
  place : Place := .start
  /-- The flags in force. -/
  flags : PatternFlags := {}
  /-- The first fault in the meaning. -/
  late : Option PatternError := none
  /-- The names of groups, with the places where they are given. -/
  names : List (List Char × Span) := []

namespace PatternReader

/-- Goes past a character. -/
def bump (r : PatternReader) : PatternReader :=
  match r.rest with
  | [] => r
  | c :: rest => { r with rest := rest, place := r.place.after c }

/-- Goes past blanks and comments. -/
def pastBlanks (comment : Bool) : List Char → Place → List Char × Place
  | [], p => ([], p)
  | c :: rest, p =>
    if comment then pastBlanks (c ≠ '\n') rest (p.after c)
    else if Text.isBlank c then pastBlanks false rest (p.after c)
    else if c = '#' then pastBlanks true rest (p.after c)
    else (c :: rest, p)

/-- Goes past blanks and comments, if they do not count. -/
def skip (r : PatternReader) : PatternReader :=
  if r.flags.extended then
    let (rest, place) := pastBlanks false r.rest r.place
    { r with rest, place }
  else r

/-- The first character that is no blank; after a number sign every other one is. -/
def nextShown? (comment : Bool) : List Char → Option Char
  | [] => none
  | c :: rest =>
    if Text.isBlank c then nextShown? comment rest
    else if !comment && c = '#' then nextShown? true rest
    else some c

/-- The character after the next one; blanks are passed over if they do not count. -/
def second? (r : PatternReader) : Option Char :=
  let after := r.rest.tail
  if r.flags.extended then (nextShown? false after).or after.head? else after.head?

end PatternReader

/-- A step of reading a pattern. -/
abbrev Reading := StateT PatternReader (Except PatternError)

/-- A part of a pattern that stands for one character, for a class of them or for a place. -/
inductive PatternAtom where
  /-- A character; `byte` if it was written as the number of a byte. -/
  | literal (c : Char) (byte : Bool)
  /-- A class. -/
  | characters (k : CharClass)
  /-- A demand of the place. -/
  | anchor (a : Anchor)

namespace Reading

/-! ## Characters -/

/-- The next character. -/
def peek? : Reading (Option Char) :=
  return (← get).rest.head?

/-- Goes past a character. -/
def bump : Reading Unit :=
  modify PatternReader.bump

/-- Goes past blanks and comments, if they do not count. -/
def skip : Reading Unit :=
  modify PatternReader.skip

/-- Goes past a character and what does not count after it. -/
def advance : Reading Unit :=
  modify fun r => r.bump.skip

/-- Goes past a text if it comes next, and says whether it did. -/
def bumpIf (text : String) : Reading Bool := do
  if text.toList.isPrefixOf (← get).rest then
    text.toList.forM fun _ => bump
    return true
  else return false

/-- Where the reader stands. -/
def place : Reading Place :=
  return (← get).place

/-- The flags in force. -/
def flags : Reading PatternFlags :=
  return (← get).flags

/-- How many characters are left. -/
def left : Reading Nat :=
  return (← get).rest.length

/-- The empty part where the reader stands. -/
def here : Reading Span :=
  return .point (← place)

/-- The next character as a part of the pattern. -/
def charSpan : Reading Span :=
  return ⟨← place, (← get).bump.place⟩

/-- What was read since a place. -/
def since (first : Place) : Reading Span :=
  return ⟨first, ← place⟩

/-! ## Faults -/

/-- Refuses the pattern. -/
def fail {α : Type} (fault : PatternFault) (span : Span) : Reading α :=
  throw ⟨fault, span, none⟩

/-- Notes a fault in the meaning. -/
def note (fault : PatternFault) (span : Span) : Reading Unit :=
  modify fun r => { r with late := r.late.or (some ⟨fault, span, none⟩) }

/-- Refuses the pattern if it ends here. -/
def needMore (fault : PatternFault) (span : Span) : Reading Unit := do
  if (← get).rest.isEmpty then fail fault span

/-! ## Code points -/

/-- Whether a character is a hexadecimal digit. -/
def isHexDigit (c : Char) : Bool :=
  c.isDigit || ('a' ≤ c && c ≤ 'f') || ('A' ≤ c && c ≤ 'F')

/-- The value of a hexadecimal digit. -/
def hexDigit (c : Char) : Nat :=
  if c.isDigit then c.toNat - '0'.toNat else c.toLower.toNat - 'a'.toNat + 10

/-- The character of a code point that is written in hexadecimal digits. -/
def hexChar? (digits : List Char) : Option Char :=
  let n := digits.foldl (fun n c => 16 * n + hexDigit c) 0
  if n.isValidChar then some (Char.ofNat n) else none

/-- Reads a given number of hexadecimal digits. -/
def hexDigits : Nat → Reading (List Char)
  | 0 => return []
  | n + 1 => do
    match ← peek? with
    | none => fail .escapeEnd (← here)
    | some c =>
      if isHexDigit c then
        advance
        return c :: (← hexDigits n)
      else fail .hexDigit (← charSpan)

/-- Reads hexadecimal digits from an opening brace at `first` up to the closing one. -/
def bracedDigits (first : Place) : Nat → Reading (List Char)
  | 0 => do fail .escapeEnd (← since first)
  | n + 1 => do
    match ← peek? with
    | none => fail .escapeEnd (← since first)
    | some c =>
      if c = '\x7d' then return []
      else if isHexDigit c then
        advance
        return c :: (← bracedDigits first n)
      else fail .hexDigit (← charSpan)

/-- Reads a code point after its letter, of which `size` digits are wanted. -/
def codePoint (size : Nat) : Reading Char := do
  advance
  needMore .escapeEnd (← here)
  let first ← place
  if (← peek?) = some '\x7b' then
    let inner := (← charSpan).last
    advance
    let digits ← bracedDigits first ((← left) + 1)
    let span ← since inner
    advance
    if digits.isEmpty then fail .hexEmpty (← since first)
    match hexChar? digits with
    | some c => return c
    | none => fail .hexNoCharacter span
  else
    let digits ← hexDigits size
    match hexChar? digits with
    | some c => return c
    | none => fail .hexNoCharacter (← since first)

/-! ## Escape sequences -/

/-- The characters that a property stands for, if it is known, and whether the others are meant; it
may be written as a property with its value. -/
def property (name : String) : Except PatternFault (CharClass × Bool) :=
  let plain := Text.Category.plainName
  let value (key wanted : List Char) : Except PatternFault CharClass :=
    match plain (.ofList key) with
    | "gc" | "generalcategory" =>
      match Text.Category.group? (plain (.ofList wanted)) with
      | some l => .ok (.unions (l.map .category))
      | none => .error .propertyValueUnknown
    | _ => .error .propertyUnknown
  let l := name.toList
  let key := l.takeWhile fun c => c ≠ ':' && c ≠ '='
  match l.drop key.length with
  | [] =>
    match CharClass.property? (plain name) with
    | some k => .ok (k, false)
    | none => .error .propertyUnknown
  | '=' :: wanted =>
    if key.getLast? = some '!' then (value key.dropLast wanted).map (·, true)
    else (value key wanted).map (·, false)
  | _ :: wanted => (value key wanted).map (·, false)

/-- Reads the name of a property up to a closing brace. -/
def propertyName : Nat → Reading (List Char)
  | 0 => do fail .escapeEnd (← here)
  | n + 1 => do
    match ← peek? with
    | none => fail .escapeEnd (← here)
    | some c =>
      if c = '\x7d' then return []
      else
        advance
        return c :: (← propertyName n)

/-- Reads the class of a property after its letter, in an escape sequence that begins at `first`. -/
def propertyClass (first : Place) : Reading CharClass := do
  let negated := (← peek?) = some 'P'
  advance
  needMore .escapeEnd (← here)
  let name ←
    if (← peek?) = some '\x7b' then
      advance
      let name ← propertyName ((← left) + 1)
      bump
      pure name
    else
      let c ← peek?
      if c = some '\\' then fail .propertyLetter (← charSpan)
      advance
      pure c.toList
  let span ← since first
  let f ← flags
  if !f.unicode then
    note .beyondAscii span
    return .nothing
  match property (.ofList name) with
  | .ok (k, others) => return if negated != others then .complement (f.fold k) else f.fold k
  | .error fault =>
    note fault span
    return .nothing

/-- Notes a fault if a class of a pattern over ASCII holds characters beyond it. -/
def needAscii (k : CharClass) (span : Span) : Reading Unit := do
  if !(← flags).unicode && k.contains '\x80' then note .partOfCharacter span

/-- Reads a class of one letter, in an escape sequence that begins at `first`. -/
def letterClass (first : Place) (letter : Char) : Reading CharClass := do
  bump
  let f ← flags
  let k : CharClass :=
    match letter.toLower with
    | 'd' => if f.unicode then .digit else .asciiDigit
    | 's' => if f.unicode then .blank else .asciiBlank
    | _ => f.word
  let k := if letter.isUpper then .complement k else k
  needAscii k (← since first)
  return k

/-- Whether a character may stand in the name of a kind of word boundary. -/
def isBoundaryLetter (c : Char) : Bool :=
  ('a' ≤ c && c ≤ 'z') || ('A' ≤ c && c ≤ 'Z') || c = '-'

/-- Reads the letters of the name of a kind of word boundary. -/
def boundaryName : Nat → Reading (List Char)
  | 0 => return []
  | n + 1 => do
    match ← peek? with
    | none => return []
    | some c =>
      if isBoundaryLetter c then
        advance
        return c :: (← boundaryName n)
      else return []

/-- Reads the kind of a word boundary between braces, if it is one and not a repetition. -/
def boundaryKind (first : Place) : Reading (Option Anchor) := do
  let saved ← get
  let brace ← place
  advance
  needMore .boundaryEnd (← since first)
  if !((← peek?).any isBoundaryLetter) then
    set saved
    return none
  let inner ← place
  let name ← boundaryName (← left)
  if (← peek?) ≠ some '\x7d' then fail .boundaryUnclosed (← since brace)
  let span ← since inner
  bump
  let word := (← flags).word
  match String.ofList name with
  | "start" => return some (.wordStart word)
  | "end" => return some (.wordEnd word)
  | "start-half" => return some (.afterNoWord word)
  | "end-half" => return some (.beforeNoWord word)
  | _ => fail .boundaryUnknown span

/-- Whether a character that is no letter or digit stands for itself after a backslash. -/
def isEscapable (c : Char) : Bool :=
  c < '\x80' && !c.isAlphanum && c ≠ '<' && c ≠ '>'

/-- Reads an escape sequence of one character, of which the character has been read. -/
def shortEscape (first : Place) (c : Char) : Reading PatternAtom := do
  let word := (← flags).word
  match c with
  | 'a' => return .literal '\x07' false
  | 'f' => return .literal '\x0c' false
  | 't' => return .literal '\t' false
  | 'n' => return .literal '\n' false
  | 'r' => return .literal '\r' false
  | 'v' => return .literal '\x0b' false
  | 'A' => return .anchor .textStart
  | 'z' => return .anchor .textEnd
  | 'B' => return .anchor (.inside word)
  | '<' => return .anchor (.wordStart word)
  | '>' => return .anchor (.wordEnd word)
  | 'b' =>
    let kind ← if (← peek?) = some '\x7b' then boundaryKind first else pure none
    return .anchor (kind.getD (.boundary word))
  | c => if isEscapable c then return .literal c false else fail .escapeUnknown (← since first)

/-- Reads an escape sequence. -/
def escape : Reading (PatternAtom × Span) := do
  let first ← place
  bump
  needMore .escapeEnd (← since first)
  let c := (← peek?).getD '\\'
  if c.isDigit then fail .backreference ⟨first, (← charSpan).last⟩
  let atom : PatternAtom ←
    match c with
    | 'x' =>
      let braced := (← get).second? = some '\x7b'
      let d ← codePoint 2
      pure (.literal d !braced)
    | 'u' => do pure (.literal (← codePoint 4) false)
    | 'U' => do pure (.literal (← codePoint 8) false)
    | 'p' | 'P' => do pure (.characters (← propertyClass first))
    | 'd' | 's' | 'w' | 'D' | 'S' | 'W' => do pure (.characters (← letterClass first c))
    | c =>
      bump
      shortEscape first c
  return (atom, ← since first)

/-! ## Classes between brackets -/

/-- How two classes are put together. -/
inductive SetOperator where
  /-- Both. -/
  | inter
  /-- The first without the second. -/
  | diff
  /-- One of them and not the other. -/
  | symmDiff

/-- Puts two classes together. -/
def SetOperator.apply : SetOperator → CharClass → CharClass → CharClass
  | inter, left, right => .inter left right
  | diff, left, right => .diff left right
  | symmDiff, left, right => .symmDiff left right

/-- What is open while a class is read. -/
inductive ClassFrame where
  /-- A bracket, with the items that stand before it in the class around it. -/
  | bracket (negated : Bool) (span : Span) (outer : List CharClass)
  /-- An operator with its left side. -/
  | operator (o : SetOperator) (left : CharClass)

/-- The innermost open bracket. -/
def openBracket : List ClassFrame → Span
  | [] => .point .start
  | .bracket _ span _ :: _ => span
  | .operator .. :: rest => openBracket rest

/-- Refuses a class that ends here. -/
def needMoreOfClass (stack : List ClassFrame) : Reading Unit :=
  needMore .classUnclosed (openBracket stack)

/-- Reads minus signs at the beginning of a class. -/
def leadingMinus (first : Place) : Nat → Reading (List CharClass)
  | 0 => return []
  | n + 1 => do
    if (← peek?) = some '-' then
      advance
      needMore .classUnclosed (.point first)
      return .single '-' :: (← leadingMinus first n)
    else return []

/-- Opens a bracket; a bracket that would close it at once stands for itself. -/
def openClass (outer : List CharClass) : Reading (ClassFrame × List CharClass) := do
  let first ← place
  advance
  needMore .classUnclosed (← since first)
  let negated := (← peek?) = some '^'
  if negated then
    advance
    needMore .classUnclosed (← since first)
  let items ← leadingMinus first (← left)
  if items.isEmpty && (← peek?) = some ']' then
    advance
    needMore .classUnclosed (← since first)
    return (.bracket negated (← since first) outer, [.single ']'])
  return (.bracket negated (← since first) outer, items)

/-- The name of a class of ASCII up to its closing colon and bracket, and what follows these. -/
def asciiName? : List Char → Option (List Char × List Char)
  | ':' :: ']' :: rest => some ([], rest)
  | ':' :: _ => none
  | c :: rest => (asciiName? rest).map fun (name, rest) => (c :: name, rest)
  | [] => none

/-- Reads a class of ASCII such as `[:alpha:]`, if there is one. -/
def asciiClass? : Reading (Option CharClass) := do
  let r ← get
  let f ← flags
  let first ← place
  let (negated, body) :=
    match r.rest with
    | '[' :: ':' :: '^' :: body => (true, some body)
    | '[' :: ':' :: body => (false, some body)
    | _ => (false, none)
  let found : Option (CharClass × List Char) := do
    let (name, rest) ← asciiName? (← body)
    return (← CharClass.ascii? (.ofList name), rest)
  match found with
  | none => return none
  | some (k, rest) =>
    (List.range (r.rest.length - rest.length)).forM fun _ => bump
    let k := if negated then .complement (f.fold k) else f.fold k
    needAscii k (← since first)
    return some k

/-- Notes a fault if a character in brackets lies beyond ASCII in a pattern over ASCII. -/
def needAsciiLiteral (c : Char) (byte : Bool) (span : Span) : Reading Unit := do
  if !(← flags).unicode && '\x7f' < c then
    note (if byte then .partOfCharacter else .beyondAscii) span

/-- Reads a character or an escape sequence in a class. -/
def classAtom : Reading (PatternAtom × Span) := do
  let span ← charSpan
  match ← peek? with
  | some '\\' => escape
  | c =>
    bump
    return (.literal (c.getD '\\') false, span)

/-- Reads a character, a range of characters or an escape sequence in a class. -/
def classItem (stack : List ClassFrame) : Reading CharClass := do
  let (low, lowSpan) ← classAtom
  skip
  needMoreOfClass stack
  let second := (← get).second?
  if (← peek?) ≠ some '-' || second = some ']' || second = some '-' then
    match low with
    | .literal c byte =>
      needAsciiLiteral c byte lowSpan
      return .single c
    | .characters k => return k
    | .anchor _ => fail .classEscape lowSpan
  else
    advance
    needMoreOfClass stack
    let (high, highSpan) ← classAtom
    match low, high with
    | .literal a byteA, .literal b byteB =>
      if b < a then fail .classRange ⟨lowSpan.first, highSpan.last⟩
      needAsciiLiteral a byteA lowSpan
      needAsciiLiteral b byteB highSpan
      return .span a b
    | .literal .., _ => fail .classRangeEnd highSpan
    | _, _ => fail .classRangeEnd lowSpan

/-- Finishes the right side of an operator, if one is open. -/
def closeOperator (f : PatternFlags) (stack : List ClassFrame) (items : List CharClass) :
    CharClass × List ClassFrame :=
  let right := CharClass.unions items.reverse
  match stack with
  | .operator o left :: rest => (o.apply (f.fold left) (f.fold right), rest)
  | stack => (right, stack)

/-- The operator that two equal characters stand for. -/
def operator? (c : Char) : Option SetOperator :=
  match c with
  | '&' => some .inter
  | '-' => some .diff
  | '~' => some .symmDiff
  | _ => none

/-- Reads a class between brackets. The items of the innermost bracket are at hand, the last one
first. -/
def bracket : Nat → List ClassFrame → List CharClass → Reading CharClass
  | 0, stack, _ => fail .classUnclosed (openBracket stack)
  | n + 1, stack, items => do
    skip
    needMoreOfClass stack
    let c := (← peek?).getD '['
    let twice := (← get).rest.tail.head? = some c
    if c = '[' then
      match ← if stack.isEmpty then pure none else asciiClass? with
      | some k => bracket n stack (k :: items)
      | none =>
        let (frame, inner) ← openClass items
        bracket n (frame :: stack) inner
    else if c = ']' then
      let f ← flags
      let (k, stack) := closeOperator f stack items
      bump
      match stack with
      | .bracket negated span outer :: rest =>
        let k := if negated then .complement (f.fold k) else f.fold k
        needAscii k (← since span.first)
        if rest.isEmpty then return k else bracket n rest (k :: outer)
      | _ => fail .classUnclosed (openBracket stack)
    else
      match if twice then operator? c else none with
      | some o =>
        bump
        bump
        let (left, stack) := closeOperator (← flags) stack items
        bracket n (.operator o left :: stack) []
      | none =>
        let k ← classItem stack
        bracket n stack (k :: items)

/-! ## Repetitions -/

/-- Goes past blanks. -/
def blanks : Nat → Reading Unit
  | 0 => return
  | n + 1 => do
    if (← peek?).any Text.isBlank then
      bump
      blanks n

/-- Reads digits, and blanks between them if they do not count. -/
def digits : Nat → Reading (List Char)
  | 0 => return []
  | n + 1 => do
    match ← peek? with
    | none => return []
    | some c =>
      if c.isDigit then
        advance
        return c :: (← digits n)
      else return []

/-- Reads a number between blanks. It is refused only where it is needed. -/
def count : Reading (Except PatternError Nat) := do
  blanks (← left)
  let first ← place
  let l ← digits (← left)
  let span ← since first
  blanks (← left)
  skip
  let n := l.foldl (fun n c => 10 * n + (c.toNat - '0'.toNat)) 0
  if l.isEmpty then return .error ⟨.countMissing, span, none⟩
  else if Nat.pow 2 32 ≤ n then return .error ⟨.number, span, none⟩
  else return .ok n

/-- Reads the bounds of a counted repetition. -/
def bounds : Reading (Nat × Option Nat) := do
  let first ← place
  advance
  needMore .countUnclosed (← since first)
  let least ← count
  needMore .countUnclosed (← since first)
  let range : Nat × Option Nat ←
    if (← peek?) = some ',' then
      advance
      needMore .countUnclosed (← since first)
      if (← peek?) = some '\x7d' then pure (← least, none)
      else
        let n ← least
        pure (n, some (← (← count)))
    else
      let n ← least
      pure (n, some n)
  if (← peek?) ≠ some '\x7d' then fail .countUnclosed (← since first)
  advance
  if (← peek?) = some '?' then bump
  if range.2.any (· < range.1) then fail .countOrder (← since first)
  return range

/-- Reads how often the pattern before it is repeated. -/
def repetition (operator : Char) : Reading (Nat × Option Nat) := do
  if operator = '\x7b' then bounds
  else
    bump
    if (← peek?) = some '?' then bump
    match operator with
    | '?' => return (0, some 1)
    | '*' => return (0, none)
    | _ => return (1, none)

/-! ## Groups -/

/-- Reads flags up to a colon or a closing parenthesis; those that were read are at hand. -/
def flagItems : Nat → List (Char × Span) → Reading (List Char)
  | 0, _ => do fail .flagEnd (← here)
  | n + 1, items => do
    match ← peek? with
    | none => fail .flagEnd (← here)
    | some c =>
      let span ← charSpan
      if c = ':' || c = ')' then
        match items with
        | ('-', minus) :: _ => fail .flagDangling minus
        | _ => return items.reverse.map Prod.fst
      else if c ≠ '-' && !PatternFlags.letters.contains c then fail .flagUnknown span
      else
        match items.find? fun item => item.1 = c with
        | some (_, earlier) =>
          throw ⟨if c = '-' then .flagNegatedTwice else .flagTwice, span, some earlier⟩
        | none =>
          bump
          flagItems n ((c, span) :: items)

/-- Whether a character may stand in the name of a group. -/
def isNameChar (first : Bool) (c : Char) : Bool :=
  c = '_' || CharClass.letter.contains c
    || (!first
      && (c = '.' || c = '[' || c = ']'
        || Text.Category.numbers.any fun k => k.contains c))

/-- Reads the characters of the name of a group. -/
def nameChars (first : Bool) : Nat → Reading (List Char)
  | 0 => return []
  | n + 1 => do
    match ← peek? with
    | none => return []
    | some c =>
      if c = '>' then return []
      else if isNameChar first c then
        bump
        return c :: (← nameChars false n)
      else fail .nameCharacter (← charSpan)

/-- Reads the name of a group. -/
def groupName : Reading Unit := do
  needMore .nameEnd (← here)
  let first ← place
  let name ← nameChars true (← left)
  needMore .nameEnd (← here)
  let span ← since first
  bump
  if name.isEmpty then fail .nameEmpty (.point first)
  match (← get).names.find? fun entry => entry.1 = name with
  | some (_, earlier) => throw ⟨.nameTwice, span, some earlier⟩
  | none => modify fun r => { r with names := (name, span) :: r.names }

/-- Reads the beginning of a group: the flags that hold in it, or else the flags that hold from here
on. -/
def opening (span : Span) : Reading (PatternFlags ⊕ PatternFlags) := do
  bump
  skip
  let looks ← ["?=", "?!", "?<=", "?<!"].anyM bumpIf
  if looks then fail .lookAround (← since span.first)
  let inner ← here
  let named ← ["?P<", "?<"].anyM bumpIf
  if named then
    groupName
    return .inl (← flags)
  else if ← bumpIf "?" then
    needMore .groupUnclosed span
    let items ← flagItems ((← left) + 1) []
    let stop ← peek?
    bump
    let f := (← flags).setAll items
    if stop ≠ some ')' then return .inl f
    if items.isEmpty then fail .repetitionOfNothing inner
    return .inr f
  else return .inl (← flags)

/-! ## Patterns -/

/-- Alternatives that are being read. Flags that stand alone count as an item without a pattern. -/
structure Branches where
  /-- The finished alternatives, the last one first. -/
  finished : List Pattern := []
  /-- The items of the current alternative, the last one first. -/
  items : List (Option Pattern) := []

namespace Branches

/-- Adds an item. -/
def push (b : Branches) (p : Pattern) : Branches :=
  { b with items := some p :: b.items }

/-- Begins the next alternative. -/
def turn (b : Branches) : Branches where
  finished := Pattern.row (b.items.reverse.filterMap id) :: b.finished

/-- The pattern of all alternatives. -/
def pattern (b : Branches) : Pattern :=
  Pattern.alternatives b.turn.finished.reverse

end Branches

/-- A group that is open, with what stands around it. -/
structure OpenGroup where
  /-- Its opening parenthesis. -/
  span : Span
  /-- The flags around it. -/
  flags : PatternFlags
  /-- The alternatives around it. -/
  around : Branches

/-- The pattern of a single part. -/
def atomPattern (atom : PatternAtom) (span : Span) : Reading Pattern := do
  let f ← flags
  match atom with
  | .literal c byte =>
    if !f.unicode && byte && '\x7f' < c then note .partOfCharacter span
    return .one (f.fold (.single c))
  | .characters k => return .one k
  | .anchor a => return .anchor a

/-- Reads a character that stands for itself, a point, an anchor or an escape sequence. -/
def primitive (c : Char) : Reading Pattern := do
  let f ← flags
  let span ← charSpan
  match c with
  | '\\' =>
    let (atom, span) ← escape
    atomPattern atom span
  | '.' =>
    bump
    if !f.unicode then note .partOfCharacter span
    if f.dotAll then return .one .any
    else if f.returns then return .one (.complement (.spans [('\n', '\n'), ('\r', '\r')]))
    else return .one (.complement (.single '\n'))
  | '^' =>
    bump
    return .anchor (if f.multiLine then .lineStart f.returns else .textStart)
  | '$' =>
    bump
    return .anchor (if f.multiLine then .lineEnd f.returns else .textEnd)
  | c =>
    bump
    atomPattern (.literal c false) span

/-- Reads alternatives to the end of the pattern. -/
def branches : Nat → List OpenGroup → Branches → Reading Pattern
  | 0, _, b => return b.pattern
  | n + 1, groups, b => do
    skip
    match ← peek? with
    | none =>
      match groups with
      | [] => return b.pattern
      | g :: _ => fail .groupUnclosed g.span
    | some '(' =>
      let span ← charSpan
      let around ← flags
      match ← opening span with
      | .inl inner =>
        modify fun r => { r with flags := inner }
        branches n (⟨span, around, b⟩ :: groups) {}
      | .inr further =>
        modify fun r => { r with flags := further }
        branches n groups { b with items := none :: b.items }
    | some ')' =>
      match groups with
      | [] => fail .groupUnopened (← charSpan)
      | g :: rest =>
        bump
        modify fun r => { r with flags := g.flags }
        branches n rest (g.around.push b.pattern)
    | some '|' =>
      bump
      branches n groups b.turn
    | some '[' => do
      let k ← bracket ((← left) + 1) [] []
      branches n groups (b.push (.one k))
    | some c =>
      if c = '?' || c = '*' || c = '+' || c = '\x7b' then
        match b.items with
        | some p :: items =>
          let (least, most) ← repetition c
          branches n groups { b with items := some (.repeated p least most) :: items }
        | _ => fail .repetitionOfNothing (← here)
      else
        let p ← primitive c
        branches n groups (b.push p)

end Reading

namespace Pattern

/-- The room that a pattern may take, in bytes. -/
def room : Nat :=
  10485760

/-- The room that a part of a pattern takes, in bytes. -/
def roomOfPart : Nat :=
  24

/-- Reads a pattern, or says why it is refused. -/
def parse (source : String) : Except String Pattern :=
  let text := source.toList
  match (Reading.branches (text.length + 1) [] {}).run { rest := text } with
  | .error e => .error (e.report source)
  | .ok (p, r) =>
    match r.late with
    | some e => .error (e.report source)
    | none =>
      if room < roomOfPart * p.weight then
        .error ("Compiled regex exceeds size limit of " ++ toString room ++ " bytes.")
      else .ok p

end Pattern

end CommandFront
