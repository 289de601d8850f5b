/-!
# Text without terminal controls

- `withoutControls s`: what a reader sees of `s` on a terminal that obeys no control: escape
  sequences are left out, and so are the control characters that are not white space.
- `ControlState.next`: the automaton behind it. A sequence that nothing ends hides the rest of the
  text.
-/

namespace CommandFront

namespace Text

/-- Where a reader of terminal text stands. -/
inductive ControlState where
  /-- In plain text. -/
  | plain
  /-- After an escape character. -/
  | escape
  /-- In an escape sequence that one more letter ends. -/
  | letter
  /-- In a control sequence, which a letter ends after its parameters. -/
  | sequence
  /-- In a command to the terminal, which a bell ends. -/
  | command
  /-- At the beginning of a string to a device. -/
  | device
  /-- In the parameters of a string to a device. -/
  | deviceParameters
  /-- After the parameters of a string to a device. -/
  | deviceDetails
  /-- In a payload, which a string terminator ends. -/
  | payload
deriving DecidableEq, Repr

namespace ControlState

/-- Whether a control character only moves the place of writing. -/
def isLayout (c : Char) : Bool :=
  c = '\t' || c = '\n' || c = '\x0c' || c = '\r'

/-- Whether a character is a control that is not layout. -/
def isSilent (c : Char) : Bool :=
  c < ' ' || c = '\x7f'

/-- Whether a byte of a character beyond ASCII has the value of the string terminator. -/
def holdsTerminator (c : Char) : Bool :=
  (String.utf8EncodeChar c).contains 0x9c

/-- The state after a character beyond ASCII, and whether the character is seen. -/
def nextBeyond (state : ControlState) (c : Char) : ControlState × Bool :=
  match state with
  | plain => (plain, true)
  | payload => (if holdsTerminator c then plain else payload, false)
  | state => (state, false)

/-- The state after a character of ASCII that does not begin or break off a sequence, and whether
the character is seen. -/
def nextAscii (state : ControlState) (c : Char) : ControlState × Bool :=
  match state with
  | plain => (plain, isLayout c || !isSilent c)
  | escape =>
    if isLayout c then (plain, true)
    else if isSilent c then (escape, false)
    else if c < '0' then (letter, false)
    else if c = '[' then (sequence, false)
    else if c = ']' then (command, false)
    else if c = 'P' then (device, false)
    else if c = 'X' || c = '^' || c = '_' then (payload, false)
    else (plain, false)
  | letter =>
    if isLayout c then (plain, true)
    else if isSilent c || c < '0' then (letter, false)
    else (plain, false)
  | sequence =>
    if isLayout c then (plain, true)
    else if isSilent c || c < '@' then (sequence, false)
    else (plain, false)
  | command => if c = '\x07' then (plain, false) else (command, false)
  | device =>
    if isSilent c then (device, false)
    else if c < '0' then (deviceDetails, false)
    else if c < '@' then (deviceParameters, false)
    else (payload, false)
  | deviceParameters =>
    if isSilent c then (deviceParameters, false)
    else if c < '0' then (deviceDetails, false)
    else if c < '<' then (deviceParameters, false)
    else (payload, false)
  | deviceDetails =>
    if isSilent c || c < '0' then (deviceDetails, false) else (payload, false)
  | payload => (payload, false)

/-- The state after a character, and whether the character is seen. -/
def next (state : ControlState) (c : Char) : ControlState × Bool :=
  if c = '\x1b' then (escape, false)
  else if c = '\x18' || c = '\x1a' then (plain, false)
  else if '\x7f' < c then state.nextBeyond c
  else state.nextAscii c

/-- The characters that are seen, from a given state on. -/
def seen : ControlState → List Char → List Char
  | _, [] => []
  | state, c :: rest =>
    let step := state.next c
    if step.2 then c :: seen step.1 rest else seen step.1 rest

end ControlState

/-- The text without escape sequences and silent controls. -/
def withoutControls (s : String) : String :=
  .ofList (ControlState.plain.seen s.toList)

end Text

end CommandFront
