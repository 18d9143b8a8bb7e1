namespace VoiceCursor.Text

/-! Texts less what a terminal acts on instead of showing it: control characters, and
the sequences that an escape character starts. -/

inductive ControlState where
  | ground
  | escape
  /-- After the first of several symbols before the end of a sequence. -/
  | symbols
  /-- Among the parameters of a sequence, which ends with a letter or the like. -/
  | parameters
  | device
  | text
  /-- In a text that a bell may end. -/
  | command
  deriving DecidableEq, Repr

/-- The white space that a terminal shows by going to another place. -/
def isMotion (c : Char) : Bool := c = '\t' || c = '\n' || c = '\x0C' || c = '\r'

namespace ControlState

def afterEscape (c : Char) : ControlState :=
  if c < ' ' || '~' < c then .escape
  else if c < '0' then .symbols
  else
    match c with
    | '[' => .parameters
    | ']' => .command
    | 'P' => .device
    | 'X' | '^' | '_' => .text
    | _ => .ground

/-- An escape starts anew everywhere, and two characters cancel every sequence. The
byte that ends a text may also be a later byte of another character. -/
def next (state : ControlState) (c : Char) : ControlState :=
  if c = '\x1B' then .escape
  else if c = '\x18' || c = '\x1A' then .ground
  else
    match state with
    | ground => .ground
    | escape => afterEscape c
    | symbols => if '0' ≤ c && c ≤ '~' then .ground else .symbols
    | parameters => if '@' ≤ c && c ≤ '~' then .ground else .parameters
    | device => if '@' ≤ c && c ≤ '~' then .text else .device
    | text => if (String.utf8EncodeChar c).contains 0x9C then .ground else .text
    | command => if c = '\x07' then .ground else .command

def shows (state : ControlState) (c : Char) : Bool :=
  match state with
  | ground => isMotion c || (' ' ≤ c && c ≠ '\x7F')
  | escape | symbols | parameters => isMotion c
  | device | text | command => false

end ControlState

/-- The characters that are shown. White space within a sequence interrupts it, up to
the next character that cannot be shown. -/
def shownFrom (state : ControlState) (interrupted : Bool) : List Char → List Char
  | [] => []
  | c :: rest =>
      if interrupted && ControlState.ground.shows c then
        c :: shownFrom (if '~' < c then .ground else state) true rest
      else if state.shows c then c :: shownFrom (state.next c) true rest
      else shownFrom (state.next c) false rest

def withoutControls (text : String) : String :=
  .ofList (shownFrom .ground false text.toList)

end VoiceCursor.Text
