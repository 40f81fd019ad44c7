import BuildTrial.Text.Bytes

/-!
# Tokens of JSON

A document is read character by character. Between tokens blanks are skipped; a string runs to its
closing quote, a word (a literal or a number) to the first character that cannot be part of one. A
string may hold what is no text: half of a pair of code units, or bytes that encode no character.
Whether that is a fault depends on whether anyone looks at the string, so it is still a token.
-/

namespace BuildTrial.Json

inductive Token where
  | openArray
  | closeArray
  | openObject
  | closeObject
  | comma
  | colon
  /-- A string; nothing if it is no text. -/
  | text (value : Option String)
  /-- A literal or a number, not yet looked into. -/
  | word (value : String)
deriving DecidableEq, Repr

namespace Token

/-- Where in a token the next character falls. -/
inductive State where
  | between
  /-- In a string; what was read of it, last character first, as long as it is text. -/
  | text (read : Option (List Char))
  /-- After a backslash. -/
  | escape (read : Option (List Char))
  /-- In the four digits of a code unit; `high` is the first half of a pair that waits for its
  second half. -/
  | unit (read : Option (List Char)) (high : Option Nat) (digits value : Nat)
  /-- After the first half of a pair. -/
  | half (read : Option (List Char)) (high : Nat)
  /-- After the first half of a pair and a backslash. -/
  | halfEscape (read : Option (List Char)) (high : Nat)
  | word (read : List Char)

/-- What a letter after a backslash stands for. -/
def unescape? (c : Char) : Option Char :=
  match c with
  | '"' => some '"'
  | '\\' => some '\\'
  | '/' => some '/'
  | 'b' => some (Char.ofNat 8)
  | 'f' => some (Char.ofNat 12)
  | 'n' => some '\n'
  | 'r' => some '\r'
  | 't' => some '\t'
  | _ => none

def isWordChar (c : Char) : Bool := c.isAlphanum || c = '+' || c = '-' || c = '.'

def isSpace (c : Char) : Bool := c = ' ' || c = '\t' || c = '\n' || c = '\r'

/-- What was read of a string and one more character. -/
def extend (c : Char) (read : Option (List Char)) : Option (List Char) := read.map (c :: ·)

/-- The state that a character between tokens leads to, and the token it is by itself. -/
def start? (c : Char) : Option (State × List Token) :=
  match c with
  | '[' => some (.between, [openArray])
  | ']' => some (.between, [closeArray])
  | '\x7b' => some (.between, [openObject])
  | '\x7d' => some (.between, [closeObject])
  | ',' => some (.between, [comma])
  | ':' => some (.between, [colon])
  | '"' => some (.text (some []), [])
  | _ =>
    if isSpace c then some (.between, [])
    else if isWordChar c then some (.word [c], [])
    else none

/-- After a complete code unit: a character, or half of a pair. A second half that follows no first
half is no text, and neither is a first half before anything else. -/
def finishUnit (read : Option (List Char)) (high : Option Nat) (value : Nat) : State :=
  match high with
  | none =>
    if 0xd800 ≤ value ∧ value < 0xdc00 then .half read value
    else if 0xdc00 ≤ value ∧ value < 0xe000 then .text none
    else .text (extend (Char.ofNat value) read)
  | some high =>
    if 0xdc00 ≤ value ∧ value < 0xe000 then
      .text (extend (Char.ofNat (0x10000 + (high - 0xd800) * 0x400 + (value - 0xdc00))) read)
    else .text none

/-- The state inside a string after one more character. -/
def inText? (read : Option (List Char)) (c : Char) : Option (State × List Token) :=
  if c = '"' then
    some (.between, [text (read.map fun read => String.ofList read.reverse)])
  else if c = '\\' then some (.escape read, [])
  else if c.toNat < 32 then none
  else some (.text (extend c read), [])

/-- The state after a backslash and one more character. -/
def afterEscape? (read : Option (List Char)) (c : Char) : Option (State × List Token) :=
  if c = 'u' then some (.unit read none 0 0, [])
  else (unescape? c).map fun c => (.text (extend c read), [])

/-- Take one more character; the tokens that it completes come in order. -/
def step? (state : State) (c : Char) : Option (State × List Token) :=
  match state with
  | .between => start? c
  | .text read => inText? read c
  | .escape read => afterEscape? read c
  | .unit read high digits value => do
    let digit ← Text.hexDigit? c
    if digits = 3 then return (finishUnit read high (16 * value + digit), [])
    else return (.unit read high (digits + 1) (16 * value + digit), [])
  -- half of a pair stands for nothing unless the other half follows
  | .half read high =>
    if c = '\\' then some (.halfEscape read high, []) else inText? none c
  | .halfEscape read high =>
    if c = 'u' then some (.unit read (some high) 0 0, []) else afterEscape? none c
  | .word read =>
    if isWordChar c then some (.word (c :: read), [])
    else (start? c).map fun (state, tokens) => (state, word (String.ofList read.reverse) :: tokens)

/-- Take a byte that encodes no character, which only a string can hold. -/
def foreignStep? : State → Option State
  | .text _ | .half _ _ => some (.text none)
  | _ => none

/-- The tokens from a state on; `done` holds those before it, last first. -/
def scan? (state : State) (done : List Token) : List (Option Char) → Option (List Token)
  | [] =>
    match state with
    | .between => some done.reverse
    | .word read => some (word (String.ofList read.reverse) :: done).reverse
    | _ => none
  | some c :: rest =>
    match step? state c with
    | some (state, tokens) => scan? state (tokens.reverse ++ done) rest
    | none => none
  | none :: rest =>
    match foreignStep? state with
    | some state => scan? state done rest
    | none => none

end Token

/-- The tokens of characters, among which there may be bytes that encode none, if they consist of
tokens. -/
def tokens? (cs : List (Option Char)) : Option (List Token) := Token.scan? .between [] cs

end BuildTrial.Json
