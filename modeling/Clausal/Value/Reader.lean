import Clausal.Value.Token

/-!
# Reading written values

A value is read from its tokens by a machine with a stack of the lists and
records that are still open.  Every token is looked at once, so reading ends
whatever the text.  How many lists and records may be open at a time is a
parameter, since each takes a call, and how many calls are left of the limit on
them depends on where the reader is called from.  Where a record has a key twice,
the last entry holds.
-/

namespace Clausal.Value

/-- A place in a text: its line and column, counted from one, and how many
characters there are before it. -/
structure Place where
  line : Nat
  column : Nat
  offset : Nat
  deriving DecidableEq, Repr

namespace Place

/-- The place after some characters. -/
def after (before : List Char) : Place :=
  let lastLine := before.reverse.takeWhile (· ≠ '\n')
  ⟨before.count '\n' + 1, lastLine.length + 1, before.length⟩

/-- A place as it is written. -/
def render (p : Place) : String :=
  s!"line {p.line} column {p.column} (char {p.offset})"

end Place

/-- Why a text is not the written form of a value. -/
inductive Unreadable
  /-- It breaks the grammar after this many characters. -/
  | fault (fault : Fault) (offset : Nat)
  /-- It holds an integer with this many digits, which are too many. -/
  | oversized (digits : Nat)
  /-- It has too many lists or records open at a time, the last of this kind. -/
  | tooDeep (kind : String)
  deriving DecidableEq, Repr

namespace Reader

/-- A list or record that is still open.  Members are kept newest first; a
record knows the key whose value comes next. -/
inductive Frame
  | list (items : List Value)
  | record (entries : List (Text × Value)) (key : Text)

/-- What may come next. -/
inductive Expectation
  /-- A value. -/
  | value
  /-- A value, or the end of the list just opened. -/
  | item
  /-- A key. -/
  | key
  /-- A key, or the end of the record just opened. -/
  | entry
  /-- The colon after a key. -/
  | colon
  /-- A comma, or the end of the innermost open list or record. -/
  | next
  /-- Nothing, since the value is complete. -/
  | nothing (v : Value)

/-- Where the machine stands. -/
structure State where
  stack : List Frame := []
  expected : Expectation := .value

/-- The entries of a record in order, each key with its last value only. -/
def lastEntries (newestFirst : List (Text × Value)) : List (Text × Value) :=
  newestFirst.foldl
    (fun kept entry => if kept.any fun e => e.1 = entry.1 then kept else entry :: kept) []

/-- Puts a complete value where it belongs. -/
def State.complete (stack : List Frame) (v : Value) : State :=
  match stack with
  | [] => { stack := [], expected := .nothing v }
  | .list items :: rest => { stack := .list (v :: items) :: rest, expected := .next }
  | .record entries key :: rest =>
      { stack := .record ((key, v) :: entries) key :: rest, expected := .next }

/-- Closes the innermost open list or record with the token for its kind. -/
def State.close (stack : List Frame) (t : Token.Placed) : Except Unreadable State :=
  match stack, t.token with
  | .list items :: rest, .closeList => .ok (.complete rest (.list items.reverse))
  | .record entries _ :: rest, .closeRecord =>
      .ok (.complete rest (.record (lastEntries entries)))
  | _, _ => .error (.fault .noComma t.offset)

/-- A token where a value is expected.  A list or record is opened if there is room
for one more. -/
def State.begin (room : Nat) (stack : List Frame) (t : Token.Placed) : Except Unreadable State :=
  match t.token with
  | .scalar v => .ok (.complete stack v)
  | .openList =>
      if room ≤ stack.length then .error (.tooDeep "array")
      else .ok { stack := .list [] :: stack, expected := .item }
  | .openRecord =>
      if room ≤ stack.length then .error (.tooDeep "object")
      else .ok { stack := .record [] [] :: stack, expected := .entry }
  | .oversized digits => .error (.oversized digits)
  | .broken fault offset => .error (.fault fault offset)
  | _ => .error (.fault .noValue t.offset)

/-- A token where a key is expected. -/
def State.key (stack : List Frame) (t : Token.Placed) : Except Unreadable State :=
  match stack, t.token with
  | .record entries _ :: rest, .scalar (.text key) =>
      .ok { stack := .record entries key :: rest, expected := .colon }
  | _, .broken fault offset => .error (.fault fault offset)
  | _, _ => .error (.fault .noKey t.offset)

/-- One token. -/
def State.step (room : Nat) (s : State) (t : Token.Placed) : Except Unreadable State :=
  match s.expected with
  | .value => State.begin room s.stack t
  | .item =>
      match t.token with
      | .closeList => State.close s.stack t
      | _ => State.begin room s.stack t
  | .key => State.key s.stack t
  | .entry =>
      match t.token with
      | .closeRecord => State.close s.stack t
      | _ => State.key s.stack t
  | .colon =>
      match t.token with
      | .colon => .ok { s with expected := .value }
      | _ => .error (.fault .noColon t.offset)
  | .next =>
      match t.token, s.stack with
      | .comma, .list _ :: _ => .ok { s with expected := .value }
      | .comma, .record _ _ :: _ => .ok { s with expected := .key }
      | _, _ => State.close s.stack t
  | .nothing _ => .error (.fault .extraData t.offset)

/-- What a text lacks that ends where this is expected. -/
def Expectation.lacking : Expectation → Fault
  | .value | .item => .noValue
  | .key | .entry => .noKey
  | .colon => .noColon
  | .next | .nothing _ => .noComma

/-- The value read from a text of the given length, if it is complete. -/
def State.finish (length : Nat) (s : State) : Except Unreadable Value :=
  match s.expected with
  | .nothing v => .ok v
  | other => .error (.fault other.lacking length)

end Reader

/-- The character that some files start with to tell their encoding. -/
def byteOrderMark : Char :=
  Char.ofNat 0xFEFF

/-- Reads the value that a text is the written form of, with room for so many open
lists and records. -/
def read (room : Nat) (cs : List Char) : Except Unreadable Value :=
  if cs.head? = some byteOrderMark then .error (.fault .byteOrderMark 0)
  else do
    let s ← (Token.ofChars cs).foldlM (Reader.State.step room) ({} : Reader.State)
    s.finish cs.length

end Clausal.Value
