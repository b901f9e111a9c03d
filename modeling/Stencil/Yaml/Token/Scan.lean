import Stencil.Yaml.Scalar

/-!
# The tokens of a document

The scanner turns a document into tokens, of which it takes no more than are asked for.  It keeps
track of the columns of the open blocks, and of the places that may turn out to be keys: only a
colon later on the same line tells that something was one, and then the tokens for the key are put
before it.  So a token is ready when nothing can be put before it any more.
-/

namespace Stencil.Yaml

/-- A place that may turn out to be a key. -/
structure Candidate where
  /-- The number of tokens before it in the document. -/
  position : Nat
  /-- Whether nothing but a key can stand there. -/
  required : Bool
  index : Nat
  line : Nat
  column : Nat
deriving Repr

/-- The state of the scanner. -/
structure Scanner where
  cursor : Cursor
  /-- The tokens that wait to be asked for. -/
  queue : List Token
  /-- The number of tokens that were asked for before. -/
  taken : Nat
  /-- Whether the last token waits or was asked for. -/
  finished : Bool
  /-- The number of open brackets. -/
  flow : Nat
  /-- The column of the innermost open block, or -1. -/
  indent : Int
  /-- The columns of the blocks around it. -/
  outer : List Int
  /-- Whether a key may stand at the cursor. -/
  allowKey : Bool
  /-- The possible keys, by the number of open brackets. -/
  candidates : List (Nat × Candidate)
deriving Repr

namespace Scanner

/-- The scanner at the beginning of a document. -/
def start (document : Text) : Scanner where
  cursor := if document.head? = some byteOrderMark then (Cursor.start document).next
    else .start document
  queue := []
  taken := 0
  finished := false
  flow := 0
  indent := -1
  outer := []
  allowKey := true
  candidates := []

/-- Whether the cursor is inside brackets. -/
def inFlow (s : Scanner) : Bool := s.flow ≠ 0

/-- Adds a token. -/
def push (token : Token) (s : Scanner) : Scanner := { s with queue := s.queue ++ [token] }

/-- Puts a token after the first `position` tokens of the document. -/
def insert (position : Nat) (token : Token) (s : Scanner) : Scanner :=
  let before := position - s.taken
  { s with queue := s.queue.take before ++ token :: s.queue.drop before }

/-- Moves the cursor. -/
def moveTo (cursor : Cursor) (s : Scanner) : Scanner := { s with cursor := cursor }

/-- Says whether a key may stand at the cursor. -/
def allow (allowKey : Bool) (s : Scanner) : Scanner := { s with allowKey := allowKey }

/-! ## Possible keys -/

/-- The possible key at the present number of open brackets. -/
def candidate? (s : Scanner) : Option Candidate := s.candidates.lookup s.flow

/-- The scanner without the possible key at the present number of open brackets. -/
def forget (s : Scanner) : Scanner :=
  { s with candidates := s.candidates.filter fun (flow, _) => flow ≠ s.flow }

/-- Gives up the possible key at the present number of open brackets, which must not be required. -/
def dismiss (s : Scanner) : Except Fault Scanner :=
  match s.candidate? with
  | some candidate => if candidate.required then malformed else .ok s.forget
  | none => .ok s

/-- Whether the colon of a possible key can still come. -/
def isOpen (cursor : Cursor) (candidate : Candidate) : Bool :=
  candidate.line = cursor.line && cursor.index - candidate.index ≤ 1024

/-- Gives up the possible keys whose colon cannot come any more. -/
def dismissStale (s : Scanner) : Except Fault Scanner :=
  let (fresh, stale) := s.candidates.partition fun (_, candidate) => isOpen s.cursor candidate
  if stale.any fun (_, candidate) => candidate.required then malformed
  else .ok { s with candidates := fresh }

/-- Notes that what stands at the cursor may be a key. -/
def consider (s : Scanner) : Except Fault Scanner :=
  if s.allowKey then do
    let s ← s.dismiss
    let required := !s.inFlow && s.indent = s.cursor.column
    let candidate : Candidate :=
      ⟨s.taken + s.queue.length, required, s.cursor.index, s.cursor.line, s.cursor.column⟩
    return { s with candidates := (s.flow, candidate) :: s.candidates }
  else .ok s

/-! ## Indentation -/

/-- The scanner after the end of the blocks that are indented deeper than a column. -/
def unwindFrom (column : Int) (s : Scanner) : List Int → Scanner
  | [] => s
  | outer :: rest =>
    if column < s.indent then
      unwindFrom column { s.push .blockEnd with indent := outer, outer := rest } rest
    else s

/-- Ends the blocks that are indented deeper than a column; inside brackets indentation says
nothing. -/
def unwind (column : Int) (s : Scanner) : Scanner :=
  if s.inFlow then s else s.unwindFrom column s.outer

/-- Begins a block at a column, unless there is one.  Also tells whether it did. -/
def beginBlock (column : Nat) (s : Scanner) : Bool × Scanner :=
  if s.indent < column then (true, { s with indent := column, outer := s.indent :: s.outer })
  else (false, s)

/-- Begins a block with the given token at the cursor, outside brackets, where a key must be
allowed. -/
def openBlock (token : Token) (s : Scanner) : Except Fault Scanner :=
  if s.inFlow then .ok s
  else if !s.allowKey then malformed
  else match s.beginBlock s.cursor.column with
    | (true, s) => .ok (s.push token)
    | (false, s) => .ok s

/-! ## Tokens -/

/-- Skips spaces, comments and line ends.  A key may stand at the beginning of a line. -/
def skipGaps : (fuel : Nat) → Scanner → Scanner
  | 0, s => s
  | fuel + 1, s =>
    let c := skipSpaces s.cursor
    let c := if c.head = '#' then skipLine c else c
    if isBreak c.head then
      skipGaps fuel { s with cursor := c.takeBreak.2, allowKey := s.allowKey || !s.inFlow }
    else s.moveTo c

/-- Takes a token of one character. -/
def single (token : Token) (s : Scanner) : Scanner := (s.moveTo s.cursor.next).push token

/-- Ends all blocks before a directive or a separator of documents. -/
def leaveBlocks (s : Scanner) : Except Fault Scanner := do
  return (← (s.unwind (-1)).dismiss).allow false

/-- Takes a separator of documents. -/
def separator (token : Token) (s : Scanner) : Except Fault Scanner := do
  let s ← s.leaveBlocks
  return (s.moveTo (s.cursor.skip 3)).push token

/-- Takes an opening bracket. -/
def openFlow (token : Token) (s : Scanner) : Except Fault Scanner := do
  let s ← s.consider
  return { s.single token with flow := s.flow + 1, allowKey := true }

/-- Takes a closing bracket; there must be an open one. -/
def closeFlow (token : Token) (s : Scanner) : Except Fault Scanner :=
  if s.inFlow then do
    let s ← s.dismiss
    return { s.single token with flow := s.flow - 1, allowKey := false }
  else malformed

/-- Takes a comma. -/
def comma (s : Scanner) : Except Fault Scanner := do
  return (← s.dismiss).allow true |>.single .flowEntry

/-- Takes the mark of an entry of a sequence. -/
def entry (s : Scanner) : Except Fault Scanner := do
  let s ← s.openBlock .blockSequenceStart
  return (← s.dismiss).allow true |>.single .blockEntry

/-- Takes the mark of a key. -/
def explicitKey (s : Scanner) : Except Fault Scanner := do
  let s ← s.openBlock .blockMappingStart
  return (← s.dismiss).allow !s.inFlow |>.single .key

/-- Takes the colon after a key.  When something before it on the line may be the key, it is;
otherwise the key was marked, or is empty. -/
def colon (s : Scanner) : Except Fault Scanner := do
  match s.candidate? with
  | some candidate =>
    let s := (s.forget.insert candidate.position .key).allow false
    let (begun, s) := if s.inFlow then (false, s) else s.beginBlock candidate.column
    let s := if begun then s.insert candidate.position .blockMappingStart else s
    return s.single .value
  | none =>
    let s ← s.openBlock .blockMappingStart
    return (← s.dismiss).allow !s.inFlow |>.single .value

/-- Takes a part of a node that may be a key, or the beginning of one. -/
def part (scan : Cursor → Except Fault (Token × Cursor)) (s : Scanner) : Except Fault Scanner := do
  let s ← s.consider
  let (token, c) ← scan s.cursor
  return ((s.moveTo c).push token).allow false

/-- Takes a block scalar. -/
def block (s : Scanner) : Except Fault Scanner := do
  let s ← (s.allow true).dismiss
  let (token, c) ← scanBlockScalar s.indent s.cursor
  return (s.moveTo c).push token

/-- Takes a plain scalar.  A key may follow when it ended with a line. -/
def plain (s : Scanner) : Except Fault Scanner := do
  let s ← s.consider
  let (text, broken, c) :=
    scanPlain s.inFlow (s.indent + 1) (s.cursor.rest.length + 1) [] false s.cursor
  return ((s.moveTo c).push (.scalar text true)).allow broken

/-- Whether a plain scalar can begin at the cursor. -/
def beginsPlain (s : Scanner) : Bool :=
  let c := s.cursor.head
  !(isGap c || isOneOf "-?:,[]\x7b\x7d#&*!|>'\"%@`" c)
    || (!isGap (s.cursor.peek 1) && (c = '-' || (!s.inFlow && (c = '?' || c = ':'))))

/-- Reads the name of an alias or an anchor as a token. -/
def named (token : Text → Token) (c : Cursor) : Except Fault (Token × Cursor) := do
  let (name, c) ← scanAnchorName c
  return (token name, c)

/-- Whether the mark at the cursor counts: inside brackets always, otherwise before a gap. -/
def marks (s : Scanner) : Bool := s.inFlow || isGap (s.cursor.peek 1)

/-- Takes one token.  The cursor stands neither before a gap nor at the end. -/
def take (s : Scanner) : Except Fault Scanner :=
  let c := s.cursor.head
  let first := s.cursor.column = 0
  if c = '%' && first then do
    let s ← s.leaveBlocks
    let (token, cursor) ← scanDirective s.cursor
    return (s.moveTo cursor).push token
  else if first && s.cursor.isMark "---" then s.separator .documentStart
  else if first && s.cursor.isMark "..." then s.separator .documentEnd
  else if c = '[' then s.openFlow .flowSequenceStart
  else if c = '\x7b' then s.openFlow .flowMappingStart
  else if c = ']' then s.closeFlow .flowSequenceEnd
  else if c = '\x7d' then s.closeFlow .flowMappingEnd
  else if c = ',' then s.comma
  else if c = '-' && isGap (s.cursor.peek 1) then s.entry
  else if c = '?' && s.marks then s.explicitKey
  else if c = ':' && s.marks then s.colon
  else if c = '*' then s.part (named .alias)
  else if c = '&' then s.part (named .anchor)
  else if c = '!' then s.part scanTag
  else if (c = '|' || c = '>') && !s.inFlow then s.block
  else if c = '\'' || c = '"' then s.part scanQuotedScalar
  else if s.beginsPlain then s.plain
  else malformed

/-- Takes the end of the document, where all blocks end. -/
def finish (s : Scanner) : Except Fault Scanner := do
  let s ← (s.unwind (-1)).dismiss
  return { s.push .documentsEnd with finished := true }

/-- Goes to the next token, where the blocks that are indented deeper than its column end, and takes
it. -/
def takeNext (s : Scanner) : Except Fault Scanner := do
  let s ← (s.skipGaps (s.cursor.rest.length + 1)).dismissStale
  let s := s.unwind s.cursor.column
  if s.cursor.rest.isEmpty then s.finish else s.take

/-! ## Asking for tokens -/

/-- Whether another token has to be taken before the first one that waits is ready. -/
def isWanting (s : Scanner) : Except Fault (Bool × Scanner) :=
  if s.finished then .ok (false, s)
  else if s.queue.isEmpty then .ok (true, s)
  else do
    let s ← s.dismissStale
    return (s.candidates.any fun (_, candidate) => candidate.position = s.taken, s)

/-- Takes tokens until the first one is ready.  Every step takes at least one character or the end
of the document, so that `fuel` beyond the length of the rest is enough. -/
def fill : (fuel : Nat) → Scanner → Except Fault Scanner
  | 0, _ => malformed
  | fuel + 1, s => do
    match ← s.isWanting with
    | (true, s) => fill fuel (← s.takeNext)
    | (false, s) => return s

/-- The next token, which goes on waiting. -/
def peek (s : Scanner) : Except Fault (Token × Scanner) := do
  let s ← s.fill (s.cursor.rest.length + 2)
  match s.queue with
  | token :: _ => return (token, s)
  | [] => malformed

/-- Goes beyond the next token. -/
def advance (s : Scanner) : Scanner := { s with queue := s.queue.tail, taken := s.taken + 1 }

end Scanner
end Stencil.Yaml
