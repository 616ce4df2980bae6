import Adventure.Markdown.Event
import Adventure.Markdown.Options
import Adventure.Markdown.Source

/-!
# Emphasis

Runs of asterisks, underscores and tildes open and close emphasis, depending on the characters
around them. A closing run is matched with the nearest open run of its kind; open runs between the
two stay text. Quotation marks find their forms on the same way.
-/

namespace Adventure.Markdown

structure Run where
  mark : Char
  count : Nat
  opens : Bool
  closes : Bool
  /-- The places between which the run stands. -/
  start : Nat
  stop : Nat
  deriving Repr

/-- A part of inline text in which emphasis is still to be found. -/
inductive Piece where
  /-- What is known, in reading order. -/
  | known (es : List Event)
  | run (r : Run)
  /-- A quotation mark that may become a typographic one. -/
  | quote (mark : Char) (opens closes : Bool)
  /-- A backslash at the end of a line. -/
  | escapedBreak
  deriving Repr, Inhabited

namespace Piece

def text (cs : List Char) : Piece :=
  .known [.text cs]

/-- The meaning of the piece depends on others. -/
def isMark : Piece → Bool
  | .run _ | .quote .. => true
  | _                  => false

end Piece

/-! ### Quotation marks -/

/-- The next single mark that opens or closes closes. -/
def closesNext : List Piece → Bool
  | [] => false
  | .quote '\'' opens closes :: ps => closes || (!opens && closesNext ps)
  | _ :: ps => closesNext ps

/-- Gives quotation marks their forms; the flags tell whether one of each kind is open. -/
def resolveQuotes (single double : Bool) : List Piece → List Piece
  | [] => []
  | .quote '\'' opens closes :: ps =>
    if single && closes then .text ['’'] :: resolveQuotes false double ps
    else if opens then
      .text [if closesNext ps then '‘' else '’'] :: resolveQuotes true double ps
    else .text ['’'] :: resolveQuotes single double ps
  | .quote _ opens closes :: ps =>
    if closes && double then .text ['”'] :: resolveQuotes single false ps
    else .text ['“'] :: resolveQuotes single (double || opens) ps
  | p :: ps => p :: resolveQuotes single double ps

/-! ### Matching -/

/-- An open run: what is left of it, and the events before it, the latest first. -/
structure Opener where
  run : Run
  left : Nat
  before : List Event

/-- What has been read: the open runs from the innermost on, the events behind the innermost one, the
latest first, and the number of outer runs that no run of tildes can reach any more. -/
structure Matching where
  openers : List Opener := []
  current : List Event := []
  unreachable : Nat := 0

def marks (r : Run) (n : Nat) : Event :=
  .text (List.replicate n r.mark)

/-- An open run and a closing run belong together. -/
def matchesRun (o : Opener) (r : Run) : Bool :=
  o.run.mark == r.mark &&
    if r.mark == '~' then o.run.count == r.count
    else
      !((o.run.opens && o.run.closes) || (r.opens && r.closes)) ||
        (o.run.count + r.count) % 3 != 0 || r.count % 3 == 0

/-- What the marks of two runs with something inside mean, with `n` of the marks on each side. The
inner marks go in pairs. -/
def wrapMarks : Nat → List Event → List Event
  | 0,     inside => inside
  | 1,     inside => Tag.emphasis.around inside
  | n + 2, inside => wrapMarks n (Tag.strong.around inside)

/-- What two runs of tildes with something inside mean. Without an extension for them the text stays
as it is written. -/
def wrapTildes (o : Extensions) (s : Source) (opener closer : Run) (inside : List Event) :
    List Event :=
  if opener.count = 1 then
    (if o.subscript then Tag.subscript else Tag.strikethrough).around inside
  else if o.strikethrough then Tag.strikethrough.around inside
  else [.text (s.slice opener.start closer.stop)]

/-- Open runs become text in front of what follows them. -/
def Opener.flatten (os : List Opener) (current : List Event) : List Event :=
  os.foldl (fun current o => current ++ marks o.run o.left :: o.before) current

/-- Matches a closing run of which `n` marks are left with the open runs; what is left of it in the
end comes first. -/
def closeRun (extensions : Extensions) (s : Source) (r : Run) :
    Nat → Nat → Matching → Nat × Matching
  | 0,        n, m => (n, m)
  | fuel + 1, n, m =>
    if n = 0 then (0, m)
    else
      let reachable :=
        if r.mark = '~' then m.openers.take (m.openers.length - m.unreachable) else m.openers
      match reachable.findIdx? (matchesRun · r) with
      | none =>
        (n, if r.mark = '~' then { m with unreachable := m.openers.length } else m)
      | some i =>
        match m.openers.drop i with
        | [] => (n, m)
        | o :: outer =>
          let inside := (Opener.flatten (m.openers.take i) m.current).reverse
          let k := min n o.left
          let wrapped :=
            if r.mark = '~' then wrapTildes extensions s o.run r inside else wrapMarks k inside
          let unreachable := min m.unreachable outer.length
          closeRun extensions s r fuel (n - k) <|
            if k < o.left then
              ⟨{ o with left := o.left - k } :: outer, wrapped.reverse, unreachable⟩
            else ⟨outer, wrapped.reverse ++ o.before, unreachable⟩

/-- Reads one piece. -/
def Matching.read (extensions : Extensions) (s : Source) (m : Matching) : Piece → Matching
  | .known es     => { m with current := es.reverse ++ m.current }
  | .quote c _ _  => { m with current := .text [c] :: m.current }
  | .escapedBreak => { m with current := .hardBreak :: m.current }
  | .run r =>
    let (left, m) :=
      if r.closes then closeRun extensions s r (r.count + 1) r.count m else (r.count, m)
    if left = 0 then m
    else if r.opens then { m with openers := ⟨r, left, m.current⟩ :: m.openers, current := [] }
    else
      { m with current := .text (s.slice (r.start + (r.count - left)) r.stop) :: m.current }

/-- A backslash at the very end stays one. -/
def resolveLastBreak : List Piece → List Piece
  | []              => []
  | [.escapedBreak] => [.text ['\\']]
  | p :: ps         => p :: resolveLastBreak ps

/-- Finds the emphasis in inline text. -/
def resolve (extensions : Extensions) (s : Source) (ps : List Piece) : List Event :=
  let m := (resolveQuotes false false ps).foldl (Matching.read extensions s) {}
  (Opener.flatten m.openers m.current).reverse

end Adventure.Markdown
