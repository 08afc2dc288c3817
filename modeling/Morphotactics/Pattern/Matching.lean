import Morphotactics.Pattern.Likeness

/-! Matching of regular expressions by search with backtracking. -/
namespace Morphotactics.Pattern

/-- A place in a text, with what the groups have captured on the way to it, the latest first. -/
structure Place where
  /-- What stands before the place, the nearest character first. -/
  before : Text
  after : Text
  captures : List (Nat × Text) := []

/-- The rest of a match: what has to succeed from a place on. -/
abbrev Rest := Place → Option Place

/-- One way of matching from a place on, for any rest. -/
abbrev Step := Place → Rest → Option Place

def Place.take (isTaken : Char → Bool) (place : Place) (rest : Rest) : Option Place :=
  match place.after with
  | [] => none
  | c :: after =>
    if isTaken c then rest { place with before := c :: place.before, after := after } else none

def Place.takeText (alike : Char → Char → Bool) (place : Place) (text : Text) : Option Place :=
  match text with
  | [] => some place
  | c :: text => place.take (alike c) fun next => next.takeText alike text

def Place.back (place : Place) : Nat → Option Place
  | 0 => some place
  | n + 1 =>
    match place.before with
    | [] => none
    | c :: before => { place with before := before, after := c :: place.after }.back n

/-- Whether a word begins or ends here. In an empty text nothing is said of any place. -/
def Place.atWordEdge (mode : Mode) (place : Place) : Bool :=
  (place.before.head?.any mode.isWord) != (place.after.head?.any mode.isWord)

def Anchor.holds (mode : Mode) (place : Place) : Anchor → Bool
  | .lineStart => place.before.isEmpty || (mode.multiline && place.before.head? = some '\n')
  | .lineEnd =>
    place.after.isEmpty || place.after = ['\n'] ||
      (mode.multiline && place.after.head? = some '\n')
  | .textStart => place.before.isEmpty
  | .textEnd => place.after.isEmpty
  | .wordEdge => place.atWordEdge mode
  | .wordInside =>
    !(place.before.isEmpty && place.after.isEmpty) && !place.atWordEdge mode

def exactly (step : Step) : Nat → Step
  | 0, place, rest => rest place
  | n + 1, place, rest => step place fun next => exactly step n next rest

/-- As many repetitions as possible, and fewer on the way back. The first number is the length of
the text that is left: a repetition that takes none of it is the last. -/
def greedily (step : Step) : Nat → Option Nat → Step
  | 0, _, place, rest => rest place
  | n + 1, most, place, rest =>
    (if most = some 0 then none
     else step place fun next =>
      if next.after.length < place.after.length then greedily step n (most.map (· - 1)) next rest
      else rest next) <|> rest place

def lazily (step : Step) : Nat → Option Nat → Step
  | 0, _, place, rest => rest place
  | n + 1, most, place, rest =>
    rest place <|>
      (if most = some 0 then none
       else step place fun next =>
        if next.after.length < place.after.length then lazily step n (most.map (· - 1)) next rest
        else rest next)

/-- A step that is not tried in a second way. -/
def once (step : Step) : Step := fun place rest =>
  (step place some).bind rest

def repetition (greed : Greed) (step : Step) (least : Nat) (most : Option Nat) : Step :=
  fun place rest =>
    let more := most.map (· - least)
    match greed with
    | .greedy =>
      exactly step least place fun next => greedily step (next.after.length + 1) more next rest
    | .lazy =>
      exactly step least place fun next => lazily step (next.after.length + 1) more next rest
    | .possessive =>
      once (fun place rest => exactly (once step) least place fun next =>
        greedily (once step) (next.after.length + 1) more next rest) place rest

/-- What stands between two places, the second of which comes later. -/
def Place.upTo (first second : Place) : Text :=
  (second.before.take (second.before.length - first.before.length)).reverse

/-- Matches a tree from a place on: the places that the rest is tried from come in order of
preference, and the first from which it succeeds counts. -/
def Node.run : Node → Mode → Step
  | .empty, _, place, rest => rest place
  | .one code, mode, place, rest => place.take (mode.same code) rest
  | .notOne code, mode, place, rest => place.take (fun c => !mode.same code c) rest
  | .any, mode, place, rest => place.take (fun c => mode.dotAll || c != '\n') rest
  | .set negated members, mode, place, rest => place.take (mode.inSet negated members) rest
  | .anchor a, mode, place, rest => if a.holds mode place then rest place else none
  | .again index, mode, place, rest => do
    rest (← place.takeText mode.alike (← place.captures.lookup index))
  | .seq first second, mode, place, rest =>
    first.run mode place fun next => second.run mode next rest
  | .either first second, mode, place, rest =>
    first.run mode place rest <|> second.run mode place rest
  | .group none change body, mode, place, rest => body.run (mode.change change) place rest
  | .group (some index) change body, mode, place, rest =>
    body.run (mode.change change) place fun next =>
      rest { next with captures := (index, place.upTo next) :: next.captures }
  | .atomic body, mode, place, rest => once (body.run mode) place rest
  | .repeated greed least most body, mode, place, rest =>
    repetition greed (body.run mode) least most place rest
  | .lookAhead wanted body, mode, place, rest =>
    match body.run mode place some, wanted with
    | some found, true => rest { place with captures := found.captures }
    | none, false => rest place
    | _, _ => none
  | .lookBehind wanted width body, mode, place, rest =>
    match (place.back width.least).bind fun start => body.run mode start some, wanted with
    | some found, true => rest { place with captures := found.captures }
    | none, false => rest place
    | _, _ => none
  | .ifGroup index present absent, mode, place, rest =>
    if (place.captures.lookup index).isSome then present.run mode place rest
    else absent.run mode place rest

structure Found where
  before : Text
  matched : Text
  after : Text
  deriving DecidableEq

/-- The leftmost match from a place on. -/
def Node.search (node : Node) (mode : Mode) (before : Text) : Text → Option Found
  | [] => attempt []
  | c :: rest => attempt (c :: rest) <|> node.search mode (c :: before) rest
where
  attempt (after : Text) : Option Found :=
    (node.run mode ⟨before, after, []⟩ some).map fun last =>
      ⟨before.reverse, Place.upTo ⟨before, after, []⟩ last, last.after⟩

end Morphotactics.Pattern
