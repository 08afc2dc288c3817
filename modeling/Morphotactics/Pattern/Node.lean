import Morphotactics.Text

/-! Trees of regular expressions. -/
namespace Morphotactics.Pattern

/-- Classes of characters with an escape of their own. -/
inductive Category where
  | digit
  | blank
  | word
  deriving DecidableEq

/-- A member of a bracketed set. Code points are numbers, since an escape can spell a surrogate. -/
inductive Member where
  | one (code : Nat)
  | span (first last : Nat)
  | kind (category : Category) (negated : Bool)
  deriving DecidableEq

/-- Places in a text that take no character. -/
inductive Anchor where
  | lineStart
  | lineEnd
  | textStart
  | textEnd
  | wordEdge
  | wordInside
  deriving DecidableEq

structure Options where
  ignoreCase : Bool := false
  multiline : Bool := false
  dotAll : Bool := false
  verbose : Bool := false
  ascii : Bool := false
  unicode : Bool := false
  deriving DecidableEq

structure OptionChange where
  on : Options := {}
  off : Options := {}
  deriving DecidableEq

inductive Greed where
  | greedy
  | lazy
  | possessive
  deriving DecidableEq

/-- Least and greatest number of characters; no greatest number means that there is no bound. -/
structure Width where
  least : Nat
  most : Option Nat
  deriving DecidableEq

/-- A regular expression. The contents of a look-behind carry their width. -/
inductive Node where
  | empty
  | one (code : Nat)
  | notOne (code : Nat)
  | any
  | set (negated : Bool) (members : List Member)
  | anchor (place : Anchor)
  | again (group : Nat)
  | seq (first rest : Node)
  | either (first second : Node)
  | group (index : Option Nat) (change : OptionChange) (body : Node)
  | atomic (body : Node)
  | repeated (greed : Greed) (least : Nat) (most : Option Nat) (body : Node)
  | lookAhead (wanted : Bool) (body : Node)
  | lookBehind (wanted : Bool) (width : Width) (body : Node)
  | ifGroup (group : Nat) (present absent : Node)
  deriving DecidableEq

namespace Node

def items : Node → List Node
  | .empty => []
  | .seq first rest => first :: items rest
  | node => [node]

def ofItems : List Node → Node
  | [] => .empty
  | item :: rest => .seq item (ofItems rest)

/-- A group that captures nothing and changes no option is no more than its items. -/
def unpacked : Node → List Node
  | .group none change body => if change = {} then body.items else [.group none change body]
  | node => [node]

/-- Items that take at most one way through the text. -/
def isSimple : Node → Bool
  | .one _ | .notOne _ | .any | .set _ _ | .anchor _ | .again _ => true
  | _ => false

end Node

namespace Width

def zero : Width := ⟨0, some 0⟩

def add (a b : Width) : Width :=
  ⟨a.least + b.least, do return (← a.most) + (← b.most)⟩

def join (a b : Width) : Width :=
  ⟨min a.least b.least, do return max (← a.most) (← b.most)⟩

def times (least : Nat) (most : Option Nat) (a : Width) : Width :=
  ⟨a.least * least,
    if a.most = some 0 || most = some 0 then some 0 else do return (← a.most) * (← most)⟩

end Width

/-- The width of a tree in which earlier groups have the given widths. -/
def Node.width (groups : List (Option Width)) : Node → Width
  | .empty | .anchor _ | .lookAhead _ _ | .lookBehind _ _ _ => .zero
  | .one _ | .notOne _ | .any | .set _ _ => ⟨1, some 1⟩
  | .again index => ((groups[index - 1]?).join).getD .zero
  | .seq first rest => (first.width groups).add (rest.width groups)
  | .either first second => (first.width groups).join (second.width groups)
  | .group _ _ body | .atomic body => body.width groups
  | .repeated _ least most body => (body.width groups).times least most
  | .ifGroup _ present absent => (present.width groups).join (absent.width groups)

end Morphotactics.Pattern
