import Morphotactics.Pattern.Node
import Morphotactics.Text.LetterCase
import Morphotactics.Text.Numeric

/-! Which characters an item of a pattern stands for, with or without regard to case. -/
namespace Morphotactics.Pattern

structure Mode where
  ignoreCase : Bool
  multiline : Bool
  dotAll : Bool
  ascii : Bool
  deriving DecidableEq

/-- The mode inside a group. Of the two repertoires, the one that is switched on last counts. -/
def Mode.change (mode : Mode) (c : OptionChange) : Mode where
  ignoreCase := (mode.ignoreCase || c.on.ignoreCase) && !c.off.ignoreCase
  multiline := (mode.multiline || c.on.multiline) && !c.off.multiline
  dotAll := (mode.dotAll || c.on.dotAll) && !c.off.dotAll
  ascii := c.on.ascii || (mode.ascii && !c.on.unicode)

/-- Lower-case letters with the same upper case. -/
def twins : List (List Nat) := [
  [0x69, 0x131], [0x73, 0x17f], [0xb5, 0x3bc], [0x345, 0x3b9, 0x1fbe], [0x390, 0x1fd3],
  [0x3b0, 0x1fe3], [0x3b2, 0x3d0], [0x3b5, 0x3f5], [0x3b8, 0x3d1], [0x3ba, 0x3f0],
  [0x3c0, 0x3d6], [0x3c1, 0x3f1], [0x3c2, 0x3c3], [0x3c6, 0x3d5], [0x432, 0x1c80],
  [0x434, 0x1c81], [0x43e, 0x1c82], [0x441, 0x1c83], [0x442, 0x1c84, 0x1c85], [0x44a, 0x1c86],
  [0x463, 0x1c87], [0x1c88, 0xa64b], [0x1e61, 0x1e9b], [0xfb05, 0xfb06]]

def withTwins (n : Nat) : List Nat :=
  (twins.find? (·.elem n)).getD [n]

/-- Lower case by which code points are compared when case is ignored. -/
def Mode.lower (mode : Mode) (n : Nat) : Nat :=
  if mode.ascii then (if 0x41 ≤ n ∧ n ≤ 0x5a then n + 32 else n) else lowerCode n

/-- Lower-case code points that count as like `n` when case is ignored. -/
def Mode.likes (mode : Mode) (n : Nat) : List Nat :=
  if mode.ascii then [mode.lower n] else withTwins (mode.lower n)

def Mode.lowerSources (mode : Mode) (n : Nat) : List Nat :=
  if mode.ascii then [n, n - 32].filter (fun m => mode.lower m = n) else Morphotactics.lowerSources n

/-- The first code point beyond the basic plane. -/
def planeEnd : Nat := 0x10000

/-- Membership in a class, judged by ASCII alone or by all of Unicode. -/
def Category.has (ascii : Bool) (category : Category) (n : Nat) : Bool :=
  let c := Char.ofNat n
  match category with
  | .digit => if ascii then c.isDigit else isDecimal c
  | .blank => if ascii then c = ' ' || (0x09 ≤ n && n ≤ 0x0d) else isBlank c
  | .word => c = '_' || if ascii then c.isAlphanum else isAlphanumeric c

def Member.has (ascii : Bool) (n : Nat) : Member → Bool
  | .one code => n = code
  | .span first last => first ≤ n && n ≤ last
  | .kind category negated => category.has ascii n != negated

/-- Membership of a code point in lower case. Members of the basic plane are lowered too; beyond it
a single code point counts as written, and a span has the upper case as well. -/
def Member.hasLower (mode : Mode) (n : Nat) : Member → Bool
  | .one code => if code < planeEnd then (mode.likes code).elem n else n = code
  | .span first last =>
    let near := if mode.ascii then [n] else withTwins n
    (near.any fun m => (mode.lowerSources m).any fun source =>
      first ≤ source && source ≤ last && source < planeEnd) ||
    (planeEnd ≤ last &&
      ((first ≤ n && n ≤ last) || (first ≤ upperCode n && upperCode n ≤ last)))
  | .kind category negated => category.has mode.ascii n != negated

def Mode.same (mode : Mode) (code : Nat) (c : Char) : Bool :=
  if mode.ignoreCase then (mode.likes code).elem (mode.lower c.toNat) else c.toNat = code

def Mode.inSet (mode : Mode) (negated : Bool) (members : List Member) (c : Char) : Bool :=
  (if mode.ignoreCase then members.any (·.hasLower mode (mode.lower c.toNat))
   else members.any (·.has mode.ascii c.toNat)) != negated

/-- Characters that a reference to a group takes for one another. -/
def Mode.alike (mode : Mode) (a b : Char) : Bool :=
  if mode.ignoreCase then mode.lower a.toNat = mode.lower b.toNat else a = b

def Mode.isWord (mode : Mode) (c : Char) : Bool :=
  Category.has mode.ascii .word c.toNat

end Morphotactics.Pattern
