import Morphotactics.Segmentation

/-! Searches with and without a limit. -/
namespace Morphotactics

inductive LimitFault where
  | outOfRange
  | farBelowZero
  deriving DecidableEq

def LimitFault.message : LimitFault → Text
  | .outOfRange =>
    "Stop argument for islice() must be None or an integer: 0 <= x <= sys.maxsize.".toList
  | .farBelowZero =>
    "Indices for islice() must be None or an integer: 0 <= x <= sys.maxsize.".toList

def maxLimit : Nat := 9223372036854775807

/-- The number of segmentations to stop at. Zero stands for no limit. -/
def budgetOf (limit : Option Int) : Except LimitFault (Option Nat) :=
  match limit with
  | none => .ok none
  | some n =>
    if n = 0 then .ok none
    else if n = -1 || (maxLimit : Int) < n || n < -(maxLimit : Int) - 1 then .error .outOfRange
    else if n < 0 then .error .farBelowZero
    else .ok (some n.toNat)

inductive SearchError where
  | limit (fault : LimitFault)
  | pattern (error : Pattern.Invalid)
  | endless
  deriving DecidableEq

def SearchError.message : SearchError → Text
  | .limit fault => fault.message
  | .pattern error => error.message
  | .endless => "The segmentation search does not end".toList

/-- The segmentations of a word up to a limit, in order of discovery. -/
def segmentations (g : Grammar) (limit : Option Int) (word : Text) :
    Except SearchError (List Analysis) :=
  match budgetOf limit with
  | .error fault => .error (.limit fault)
  | .ok (some budget) =>
    match discover g word budget with
    | .error error => .error (.pattern error)
    | .ok analyses => .ok analyses
  | .ok none =>
    match discoverAll g word with
    | none => .error .endless
    | some (.error error) => .error (.pattern error)
    | some (.ok analyses) => .ok analyses

def analyzeAll (g : Grammar) (limit : Option Int) (word : Text) :
    Except SearchError (List Analysis) :=
  return rank (← segmentations g limit word)

/-- The segmentation of the highest rank, or the word itself if there is none. -/
def analyzeBest (g : Grammar) (limit : Option Int) (word : Text) : Except SearchError Analysis :=
  return (← analyzeAll g limit word).headD (.identity word)

end Morphotactics
