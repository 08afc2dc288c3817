import Morphotactics.Pattern.Node

/-! Choices among alternatives, in the form in which they are matched. -/
namespace Morphotactics.Pattern

/-- Simple items with which all alternatives begin, and what is left of the alternatives. -/
def sharedHead : Nat → List (List Node) → List Node × List (List Node)
  | 0, alternatives => ([], alternatives)
  | n + 1, alternatives =>
    match alternatives.head?.bind List.head? with
    | some item =>
      if item.isSimple && alternatives.all (·.head? = some item) then
        let (items, left) := sharedHead n (alternatives.map List.tail)
        (item :: items, left)
      else ([], alternatives)
    | none => ([], alternatives)

def alternativeMembers? : List Node → Option (List Member)
  | [.one code] => some [.one code]
  | [.set false members] => some members
  | _ => none

def eitherOf : List (List Node) → Node
  | [] => .empty
  | [items] => .ofItems items
  | items :: rest => .either (.ofItems items) (eitherOf rest)

/-- Alternatives as items: those that are single characters are one set. -/
def choice (alternatives : List (List Node)) : List Node :=
  match alternatives with
  | [single] => single
  | _ =>
    let size := (alternatives.map List.length).foldl max 0
    let (items, left) := sharedHead size alternatives
    match left.mapM alternativeMembers? with
    | some members => items ++ [.set false members.flatten.eraseDups]
    | none => items ++ [eitherOf left]

end Morphotactics.Pattern
