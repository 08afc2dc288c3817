import Morphotactics.Text.Quoted

/-! Values of settings. -/
namespace Morphotactics

inductive MomentKind where
  | date
  | time
  | dateTime
  deriving DecidableEq

/-- A value in a settings document. Numbers with a fraction, dates and times stay as written. -/
inductive Setting where
  | text (value : Text)
  | integer (value : Int)
  | boolean (value : Bool)
  | fraction (spelled : Text)
  | moment (kind : MomentKind) (spelled : Text)
  | list (items : List Setting)
  | table (entries : List (Text × Setting))

namespace Setting

/-- A value that says something: not false, zero or empty. -/
def isTruthy : Setting → Bool
  | .text value => !value.isEmpty
  | .integer value => value ≠ 0
  | .boolean value => value
  | .fraction spelled => (spelled.takeWhile fun c => c != 'e' && c != 'E').any fun c =>
      '1' ≤ c && c ≤ '9' || c = 'n'
  | .moment _ _ => true
  | .list items => !items.isEmpty
  | .table entries => !entries.isEmpty

def kindName : Setting → Text
  | .text _ => "str".toList
  | .integer _ => "int".toList
  | .boolean _ => "bool".toList
  | .fraction _ => "float".toList
  | .moment .date _ => "date".toList
  | .moment .time _ => "time".toList
  | .moment .dateTime _ => "datetime".toList
  | .list _ => "list".toList
  | .table _ => "dict".toList

/-- The name of the kind of a value together with its family. -/
def qualifiedKind : Setting → Text
  | .moment kind spelled => "datetime.".toList ++ (Setting.moment kind spelled).kindName
  | value => value.kindName

def lookup? (key : Text) (entries : List (Text × Setting)) : Option Setting :=
  (entries.find? (·.1 = key)).map (·.2)

mutual

/-- A value inside of another one; texts are quoted there. -/
def inspect : Setting → Text
  | .text value => value.quoted
  | .integer value => Text.ofInt value
  | .boolean value => if value then "True".toList else "False".toList
  | .fraction spelled => spelled
  | .moment _ spelled => spelled
  | .list items => '[' :: inspectItems items ++ [']']
  | .table entries => '\x7b' :: inspectEntries entries ++ ['\x7d']

def inspectItems : List Setting → Text
  | [] => []
  | [item] => item.inspect
  | item :: rest => item.inspect ++ ", ".toList ++ inspectItems rest

def inspectEntries : List (Text × Setting) → Text
  | [] => []
  | [(key, value)] => key.quoted ++ ": ".toList ++ value.inspect
  | (key, value) :: rest =>
    key.quoted ++ ": ".toList ++ value.inspect ++ ", ".toList ++ inspectEntries rest

end

/-- A value as it is shown by itself. -/
def shown : Setting → Text
  | .text value => value
  | value => value.inspect

end Setting
end Morphotactics
