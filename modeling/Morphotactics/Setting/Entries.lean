import Morphotactics.Setting

/-! Entries of tables, into which keys of several parts are put. -/
namespace Morphotactics.Setting

abbrev Entries := List (Text × Setting)

/-- Changes the table at a path, which is made where it is not there. If lists are entered, the
path goes on in their last table. -/
def change (enterLists : Bool) (f : Entries → Option Entries) :
    List Text → Entries → Option Entries
  | [], entries => f entries
  | key :: path, entries =>
    let replace (value : Setting) : Entries :=
      entries.map fun e => if e.1 = key then (key, value) else e
    match lookup? key entries with
    | none => do return entries ++ [(key, .table (← change enterLists f path []))]
    | some (.table inner) => do return replace (.table (← change enterLists f path inner))
    | some (.list items) =>
      if !enterLists then none
      else match items.getLast? with
        | some (.table inner) => do
          return replace (.list (items.dropLast ++ [.table (← change enterLists f path inner)]))
        | _ => none
    | some _ => none

def putNew (key : Text) (value : Setting) (entries : Entries) : Option Entries :=
  if (lookup? key entries).isSome then none else some (entries ++ [(key, value)])

/-- Puts a value at the end of a key of several parts. -/
def putAt (enterLists : Bool) (path : List Text) (value : Setting) (entries : Entries) :
    Option Entries :=
  match path.getLast? with
  | none => none
  | some key => change enterLists (putNew key value) path.dropLast entries

def appendTable (path : List Text) (entries : Entries) : Option Entries :=
  match path.getLast? with
  | none => none
  | some key =>
    let append (entries : Entries) : Option Entries :=
      match lookup? key entries with
      | none => some (entries ++ [(key, .list [.table []])])
      | some (.list items) =>
        some (entries.map fun e => if e.1 = key then (key, .list (items ++ [.table []])) else e)
      | some _ => none
    change true append path.dropLast entries

end Morphotactics.Setting
