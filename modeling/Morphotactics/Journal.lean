import Morphotactics.Folder

/-! Records of what a run does, from the finest detail to failures, and how they are written. -/
namespace Morphotactics

/-- How much a record matters, or how much it has to matter in order to be written. -/
inductive Level where
  | notSet
  | debug
  | info
  | warning
  | error
  | critical
  deriving DecidableEq

namespace Level

def rank : Level → Nat
  | .notSet => 0
  | .debug => 1
  | .info => 2
  | .warning => 3
  | .error => 4
  | .critical => 5

def name : Level → Text
  | .notSet => "NOTSET".toList
  | .debug => "DEBUG".toList
  | .info => "INFO".toList
  | .warning => "WARNING".toList
  | .error => "ERROR".toList
  | .critical => "CRITICAL".toList

/-- The level of a name. Two of them have a second one. -/
def ofName? (name : Text) : Option Level :=
  if name = "WARN".toList then some .warning
  else if name = "FATAL".toList then some .critical
  else [.notSet, .debug, .info, .warning, .error, .critical].find? fun level => level.name = name

end Level

inductive Channel where
  | root
  | parser
  | engine
  | analyzer
  | hunspell
  | named (name : Text)
  deriving DecidableEq

def Channel.name : Channel → Text
  | .root => "root".toList
  | .parser => "uz_affix.parser".toList
  | .engine => "uz_affix.engine".toList
  | .analyzer => "uz_affix.analyzer".toList
  | .hunspell => "uz_affix.hunspell".toList
  | .named name => name

structure Record where
  channel : Channel
  level : Level
  message : Text
  deriving DecidableEq

/-- What is said of the moment and of the place of a record. Both come from outside. -/
structure Stamp where
  /-- The moment as it stands in front of a record. -/
  moment : Text
  /-- The moment at which a run begins. -/
  beginning : Text
  place : Text
  deriving DecidableEq

inductive Layout where
  /-- The message alone. -/
  | bare
  | simple
  /-- With the channel and the place of the record. -/
  | detailed
  deriving DecidableEq

namespace Layout

def template : Layout → Text
  | .bare => "%(message)s".toList
  | .simple => "%(asctime)s - %(levelname)s - %(message)s".toList
  | .detailed =>
    "%(asctime)s - %(name)s - %(levelname)s - [%(filename)s:%(lineno)d] - %(message)s".toList

def render (layout : Layout) (stamp : Stamp) (record : Record) : Text :=
  let parts := match layout with
    | .bare => [record.message]
    | .simple => [stamp.moment, record.level.name, record.message]
    | .detailed =>
      [stamp.moment, record.channel.name, record.level.name, stamp.place, record.message]
  List.intercalate " - ".toList parts ++ ['\n']

end Layout

/-- Where and how records are written: to the console and, if there is one, to a file. Before it is
set up, a journal shows the messages of warnings and of what matters more. -/
structure Journal where
  stamp : Stamp
  level : Level := .warning
  layout : Layout := .bare
  file : Option FilePath := none
  deriving DecidableEq

/-- Whether a record matters enough to be written. One without a level never does. -/
def Journal.admits (journal : Journal) (record : Record) : Bool :=
  record.level ≠ .notSet && journal.level.rank ≤ record.level.rank

structure JournalOptions where
  level : Level := .info
  /-- Writes everything, and with more detail. -/
  debug : Bool := false
  file : Option FilePath := none
  deriving DecidableEq

def JournalOptions.journal (options : JournalOptions) (stamp : Stamp) : Journal where
  stamp := stamp
  level := if options.debug then .debug else options.level
  layout := if options.debug then .detailed else .simple
  file := options.file

/-- The records with which a journal begins. Runs are told apart in a file only. -/
def JournalOptions.opening (options : JournalOptions) (stamp : Stamp) : List Record :=
  let rule : Record := ⟨.root, .info, List.replicate 80 '='⟩
  let banner : List Record :=
    [rule, ⟨.root, .info, "NEW RUN STARTED - ".toList ++ stamp.beginning⟩, rule]
  let notice : Record := ⟨.root, .debug, "DEBUG MODE ENABLED - Verbose logging active".toList⟩
  (if options.file.isSome then banner else []) ++ (if options.debug then [notice] else [])

end Morphotactics
