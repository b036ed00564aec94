import Sidebar.Text.DecimalDigit
import Sidebar.Text.Quoted

/-!
# Command line options

The words of a command line, and the arguments that they spell. Options may stand anywhere and may
be shortened as long as they stay unambiguous; behind a word `--` nothing is an option.
-/

namespace Sidebar.CommandLine

inductive OptionName where
  | help
  | showHidden
  | noShowHidden
  | expand
  | restore
  | save
  | listOpen
  | find
  | next
  | last
  | isBottom
  | visible
deriving DecidableEq

namespace OptionName

def all : List OptionName :=
  [help, showHidden, noShowHidden, expand, restore, save, listOpen, find, next, last, isBottom,
    visible]

/-- The options that ask a question, of which only one may be given. -/
def questions : List OptionName := [listOpen, find, next, last, isBottom, visible]

def long : OptionName → String
  | .help => "--help"
  | .showHidden => "--show-hidden"
  | .noShowHidden => "--no-show-hidden"
  | .expand => "--expand"
  | .restore => "--restore"
  | .save => "--save"
  | .listOpen => "--list-open"
  | .find => "--find"
  | .next => "--next"
  | .last => "--last"
  | .isBottom => "--is-bottom"
  | .visible => "--visible"

/-- All spellings of an option, as reports name it. -/
def spellings : OptionName → String
  | .help => "-h/--help"
  | name => name.long

def takesValue : OptionName → Bool
  | .expand | .find | .next | .last | .isBottom => true
  | _ => false

end OptionName

/-- Why a command line cannot be read. -/
inductive UsageError where
  | ambiguous (word : String) (candidates : List OptionName)
  | expectedValue (name : OptionName)
  | unexpectedValue (name : OptionName) (value : String)
  | conflict (name other : OptionName)
  | unrecognized (words : List String)
deriving DecidableEq

def UsageError.message : UsageError → String
  | .ambiguous word candidates =>
    "ambiguous option: " ++ word ++ " could match " ++
      ", ".intercalate (candidates.map OptionName.long)
  | .expectedValue name => "argument " ++ name.spellings ++ ": expected one argument"
  | .unexpectedValue name value =>
    "argument " ++ name.spellings ++ ": ignored explicit argument " ++ Text.quoted value
  | .conflict name other =>
    "argument " ++ name.spellings ++ ": not allowed with argument " ++ other.spellings
  | .unrecognized words => "unrecognized arguments: " ++ " ".intercalate words

/-! ### Words -/

/-- What a word of the command line is: an argument, the mark behind which all words are arguments,
an option with the value attached to it, the short form of the help option with the letters
attached to it, or something that looks like an option. -/
inductive Word where
  | argument (text : String)
  | separator
  | option (name : OptionName) (value : Option String)
  | shortHelp (attached : Option String)
  | unknown (text : String)
deriving DecidableEq

/-- Splits a word at its first equals sign. -/
def splitValue (cs : List Char) : List Char × Option String :=
  match cs.dropWhile (· ≠ '=') with
  | '=' :: value => (cs.takeWhile (· ≠ '='), some (String.ofList value))
  | _ => (cs, none)

/-- Whether a word is a minus sign and a number in decimal digits, be it followed by a line end. -/
def isNegativeNumber (cs : List Char) : Bool :=
  let line := if cs.getLast? = some '\n' then cs.dropLast else cs
  match line with
  | '-' :: number =>
    match number.dropWhile Text.isDecimalDigit with
    | [] => !number.isEmpty
    | '.' :: fraction => !fraction.isEmpty && fraction.all Text.isDecimalDigit
    | _ => false
  | _ => false

/-- The options whose long spelling is the given text, or else those that it begins. -/
def matching (text : List Char) : List OptionName :=
  match OptionName.all.find? fun name => name.long.toList = text with
  | some name => [name]
  | none => OptionName.all.filter fun name => text.isPrefixOf name.long.toList

/-- A word that begins with a minus sign but spells no option. Negative numbers and words with a
blank are arguments. -/
def notAnOption (word : String) : Word :=
  if isNegativeNumber word.toList || word.contains ' ' then .argument word else .unknown word

/-- The kind of a word other than the separator. -/
def classify (word : String) : Except UsageError Word :=
  match word.toList with
  | '-' :: '-' :: rest =>
    let (text, value) := splitValue ('-' :: '-' :: rest)
    match matching text with
    | [] => .ok (notAnOption word)
    | [name] => .ok (.option name value)
    | candidates => .error (.ambiguous word candidates)
  | ['-', 'h'] => .ok (.shortHelp none)
  | '-' :: 'h' :: '=' :: value => .ok (.shortHelp (some (String.ofList value)))
  | '-' :: 'h' :: attached => .ok (.shortHelp (some (String.ofList attached)))
  | '-' :: _ :: _ => .ok (notAnOption word)
  | _ => .ok (.argument word)

/-- The kinds of all words. -/
def classifyAll : List String → Except UsageError (List Word)
  | [] => .ok []
  | word :: rest =>
    if word = "--" then .ok (.separator :: rest.map .argument)
    else do
      let kind ← classify word
      let kinds ← classifyAll rest
      return kind :: kinds

/-! ### Arguments -/

/-- The value of an option. A value `--` is taken for the separator and leaves none. -/
abbrev Operand := Option String

def Operand.ofAttached (value : String) : Operand := if value = "--" then none else some value

inductive Query where
  | listOpen
  | find (path : Operand)
  | next (path : Operand)
  | last (path : Operand)
  | isBottom (path : Operand)
  | visible
deriving DecidableEq

structure Arguments where
  root : Option String := none
  showHidden : Option Bool := none
  expand : List Operand := []
  restore : Bool := false
  save : Bool := false
  query : Query := .listOpen
deriving DecidableEq

/-- Why reading a command line comes to an early end. -/
inductive Stop where
  | help
  | usage (error : UsageError)
deriving DecidableEq

/-- The arguments read so far. -/
structure Reading where
  arguments : Arguments := {}
  /-- The questions that have been asked. -/
  asked : List OptionName := []
  /-- The words that have no meaning here. -/
  extras : List String := []
  /-- Whether the root has just been read. -/
  atRoot : Bool := false

namespace Reading

def extra (r : Reading) (text : String) : Reading :=
  { r with extras := r.extras ++ [text], atRoot := false }

/-- Reads an argument: the first one is the root. -/
def argument (r : Reading) (text : String) : Reading :=
  match r.arguments.root with
  | none => { r with arguments := { r.arguments with root := some text }, atRoot := true }
  | some _ => r.extra text

/-- Reads the separator, which belongs to the root that it stands before or behind. -/
def separator (r : Reading) : Reading :=
  if r.arguments.root.isNone || r.atRoot then { r with atRoot := false } else r.extra "--"

/-- Gives an option its meaning. -/
def set (a : Arguments) (name : OptionName) (value : Operand) : Arguments :=
  match name with
  | .help => a
  | .showHidden => { a with showHidden := some true }
  | .noShowHidden => { a with showHidden := some false }
  | .expand => { a with expand := a.expand ++ [value] }
  | .restore => { a with restore := true }
  | .save => { a with save := true }
  | .listOpen => { a with query := .listOpen }
  | .find => { a with query := .find value }
  | .next => { a with query := .next value }
  | .last => { a with query := .last value }
  | .isBottom => { a with query := .isBottom value }
  | .visible => { a with query := .visible }

/-- Reads an option. Asking for help ends the reading, and so does a second question. -/
def take (r : Reading) (name : OptionName) (value : Operand) : Except Stop Reading :=
  if name = .help then .error .help
  else
    let others :=
      if OptionName.questions.contains name then
        OptionName.questions.filter fun other => other ≠ name && r.asked.contains other
      else []
    match others with
    | other :: _ => .error (.usage (.conflict name other))
    | [] =>
      .ok { r with
        arguments := set r.arguments name value
        asked := name :: r.asked
        atRoot := false }

/-- Reads the letters attached to the short help option: they must all ask for help again. -/
def shortHelp : List Char → Stop
  | ['h'] => .help
  | 'h' :: rest => shortHelp rest
  | cs => .usage (.unexpectedValue .help (String.ofList cs))

/-- Reads all words. -/
def words : Reading → List Word → Except Stop Reading
  | r, [] => .ok r
  | r, .argument text :: rest => words (r.argument text) rest
  | r, .separator :: rest => words r.separator rest
  | r, .unknown text :: rest => words (r.extra text) rest
  | _, .shortHelp none :: _ => .error .help
  | _, .shortHelp (some attached) :: _ => .error (shortHelp attached.toList)
  | r, .option name (some value) :: rest =>
    if name.takesValue then do
      let r ← r.take name (.ofAttached value)
      words r rest
    else .error (.usage (.unexpectedValue name value))
  | r, .option name none :: .argument value :: rest =>
    if name.takesValue then do
      let r ← r.take name (some value)
      words r rest
    else do
      let r ← r.take name none
      words (r.argument value) rest
  | r, .option name none :: rest =>
    if name.takesValue then .error (.usage (.expectedValue name))
    else do
      let r ← r.take name none
      words r rest

/-- The arguments, unless there are words without a meaning. -/
def finish (r : Reading) : Except Stop Arguments :=
  if r.extras.isEmpty then .ok r.arguments else .error (.usage (.unrecognized r.extras))

end Reading

/-- The arguments that a command line spells. -/
def parse (argv : List String) : Except Stop Arguments := do
  let words ← (classifyAll argv).mapError .usage
  let reading ← Reading.words {} words
  reading.finish

end Sidebar.CommandLine
