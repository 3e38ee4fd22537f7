import BlockScope.Command
import BlockScope.Text.Numeral

/-!
Reading the words of a command line. A word is an operand or names an option. Options begin with a
hyphen, and the long ones may be shortened as long as they stay unambiguous. The value of an option
stands behind an equals sign or is the next word. A lone hyphen, a negative number and a word with
a space that names no option are operands, and behind a double hyphen every word is. All words are
sorted first and then read in order, so that of several faults the first one is reported, except
that an ambiguous option is reported before all others.
-/

set_option autoImplicit false
set_option relaxedAutoImplicit false

namespace BlockScope

inductive CommandOption where
  | help
  | line
  | character
  | diagnostics
  | verbose
  deriving DecidableEq, Repr

namespace CommandOption

def all : List CommandOption := [help, line, character, diagnostics, verbose]

def word : CommandOption → String
  | help => "--help"
  | line => "--line"
  | character => "--character"
  | diagnostics => "--diagnostics"
  | verbose => "--verbose"

def takesValue : CommandOption → Bool
  | line | character => true
  | help | diagnostics | verbose => false

/-- The long options that a word is the beginning of. -/
def startingWith (word : List Char) : List CommandOption :=
  all.filter fun option ↦ word.isPrefixOf option.word.toList

end CommandOption

/-- The short word for help. Further letters may follow it, as further short options. -/
def shortHelp : List Char := ['-', 'h']

inductive UsageError where
  | missingPath
  | missingValue (option : CommandOption)
  | needlessValue (option : CommandOption)
  | invalidNumber (option : CommandOption) (text : String)
  | ambiguous (word : String)
  | unrecognised (words : List String)
  deriving DecidableEq, Repr

def UsageError.message : UsageError → String
  | .missingPath => "the following arguments are required: input"
  | .missingValue option => "argument " ++ option.word ++ ": expected one argument"
  | .needlessValue option => "argument " ++ option.word ++ ": takes no value"
  | .invalidNumber option text =>
    "argument " ++ option.word ++ ": invalid int value: " ++ quoted text
  | .ambiguous word => "ambiguous option: " ++ word
  | .unrecognised words => "unrecognized arguments: " ++ " ".intercalate words

/-- What a word is. -/
inductive ArgumentWord where
  | operand (text : String)
  /-- A long option, with the value in the same word, if there is one. -/
  | long (option : CommandOption) (value : Option String)
  /-- The short word for help, with what follows it in the same word. -/
  | short (value : Option String)
  /-- The double hyphen behind which all words are operands. -/
  | terminator
  | unknown (text : String)
  deriving DecidableEq, Repr

namespace ArgumentWord

/-- The characters before the first equals sign, and those behind it. -/
def splitValue (word : List Char) : List Char × Option String :=
  match word.dropWhile (· != '=') with
  | [] => (word, none)
  | _ :: value => (word.takeWhile (· != '='), some (String.ofList value))

/-- Numbers below zero, with or without a point: a hyphen and digits, the last of them behind the
point, if there is one. -/
def isNegativeNumber (word : List Char) : Bool :=
  match withoutFinalLineFeed word with
  | '-' :: number =>
    match number.dropWhile isDecimalDigit with
    | [] => !number.isEmpty
    | '.' :: places => !places.isEmpty && places.all isDecimalDigit
    | _ => false
  | _ => false

/-- A word that begins with a hyphen and names no option. -/
def unnamed (word : List Char) : ArgumentWord :=
  if isNegativeNumber word || word.contains ' ' then .operand (String.ofList word)
  else .unknown (String.ofList word)

/-- A word that begins with two hyphens and has more to it. -/
def ofLongWord (word : List Char) : Except UsageError ArgumentWord :=
  let (name, value) := splitValue word
  match CommandOption.startingWith name with
  | [] => .ok (unnamed word)
  | [option] => .ok (.long option value)
  | _ => .error (.ambiguous (String.ofList word))

/-- A word that begins with a single hyphen and has more to it. -/
def ofShortWord (word : List Char) : ArgumentWord :=
  let (name, value) := splitValue word
  if name = shortHelp then .short value
  else if shortHelp.isPrefixOf word then
    .short (some (String.ofList (word.drop shortHelp.length)))
  else unnamed word

def ofWord (word : String) : Except UsageError ArgumentWord :=
  match word.toList with
  | ['-', '-'] => .ok .terminator
  | '-' :: '-' :: _ => ofLongWord word.toList
  | '-' :: _ :: _ => .ok (ofShortWord word.toList)
  | _ => .ok (.operand word)

/-- Sorts the words of a command line. -/
def ofWords : List String → Except UsageError (List ArgumentWord)
  | [] => .ok []
  | word :: rest => do
    match ← ofWord word with
    | .terminator => return .terminator :: rest.map .operand
    | argument => return argument :: (← ofWords rest)

end ArgumentWord

/-- What a command line asks for. -/
inductive CommandLine where
  | help
  | run (command : Command)
  deriving DecidableEq, Repr

/-- A command of which some words have been read. -/
structure CommandDraft where
  path : Option String := none
  line : Option Int := none
  character : Option Int := none
  diagnostics : Bool := false
  verbose : Bool := false
  /-- Words that have no place in the command, in order. -/
  surplus : List String := []
  deriving DecidableEq, Repr

namespace CommandDraft

def addSurplus (draft : CommandDraft) (word : String) : CommandDraft :=
  { draft with surplus := draft.surplus ++ [word] }

/-- Takes an operand. The first one is the path. -/
def addOperand (draft : CommandDraft) (text : String) : CommandDraft :=
  match draft.path with
  | none => { draft with path := some text }
  | some _ => draft.addSurplus text

/-- Takes the double hyphen, which has a place only next to the path. -/
def addTerminator (draft : CommandDraft) (besidePath : Bool) : CommandDraft :=
  if besidePath then draft else draft.addSurplus "--"

def readNumber (option : CommandOption) (text : String) : Except UsageError Int :=
  match readInteger? text.toList with
  | some number => .ok number
  | none => .error (.invalidNumber option text)

/-- Gives an option its value. -/
def setValue (draft : CommandDraft) (option : CommandOption) (text : String) :
    Except UsageError CommandDraft := do
  match option with
  | .line => return { draft with line := some (← readNumber option text) }
  | .character => return { draft with character := some (← readNumber option text) }
  | .help | .diagnostics | .verbose => .error (.needlessValue option)

/-- Sets an option without a value. -/
def setFlag (draft : CommandDraft) : CommandOption → CommandDraft
  | .diagnostics => { draft with diagnostics := true }
  | .verbose => { draft with verbose := true }
  | .help | .line | .character => draft

/-- What is asked for once all words have been read. -/
def finish (draft : CommandDraft) : Except UsageError CommandLine :=
  match draft.path, draft.surplus with
  | none, _ => .error .missingPath
  | some path, [] => .ok <| .run
    { path
      line := draft.line
      character := draft.character
      diagnostics := draft.diagnostics
      verbose := draft.verbose }
  | some _, words => .error (.unrecognised words)

/-- Whether what follows the short word for help repeats it and nothing else. -/
def repeatsHelp : Option String → Bool
  | none => true
  | some letters => !letters.toList.isEmpty && letters.toList.all (· == 'h')

/-- Reads words in order. The first of them may be the value of an option before it. -/
def read (draft : CommandDraft) :
    Option CommandOption → List ArgumentWord → Except UsageError CommandLine
  | some option, .operand text :: rest => do
    let draft ← draft.setValue option text
    read draft none rest
  | some option, _ => .error (.missingValue option)
  | none, [] => draft.finish
  | none, .operand text :: .terminator :: rest =>
    read ((draft.addOperand text).addTerminator draft.path.isNone) none rest
  | none, .operand text :: rest => read (draft.addOperand text) none rest
  | none, .terminator :: rest => read (draft.addTerminator draft.path.isNone) none rest
  | none, .unknown text :: rest => read (draft.addSurplus text) none rest
  | none, .short value :: _ =>
    if repeatsHelp value then .ok .help else .error (.needlessValue .help)
  | none, .long option (some value) :: rest => do
    let draft ← draft.setValue option value
    read draft none rest
  | none, .long option none :: rest =>
    if option = .help then .ok .help
    else if option.takesValue then read draft (some option) rest
    else read (draft.setFlag option) none rest

end CommandDraft

/-- What the words of a command line ask for. -/
def CommandLine.ofWords (words : List String) : Except UsageError CommandLine := do
  CommandDraft.read {} none (← ArgumentWord.ofWords words)

end BlockScope
