/-
  HomeAutomation.Replay.Options

  The command line of a replay. The name of an option may be shortened as long as it stays the only
  one that starts so; its value follows as the next word or after an equals sign. Options of one
  letter that have no value may share a word, with an equals sign after the first or without. A word
  that starts with a dash is a value only if it is a negative number or has a blank, and after `--`
  every word is a value. Values that belong to no option are an error.
-/
import HomeAutomation.Number.Numeral

namespace HomeAutomation.Replay

/-- The options. -/
inductive OptionName
  | rule
  | rulesFile
  | snapshots
  | homeConfig
  | check
  | verbose
  | help
  deriving DecidableEq, Repr

namespace OptionName

/-- The spellings of the options. -/
def spellings : List (String × OptionName) :=
  [("-h", help), ("--help", help), ("--rule", rule), ("--rules-file", rulesFile),
   ("--snapshots", snapshots), ("--home-config", homeConfig), ("--check", check),
   ("--verbose", verbose), ("-v", verbose)]

/-- The option of a full spelling. -/
def ofSpelling? (spelling : String) : Option OptionName :=
  (spellings.find? (·.1 == spelling)).map (·.2)

/-- Whether an option has a value. -/
def hasValue : OptionName → Bool
  | verbose | help => false
  | _ => true

end OptionName

/-- What the command line asks for. -/
structure Options where
  rules : List String := []
  rulesFile : String := ""
  snapshots : String := ""
  homeConfig : String := ""
  /-- A rule that is only to be read. -/
  check : String := ""
  verbose : Bool := false
  help : Bool := false
  deriving DecidableEq, Repr, Inhabited

/-- The command line cannot be understood. -/
structure UsageError where
  deriving DecidableEq, Repr

/-! ## Words -/

/-- What follows the name of an option in the same word. -/
inductive Attached
  | nothing
  /-- An equals sign and a value. -/
  | value (text : String)
  /-- After a one-letter option, the letters of others. -/
  | letters (letters : List Char)
  deriving DecidableEq, Repr

/-- A word of the command line. -/
inductive Word
  | value (text : String)
  | option (name : OptionName) (attached : Attached)
  | unknown
  /-- The word after which all words are values. -/
  | separator
  deriving DecidableEq, Repr

/-- Splits a word at its first equals sign. -/
def splitEquals (word : String) : String × Attached :=
  let cs := word.toList
  match cs.dropWhile (· != '=') with
  | _ :: rest => (String.ofList (cs.takeWhile (· != '=')), .value (String.ofList rest))
  | [] => (word, .nothing)

/-- What follows a name that is spelled in full: after one letter, other letters. -/
def Attached.after (attached : Attached) (stem : String) : Attached :=
  match attached with
  | value text => if stem.length = 2 then letters text.toList else value text
  | other => other

/-- Whether a text is a number, with digits of any script and a line feed at its end or none. -/
def isUnsignedNumber (cs : List Char) : Bool :=
  let cs := Text.asciiDigits cs
  let cs := if cs.getLast? = some '\n' then cs.dropLast else cs
  match cs.dropWhile Number.isDigit with
  | [] => !cs.isEmpty
  | '.' :: places => !places.isEmpty && places.all Number.isDigit
  | _ => false

/-- Whether a word is a negative number. -/
def isNegativeNumber : List Char → Bool
  | '-' :: rest => isUnsignedNumber rest
  | _ => false

/-- The options that a shortened word may mean. -/
def shortened (word : String) : List Word :=
  match word.toList with
  | '-' :: '-' :: _ =>
    let (stem, attached) := splitEquals word
    OptionName.spellings.filterMap fun (spelling, name) =>
      if spelling.startsWith stem then some (.option name attached) else none
  | '-' :: letter :: tail =>
    OptionName.spellings.filterMap fun (spelling, name) =>
      if spelling == String.ofList ['-', letter] then
        some (.option name (.letters tail))
      else if spelling.startsWith word then some (.option name .nothing)
      else none
  | _ => []

/-- What a word is, if no separator stands before it. -/
def classify (word : String) : Except UsageError Word :=
  match word.toList with
  | '-' :: _ :: _ =>
    match OptionName.ofSpelling? word with
    | some name => .ok (.option name .nothing)
    | none =>
      let (stem, attached) := splitEquals word
      match OptionName.ofSpelling? stem with
      | some name => .ok (.option name (attached.after stem))
      | none =>
        match shortened word with
        | _ :: _ :: _ => .error {}
        | [meant] => .ok meant
        | [] =>
          if isNegativeNumber word.toList || word.toList.contains ' ' then .ok (.value word)
          else .ok .unknown
  | _ => .ok (.value word)

/-- What the words of a command line are. -/
def classifyAll : List String → Except UsageError (List Word)
  | [] => .ok []
  | word :: rest =>
    if word = "--" then .ok (.separator :: rest.map .value)
    else do
      let first ← classify word
      let others ← classifyAll rest
      return first :: others

/-! ## Options -/

namespace Options

/-- Sets an option that has no value. -/
def raise (options : Options) : OptionName → Options
  | .verbose => { options with verbose := true }
  | .help => { options with help := true }
  | _ => options

/-- Sets the value of an option. -/
def set (options : Options) (given : String) : OptionName → Options
  | .rule => { options with rules := options.rules ++ [given] }
  | .rulesFile => { options with rulesFile := given }
  | .snapshots => { options with snapshots := given }
  | .homeConfig => { options with homeConfig := given }
  | .check => { options with check := given }
  | _ => options

/-- Sets options that have no value and share a word, the first by name and the others by letter,
    up to one that asks for help. All letters have to be options, and there has to be one. -/
def raiseLetters (options : Options) (name : OptionName) (letters : List Char) :
    Except UsageError Options :=
  match letters.mapM fun letter => OptionName.ofSpelling? (String.ofList ['-', letter]) with
  | none | some [] => .error {}
  | some names => .ok ((name :: names).foldl (fun options next =>
      if options.help then options else options.raise next) options)

/-- Reads the words of a command line. `awaiting` is the option before if it still needs its value;
    `spare` tells whether a word belonged to no option. Asking for help ends the reading. -/
def ofWords (options : Options) (spare : Bool) (awaiting : Option OptionName) :
    List Word → Except UsageError Options
  | [] =>
    match awaiting with
    | some _ => .error {}
    | none => if spare && !options.help then .error {} else .ok options
  | word :: rest =>
    if options.help then .ok options
    else
      match awaiting, word with
      | some name, .value given => ofWords (options.set given name) spare none rest
      | some _, _ => .error {}
      | none, .option name attached =>
        match name.hasValue, attached with
        | true, .value given => ofWords (options.set given name) spare none rest
        | true, .letters given => ofWords (options.set (String.ofList given) name) spare none rest
        | true, .nothing => ofWords options spare (some name) rest
        | false, .nothing => ofWords (options.raise name) spare none rest
        | false, .value _ => .error {}
        | false, .letters letters =>
          match options.raiseLetters name letters with
          | .ok options => ofWords options spare none rest
          | .error e => .error e
      | none, _ => ofWords options true none rest

/-- Reads a command line. -/
def parse (arguments : List String) : Except UsageError Options := do
  ofWords {} false none (← classifyAll arguments)

end Options

end HomeAutomation.Replay
