/-!
# Options of the command

Options and the expression may come in any order, and of options that exclude each other the last
one counts. A word that starts with `-` is an option, unless it is `-` itself or comes after `--`.
Long options have their value after `=` or in the next word; short ones can be joined in one word,
in which the value of the last one may follow at once.
-/

namespace ExprCompiler.Console

/-- What the command is asked to do. -/
structure Options where
  /-- The expression. -/
  expression : Option String := none
  /-- Whether to show the source of the unit. -/
  showSource : Bool := true
  /-- The directory for the unit's file. -/
  directory : Option String := none
  /-- Whether to show the log. -/
  verbose : Bool := false
  deriving DecidableEq, Repr

/-- An option without its value. -/
inductive OptionName where
  /-- Shows the source, or does not. -/
  | showSource (shown : Bool)
  /-- Names the directory. -/
  | directory
  /-- Shows the log. -/
  | verbose
  /-- Explains the command. -/
  | help
  deriving DecidableEq, Repr

/-- The option that a long word names. -/
def OptionName.ofLong? : String → Option OptionName
  | "--show-source" => some (showSource true)
  | "--no-show-source" => some (showSource false)
  | "--output-dir" => some directory
  | "--verbose" => some verbose
  | "--help" => some help
  | _ => none

/-- The option that a letter names. -/
def OptionName.ofShort? : Char → Option OptionName
  | 'o' => some directory
  | 'v' => some verbose
  | _ => none

/-- One piece of a command line. -/
inductive Item where
  /-- A word that is no option. -/
  | word (text : String)
  /-- An option without a value. -/
  | flag (name : OptionName)
  /-- The option for the directory, with its value. -/
  | directory (path : String)
  deriving DecidableEq, Repr

/-- The pieces of one word, and whether the next word is the path that the last of them needs. -/
structure WordItems where
  /-- The pieces. -/
  items : List Item
  /-- Whether a path has to follow. -/
  pathDue : Bool := false
  deriving DecidableEq, Repr

/-- A long option as it is written: the name, and the value after the first `=` if there is one. -/
def splitLong (word : List Char) : String × Option String :=
  match word.dropWhile (· != '=') with
  | _ :: value => (.ofList (word.takeWhile (· != '=')), some (.ofList value))
  | [] => (.ofList word, none)

/-- The pieces of the word of a long option. -/
def longItems? (word : List Char) : Option WordItems :=
  let (name, value?) := splitLong word
  match OptionName.ofLong? name, value? with
  | some .directory, some path => some { items := [.directory path] }
  | some .directory, none => some { items := [], pathDue := true }
  | some name, none => some { items := [.flag name] }
  | _, _ => none

/-- The pieces of the letters of short options. -/
def shortItems? : List Char → Option WordItems
  | [] => some { items := [] }
  | letter :: letters =>
    match OptionName.ofShort? letter with
    | some .directory =>
      if letters.isEmpty then some { items := [], pathDue := true }
      else some { items := [.directory (.ofList letters)] }
    | some name =>
      (shortItems? letters).map fun word => { word with items := .flag name :: word.items }
    | none => none

/-- The pieces of a word that may be an option. -/
def wordItems? (word : String) : Option WordItems :=
  match word.toList with
  | '-' :: '-' :: rest => longItems? ('-' :: '-' :: rest)
  | '-' :: letter :: letters => shortItems? (letter :: letters)
  | _ => some { items := [.word word] }

/-- The pieces of a command line whose first word is a path if `pathDue` says so; none, if an option
is unknown, lacks its value or has one that it does not take. -/
def items? (pathDue : Bool) : List String → Option (List Item)
  | [] => if pathDue then none else some []
  | word :: rest =>
    if pathDue then (items? false rest).map (.directory word :: ·)
    else if word = "--" then some (rest.map .word)
    else
      match wordItems? word with
      | some first => (items? first.pathDue rest).map (first.items ++ ·)
      | none => none

/-- The words among pieces. -/
def words (items : List Item) : List String :=
  items.filterMap fun item => match item with
    | .word text => some text
    | _ => none

/-- The options with one more piece. -/
def Options.add (options : Options) : Item → Options
  | .flag (.showSource shown) => { options with showSource := shown }
  | .flag .verbose => { options with verbose := true }
  | .directory path => { options with directory := some path }
  | _ => options

/-- What a command line asks for. -/
inductive Request where
  /-- To execute an expression. -/
  | execute (options : Options)
  /-- To explain the command. -/
  | help
  /-- Nothing that the command knows. -/
  | misuse
  deriving DecidableEq, Repr

/-- What a command line asks for, where the environment may name a directory; an empty name counts
as none, and an option wins over it. An explanation is given even if there are too many words. -/
def Request.ofWords (line : List String) (environment : Option String) : Request :=
  match items? false line with
  | none => .misuse
  | some items =>
    if items.contains (.flag .help) then .help
    else
      match words items with
      | _ :: _ :: _ => .misuse
      | rest =>
        let options := items.foldl Options.add
          { expression := rest.head?, directory := environment.filter (· != "") }
        .execute options

end ExprCompiler.Console
