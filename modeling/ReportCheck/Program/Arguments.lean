import ReportCheck.Text.Digit

/-! # Arguments of the command line

  The grammar of the arguments: one manifest, and options before and after it in any
  order.

  - An option may be shortened as long as only one option starts like that. A value
    follows its option or an equals sign.
  - After two hyphens everything is an operand. Negative numbers and arguments with a
    space are operands, too, unless they are options.
  - `Request.ofArguments` gives the request, or says that the usage is wrong.
-/

namespace ReportCheck

open Text

/-- The formats of a report. -/
inductive ReportFormat where
  | text
  | json
  deriving DecidableEq, Repr

/-- What the command line asks for. -/
structure Invocation where
  manifest : String
  format : ReportFormat := .text
  /-- The file to write to; with an empty name or none the report goes to the standard
      output. -/
  output : Option String := none
  /-- Whether all lines of the log are shown. -/
  verbose : Bool := false
  deriving DecidableEq, Repr

/-- **Requests.** -/
inductive Request where
  | validate (options : Invocation)
  | help
  /-- The arguments do not make sense. -/
  | misuse
  deriving DecidableEq, Repr

namespace Arguments

/-- The options. -/
inductive Flag where
  | help
  | format
  | output
  | verbose
  deriving DecidableEq, Repr

/-- The spellings of the options. -/
def spellings : List (String × Flag) :=
  [ ("-h", .help), ("--help", .help), ("--format", .format), ("--output", .output),
    ("--verbose", .verbose) ]

def Flag.takesValue : Flag → Bool
  | .format => true
  | .output => true
  | _ => false

/-- An argument by its kind. -/
inductive Token where
  | operand (s : String)
  /-- An option, and the value behind its equals sign. -/
  | flag (f : Flag) (value : Option String)
  /-- The short option for help with other letters behind it. -/
  | cluster (letters : List Char)
  /-- Something that looks like an option but is none. -/
  | stranger
  /-- Something that may be more than one option. -/
  | ambiguous
  /-- The two hyphens after which everything is an operand. -/
  | divider
  deriving DecidableEq, Repr

def isNegativeNumber : List Char → Bool
  | '-' :: body =>
    match body.dropWhile isDigit with
    | [] => !body.isEmpty
    | ['\n'] => body.length != 1
    | '.' :: places =>
      let rest := places.dropWhile isDigit
      (places.head?.map isDigit).getD false && (rest.isEmpty || rest == ['\n'])
    | _ => false
  | _ => false

/-- A text up to its first equals sign, and what follows the sign. -/
def splitValue (cs : List Char) : List Char × Option (List Char) :=
  match cs.dropWhile (· != '=') with
  | _ :: value => (cs.takeWhile (· != '='), some value)
  | [] => (cs, none)

/-- An argument that starts with a hyphen and is no spelling of an option. -/
def unspelled (s : String) : Token :=
  let cs := s.toList
  let (front, value) := splitValue cs
  let value := value.map String.ofList
  let isLong := "--".toList.isPrefixOf cs
  let candidates :=
    if isLong then spellings.filter fun (spelling, _) => front.isPrefixOf spelling.toList else []
  match candidates with
  | [(_, flag)] => .flag flag value
  | _ :: _ => .ambiguous
  | [] =>
    if !isLong && "-h".toList.isPrefixOf cs then .cluster (cs.drop 2)
    else if isNegativeNumber cs || cs.contains ' ' then .operand s
    else .stranger

/-- **The kind of an argument** before the divider. -/
def tokenOf (s : String) : Token :=
  let cs := s.toList
  if cs.head? != some '-' || cs == ['-'] then .operand s
  else if cs == ['-', '-'] then .divider
  else match spellings.lookup s with
    | some flag => .flag flag none
    | none =>
      let (front, value) := splitValue cs
      match value, spellings.lookup (String.ofList front) with
      | some value, some flag => .flag flag (some (String.ofList value))
      | _, _ => unspelled s

def tokens : List String → List Token
  | [] => []
  | s :: rest =>
    match tokenOf s with
    | .divider => .divider :: rest.map .operand
    | token => token :: tokens rest

/-- What has been read of a command line. -/
structure Progress where
  manifest : Option String := none
  format : ReportFormat := .text
  output : Option String := none
  verbose : Bool := false
  /-- Whether there was something that has no place. -/
  hasExtras : Bool := false
  deriving DecidableEq, Repr

namespace Progress

/-- An option with its value, if the value is one. -/
def set? (p : Progress) (flag : Flag) (value : String) : Option Progress :=
  match flag with
  | .format =>
    if value == "text" then some { p with format := .text }
    else if value == "json" then some { p with format := .json }
    else none
  | _ => some { p with output := some value }

/-- An operand: the first one is the manifest. -/
def addOperand (p : Progress) (s : String) : Progress :=
  if p.manifest.isSome then { p with hasExtras := true } else { p with manifest := some s }

/-- The request at the end of the arguments. -/
def request (p : Progress) : Request :=
  match p.manifest with
  | some manifest =>
    if p.hasExtras then .misuse
    else .validate { manifest, format := p.format, output := p.output, verbose := p.verbose }
  | none => .misuse

end Progress

/-- The request of a short option for help with the given letters behind it. The option
    may be repeated there, but neither a hyphen nor a value may follow it. -/
def clusterRequest : List Char → Request
  | '-' :: _ => .misuse
  | 'h' :: '=' :: _ => .misuse
  | 'h' :: rest => clusterRequest rest
  | _ => .help

/-- **Reading** the arguments in order. Help ends it at once, as does an option that has
    no value or a wrong one. `isFresh` tells whether a divider that comes next belongs to
    operands that are still expected. -/
def readAll (p : Progress) : List Token → Request
  | [] => p.request
  | .operand s :: .divider :: rest =>
    if p.manifest.isSome then readAll { p with hasExtras := true } rest
    else readAll (p.addOperand s) rest
  | .operand s :: rest => readAll (p.addOperand s) rest
  | .divider :: rest =>
    if p.manifest.isSome || rest.isEmpty then readAll { p with hasExtras := true } rest
    else readAll p rest
  | .flag .help none :: _ => .help
  | .flag .verbose none :: rest => readAll { p with verbose := true } rest
  | .flag flag (some value) :: rest =>
    if flag.takesValue then
      match p.set? flag value with
      | some p => readAll p rest
      | none => .misuse
    else .misuse
  | .flag flag none :: .operand value :: rest =>
    match p.set? flag value with
    | some p => readAll p rest
    | none => .misuse
  | .flag _ none :: _ => .misuse
  | .cluster letters :: _ => clusterRequest letters
  | .stranger :: rest => readAll { p with hasExtras := true } rest
  | .ambiguous :: _ => .misuse

end Arguments

/-- **Reading the arguments.** -/
def Request.ofArguments (arguments : List String) : Request :=
  let tokens := Arguments.tokens arguments
  if tokens.contains .ambiguous then .misuse else Arguments.readAll {} tokens

end ReportCheck
