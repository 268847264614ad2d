/-!
# Command lines

What the arguments of the program ask for.

- `Command` is a conversion to be done, `Request` anything that can be asked for;
- `UsageError` says why arguments ask for nothing;
- `Request.ofArguments` reads the arguments from left to right.

An option is given once at most.  Its value stands behind a `=` or is the next
argument, which must not look like an option then.  Everything behind `--` is an
operand, and there is one operand at most: the file to read.
-/

namespace NoteMarkup

/-! ## Requests -/

/-- What a conversion writes. -/
inductive Format where
  | html
  | tree
  | outline
  deriving Repr, DecidableEq, Inhabited

def Format.ofName? : String → Option Format
  | "html" => some html
  | "tree" => some tree
  | "outline" => some outline
  | _ => none

/-- A conversion, as far as the arguments say what it is. -/
structure Command where
  /-- The file to read instead of the standard input. -/
  input? : Option String := none
  /-- The file with options. -/
  config? : Option String := none
  /-- The path for images, whatever the options say. -/
  imagePrefix? : Option String := none
  /-- Leave image references alone, whatever the options say. -/
  keepImages : Bool := false
  format? : Option Format := none
  verbose : Bool := false
  deriving Repr, DecidableEq, Inhabited

/-- What the arguments ask for. -/
inductive Request where
  | convert (command : Command)
  | version
  | help
  deriving Repr, DecidableEq, Inhabited

/-- Why arguments ask for nothing. -/
inductive UsageError where
  | unknownOption (name : String)
  | repeatedOption (name : String)
  | missingValue (name : String)
  | unexpectedValue (name : String)
  | invalidValue (name value : String)
  | extraOperand (operand : String)
  deriving Repr, DecidableEq, Inhabited

def UsageError.message : UsageError → String
  | unknownOption name => "unexpected argument '" ++ name ++ "' found"
  | repeatedOption name => "the argument '" ++ name ++ "' cannot be used multiple times"
  | missingValue name => "a value is required for '" ++ name ++ "' but none was supplied"
  | unexpectedValue name => "unexpected value for '" ++ name ++ "' found"
  | invalidValue name value => "invalid value '" ++ value ++ "' for '" ++ name ++ "'"
  | extraOperand operand => "unexpected argument '" ++ operand ++ "' found"

/-! ## Single arguments -/

/-- The options that take no value. -/
inductive Flag where
  | keepImages
  | verbose
  | version
  | help
  deriving Repr, DecidableEq

/-- The options that take a value. -/
inductive Setting where
  | config
  | imagePrefix
  | format
  deriving Repr, DecidableEq

def Flag.ofName? : String → Option Flag
  | "no-image-rewrite" => some keepImages
  | "verbose" => some verbose
  | "version" => some version
  | "help" => some help
  | _ => none

def Flag.ofLetter? : Char → Option Flag
  | 'v' => some verbose
  | 'V' => some version
  | 'h' => some help
  | _ => none

def Setting.ofName? : String → Option Setting
  | "config" => some config
  | "image-prefix" => some imagePrefix
  | "format" => some format
  | _ => none

/-- What an argument looks like. -/
inductive Argument where
  | operand (text : String)
  | long (name : String) (value? : Option String)
  | letters (cs : List Char)
  | endOfOptions
  deriving Repr, DecidableEq

/-- What an argument looks like: options start with `-`, and a lone `-` is an operand. -/
def Argument.ofString (arg : String) : Argument :=
  match arg.toList with
  | ['-', '-'] => .endOfOptions
  | '-' :: '-' :: cs =>
    let name := String.ofList (cs.takeWhile (· != '='))
    match cs.dropWhile (· != '=') with
    | [] => .long name none
    | _ :: value => .long name (some (String.ofList value))
  | '-' :: c :: cs => .letters (c :: cs)
  | _ => .operand arg

def Argument.value? : Argument → Option String
  | operand text => some text
  | _ => none

/-! ## Filling a command -/

namespace Command

def addOperand (command : Command) (operand : String) : Except UsageError Command :=
  if command.input?.isSome then
    .error (.extraOperand operand)
  else if operand.isEmpty then
    .error (.invalidValue "INPUT" operand)
  else
    .ok { command with input? := some operand }

def addSetting (command : Command) (setting : Setting) (value : String) :
    Except UsageError Command :=
  match setting with
  | .config =>
    if command.config?.isSome then .error (.repeatedOption "--config")
    else if value.isEmpty then .error (.invalidValue "--config" value)
    else .ok { command with config? := some value }
  | .imagePrefix =>
    if command.imagePrefix?.isSome then .error (.repeatedOption "--image-prefix")
    else .ok { command with imagePrefix? := some value }
  | .format =>
    if command.format?.isSome then .error (.repeatedOption "--format")
    else
      match Format.ofName? value with
      | none => .error (.invalidValue "--format" value)
      | some format => .ok { command with format? := some format }

/-- Takes a flag.  A request for something else than a conversion is made at once. -/
def addFlag (command : Command) : Flag → Except UsageError (Command ⊕ Request)
  | .keepImages =>
    if command.keepImages then .error (.repeatedOption "--no-image-rewrite")
    else .ok (.inl { command with keepImages := true })
  | .verbose =>
    if command.verbose then .error (.repeatedOption "--verbose")
    else .ok (.inl { command with verbose := true })
  | .version => .ok (.inr .version)
  | .help => .ok (.inr .help)

/-- Takes the flags that letters stand for, up to the first that makes a request. -/
def addLetters (command : Command) : List Char → Except UsageError (Command ⊕ Request)
  | [] => .ok (.inl command)
  | c :: cs =>
    match Flag.ofLetter? c with
    | none => .error (.unknownOption ("-" ++ String.singleton c))
    | some flag => do
      match ← command.addFlag flag with
      | .inl command => command.addLetters cs
      | .inr request => return .inr request

end Command

/-! ## All arguments -/

namespace Request

/-- The request that operands complete. -/
def ofOperands (command : Command) : List String → Except UsageError Request
  | [] => .ok (.convert command)
  | operand :: operands => do
    let command ← command.addOperand operand
    ofOperands command operands

def ofArgumentsFrom (command : Command) : List String → Except UsageError Request
  | [] => .ok (.convert command)
  | arg :: args =>
    match Argument.ofString arg with
    | .endOfOptions => ofOperands command args
    | .operand operand => do
      let command ← command.addOperand operand
      ofArgumentsFrom command args
    | .letters cs => do
      match ← command.addLetters cs with
      | .inl command => ofArgumentsFrom command args
      | .inr request => return request
    | .long name value? =>
      match Flag.ofName? name, Setting.ofName? name, value? with
      | some _, _, some _ => .error (.unexpectedValue ("--" ++ name))
      | some flag, _, none => do
        match ← command.addFlag flag with
        | .inl command => ofArgumentsFrom command args
        | .inr request => return request
      | none, some setting, some value => do
        let command ← command.addSetting setting value
        ofArgumentsFrom command args
      | none, some setting, none =>
        match args with
        | [] => .error (.missingValue ("--" ++ name))
        | next :: args =>
          match (Argument.ofString next).value? with
          | none => .error (.missingValue ("--" ++ name))
          | some value => do
            let command ← command.addSetting setting value
            ofArgumentsFrom command args
      | none, none, _ => .error (.unknownOption ("--" ++ name))

/-- What the arguments of the program ask for. -/
def ofArguments (args : List String) : Except UsageError Request :=
  ofArgumentsFrom {} args

end Request

end NoteMarkup
