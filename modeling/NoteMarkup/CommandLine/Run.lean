import NoteMarkup.CommandLine
import NoteMarkup.Json.Printer
import NoteMarkup.Options.Json
import NoteMarkup.Page
import NoteMarkup.Tree.Json

/-!
# Running the program

From arguments and files to what the program writes.

- `Surroundings` is what the program can ask of the system, in any monad;
- `Outcome` is what the program leaves behind;
- `run` is the whole program.

Options are read before the input, so what is wrong with them is reported first.
-/

namespace NoteMarkup

/-! ## Surroundings and outcomes -/

/-- Why a file cannot be read. -/
inductive ReadError where
  | notFound
  | isDirectory
  | invalidEncoding
  | other (text : String)
  deriving Repr, DecidableEq, Inhabited

def ReadError.message : ReadError → String
  | notFound => "No such file or directory (os error 2)"
  | isDirectory => "Is a directory (os error 21)"
  | invalidEncoding => "stream did not contain valid UTF-8"
  | other text => text

/-- What the program can ask of the system. -/
structure Surroundings (m : Type → Type) where
  readFile : String → m (Except ReadError ByteArray)
  readInput : m (Except ReadError ByteArray)

/-- Why a conversion fails. -/
inductive ConvertError where
  | config (path : String) (e : ReadError)
  | options (text : String) (failure : Json.Failure)
  | input (path : String) (e : ReadError)
  | standardInput (e : ReadError)

def ConvertError.message : ConvertError → String
  | config path e => "failed to read config " ++ path ++ ": " ++ e.message
  | options text failure => Options.invalidMessage text failure
  | input path e => "failed to read " ++ path ++ ": " ++ e.message
  | standardInput e => "failed to read stdin: " ++ e.message

/-- What the program leaves behind. -/
structure Outcome where
  status : Nat := 0
  output : String := ""
  errors : String := ""
  deriving Repr, DecidableEq, Inhabited

/-! ## Conversions -/

/-- The text that bytes stand for. -/
def decodeText : Except ReadError ByteArray → Except ReadError String
  | .error e => .error e
  | .ok bytes =>
    match String.fromUTF8? bytes with
    | none => .error .invalidEncoding
    | some text => .ok text

namespace Command

/-- The options of a conversion: what the command says comes before the file's options. -/
def override (command : Command) (options : Options) : Options :=
  ⟨command.imagePrefix?.getD options.imagePrefix, options.moveImages && !command.keepImages⟩

def optionsOf (path : String) (content : Except ReadError ByteArray) :
    Except ConvertError Options :=
  match decodeText content with
  | .error e => .error (.config path e)
  | .ok text =>
    match Options.ofJson text with
    | .error failure => .error (.options text failure)
    | .ok options => .ok options

/-- What a conversion writes for a note. -/
def outputFor (command : Command) (options : Options) (markup : String) : String :=
  match command.format?.getD .html with
  | .html => transform options markup
  | .tree => (parse markup).toJson.pretty ++ "\n"
  | .outline => (Json.Value.array ((parse markup).outline.map OutlineEntry.toJson)).pretty ++ "\n"

variable {m : Type → Type} [Monad m]

def loadOptions (around : Surroundings m) (command : Command) :
    m (Except ConvertError Options) :=
  match command.config? with
  | none => return .ok (command.override {})
  | some path => return (optionsOf path (← around.readFile path)).map command.override

def loadMarkup (around : Surroundings m) (command : Command) :
    m (Except ConvertError String) :=
  match command.input? with
  | some path => return (decodeText (← around.readFile path)).mapError (.input path)
  | none => return (decodeText (← around.readInput)).mapError .standardInput

def convert (around : Surroundings m) (command : Command) : m (Except ConvertError String) := do
  match ← command.loadOptions around with
  | .error e => return .error e
  | .ok options => return (← command.loadMarkup around).map (command.outputFor options)

end Command

/-! ## The program -/

def versionText : String := "blockmark 0.1.0\n"

def usageText : String :=
  "\n".intercalate
    ["Usage: blockmark [OPTIONS] [INPUT]",
      "",
      "Options:",
      "      --config <CONFIG>              JSON file with rendering options",
      "      --image-prefix <IMAGE_PREFIX>  Path prefix for rewritten image URLs",
      "      --no-image-rewrite             Emit image sources exactly as found",
      "      --format <FORMAT>              html, tree or outline",
      "  -v, --verbose                      Enable debug logging on stderr",
      "  -h, --help                         Print help",
      "  -V, --version                      Print version",
      ""]

/-- The whole program. -/
def run {m : Type → Type} [Monad m] (around : Surroundings m) (args : List String) :
    m Outcome := do
  match Request.ofArguments args with
  | .error e => return { status := 2, errors := "error: " ++ e.message ++ "\n\n" ++ usageText }
  | .ok .version => return { output := versionText }
  | .ok .help => return { output := usageText }
  | .ok (.convert command) =>
    match ← command.convert around with
    | .ok output => return { output := output }
    | .error e => return { status := 1, errors := "Error: " ++ e.message ++ "\n" }

end NoteMarkup
