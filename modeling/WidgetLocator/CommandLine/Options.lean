/-! What the arguments of the command ask for. An option takes its value from the next argument, or from
its own argument after an equals sign or, when its name is a letter, right after the letter. Letters
can be joined behind one hyphen. After two hyphens alone no argument is an option. -/

namespace WidgetLocator.CommandLine

structure Options where
  path : Option String
  file : Option String
  format : Option String
  config : Option String
  segments : Bool
  listFormats : Bool
deriving DecidableEq, Repr

inductive Stop where
  | usage
  | help
  | version
deriving DecidableEq, Repr

inductive Flag where
  | segments
  | listFormats
  | verbose
  | help
  | version
deriving DecidableEq, Repr

inductive Valued where
  | file
  | format
  | config
deriving DecidableEq, Repr

def flagOfName? : String → Option Flag
  | "segments" => some .segments
  | "list-formats" => some .listFormats
  | "verbose" => some .verbose
  | "help" => some .help
  | "version" => some .version
  | _ => none

def flagOfLetter? : Char → Option Flag
  | 'v' => some .verbose
  | 'h' => some .help
  | 'V' => some .version
  | _ => none

def valuedOfName? : String → Option Valued
  | "file" => some .file
  | "format" => some .format
  | "config" => some .config
  | _ => none

def valuedOfLetter? : Char → Option Valued
  | 'f' => some .format
  | 'c' => some .config
  | _ => none

structure Reading where
  options : Options
  /-- An option whose value is the next argument. -/
  pending : Option Valued
  /-- Whether two hyphens have ended the options. -/
  onlyPaths : Bool

namespace Reading

def start : Reading := ⟨⟨none, none, none, none, false, false⟩, none, false⟩

def once (value : String) : Option String → Except Stop (Option String)
  | none => .ok (some value)
  | some _ => .error .usage

def setPath (r : Reading) (path : String) : Except Stop Reading :=
  (once path r.options.path).map fun path => { r with options := { r.options with path } }

def setValue (r : Reading) (option : Valued) (value : String) : Except Stop Reading :=
  let o := r.options
  let withOptions : Options → Reading := fun o => { r with options := o, pending := none }
  match option with
  | .file => (once value o.file).map fun file => withOptions { o with file }
  | .format => (once value o.format).map fun format => withOptions { o with format }
  | .config => (once value o.config).map fun config => withOptions { o with config }

/-- Being verbose may be asked for repeatedly, and shows in no output. -/
def setFlag (r : Reading) : Flag → Except Stop Reading
  | .segments =>
    if r.options.segments then .error .usage
    else .ok { r with options := { r.options with segments := true } }
  | .listFormats =>
    if r.options.listFormats then .error .usage
    else .ok { r with options := { r.options with listFormats := true } }
  | .verbose => .ok r
  | .help => .error .help
  | .version => .error .version

def readLong (r : Reading) (cs : List Char) : Except Stop Reading :=
  let name := String.ofList (cs.takeWhile (· != '='))
  match flagOfName? name, valuedOfName? name, cs.dropWhile (· != '=') with
  | some flag, _, [] => r.setFlag flag
  | _, some option, [] => .ok { r with pending := some option }
  | _, some option, _ :: value => r.setValue option (String.ofList value)
  | _, _, _ => .error .usage

def readLetters (r : Reading) : List Char → Except Stop Reading
  | [] => .ok r
  | c :: cs =>
    match flagOfLetter? c with
    | some flag =>
      match r.setFlag flag with
      | .ok r => readLetters r cs
      | .error stop => .error stop
    | none =>
      match valuedOfLetter? c, cs with
      | none, _ => .error .usage
      | some option, [] => .ok { r with pending := some option }
      | some option, '=' :: value => r.setValue option (String.ofList value)
      | some option, value => r.setValue option (String.ofList value)

/-- Reads one argument. A value in an argument of its own cannot begin with a hyphen, unless it is a hyphen
alone. -/
def step (r : Reading) (argument : String) : Except Stop Reading :=
  match r.onlyPaths, argument.toList, r.pending with
  | false, ['-', '-'], none => .ok { r with onlyPaths := true }
  | false, '-' :: '-' :: cs, none => r.readLong cs
  | false, '-' :: c :: cs, none => r.readLetters (c :: cs)
  | false, '-' :: _ :: _, some _ => .error .usage
  | _, _, some option => r.setValue option argument
  | _, _, none => r.setPath argument

end Reading

/-- The options in a list of arguments. There has to be a path or a file to read paths from, but not
both; the list of formats can be asked for without either. -/
def Options.ofArguments (arguments : List String) : Except Stop Options := do
  let r ← arguments.foldlM Reading.step Reading.start
  let o := r.options
  let enough := o.path.isSome || o.file.isSome || o.listFormats
  if r.pending.isSome || !enough || (o.path.isSome && o.file.isSome) then .error .usage else .ok o

end WidgetLocator.CommandLine
