import WidgetLocator.CommandLine.Options
import WidgetLocator.CommandLine.Outcome
import WidgetLocator.Config.Layer
import WidgetLocator.Pipeline.Basic

/-! The command: it renders the locators of one path or of all paths in a file, in the format that the
configuration and the options ask for. Files are given as a function of their paths, so that the
outcome depends on nothing but the arguments and the files. -/

namespace WidgetLocator.CommandLine

open Text

def versionText : String := "xloc 0.1.0\n"

def helpText : String :=
  "Translate XPath-style paths into widget locator declarations

Usage: xloc [OPTIONS] [expr]

Arguments:
  [expr]  Path expression, e.g. //button[@name='submit']

Options:
      --file <file>      Read expressions from a file, one per line ('#' starts a comment)
  -f, --format <format>  Output format (default from config: declarations)
  -c, --config <config>  TOML file layered over the built-in defaults
      --segments         Use the regex segment reader instead of the full grammar
      --list-formats     List available output formats
  -v, --verbose...       Log to stderr; repeat for more detail
  -h, --help             Print help
  -V, --version          Print version
"

def usageText : String := "Usage: xloc [OPTIONS] [expr]\n\nFor more information, try '--help'.\n"

def padRight (width : Nat) (s : String) : String := s ++ String.ofList (List.replicate (width - s.length) ' ')

def formatLine (r : Registry) (name : String) : String :=
  let description := ((r.get? name).map Formatter.description).getD ""
  s!"  {padRight 14 name} {description}\n"

def formatList (r : Registry) : String :=
  "Available formats:\n\n" ++ String.join (r.names.map (formatLine r))

/-- A path with an extension after its last name, which may have one already. The path has to end in a
name, except for slashes and single dots. -/
def withExtension? (extension path : String) : Option String :=
  let isEmptyStep := fun part : List Char => part = [] || part = ['.']
  match (path.toList.splitOn '/').reverse.dropWhile isEmptyStep with
  | [] => none
  | name :: parents =>
    if name = ['.', '.'] then none
    else some (String.ofList (List.intercalate ['/'] (name :: parents).reverse) ++ "." ++ extension)

def configPaths (path : String) : List String := path :: (withExtension? "toml" path).toList

def configText? (files : Files) (path : String) : Option String :=
  (configPaths path).findSome? fun path => (files path).toOption

/-- The configuration file that the options name, and over it the options that are settings. -/
def layers (files : Files) (o : Options) : List Layer :=
  (o.config.toList.map fun path => .file path true (configText? files path)) ++
    (o.format.toList.map fun format => .set "render.format" (.string format)) ++
    (if o.segments then [.set "parser.mode" (.string "segments")] else [])

def filePaths (o : Options) : List String := o.file.toList ++ o.config.toList.flatMap configPaths

def runPaths (files : Files) (o : Options) (run : String → Except PipelineError String) : Outcome :=
  match o.file, o.path with
  | some file, _ => .ofFile run file (files file)
  | none, some path => .ofPath run path
  | none, none => .success ""

def runOptions (files : Files) (o : Options) : Outcome :=
  let registry := Registry.standard
  if o.listFormats then .success (formatList registry)
  else
    match Config.load (layers files o) with
    | .error e => .failure s!"Configuration error: {e.message}\n"
    | .ok config =>
      match config.rendering registry with
      | .error e =>
        let names := ", ".intercalate registry.names
        .failure s!"Error: {e.message}\nAvailable formats: {names}\n"
      | .ok rendering =>
        match config.mode with
        | .full => runPaths files o (Pipeline.standard.withRendering rendering).run
        | .segments => runPaths files o (Pipeline.segments.withRendering rendering).run

def run (files : Files) (arguments : List String) : Outcome :=
  match Options.ofArguments arguments with
  | .ok o => runOptions files o
  | .error .help => .success helpText
  | .error .version => .success versionText
  | .error .usage => ⟨2, "", usageText⟩

end WidgetLocator.CommandLine
