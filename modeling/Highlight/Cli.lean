import Highlight.Settings
import Highlight.LineCache
import Highlight.Terminal

/-!
# The command line

    codelight [OPTIONS] FILE...

highlights each file (`-` is standard input) on standard output: painted with terminal colours,
or with `--spans` as a listing of every line's spans and end state.  `-l NAME` forces a
language (a built-in name or alias, or a grammar of the settings), `-w N` cuts painted lines at
`N` columns, `-h` and `-V` print the help and the version and stop.

The options are read left to right and the first wrong one is the error; `-h` and `-V` win over
everything after them.  The settings come next, and a broken settings text is ignored as a
whole, while settings that apply only in part keep the part that applied.  Then the forced
language is looked up, and the files are highlighted in order, each under a `==> NAME <==`
header when there are several, until one cannot be read.

A run answers its exit status and what it wrote on standard output and standard error, and
reads its input through `Sources`, so that reading can be anything from a real file system to a
fixed text.
-/

namespace Highlight

/-- The lines of a text: split at `LF`, a `CR` before the `LF` dropped, and no last empty line
for a text that ends with a line end. -/
def splitLines (text : String) : List String :=
  let pieces := text.splitOn "\n"
  let body := pieces.dropLast.map fun p =>
    if p.endsWith "\r" then String.ofList p.toList.dropLast else p
  match pieces.getLast? with
  | some last => if last.isEmpty then body else body ++ [last]
  | none => body

namespace Cli

def version : String := "0.4.0"

def usage : String := String.join [
  "codelight ", version, " - syntax highlighting on the terminal\n",
  "\n",
  "Usage: codelight [OPTIONS] FILE...\n",
  "\n",
  "Options:\n",
  "  -l, --lang NAME   Use language NAME (markup, config, script, plain, ...)\n",
  "  -w, --width N     Cut lines at N display columns\n",
  "      --spans       Print spans and line states instead of colors\n",
  "  -h, --help        Show this help message\n",
  "  -V, --version     Show version information\n",
  "\n",
  "A FILE of `-` reads standard input.\n",
  "Extensions and custom grammars are read from ~/.codelight.toml.\n"]

structure Options where
  lang : Option String := none
  spans : Bool := false
  width : Option Nat := none
  files : List String := []

inductive Command where
  | help
  | version
  | highlight (o : Options)

/-- A positive machine-sized number: an optional `+`, then decimal digits. -/
def parsePositive (s : String) : Option Nat :=
  let ds := match s.toList with
    | '+' :: rest => rest
    | cs => cs
  if ds.isEmpty || !ds.all Char.isDigit then none
  else
    let n := ds.foldl (fun n c => 10 * n + (c.toNat - '0'.toNat)) 0
    if 0 < n && n < Nat.pow 2 64 then some n else none

def parseArgs : List String → Options → Except Error Command
  | [], o =>
    if o.files.isEmpty then .error (.cli "no input files (try --help)") else .ok (.highlight o)
  | arg :: rest, o =>
    if arg == "--help" || arg == "-h" then .ok .help
    else if arg == "--version" || arg == "-V" then .ok .version
    else if arg == "--lang" || arg == "-l" then
      match rest with
      | name :: more => parseArgs more { o with lang := some name }
      | [] => .error (.cli (arg ++ " needs a language name"))
    else if arg == "--width" || arg == "-w" then
      match rest with
      | w :: more =>
        match parsePositive w with
        | some n => parseArgs more { o with width := some n }
        | none => .error (.cli (arg ++ " needs a positive number"))
      | [] => .error (.cli (arg ++ " needs a positive number"))
    else if arg == "--spans" then parseArgs rest { o with spans := true }
    else if arg != "-" && arg.startsWith "-" then .error (.cli s!"unknown option `{arg}`")
    else parseArgs rest { o with files := o.files ++ [arg] }

structure Outcome where
  status : Nat
  stdout : String
  stderr : String
  deriving DecidableEq, Repr

structure Sources (m : Type → Type) where
  stdinText : m (Except Error String)
  fileText : String → m (Except Error String)

def failure (out : String) (e : Error) : Outcome := ⟨1, out, "Error: " ++ e.message ++ "\n"⟩

/-- The registry with the settings text applied as far as it applies; a text that does not
parse is ignored. -/
def registryWith (config : Option String) : Registry :=
  let settings : Settings := match config.map Settings.parse with
    | some (.ok s) => s
    | _ => {}
  (settings.applyLenient Registry.initial).1

def renderLines (o : Options) (cache : LineCache) : List String → Nat → String
  | [], _ => ""
  | line :: rest, idx =>
    let entry := cache.lines.getD idx none
    let spans := (entry.map (·.spans)).getD []
    let shown := if o.spans then dumpLine (idx + 1) line spans ((entry.map (·.endState)).getD .code)
      else paintLine o.width line spans
    shown ++ renderLines o cache rest (idx + 1)

def highlightText (r : Registry) (lang : Language) (o : Options) (text : String) : String :=
  let lines := splitLines text
  renderLines o ((LineCache.new lang).highlightAll r lines).1 lines 0

def highlightFiles {m : Type → Type} [Monad m] (src : Sources m) (r : Registry)
    (forced : Option Language) (o : Options) : List String → Nat → String → m Outcome
  | [], _, out => pure ⟨0, out, ""⟩
  | path :: rest, i, out => do
    let isStdin := path == "-"
    match ← (if isStdin then src.stdinText else src.fileText path) with
    | .error e => pure (failure out e)
    | .ok text =>
      let lang := forced.getD (if isStdin then r.default else r.resolvePath path)
      let header := if o.files.length > 1 then
          (if i > 0 then "\n" else "") ++ "==> " ++ path ++ " <==\n"
        else ""
      highlightFiles src r forced o rest (i + 1) (out ++ header ++ highlightText r lang o text)

/-- Runs the program on its arguments, with the settings text when there is one. -/
def run {m : Type → Type} [Monad m] (src : Sources m) (config : Option String)
    (args : List String) : m Outcome :=
  match parseArgs args {} with
  | .error e => pure (failure "" e)
  | .ok .help => pure ⟨0, usage, ""⟩
  | .ok .version => pure ⟨0, "codelight " ++ version ++ "\n", ""⟩
  | .ok (.highlight o) =>
    let r := registryWith config
    match o.lang with
    | none => highlightFiles src r none o o.files 0 ""
    | some name =>
      match r.languageByName name with
      | some lang => highlightFiles src r (some lang) o o.files 0 ""
      | none => pure (failure "" (.cli s!"unknown language `{name}`"))

end Cli

end Highlight
