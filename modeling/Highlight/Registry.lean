import Highlight.Grammar.Tokenize
import Highlight.Grammar.Builtin

/-!
# The language registry

The registry maps file extensions to languages and holds the grammars registered at run time.
It starts with the extensions of the built-in grammars, and with the configuration language for
every other extension.

An extension is registered trimmed of white space, without its leading dots and in lower case;
registering it again replaces its language.  A file name resolves by the text after its last `.`
in its last path part (after the last `/` or `\`), lower-cased; a name without a dot, or an
extension no one registered, resolves to the default language.

A grammar is registered after `Grammar.validate` and only under a name no built-in language uses.
One with the name of an earlier registered grammar, in any ASCII case, replaces it and keeps its
index; otherwise it gets the next index, of which there are `2 ^ 16`.  Its extensions are then
registered for it.
-/

namespace Highlight

structure Registry where
  extensions : List (String × Language)
  custom : Array Grammar
  default : Language

def sameIgnoringAsciiCase (a b : String) : Bool := a.toLower == b.toLower

/-- An extension as the registry stores it: trimmed, no leading dots, lower case. -/
def normalizeExtension (ext : String) : String :=
  Unicode.lowerText (dropLeadingDots (trimWhite ext))

/-- The last component of a path, as a file system path names it: separators are `/`, empty and
`.` components are skipped, and a path ending in `..`, the root or nothing has none. -/
def fileName? (path : String) : Option String :=
  match ((path.splitOn "/").filter fun p => p != "" && p != ".").getLast? with
  | some ".." | none => none
  | some p => some p

def baseName (filename : String) : String :=
  String.ofList (filename.toList.reverse.takeWhile fun c => c != '/' && c != '\\').reverse

def extension? (name : String) : Option String :=
  if name.toList.contains '.' then
    some (String.ofList (name.toList.reverse.takeWhile (· != '.')).reverse)
  else none

namespace Registry

def putExtension (es : List (String × Language)) (ext : String) (lang : Language) :
    List (String × Language) :=
  if es.any (·.1 == ext) then es.map fun e => if e.1 == ext then (ext, lang) else e
  else es ++ [(ext, lang)]

theorem find?_putExtension (es : List (String × Language)) (ext : String) (lang : Language) :
    (putExtension es ext lang).find? (·.1 == ext) = some (ext, lang) := by
  unfold putExtension
  split
  · rename_i h
    induction es with
    | nil => simp at h
    | cons e rest ih =>
      by_cases he : e.1 = ext
      · simp [he]
      · have h' : rest.any (·.1 == ext) = true := by simpa [he] using h
        simpa [he] using ih h'
  · rename_i h
    have hnone : es.find? (·.1 == ext) = none := by
      rw [List.find?_eq_none]
      intro x hx hp
      exact h (List.any_eq_true.mpr ⟨x, hx, hp⟩)
    simp [List.find?_append, hnone]

def initial : Registry :=
  { extensions := builtinGrammars.foldl (fun es (lang, g) =>
      g.extensions.foldl (fun es ext => putExtension es ext lang) es) []
    custom := #[]
    default := .config }

def registerExtension (r : Registry) (ext : String) (lang : Language) : Registry :=
  { r with extensions := putExtension r.extensions (normalizeExtension ext) lang }

def setDefault (r : Registry) (lang : Language) : Registry := { r with default := lang }

@[simp] theorem default_setDefault (r : Registry) (lang : Language) :
    (r.setDefault lang).default = lang := rfl

@[simp] theorem default_registerExtension (r : Registry) (ext : String) (lang : Language) :
    (r.registerExtension ext lang).default = r.default := rfl

@[simp] theorem custom_registerExtension (r : Registry) (ext : String) (lang : Language) :
    (r.registerExtension ext lang).custom = r.custom := rfl

/-- The language of a file name: by the extension of its last part, else the default. -/
def resolve (r : Registry) (filename : String) : Language :=
  match extension? (baseName filename) with
  | none => r.default
  | some ext =>
    match r.extensions.find? (·.1 == Unicode.lowerText ext) with
    | some (_, lang) => lang
    | none => r.default

def resolvePath (r : Registry) (path : String) : Language :=
  match fileName? path with
  | some name => r.resolve name
  | none => r.default

def customIndex? (r : Registry) (name : String) : Option Nat :=
  r.custom.findIdx? fun g => sameIgnoringAsciiCase g.name name

/-- Validates and registers a grammar with its extensions, answering its language. -/
def registerGrammar (r : Registry) (g : Grammar) : Except Error (Registry × Language) := do
  g.validate
  if (Language.ofBuiltinName g.name).isSome then throw (.grammar (.reservedName g.name))
  let existing := r.customIndex? g.name
  let index := existing.getD r.custom.size
  if index ≥ Language.customLimit then throw (.grammar .tooManyGrammars)
  let lang := Language.custom index
  let r := g.extensions.foldl (fun r ext => r.registerExtension ext lang) r
  let custom := match existing with
    | some i => r.custom.setIfInBounds i g
    | none => r.custom.push g
  pure ({ r with custom }, lang)

def grammar? (r : Registry) : Language → Option Grammar
  | .custom i => r.custom[i]?
  | lang => lang.builtinGrammar

/-- The language with this name: a built-in name or alias first, then a registered grammar's
name in any ASCII case.  The index is not cut to 16 bits: a registry that calls reach holds at most
`2 ^ 16` grammars, so it never needs to be. -/
def languageByName (r : Registry) (name : String) : Option Language :=
  match Language.ofBuiltinName name with
  | some lang => some lang
  | none => (r.customIndex? name).map Language.custom

def languages (r : Registry) : List String :=
  (builtinGrammars.map (·.2.name) ++ r.custom.toList.map (·.name)).mergeSort
    fun a b => decide (a ≤ b)

/-- Highlights one line in a language; a language without grammar gives no spans and code. -/
def tokenizeLine (r : Registry) (lang : Language) (line : String) (state : LineState) :
    LineResult :=
  match r.grammar? lang with
  | some g => g.tokenizeLine line state
  | none => ⟨[], .code⟩

def tokenizeLines (r : Registry) (lang : Language) (lines : List String) (state : LineState) :
    List LineResult :=
  threadLines (r.tokenizeLine lang) lines state

end Registry

end Highlight
