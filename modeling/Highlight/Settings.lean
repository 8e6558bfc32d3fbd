import Highlight.Registry
import Highlight.Grammar.Table
import Highlight.Toml.Parse

/-!
# Settings

The user's settings, read from a TOML text where every part is optional:

    default = "config"          # language of unregistered extensions
    [extensions]
    osim = "markup"
    [[grammar]]
    name = "ini"
    ...

The keys of a table are visited in byte order, so the first bad key in that order (`default`
before `extensions` before `grammar`) decides the error, and extensions come out in the order of
their names.  Unknown keys are ignored.

Applying settings to a registry registers the grammars first, so that extensions and the default
may name them, then the extensions, then the default.  Applying stops at the first failure and
keeps what was applied before it.
-/

namespace Highlight

open Highlight.Toml

structure Settings where
  defaultLanguage : Option String := none
  extensions : List (String × String) := []
  grammars : List Grammar := []

namespace Settings

def readKey (s : Settings) : String × Value → Except Error Settings
  | ("default", v) =>
    match v.asString? with
    | some name => .ok { s with defaultLanguage := some name }
    | none => .error (.config .defaultNotString)
  | ("extensions", v) =>
    match v.asTable? with
    | none => .error (.config .extensionsNotTable)
    | some t =>
      t.foldlM (fun s (ext, lang) => match lang.asString? with
        | some name => .ok { s with extensions := s.extensions ++ [(ext, name)] }
        | none => .error (.config (.extensionNotName ext))) s
  | ("grammar", v) =>
    match v.asArray? with
    | none => .error (.config .grammarsNotTables)
    | some items =>
      items.foldlM (fun s item => match item.asTable? with
        | some t => do
          let g ← Grammar.ofTable t
          pure { s with grammars := s.grammars ++ [g] }
        | none => .error (.config .grammarsNotTables)) s
  | _ => .ok s

def parse (text : String) : Except Error Settings :=
  match Toml.parse text with
  | .error _ => .error .toml
  | .ok t => t.foldlM readKey {}

/-- Registers the grammars, in order; stops at the first that fails. -/
def registerGrammars : Registry → List Grammar → Registry × Except Error Unit
  | r, [] => (r, .ok ())
  | r, g :: gs =>
    match r.registerGrammar g with
    | .ok (r, _) => registerGrammars r gs
    | .error e => (r, .error e)

def registerExtensions : Registry → List (String × String) → Registry × Except Error Unit
  | r, [] => (r, .ok ())
  | r, (ext, name) :: rest =>
    match r.languageByName name with
    | some lang => registerExtensions (r.registerExtension ext lang) rest
    | none => (r, .error (.config (.unknownLanguage name ext)))

/-- Applies the settings to a registry: the registry after every step that succeeded, and the
first failure. -/
def apply (s : Settings) (r : Registry) : Registry × Except Error Unit :=
  match registerGrammars r s.grammars with
  | (r, .error e) => (r, .error e)
  | (r, .ok ()) =>
    match registerExtensions r s.extensions with
    | (r, .error e) => (r, .error e)
    | (r, .ok ()) =>
      match s.defaultLanguage with
      | none => (r, .ok ())
      | some name =>
        match r.languageByName name with
        | some lang => (r.setDefault lang, .ok ())
        | none => (r, .error (.config (.unknownDefault name)))

def applyLenient (s : Settings) (r : Registry) : Registry × Bool :=
  let (r, res) := s.apply r
  (r, match res with | .ok () => true | .error _ => false)

end Settings

end Highlight
