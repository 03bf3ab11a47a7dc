import Highlight.Generator
import Highlight.Host
import Highlight.Json.Reader
import Highlight.Settings

/-!
Making the documents of languages: each is made from its template, checked, and written under a
temporary name that becomes the final one only when the file is complete. Nothing is touched before
all languages are known.
-/

namespace Highlight

namespace Settings

def outputs (settings : Settings) : DocumentKind → Text
  | .grammar => settings.syntaxes
  | .configuration => settings.configurations

def templatePath (settings : Settings) (language : Language) (kind : DocumentKind) : Text :=
  Path.join settings.templates (language.template kind)

def outputPath (settings : Settings) (language : Language) (kind : DocumentKind) : Text :=
  Path.join (settings.outputs kind) (language.output kind)

def temporaryPath (settings : Settings) (language : Language) (kind : DocumentKind) : Text :=
  Path.joinTemporary (settings.outputs kind) (language.output kind)

end Settings

structure Production where
  generator : Generator
  settings : Settings

namespace Production

def ofSettings (settings : Settings) : Except Error Production :=
  (Generator.builtin settings.validation).map (⟨·, settings⟩)

/-- The languages of the names asked for, or of those in the settings when none are. -/
def languages (p : Production) (requested : List Text) : Except Error (List Language) :=
  (if requested.isEmpty then p.settings.languages else requested).mapM p.generator.language

variable {m : Type → Type} [Monad m]

def note (host : Host m) (level : Log.Level) (text : Text) : ExceptT Error m Unit :=
  host.report ⟨level, .driver, text⟩

def require (done : m Bool) : ExceptT Error m Unit := do
  if !(← done) then throw .inputOutput

def readTemplate (host : Host m) (path : Text) : ExceptT Error m Text := do
  note host .debug ("reading ".toList ++ path)
  host.readInput path

/-- Writes a file under its temporary name and then gives it the final one. -/
def save (host : Host m) (temporary path contents : Text) : ExceptT Error m Unit := do
  let saved : Bool ←
    if ← host.write temporary contents then host.rename temporary path else pure false
  if !saved then
    host.remove temporary
    throw .inputOutput
  note host .info ("wrote ".toList ++ path)

/-- Makes one document, and gives the path of its file. -/
def makeDocument (p : Production) (host : Host m) (language : Language) (kind : DocumentKind) :
    ExceptT Error m Text := do
  let template ← readTemplate host (p.settings.templatePath language kind)
  host.reportAll (p.generator.report (language.slots kind) template)
  let document ← (p.generator.generate kind language.name template : Except Error Text)
  if (Json.read? document).isNone then throw .invalidOutput
  let path := p.settings.outputPath language kind
  save host (p.settings.temporaryPath language kind) path document
  return path

/-- Makes documents in order; an error names the language at work. -/
def makeAll (p : Production) (host : Host m) :
    List (Language × DocumentKind) → ExceptT Error m (List Text)
  | [] => return []
  | (language, kind) :: rest => do
    let path ← ExceptT.adapt (Error.inLanguage language.name) (p.makeDocument host language kind)
    return path :: (← makeAll p host rest)

/-- Makes the documents of the languages asked for, and gives the paths of their files. -/
def run (p : Production) (host : Host m) (requested : List Text) : ExceptT Error m (List Text) := do
  let languages ← (p.languages requested : Except Error (List Language))
  require (host.makeDirectories p.settings.syntaxes)
  require (host.makeDirectories p.settings.configurations)
  p.makeAll host (languages.flatMap fun language => language.documents.map (language, ·))

end Production
end Highlight
