import Highlight.Language
import Highlight.Toml.Document

/-!
Settings: where templates and documents are, which languages are made, and how strictly values are
checked. A settings file gives any of them, and the rest keep their defaults.
-/

namespace Highlight

structure Settings where
  templates : Text := "templates".toList
  syntaxes : Text := "syntaxes".toList
  configurations : Text := "languages".toList
  languages : List Text := ["sbss".toList, "sbml".toList]
  validation : ValidationSettings := {}
  deriving DecidableEq, Repr

open Toml (Item Entries)

def Validation.ofName? (name : Text) : Option Validation :=
  if name = "strict".toList then some .strict
  else if name = "lenient".toList then some .lenient
  else none

def isEmptyCollection : Item → Bool
  | .array items => items.isEmpty
  | .inline entries | .table _ entries => entries.isEmpty
  | .tables list => list.isEmpty
  | .string _ | .scalar => false

/-- How strict checks are: a word, or a table that has the word as its only key, with nothing under
it. -/
def Validation.ofItem? : Item → Option Validation
  | .string s => ofName? s
  | .inline [(name, item)] | .table _ [(name, item)] =>
    if isEmptyCollection item then ofName? name else none
  | _ => none

namespace ValidationSettings

def ofEntries? (entries : Entries) : Option ValidationSettings :=
  entries.foldlM (fun settings (name, item) =>
    (PairContext.ofName? name).bind fun context =>
      (Validation.ofItem? item).map (settings.set context)) {}

/-- Settings in the order of the contexts; what is missing keeps its default. -/
def ofItems? (items : List Item) : Option ValidationSettings :=
  (PairContext.all.zip items).foldlM (fun settings (context, item) =>
    (Validation.ofItem? item).map (settings.set context)) {}

def ofItem? : Item → Option ValidationSettings
  | .inline entries | .table _ entries => ofEntries? entries
  | .array items => ofItems? items
  | .tables list => ofItems? (list.map (.table .header))
  | .string _ | .scalar => none

end ValidationSettings

namespace Settings

def textOf? : Item → Option Text
  | .string s => some s
  | _ => none

def textsOf? : Item → Option (List Text)
  | .array items => items.mapM textOf?
  | _ => none

/-- Takes up one entry of a settings file; only known keys may stand there. -/
def extend (settings : Settings) (name : Text) (item : Item) : Option Settings :=
  if name = "templates-dir".toList then
    (textOf? item).map fun s => { settings with templates := s }
  else if name = "syntaxes-dir".toList then
    (textOf? item).map fun s => { settings with syntaxes := s }
  else if name = "languages-dir".toList then
    (textOf? item).map fun s => { settings with configurations := s }
  else if name = "languages".toList then
    (textsOf? item).map fun list => { settings with languages := list }
  else if name = "validation".toList then
    (ValidationSettings.ofItem? item).map fun v => { settings with validation := v }
  else none

def ofEntries? (entries : Entries) : Option Settings :=
  entries.foldlM (fun settings (name, item) => settings.extend name item) {}

/-- The settings that the text of a settings file describes. -/
def read (text : Text) : Except Error Settings :=
  match (Toml.read? text).bind ofEntries? with
  | some settings => .ok settings
  | none => .error .settings

end Settings
end Highlight
