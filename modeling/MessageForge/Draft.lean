import MessageForge.Message.Derivation
import MessageForge.Message.Template
import MessageForge.Workspace.Path

/-!
# Drafts

A draft is a generated module in the making: the import lines and class blocks
that the entries of one declaration file have contributed so far. A refused
entry leaves it as it is.
-/

namespace MessageForge

open Vocabulary

/-- A derived type as a class: its declared fields, then its members. -/
def classLines (declaration : Declaration) (members : MemberLines) : List Text :=
  let fieldLines : List Text := declaration.fields.map fun field => field.name ++ ": " ++ field.type
  Code.decorator "dataclass" [] :: Code.classHeader declaration.name [] ::
    Code.indent 1 (Code.separate [fieldLines, members.lines])

structure Draft where
  file : DeclarationFile
  imports : List Text := []
  typingNames : List Text := []
  blocks : List (List Text) := []
  typeNames : List Text := []
  events : List Event := []
  deriving DecidableEq, Repr

namespace Draft

def ofFile (file : DeclarationFile) : Draft :=
  { file }

def fileName (draft : Draft) : Text :=
  Path.name draft.file.path

def docstring (draft : Draft) : Text :=
  "\"\"\"This is an automatically generated module for \x60" ++ draft.fileName ++ "\x60.\"\"\""

/-- Import lines keep the order of their first addition. -/
def addImport (draft : Draft) (line : Text) : Draft :=
  if draft.imports.contains line then draft
  else { draft with imports := draft.imports ++ [line] }

def addImports (draft : Draft) (lines : List Text) : Draft :=
  lines.foldl addImport draft

def addTypingName (draft : Draft) (name : Text) : Draft :=
  if draft.typingNames.contains name then draft
  else { draft with typingNames := draft.typingNames ++ [name] }

def addBlock (draft : Draft) (block : List Text) (typeName : Text) : Draft :=
  { draft with
    blocks := draft.blocks ++ [block]
    typeNames := draft.typeNames ++ [typeName] }

def report (draft : Draft) (events : List Event) : Draft :=
  { draft with events := draft.events ++ events }

def addDeclaration (draft : Draft) (declaration : Declaration) : Except Diagnostic Draft := do
  let derivation ← declaration.derive
  return (draft.addBlock (classLines declaration derivation.lines) declaration.name).report
    derivation.events

/-- The class takes its name from the normal spelling of the category, while
the type name keeps the given one. -/
def addDefinition (draft : Draft) (definition : Definition) : Except Diagnostic Draft := do
  let block ← (definitionLines definition.category).mapError fun complaint => { complaint }
  return draft.addBlock block (Category.typeName definition.category)

def addEntry (draft : Draft) : Entry → Except Diagnostic Draft
  | .declaration d => draft.addDeclaration d
  | .definition d => draft.addDefinition d

/-- Adds entries up to the first that is refused. -/
def addEntries (draft : Draft) : List Entry → Draft × Option Diagnostic
  | [] => (draft, none)
  | entry :: rest =>
      match draft.addEntry entry with
      | .ok next => next.addEntries rest
      | .error diagnostic => (draft, some diagnostic)

/-- The imports that the generated classes need, then those carried over. -/
def addModuleImports (draft : Draft) : Draft :=
  if draft.blocks.isEmpty then draft
  else
    let withClass := (draft.addImport "from dataclasses import dataclass").addTypingName "Self"
    let runtime : Text :=
      "from " ++ runtimeModule ++ " import " ++ baseRecord ++ ", " ++ messageTypeEnum
    (withClass.addImport runtime).addImports draft.file.imports

/-- Adds all entries of the file and the imports of the module. -/
def generateAll (draft : Draft) : Draft × Option Diagnostic :=
  match draft.addEntries draft.file.entries with
  | (partly, some diagnostic) => (partly, some diagnostic)
  | (full, none) =>
      let done := full.addModuleImports
      (done.report [.generated done.blocks.length done.fileName], none)

def importLines (draft : Draft) : List Text :=
  let typing : List Text :=
    if draft.typingNames.isEmpty then []
    else ["from typing import " ++ Code.joinParameters (sortedSet draft.typingNames)]
  ("from __future__ import annotations" : Text) :: (draft.imports ++ typing)

def lines (draft : Draft) : List Text :=
  draft.docstring :: [] :: draft.importLines ++
    draft.blocks.flatMap fun block => [] :: [] :: block

/-- The text of the module, which ends with a line feed. -/
def render (draft : Draft) : Text :=
  Text.joinLines draft.lines ++ "\n"

end Draft

end MessageForge
