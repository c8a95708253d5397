import MessageForge.Diagnostic

/-!
# Events

What a run reports while it works. Events are kept as data; their level, the
part of the program they come from and their text are read off them.
-/

namespace MessageForge

open Vocabulary

inductive Level where
  | debug
  | info
  | warning
  | error
  deriving DecidableEq, Repr

def Level.label : Level → Text
  | .debug => "DEBUG"
  | .info => "INFO"
  | .warning => "WARNING"
  | .error => "ERROR"

inductive Origin where
  | derivation
  | draft
  | source
  | schema
  | run
  | command
  | root
  deriving DecidableEq, Repr

def Origin.label : Origin → Text
  | .derivation => "derive"
  | .draft => "writer"
  | .source => "source_parser"
  | .schema => "capnp_loader"
  | .run => "run"
  | .command => "cli"
  | .root => "root"

/-- The name of the origin with the package it lies in. -/
def Origin.fullLabel : Origin → Text
  | .root => Origin.label .root
  | origin => package ++ "." ++ origin.label

inductive Event where
  | suffixMissing (name category : Text)
  | roleStored (name field : Text)
  | implementing (name : Text) (storesRole : Bool)
  | generated (count : Nat) (fileName : Text)
  | sourceRead (count : Nat) (source : Text)
  | schemaRead (count : Nat) (source : Text)
  | annotationMissing (source : Text)
  | noCounterpart (type : Text)
  | removing (path : Text)
  | nothingFound
  | reading (path : Text)
  | nothingDeclared (path : Text)
  | wrote (count : Nat) (path : Text)
  | nothingGenerated
  | checking (count : Nat)
  | checkRefused (message : Text)
  | checkPassed
  | formatterRefused (output : Text)
  | formatterBroken (fault : Text)
  | workingFrom (root : Text)
  | refused (diagnostic : Diagnostic)
  deriving DecidableEq, Repr

namespace Event

def level : Event → Level
  | suffixMissing .. | annotationMissing .. | nothingFound | nothingGenerated => .warning
  | roleStored .. | implementing .. | generated .. | sourceRead .. | schemaRead ..
  | noCounterpart .. | removing .. => .debug
  | reading .. | nothingDeclared .. | wrote .. | checking .. | checkPassed
  | workingFrom .. => .info
  | checkRefused .. | formatterRefused .. | formatterBroken .. | refused .. => .error

def origin : Event → Origin
  | suffixMissing .. | roleStored .. | implementing .. => .derivation
  | generated .. => .draft
  | sourceRead .. => .source
  | schemaRead .. | annotationMissing .. | noCounterpart .. => .schema
  | removing .. | nothingFound | reading .. | nothingDeclared .. | wrote ..
  | nothingGenerated | checking .. | checkRefused .. | checkPassed
  | formatterRefused .. | formatterBroken .. => .run
  | workingFrom .. => .root
  | refused .. => .command

def foundText (count : Nat) (source : Text) : Text :=
  "Found " ++ Text.ofNat count ++ " message declaration(s) in " ++ source ++ "."

def message : Event → Text
  | suffixMissing name category =>
      "'" ++ name ++ "' does not end with '" ++ messageSuffix ++ "', using " ++
        messageTypeEnum ++ "." ++ category ++ "."
  | roleStored name field =>
      "'" ++ name ++ "' takes its role as the '" ++ field ++ "' parameter."
  | implementing name storesRole =>
      "Implementing " ++ interface ++ " for '" ++ name ++ "' as " ++
        (if storesRole then "WithRole" else "WithoutRole") ++ "."
  | generated count fileName =>
      "Generated " ++ Text.ofNat count ++ " class(es) for " ++ fileName ++ "."
  | sourceRead count source => foundText count source
  | schemaRead count source => foundText count source
  | annotationMissing source =>
      source ++ " declares no '" ++ deriveAnnotation ++ "' annotation, nothing to derive."
  | noCounterpart type =>
      "No Python type for capnp type '" ++ type ++ "', using 'object'."
  | removing path => "Removing " ++ path
  | nothingFound => "No declaration files found."
  | reading path => "Reading declarations from " ++ path
  | nothingDeclared path => "No message declarations in " ++ path ++ ", skipping."
  | wrote count path =>
      "Wrote " ++ Text.ofNat count ++ " message type(s) to '" ++ path ++ "'."
  | nothingGenerated => "Nothing was generated, skipping pyright."
  | checking count =>
      "Type checking " ++ Text.ofNat count ++ " generated module(s) with pyright."
  | checkRefused message => message
  | checkPassed => "Generated modules passed pyright."
  | formatterRefused output => "ruff could not format a generated module: " ++ output
  | formatterBroken fault => "Could not run ruff: " ++ fault
  | workingFrom root => "Working from root directory: " ++ root
  | refused diagnostic => diagnostic.complaint.kind.label ++ ": " ++ diagnostic.text

end Event

end MessageForge
