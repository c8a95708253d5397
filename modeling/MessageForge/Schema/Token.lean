import MessageForge.Text.Basic

/-!
# Tokens of schemas

A schema is a sequence of statements, each a run of tokens that ends in a
semicolon or in a block of statements. Lists in parentheses and brackets are
tokens themselves, cut at their commas.
-/

namespace MessageForge.Schema

inductive Token where
  | identifier (name : Text)
  | text (content : Text)
  | binary
  | integer (value : Nat)
  | float
  | operator (signs : Text)
  | parentheses (items : List (List Token))
  | brackets (items : List (List Token))

inductive Statement where
  | line (tokens : List Token)
  | block (tokens : List Token) (body : List Statement)

end MessageForge.Schema
