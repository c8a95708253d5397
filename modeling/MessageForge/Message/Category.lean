import MessageForge.Diagnostic
import MessageForge.Text.Blank
import MessageForge.Text.Identifier

/-!
# Categories

A message type belongs to a category, the name of a member of the message type
enumeration. A declared type has its category in its name; a definition gives
it directly or as a qualified member.
-/

namespace MessageForge

open Vocabulary

/-- The members of the enumeration. -/
inductive MessageType where
  | system
  | human
  | ai
  | tool
  | chat
  | function
  deriving DecidableEq, Repr

namespace MessageType

def all : List MessageType :=
  [.system, .human, .ai, .tool, .chat, .function]

def name : MessageType → Text
  | .system => "System"
  | .human => "Human"
  | .ai => "AI"
  | .tool => "Tool"
  | .chat => "Chat"
  | .function => "Function"

def value : MessageType → Text
  | .system => "system"
  | .human => "human"
  | .ai => "ai"
  | .tool => "tool"
  | .chat => "chat"
  | .function => "function"

def ofName? (name : Text) : Option MessageType :=
  all.find? (·.name = name)

def ofValue? (value : Text) : Option MessageType :=
  all.find? (·.value = value)

end MessageType

namespace Category

/-- The name of a type without the suffix of message types, if it has it. -/
def ofTypeName (typeName : Text) : Text :=
  Text.dropSuffix messageSuffix typeName

def typeName (category : Text) : Text :=
  category ++ messageSuffix

/-- Accepts a bare category or a qualified member with blanks around it. -/
def normalize (text : Text) : Except Complaint Text :=
  let category := Text.dropPrefix (messageTypeEnum ++ ".") (Text.trim text)
  if Text.isIdentifier category then .ok category else .error (.notCategory text)

end Category

end MessageForge
