import MessageForge.Text.Basic

/-!
# Vocabulary

The names that declarations, generated classes and their runtime share.
-/

namespace MessageForge.Vocabulary

def baseField : Text := "base"
def roleField : Text := "role"
def messageSuffix : Text := "Message"

def messageTypeEnum : Text := "MessageType"
def baseRecord : Text := "BaseMessageFields"
def interface : Text := "BaseMessage"
def package : Text := "base_message_generator"
def runtimeModule : Text := "base_message_generator.messages"

def deriveDecorator : Text := "derive_base_message"
def defineCall : Text := "define_message"
def deriveAnnotation : Text := "deriveBaseMessage"

/-- The members of every generated class. A declared field of such a name
would be shadowed by the member. -/
def generatedMembers : List Text :=
  ["new", "new_with_example", "content", "message_type", "is_example",
    "additional_kwargs", "response_metadata", "id", "name",
    "set_content", "set_example", "set_id", "set_name"]

/-- The parameters that both generated constructors have of their own. -/
def constructorParameters : List Text :=
  ["cls", "content", "example"]

end MessageForge.Vocabulary
