import MessageForge.Message.Category
import MessageForge.Text.Lines

/-!
# Template

The class of a message type without fields of its own is written down line by
line; only the category varies.
-/

namespace MessageForge

def templateConstructors (category : Text) : List Text :=
  ["@dataclass",
    "class " ++ Category.typeName category ++ ":",
    "    base: BaseMessageFields",
    "",
    "    @classmethod",
    "    def new(cls, content: str) -> Self:",
    "        return cls.new_with_example(content, False)",
    "",
    "    @classmethod",
    "    def new_with_example(cls, content: str, example: bool) -> Self:",
    "        return cls(",
    "            base=BaseMessageFields(",
    "                content=content,",
    "                example=example,",
    "                message_type=MessageType." ++ category ++ ",",
    "                additional_kwargs=\x7b\x7d,",
    "                response_metadata=\x7b\x7d,",
    "                id=None,",
    "                name=None,",
    "            ),",
    "        )",
    ""]

def templateMutators : List Text :=
  ["    def set_content(self, new_content: str) -> None:",
    "        self.base.content = new_content",
    "",
    "    def set_example(self, example: bool) -> None:",
    "        self.base.example = example",
    "",
    "    def set_id(self, id: str | None) -> None:",
    "        self.base.id = id",
    "",
    "    def set_name(self, name: str | None) -> None:",
    "        self.base.name = name",
    ""]

def templateAccessors : List Text :=
  ["    @property",
    "    def content(self) -> str:",
    "        return self.base.content",
    "",
    "    @property",
    "    def message_type(self) -> MessageType:",
    "        return self.base.message_type",
    "",
    "    @property",
    "    def is_example(self) -> bool:",
    "        return self.base.example",
    "",
    "    @property",
    "    def additional_kwargs(self) -> dict[str, str]:",
    "        return self.base.additional_kwargs",
    "",
    "    @property",
    "    def response_metadata(self) -> dict[str, str]:",
    "        return self.base.response_metadata",
    "",
    "    @property",
    "    def id(self) -> str | None:",
    "        return self.base.id",
    "",
    "    @property",
    "    def name(self) -> str | None:",
    "        return self.base.name",
    "",
    "    @property",
    "    def role(self) -> str:",
    "        return str(self.base.message_type)"]

def templateLines (category : Text) : List Text :=
  templateConstructors category ++ templateMutators ++ templateAccessors

/-- The lines of the class for a category in any accepted spelling. -/
def definitionLines (text : Text) : Except Complaint (List Text) := do
  return templateLines (← Category.normalize text)

def definitionText (text : Text) : Except Complaint Text := do
  return Text.joinLines (← definitionLines text) ++ "\n"

end MessageForge
