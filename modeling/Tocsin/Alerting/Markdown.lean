/-!
# Markdown messages

The body that a group robot accepts: a message of the one type `markdown`, which holds a text.
-/

set_option autoImplicit false

namespace Tocsin.Alerting

/-- The text of a markdown message. -/
structure MarkdownContent where
  content : String
  deriving DecidableEq, Repr

/-- A message for a group robot. -/
structure MarkdownMessage where
  markdown : MarkdownContent
  deriving DecidableEq, Repr

/-- The type that every message carries. -/
def MarkdownMessage.msgtype : String := "markdown"

/-- The message with a text. -/
def MarkdownMessage.ofText (content : String) : MarkdownMessage := ⟨⟨content⟩⟩

end Tocsin.Alerting
