import TutorClient.Reply.Segment

/-!
# Markup of a Reply

The segments of a reply as markup for a browser. Code is escaped, so nothing
in it can be taken for a tag or an entity; prose is passed on as the server
sent it, so that markup the server puts there takes effect. A language tag is
made of letters, digits and underscores when it comes from a reply, and so
needs no escaping inside its attribute.

## Main definitions

* `escapeChar`, `escape`: A text with the four characters of markup replaced
  by entities.
* `Segment.markup`: The markup of one segment.
* `markup`: The markup of a list of segments.
* `markupOfReply`: The markup of a reply.
-/

namespace TutorClient

namespace Reply

/-- A character as it is written inside markup. -/
def escapeChar : Char → List Char
  | '&' => "&amp;".toList
  | '<' => "&lt;".toList
  | '>' => "&gt;".toList
  | '"' => "&quot;".toList
  | c => [c]

/-- A list of characters as it is written inside markup. -/
def escapeChars (cs : List Char) : List Char :=
  cs.flatMap escapeChar

/-- A text as it is written inside markup. -/
def escape (s : String) : String :=
  String.ofList (escapeChars s.toList)

namespace Segment

/-- The markup of a segment, as characters. -/
def markup : Segment → List Char
  | .text content => content.toList
  | .lineBreak => "<br>".toList
  | .inlineCode code => "<code>".toList ++ escapeChars code.toList ++ "</code>".toList
  | .codeBlock language code =>
    "<pre><code class=\"language-".toList ++ language.toList ++ "\">".toList ++
      escapeChars code.toList ++ "</code></pre>".toList

end Segment

/-- The markup of a list of segments. -/
def markup (segments : List Segment) : String :=
  String.ofList (segments.flatMap Segment.markup)

/-- The markup of a reply. -/
def markupOfReply (reply : String) : String :=
  markup (Segment.ofReply reply)

end Reply

end TutorClient
