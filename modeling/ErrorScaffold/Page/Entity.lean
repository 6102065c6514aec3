/-
The entities of the three characters that markup claims for itself.

Decoding replaces `&lt;` first, then `&gt;` and then `&amp;`, so that an ampersand that comes out
last starts no further entity.
-/
import ErrorScaffold.Text.Split

namespace ErrorScaffold.Page

/-- The text that the entities of `<`, `>` and `&` stand for. -/
def unescape (text : List Char) : List Char :=
  let angles :=
    Text.replaceAll "&gt;".toList ['>'] (Text.replaceAll "&lt;".toList ['<'] text)
  Text.replaceAll "&amp;".toList ['&'] angles

end ErrorScaffold.Page
