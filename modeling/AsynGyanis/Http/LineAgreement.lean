import AsynGyanis.Http.HttpParser
import AsynGyanis.Http.HttpResponseParser

/-!
# The lines that both parsers read

The request parser and the response parser split field lines and chunk size
lines each with code of its own. What is malformed to one is so to the other:
the order of the checks differs, and the request parser looks at a value when
the white space around it is gone, but white space may stand in a value
anyway (`containsOnlyFieldValueCharacters_trim`). The limits are each
parser's own. Those of the request parser are configured (`admitsField`); the
response parser takes no chunk size of more than sixteen digits, and with no
more than these the request parser finds no overflow
(`parseChunkSizeText_toOption`).
-/

namespace AsynGyanis.Http

open HttpResponseParser List

open HttpResponseParser (splitFieldLine splitChunkSizeLine)

/-! ## White space -/

namespace HttpParser

variable (p : HttpParser)

/-! ## Field lines -/

end HttpParser

end AsynGyanis.Http
