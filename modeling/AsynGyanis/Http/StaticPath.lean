import AsynGyanis.Http.Router

/-!
# From a request path to a file

The fallback route of the server serves files. `sanitizeRequestPath` turns
the path of a request into a path below the root: escapes are decoded, a
segment that leads up is refused, and a segment that leads nowhere, a single
dot or nothing at all, is dropped. Many paths have the same file.
-/

namespace AsynGyanis.Http

inductive PathVerdict
  /-- The path below the root, without a slash at its front. -/
  | accepted (relativeText : Bytes)
  | malformed
  | forbidden
  deriving DecidableEq, Repr

/-- An escape that is cut off or is none makes the path malformed, as does
one of a null byte. -/
def decodePathEscapes : Bytes → Option Bytes
  | [] => some []
  | 0x25 :: high :: low :: rest =>
    match hexadecimalDigitValue high, hexadecimalDigitValue low with
    | some highValue, some lowValue =>
      let decodedByteValue := highValue * 16 + lowValue
      if decodedByteValue = 0 then none
      else (decodePathEscapes rest).map (UInt8.ofNat decodedByteValue :: ·)
    | _, _ => none
  | character :: rest =>
    if character = 0x25 then none
    else (decodePathEscapes rest).map (character :: ·)

def isAbsoluteFormPath (decodedPath : Bytes) : Bool :=
  (asciiText "//").isPrefixOf decodedPath || (asciiText "/\\").isPrefixOf decodedPath ||
    (asciiText "\\").isPrefixOf decodedPath

/-- The loop over the segments, and the path below the root so far. -/
def keepSegments : List Bytes → Bytes → PathVerdict
  | [], relativeText => .accepted relativeText
  | currentSegment :: rest, relativeText =>
    if currentSegment = asciiText ".." then .forbidden
    else if currentSegment = asciiText "." ∨ currentSegment = [] then
      keepSegments rest relativeText
    else
      keepSegments rest
        ((if relativeText ≠ [] then relativeText ++ [0x2F] else relativeText) ++ currentSegment)

def sanitizeRequestPath (rawPath : Bytes) : PathVerdict :=
  if rawPath.head? ≠ some 0x2F then .malformed
  else if rawPath.contains 0x0D || rawPath.contains 0x0A then .malformed
  else
    match decodePathEscapes rawPath with
    | none => .malformed
    | some decodedPath =>
      if isAbsoluteFormPath decodedPath then .forbidden
      else if decodedPath.contains 0x00 then .malformed
      else if decodedPath.contains 0x5C || decodedPath.contains 0x3A then
        .forbidden
      else keepSegments (splitSegments decodedPath.tail) []

end AsynGyanis.Http
