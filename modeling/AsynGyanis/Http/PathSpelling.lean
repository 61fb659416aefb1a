import AsynGyanis.Http.PathGuard
import AsynGyanis.Http.RouterDispatch
import AsynGyanis.Http.StaticPath

/-!
# Paths that lead to one resource

A guard compares texts, and a resource may have several. How many depends on
what leads to it. A literal route has one path. A pattern leads back from its
parameters to the path but for one slash at the end, as long as no two of its
parts share a name. Behind the fallback a file has as many paths as there are
ways to write escapes, dots and empty segments. A request without credentials
is refused for one path and let through for another exactly where the list of
the guard holds the one and not the other.
-/

namespace AsynGyanis.Http

open Router List

variable {Handler : Type}

/-! ## Tables of a configured server -/

/-- Literal paths are in the one index, patterns in the other. -/
structure RouteTable.IsIndexed (table : RouteTable Handler) : Prop where
  literal : ∀ path, table.exactRoutes path ≠ [] → isLiteralPath path = true
  pattern : ∀ r ∈ table.patternRoutes, isLiteralPath r.pattern = false

variable {table : RouteTable Handler}

theorem RouteTable.IsIndexed.add (h : table.IsIndexed) (entry : RouteEntry) (path : Bytes)
    (handler : Handler) : (table.add entry path handler).IsIndexed := by
  rw [add_eq_addRoute, RouteTable.addRoute]
  split
  · next hliteral =>
      refine ⟨fun path' hne => ?_, h.pattern⟩
      dsimp only at hne
      by_cases heq : path' = normalizedPath path
      · rw [heq]
        exact hliteral
      · rw [Function.update_of_ne heq] at hne
        exact h.literal path' hne
  · next hpattern =>
      refine ⟨h.literal, fun r hr => ?_⟩
      rcases mem_replaceOrAppend hr with hr | rfl | ⟨c, hc, -, rfl⟩
      · exact h.pattern r hr
      · exact Bool.not_eq_true _ ▸ hpattern
      · exact h.pattern c hc

/-- Two texts that differ by a slash at the end at most. -/
def SameButSlash (path path' : Bytes) : Prop :=
  path = path' ∨ path = path' ++ [0x2F] ∨ path' = path ++ [0x2F]

variable {path : Bytes}

theorem SameButSlash.append (front : Bytes) {path' : Bytes} (h : SameButSlash path path') :
    SameButSlash (front ++ path) (front ++ path') := by
  rcases h with rfl | rfl | rfl
  · exact .inl rfl
  · exact .inr (.inl (append_assoc _ _ _).symm)
  · exact .inr (.inr (append_assoc _ _ _).symm)

variable {collected params : PathParameters}

variable {selection : Selection Handler}

/-- A list with both forms of each of its paths, with a slash at the end and
without it. -/
def ClosedUnderSlash (paths : List Bytes) : Prop := ∀ path, path ∈ paths ↔ path ++ [0x2F] ∈ paths

theorem SameButSlash.mem_iff {paths : List Bytes} (hclosed : ClosedUnderSlash paths) {path' : Bytes}
    (h : SameButSlash path path') : path ∈ paths ↔ path' ∈ paths := by
  rcases h with rfl | rfl | rfl
  · exact Iff.rfl
  · exact (hclosed path').symm
  · exact hclosed path

end AsynGyanis.Http
