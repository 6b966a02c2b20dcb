namespace StaticSemantics

/-!
# Source positions

A span is the stretch of source text that a node of the tree covers.  The
checker never computes with spans: it copies them from nodes into diagnostics,
so lines and columns are kept as the machine words in which they arrive.
-/

/-- A stretch of source text, from its first line and column to its last. -/
structure Span where
  line : UInt32
  column : UInt32
  endLine : UInt32
  endColumn : UInt32
  deriving DecidableEq, Repr

namespace Span

/-- The empty stretch at one position. -/
def point (line column : UInt32) : Span :=
  ⟨line, column, line, column⟩

/-- The span of a node for which no position is known. -/
def unknown : Span :=
  point 0 0

instance : Inhabited Span := ⟨unknown⟩

/-- Messages show only where a span begins. -/
def text (span : Span) : String :=
  toString span.line ++ ":" ++ toString span.column

/-- A span is a point exactly when it ends where it begins. -/
theorem eq_point_iff (span : Span) :
    span = point span.line span.column ↔
      span.endLine = span.line ∧ span.endColumn = span.column := by
  cases span
  simp [point]

end Span
end StaticSemantics
