import JavaNames.Text

/-!
# Spans

A span is a stretch of a text, given by the byte offsets of its two ends. The ends of a span that is
built by hand may stand in the wrong order; its length is then zero.
-/

namespace JavaNames

/-- A stretch of a text, from the byte offset `start` up to the byte offset `stop`. -/
structure Span where
  start : Nat
  stop : Nat
  deriving DecidableEq, Repr, Inhabited

namespace Span

/-- The empty span at an offset. -/
def point (offset : Nat) : Span :=
  ⟨offset, offset⟩

/-- The span of a whole text. -/
def whole (t : Text) : Span :=
  ⟨0, byteLength t⟩

/-- The span of a character that stands at an offset. -/
def ofChar (offset : Nat) (c : Char) : Span :=
  ⟨offset, offset + c.utf8Size⟩

/-- The number of bytes of a span. -/
def length (s : Span) : Nat :=
  s.stop - s.start

/-- Whether a span has no bytes. -/
def isEmpty (s : Span) : Bool :=
  s.length == 0

/-- The text under a span: the bytes from its start up to its stop. -/
def slice (s : Span) (t : Text) : Text :=
  takeBytes s.length (dropBytes s.start t)

@[simp] theorem length_point (offset : Nat) : (point offset).length = 0 := by
  simp [point, length]

/-- What stands between two parts of a text lies under the span between their ends. -/
theorem slice_append (a b c : Text) :
    (⟨byteLength a, byteLength a + byteLength b⟩ : Span).slice (a ++ (b ++ c)) = b := by
  simp [slice, length]

end Span

end JavaNames
