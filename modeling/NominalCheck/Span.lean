/-!
# Places in a source text

A `Span` is a range of byte offsets, start included and stop excluded. Nothing forces
`start ≤ stop`: spans come with the program from outside, and a reversed one is an empty range.

A `Mark` is what every node of a program tree carries besides its own data: the span it was read
from, and an annotation. Trees that come in carry the trivial annotation, trees that have been
checked carry types.
-/

namespace NominalCheck

/-- A range of byte offsets. -/
structure Span where
  /-- The first offset of the range. -/
  start : Nat
  /-- The first offset after the range. -/
  stop : Nat
deriving DecidableEq, Repr, Inhabited

namespace Span

/-- The number of offsets in the range. -/
def length (s : Span) : Nat := s.stop - s.start

/-- No offset lies in the range. -/
def IsEmpty (s : Span) : Prop := s.stop ≤ s.start

instance (s : Span) : Decidable s.IsEmpty := inferInstanceAs (Decidable (_ ≤ _))

instance : Membership Nat Span := ⟨fun s offset ↦ s.start ≤ offset ∧ offset < s.stop⟩

instance (offset : Nat) (s : Span) : Decidable (offset ∈ s) :=
  inferInstanceAs (Decidable (_ ∧ _))

theorem mem_iff {offset : Nat} {s : Span} : offset ∈ s ↔ s.start ≤ offset ∧ offset < s.stop :=
  Iff.rfl

end Span

/-- A name together with the place where it is written. -/
structure Ident where
  /-- The name. -/
  name : String
  /-- The place where it is written. -/
  span : Span
deriving DecidableEq, Repr, Inhabited

/-- What a node of a program tree carries besides its own data. -/
structure Mark (α : Type) where
  /-- The place of the node in the source. -/
  span : Span
  /-- What is known about the node. -/
  ann : α
deriving DecidableEq, Repr, Inhabited

/-- The same place with another annotation. -/
def Mark.annotate {α β : Type} (m : Mark α) (ann : β) : Mark β := ⟨m.span, ann⟩

@[simp] theorem Mark.span_annotate {α β : Type} (m : Mark α) (ann : β) :
    (m.annotate ann).span = m.span := rfl

@[simp] theorem Mark.ann_annotate {α β : Type} (m : Mark α) (ann : β) :
    (m.annotate ann).ann = ann := rfl

end NominalCheck
