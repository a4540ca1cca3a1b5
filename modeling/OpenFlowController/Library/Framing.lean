/-
Module: Library.Framing
Purpose: Streams of frames that tell their own length near their start: the frames that make up a
  part of a stream are the first frames of it.
Trusted boundary: none
-/
import Mathlib

namespace OpenFlowController.Library

variable {β : Type*} {size : List β → Nat} {header : Nat}

/-- The frame has its header, which tells the length of the frame. -/
def Frame (size : List β → Nat) (header : Nat) (frame : List β) : Prop :=
  header ≤ frame.length ∧ size frame = frame.length

instance (frame : List β) : Decidable (Frame size header frame) :=
  inferInstanceAs (Decidable (_ ∧ _))

/-- What stands behind the header does not matter to the length. -/
def ReadsHeader (size : List β → Nat) (header : Nat) : Prop :=
  ∀ frame rest : List β, header ≤ frame.length → size (frame ++ rest) = size frame

theorem Frame.eq_of_append (reads : ReadsHeader size header) {first second rest rest' : List β}
    (isFrame : Frame size header first) (isFrame' : Frame size header second)
    (same : first ++ rest = second ++ rest') : first = second ∧ rest = rest' := by
  apply List.append_inj same
  calc first.length = size (first ++ rest) := by rw [reads _ _ isFrame.1, isFrame.2]
    _ = size (second ++ rest') := congrArg size same
    _ = second.length := by rw [reads _ _ isFrame'.1, isFrame'.2]

theorem frames_prefix (reads : ReadsHeader size header) (positive : 0 < header)
    {frames stream : List (List β)} (framed : ∀ frame ∈ frames, Frame size header frame)
    (streamed : ∀ frame ∈ stream, Frame size header frame)
    (front : frames.flatten <+: stream.flatten) : frames <+: stream := by
  induction frames generalizing stream with
  | nil => exact List.nil_prefix
  | cons first rest ih =>
  obtain ⟨isFrame, framed⟩ := List.forall_mem_cons.mp framed
  obtain ⟨behind, same⟩ := front
  cases stream with
  | nil =>
    have empty : first = [] := by simp_all
    have whole := isFrame.1
    simp [empty] at whole
    omega
  | cons first' rest' =>
    obtain ⟨isFrame', streamed⟩ := List.forall_mem_cons.mp streamed
    simp only [List.flatten_cons, List.append_assoc] at same
    obtain ⟨here, later⟩ := isFrame.eq_of_append reads isFrame' same
    rw [here]
    exact (List.prefix_cons_inj _).mpr (ih framed streamed ⟨behind, later⟩)

end OpenFlowController.Library
