import Mathlib.Data.List.Forall2

set_option autoImplicit false

namespace Aligned

theorem related_left {Left Right : Type} {Related : Left → Right → Prop} {lefts : List Left} {rights : List Right}
    (aligned : List.Forall₂ Related lefts rights) (left : Left) (member : left ∈ lefts) :
    ∃ right ∈ rights, Related left right := by
  induction aligned with
  | nil => cases member
  | cons here _ ih =>
    rcases List.mem_cons.mp member with rfl | later
    · exact ⟨_, List.mem_cons_self .., here⟩
    · obtain ⟨right, present, related⟩ := ih later
      exact ⟨right, List.mem_cons_of_mem _ present, related⟩

theorem related_right {Left Right : Type} {Related : Left → Right → Prop} {lefts : List Left} {rights : List Right}
    (aligned : List.Forall₂ Related lefts rights) (right : Right) (member : right ∈ rights) :
    ∃ left ∈ lefts, Related left right := by
  obtain ⟨left, present, related⟩ := related_left aligned.flip right member
  exact ⟨left, present, related⟩

theorem related_and {Left Right : Type} {First Second : Left → Right → Prop} {lefts : List Left} {rights : List Right}
    (first : List.Forall₂ First lefts rights) (second : List.Forall₂ Second lefts rights) :
    List.Forall₂ (fun left right => First left right ∧ Second left right) lefts rights := by
  induction first with
  | nil => exact List.Forall₂.nil
  | cons here _ ih =>
    cases second with
    | cons also rest => exact List.Forall₂.cons ⟨here, also⟩ (ih rest)

theorem related_member {Left Right : Type} {Related : Left → Right → Prop} {lefts : List Left} {rights : List Right}
    (aligned : List.Forall₂ Related lefts rights) :
    List.Forall₂ (fun left right => left ∈ lefts ∧ Related left right) lefts rights :=
  (List.forall₂_and_left lefts rights).mpr ⟨fun _ member => member, aligned⟩

end Aligned
