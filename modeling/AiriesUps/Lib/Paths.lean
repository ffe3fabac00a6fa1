import AiriesUps.Lib.CString

set_option autoImplicit false

-- Paths as the kernel walks them, links aside: the names below the root directory that a
-- path leads to.
namespace Paths

abbrev Name := List Char

def components (path : List Char) : List Name := path.splitOn '/'

def enter (directory : List Name) (name : Name) : List Name :=
  if name = [] ∨ name = ['.'] then directory
  else if name = ['.', '.'] then directory.dropLast
  else directory ++ [name]

def walk (directory : List Name) (names : List Name) : List Name := names.foldl enter directory

-- A path that does not start at the root starts at the working directory.
def resolve (cwd : List Name) (path : List Char) : List Name :=
  walk (if path.head? = some '/' then [] else cwd) (components path)

def Inside (root target : List Name) : Prop := root <+: target

instance (root target : List Name) : Decidable (Inside root target) := inferInstanceAs (Decidable (root <+: target))

theorem enter_inside (directory : List Name) (name : Name) (down : name ≠ ['.', '.']) : Inside directory (enter directory name) := by
  by_cases still : name = [] ∨ name = ['.']
  · rw [enter, if_pos still]
    exact List.prefix_refl _
  · rw [enter, if_neg still, if_neg down]
    exact List.prefix_append _ _

theorem walk_inside (directory : List Name) (names : List Name) (down : ∀ name ∈ names, name ≠ ['.', '.']) :
    Inside directory (walk directory names) := by
  induction names generalizing directory with
  | nil => exact List.prefix_refl _
  | cons name rest ih =>
    exact (enter_inside directory name (down name List.mem_cons_self)).trans
      (ih (enter directory name) fun other member => down other (List.mem_cons_of_mem _ member))

theorem walk_append (directory : List Name) (first second : List Name) :
    walk directory (first ++ second) = walk (walk directory first) second := List.foldl_append ..

theorem component_down (path : List Char) (climbless : ¬['.', '.'] <:+: path) :
    ∀ name ∈ components path, name ≠ ['.', '.'] := by
  rintro name member rfl
  exact climbless (CString.split_infix '/' path _ member)

theorem components_cut (front back : List Char) : components (front ++ '/' :: back) = components front ++ components back :=
  List.splitOn_append_cons_self _ _

theorem resolve_below (cwd : List Name) (front back : List Char) :
    resolve cwd (front ++ '/' :: back) = walk (resolve cwd (front ++ ['/'])) (components back) := by
  have same : (front ++ '/' :: back).head? = (front ++ ['/']).head? := by cases front <;> rfl
  rw [resolve, resolve, same, components_cut, components_cut, walk_append, walk_append]
  rfl

-- A directory by its path: what leads to it, up to the last slash, and its name.
structure Directory where
  base : List Char
  name : Name
  ends : base = [] ∨ ∃ front, base = front ++ ['/']
  filled : name ≠ []
  undotted : name.head? ≠ some '.'
  whole : '/' ∉ name

def Directory.path (directory : Directory) : List Char := directory.base ++ directory.name

theorem directory_resolve (cwd : List Name) (directory : Directory) (tail : List Char) :
    resolve cwd (directory.path ++ tail) = walk (resolve cwd directory.base) (components (directory.name ++ tail)) := by
  obtain ⟨base, name, ends, filled, undotted, whole⟩ := directory
  simp only [Directory.path]
  rcases ends with rfl | ⟨front, rfl⟩
  · have relative : (name ++ tail).head? ≠ some '/' := by
      cases name with
      | nil => exact absurd rfl filled
      | cons char rest => exact fun same => whole (Option.some.inj same ▸ List.mem_cons_self)
    rw [List.nil_append, resolve, if_neg relative]
    rfl
  · rw [List.append_assoc, List.append_assoc]
    exact resolve_below cwd front (name ++ tail)

theorem directory_below (cwd : List Name) (directory : Directory) (tail : List Char) (climbless : ¬['.', '.'] <:+: tail) :
    Inside (resolve cwd directory.path) (resolve cwd (directory.path ++ '/' :: tail)) := by
  have alone := directory_resolve cwd directory []
  rw [List.append_nil, List.append_nil] at alone
  rw [directory_resolve, alone, components_cut, walk_append]
  exact walk_inside _ _ (component_down tail climbless)

theorem enter_plain (directory : List Name) (name tail : Name) (filled : name ≠ []) (undotted : name.head? ≠ some '.') :
    enter directory (name ++ tail) = directory ++ [name ++ tail] := by
  cases name with
  | nil => exact absurd rfl filled
  | cons char rest =>
    have other : char ≠ '.' := fun same => undotted (congrArg some same)
    rw [enter, if_neg, if_neg]
    · exact fun same => other (List.cons.inj same).1
    · rintro (empty | dot)
      · cases empty
      · exact other (List.cons.inj dot).1

theorem components_name (name rest : List Char) (whole : '/' ∉ name) :
    components (name ++ rest) = (components rest).modifyHead (name ++ ·) := by
  induction name with
  | nil => exact (congrFun List.modifyHead_id _).symm
  | cons char more ih =>
    obtain ⟨other, wholeMore⟩ := not_or.mp (mt List.mem_cons.mpr whole)
    rw [components, List.cons_append, List.splitOn_cons_eq_if_modifyHead, if_neg (by simpa using Ne.symm other)]
    rw [show (more ++ rest).splitOn '/' = _ from ih wholeMore, List.modifyHead_modifyHead]
    rfl

-- A name continued is another name beside it: nothing under the one is under the other.
theorem beside (directory : List Name) (name : Name) (char : Char) (rest : List Char) (filled : name ≠ [])
    (undotted : name.head? ≠ some '.') (whole : '/' ∉ name) (inner : char ≠ '/') (climbless : ¬['.', '.'] <:+: char :: rest) :
    ¬Inside (walk directory (components name)) (walk directory (components (name ++ char :: rest))) := by
  obtain ⟨first, others, split⟩ := List.exists_cons_of_ne_nil (List.splitOn_ne_nil '/' rest)
  have splitAll : components (char :: rest) = (char :: first) :: others := by
    rw [components, List.splitOn_cons_eq_if_modifyHead, if_neg (by simpa using inner), split]
    rfl
  have alone : walk directory (components name) = directory ++ [name] := by
    rw [components, List.splitOn_eq_singleton whole]
    simpa [walk] using enter_plain directory name [] filled undotted
  have longer : walk directory (components (name ++ char :: rest)) = walk (directory ++ [name ++ char :: first]) others := by
    rw [components_name name _ whole, splitAll]
    exact congrArg (walk · others) (enter_plain directory name (char :: first) filled undotted)
  have sibling : Inside (directory ++ [name ++ char :: first]) (walk (directory ++ [name ++ char :: first]) others) := by
    refine walk_inside _ _ fun other member => component_down _ climbless other ?_
    rw [splitAll]
    exact List.mem_cons_of_mem _ member
  rw [alone, longer]
  intro inside
  -- Both end the same number of names down.
  have same := List.prefix_of_prefix_length_le inside sibling (by simp)
  have equal := same.eq_of_length (by simp)
  have names := List.append_cancel_left equal
  have lengths := congrArg (fun names => (names.headD []).length) names
  simp at lengths

theorem directory_beside (cwd : List Name) (directory : Directory) (char : Char) (rest : List Char) (inner : char ≠ '/')
    (climbless : ¬['.', '.'] <:+: char :: rest) :
    ¬Inside (resolve cwd directory.path) (resolve cwd (directory.path ++ char :: rest)) := by
  have alone := directory_resolve cwd directory []
  rw [List.append_nil, List.append_nil] at alone
  rw [directory_resolve, alone]
  exact beside _ directory.name char rest directory.filled directory.undotted directory.whole inner climbless

end Paths
