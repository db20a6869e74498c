import Mathlib.Data.List.Basic

/-!
# File names of paths

Paths are texts separated by slashes.  The file name is the last component
that names something; it does not depend on the directory in front of it.
-/

namespace ServiceRouter.Foundation

/-- The components of a path; empty ones and `.` name nothing. -/
def pathComponents (path : String) : List (List Char) :=
  (path.toList.splitOn '/').filter fun part => part ≠ [] ∧ part ≠ ['.']

def fileName (path : String) : Option String :=
  match (pathComponents path).getLast? with
  | some part => if part = ['.', '.'] then none else some (String.ofList part)
  | none => none

/-- A text in front of which a directory can stand. -/
structure IsComponent (name : String) : Prop where
  noSlash : '/' ∉ name.toList
  nonempty : name.toList ≠ []
  notDot : name.toList ≠ ['.']

def IsDirectory (dir : String) : Prop :=
  dir = "" ∨ ∃ parent : String, dir = parent ++ "/"

theorem getLast?_pathComponents {dir name : String} (hdir : IsDirectory dir)
    (hname : IsComponent name) :
    (pathComponents (dir ++ name)).getLast? = some name.toList := by
  have hkept : [name.toList].filter
      (fun part => part ≠ [] ∧ part ≠ ['.']) = [name.toList] := by
    simp [hname.nonempty, hname.notDot]
  have hsingle : name.toList.splitOn '/' = [name.toList] :=
    List.splitOn_eq_singleton hname.noSlash
  unfold pathComponents
  rcases hdir with rfl | ⟨parent, rfl⟩
  · rw [String.empty_append, hsingle, hkept]
    rfl
  · have htext : (parent ++ "/" ++ name).toList =
        parent.toList ++ '/' :: name.toList := by simp
    rw [htext, List.splitOn_append_cons_self, hsingle, List.filter_append,
      hkept, List.getLast?_concat]

/-- The file name is the same in every directory. -/
theorem fileName_append {dir dir' name : String} (hdir : IsDirectory dir)
    (hdir' : IsDirectory dir') (hname : IsComponent name) :
    fileName (dir ++ name) = fileName (dir' ++ name) := by
  unfold fileName
  rw [getLast?_pathComponents hdir hname, getLast?_pathComponents hdir' hname]

end ServiceRouter.Foundation
