/-
  Files as the program finds them.

  A path has a file, a directory or nothing under it.  Only files have a content.
-/

import AdmissionControl.Failure

namespace AdmissionControl

/-- What stands under a path. -/
inductive FileEntry where
  | directory
  | file (content : Text)

/-- What stands under each path, if anything. -/
abbrev Files := Text → Option FileEntry

namespace Files

def exist (files : Files) (path : Text) : Bool := (files path).isSome

/-- The content of the file under a path, none where nothing stands there. -/
def read (files : Files) (path : Text) : Except Failure (Option Text) :=
  match files path with
  | none => .ok none
  | some (.file content) => .ok (some content)
  | some .directory => .error .directory

end Files

end AdmissionControl
