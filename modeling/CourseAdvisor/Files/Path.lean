/-
This file defines paths, which are bytes and need not be text.
-/

import CourseAdvisor.Text.Lossy

namespace CourseAdvisor

structure Path where
  bytes : ByteArray

/-- Paths are equal when their bytes are. -/
instance : DecidableEq Path := fun left right =>
  if same : left.bytes.data = right.bytes.data then
    .isTrue (by cases left; cases right; exact congrArg Path.mk (ByteArray.ext same))
  else .isFalse fun equal => same (by rw [equal])

namespace Path

def ofText (text : String) : Path := ⟨text.toUTF8⟩

def text? (path : Path) : Option String := String.fromUTF8? path.bytes

/-- A path is shown as text even when it is none. -/
def shown (path : Path) : String := Text.shown path.bytes

def endsWithSlash (path : Path) : Bool := path.bytes.data.back? == some 0x2f

/-- A slash is added unless the left side is empty or ends with one. -/
def join (path : Path) (name : String) : Path :=
  if path.bytes.isEmpty || path.endsWithSlash then ⟨path.bytes ++ name.toUTF8⟩
  else ⟨path.bytes ++ "/".toUTF8 ++ name.toUTF8⟩

/-- A path that starts with a slash does not depend on the working directory. -/
def isAbsolute (path : Path) : Bool := path.bytes.data[0]? == some 0x2f

end Path

end CourseAdvisor
