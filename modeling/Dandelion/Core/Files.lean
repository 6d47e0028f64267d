import Mathlib.Data.Int.Notation
import Mathlib.Data.Nat.Notation
import Mathlib.Logic.Function.Basic

/-!
# Files

Files by their paths, with their contents and the times of their last modification in nanoseconds.
-/

namespace Fs

structure File where
  contents : List UInt8
  modified : ℤ
deriving DecidableEq

abbrev Files := String → Option File

/-- How the attempt to write a file ends. -/
inductive WriteResult where
  /-- The file cannot be opened for writing. -/
  | unopened
  /-- The file was emptied, and then only `n` bytes were written. -/
  | partway (n : ℕ)
  | done
deriving DecidableEq

/-- The contents of the file afterwards, if they were touched. -/
def WriteResult.written (contents : List UInt8) : WriteResult → Option (List UInt8)
  | .unopened  => none
  | .partway n => some (contents.take n)
  | .done      => some contents

namespace File

/-- The time since the last modification; a clock that was set back is an error. -/
def elapsed (file : File) (now : ℤ) : Option ℤ :=
  if file.modified ≤ now then some (now - file.modified) else none

end File

namespace Files

/-- Replace the contents of a file at a time, or create it. -/
def put (files : Files) (path : String) (contents : List UInt8) (time : ℤ) : Files :=
  Function.update files path (some ⟨contents, time⟩)

/-- Write a file in place; the answer is whether all of it was written. -/
def write (files : Files) (path : String) (contents : List UInt8) (time : ℤ) :
    WriteResult → Files × Bool
  | .unopened  => (files, false)
  | .partway n => (files.put path (contents.take n) time, false)
  | .done      => (files.put path contents time, true)

@[simp] lemma put_self (files : Files) (path : String) (contents : List UInt8) (time : ℤ) :
    files.put path contents time path = some ⟨contents, time⟩ :=
  Function.update_self ..

lemma write_of_written {files : Files} {path : String} {contents written : List UInt8} {time : ℤ}
    {result : WriteResult} (h : result.written contents = some written) :
    (files.write path contents time result).1 = files.put path written time := by
  cases result <;> cases h <;> rfl

lemma write_of_not_written {files : Files} {path : String} {contents : List UInt8} {time : ℤ}
    {result : WriteResult} (h : result.written contents = none) :
    (files.write path contents time result).1 = files := by
  cases result <;> cases h
  rfl

/-- To put a file where it is already changes nothing. -/
lemma put_eq_self {files : Files} {path : String} {contents : List UInt8} {time : ℤ}
    (h : files path = some ⟨contents, time⟩) : files.put path contents time = files := by
  rw [put, ← h, Function.update_eq_self]

end Files

end Fs
