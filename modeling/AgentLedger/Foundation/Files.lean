import Mathlib.Logic.Function.Basic

namespace Foundation

/-! Files, the calls that change them, and what is left of a sequence of calls
when the process dies on its way.  A write can be cut anywhere; a rename is done
or not. -/

abbrev Files := String → Option ByteArray

inductive FileCall
  | makeDirectory (path : String)
  /-- The file is opened, empty. -/
  | truncate (path : String)
  /-- The content of a file that is open. -/
  | write (path : String) (content : ByteArray)
  | rename (source target : String)

namespace FileCall

/-- Paths are those of files: a directory is none. -/
def apply : FileCall → Files → Files
  | .makeDirectory _, files => files
  | .truncate path, files => Function.update files path (some .empty)
  | .write path content, files => Function.update files path (some content)
  | .rename source target, files =>
      match files source with
      | some content =>
          Function.update (Function.update files source none) target
            (some content)
      | none => files

/-- What a crash can leave of one call. -/
inductive Cut : FileCall → Files → Files → Prop
  | before (call : FileCall) (files : Files) : Cut call files files
  | within (path : String) (content : ByteArray) (files : Files)
      (length : Nat) : Cut (.write path content) files
        (Function.update files path (some (content.extract 0 length)))

/-- What a crash can leave of a sequence of calls. -/
inductive Crashed : List FileCall → Files → Files → Prop
  | finished (files : Files) : Crashed [] files files
  | here {call : FileCall} {files after : Files} (rest : List FileCall)
      (cut : Cut call files after) : Crashed (call :: rest) files after
  | later {call : FileCall} {rest : List FileCall} {files after : Files}
      (crashed : Crashed rest (call.apply files) after) :
      Crashed (call :: rest) files after

def applyAll (calls : List FileCall) (files : Files) : Files :=
  calls.foldl (fun files call => call.apply files) files

/-- The call does not touch the path. -/
def Leaves (path : String) : FileCall → Prop
  | .makeDirectory _ => True
  | .truncate other | .write other _ => other ≠ path
  | .rename source target => source ≠ path ∧ target ≠ path

variable {path : String} {files after : Files}

theorem Leaves.cut {call : FileCall} (leaves : call.Leaves path)
    (cut : call.Cut files after) : after path = files path := by
  cases cut with
  | before => rfl
  | within other content length =>
      exact Function.update_of_ne (Ne.symm leaves) _ _

theorem Leaves.apply {call : FileCall} (leaves : call.Leaves path)
    (files : Files) : call.apply files path = files path := by
  cases call with
  | makeDirectory _ => rfl
  | truncate other => exact Function.update_of_ne (Ne.symm leaves) _ _
  | write other content => exact Function.update_of_ne (Ne.symm leaves) _ _
  | rename source target =>
      cases found : files source with
      | none => simp only [FileCall.apply, found]
      | some content =>
          simp only [FileCall.apply, found]
          rw [Function.update_of_ne (Ne.symm leaves.2),
            Function.update_of_ne (Ne.symm leaves.1)]

theorem Crashed.leaves {calls : List FileCall}
    (elsewhere : ∀ call ∈ calls, call.Leaves path)
    (crashed : Crashed calls files after) : after path = files path := by
  induction crashed with
  | finished => rfl
  | here rest cut => exact (elsewhere _ List.mem_cons_self).cut cut
  | later crashed ih =>
      rw [ih fun other member => elsewhere other (List.mem_cons_of_mem _ member),
        (elsewhere _ List.mem_cons_self).apply]

/-- Calls elsewhere, and then a rename to the path. -/
inductive Replaces (path : String) : List FileCall → Prop
  | nothing (calls : List FileCall)
      (elsewhere : ∀ call ∈ calls, call.Leaves path) : Replaces path calls
  | rename (calls : List FileCall) (source : String)
      (elsewhere : ∀ call ∈ calls, call.Leaves path) :
      Replaces path (calls ++ [.rename source path])

/-- The file is as it was, or as the calls leave it. -/
theorem Crashed.of_replaces {calls : List FileCall}
    (replaces : Replaces path calls) (crashed : Crashed calls files after) :
    after path = files path ∨ after path = applyAll calls files path := by
  cases replaces with
  | nothing _ elsewhere => exact .inl (crashed.leaves elsewhere)
  | rename front source elsewhere =>
      induction front generalizing files with
      | nil =>
          cases crashed with
          | here _ cut =>
              cases cut
              exact .inl rfl
          | later rest =>
              cases rest
              exact .inr rfl
      | cons call rest ih =>
          have leaves := elsewhere call List.mem_cons_self
          cases crashed with
          | here _ cut => exact .inl (leaves.cut cut)
          | later crashed =>
              have later := ih (fun other member =>
                elsewhere other (List.mem_cons_of_mem _ member)) crashed
              rw [leaves.apply] at later
              exact later

/-- A file that is written in its place can be left empty. -/
theorem Crashed.empties (content : ByteArray) (files : Files) :
    ∃ after, Crashed [.truncate path, .write path content] files after ∧
      after path = some .empty := by
  refine ⟨(FileCall.truncate path).apply files, ?_, ?_⟩
  · exact .later (.here _ (.before _ _))
  · exact Function.update_self _ _ _

end FileCall

end Foundation
