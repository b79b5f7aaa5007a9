import ResourceTemplate.Command.Run
import ResourceTemplate.Proofs.File.Directory

/-!
# The files of a run

A run asks for the text of its template and for that of its parameter file, and for nothing else.
So whoever runs a command may read just these two beforehand, and a run in a directory stays what it
is when a file is written that neither is one of them nor stands on the way to one.
-/

namespace ResourceTemplate.Command

open FileNode

variable {files other : String → FileAnswer}

theorem RenderOptions.values_congr (o : RenderOptions)
    (h : ∀ path ∈ o.paths, files path = other path) : o.values files = o.values other := by
  have hfile : ∀ path ∈ o.parameterFile?, files path = other path := fun path hpath =>
    h path (List.mem_cons_of_mem _ (Option.mem_toList.mpr hpath))
  unfold values
  cases hpath : o.parameterFile? with
  | none => rfl
  | some path => simp only [hfile path hpath]

theorem RenderOptions.render_congr (o : RenderOptions) (seed : UInt64)
    (h : ∀ path ∈ o.paths, files path = other path) :
    o.render seed files = o.render seed other := by
  unfold render
  rw [h o.template List.mem_cons_self, o.values_congr h]

/-- What a run comes to is settled by the texts under the paths that its command line names. -/
theorem Invocation.run_congr (invocation : Invocation) (seed : UInt64)
    (h : ∀ path ∈ invocation.rendering.paths, files path = other path) :
    invocation.run seed files = invocation.run seed other := by
  unfold run
  rw [invocation.rendering.render_congr seed h]

/-! ## Runs in a directory -/

variable {root : FileNode} {names : List String}

/-- A file that is written apart from the paths of a run does not change the run. -/
theorem Invocation.run_write_of_apart (invocation : Invocation) (seed : UInt64)
    {text? : Option String} (hdown : ∀ path ∈ invocation.rendering.paths, Downward path)
    (hapart : ∀ path ∈ invocation.rendering.paths, Apart names (pathNames path)) :
    invocation.run seed (root.write text? names).read = invocation.run seed root.read :=
  invocation.run_congr seed fun path hpath =>
    read_write_of_apart (hdown path hpath) root (hapart path hpath)

/-- A run in a directory into which one of its files is written is the run with that text for the
file. -/
theorem Invocation.run_write (invocation : Invocation) (seed : UInt64) {path : String}
    (hdown : ∀ p ∈ invocation.rendering.paths, Downward p)
    (hapart : ∀ p ∈ invocation.rendering.paths, p ≠ path → Apart (pathNames path) (pathNames p))
    (hroot : Writable root (pathNames path)) (text : String) :
    invocation.run seed (root.write (some text) (pathNames path)).read =
      invocation.run seed fun p => if p = path then .ok text else root.read p := by
  refine invocation.run_congr seed fun p hp => ?_
  by_cases heq : p = path
  · subst heq
    rw [if_pos rfl, read_write (hdown p hp) hroot]
  · rw [if_neg heq, read_write_of_apart (hdown p hp) root (hapart p hp heq)]

end ResourceTemplate.Command
