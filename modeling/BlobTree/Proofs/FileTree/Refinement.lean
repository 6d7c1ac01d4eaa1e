import BlobTree.Proofs.FileTree.Delete

/-!
# BlobTree.Proofs.FileTree.Refinement

The tree of files over a memory store is a finite map of files. Whatever operations are asked of
it, one after another, the answers are those of the map, and the store stands for the map's files
in the end; keys, pages and kinds of objects do not show.

* `perform_ends`: one operation. `run_represents`: a run.
* `run_refines`: for a tree made over a store, with any root and any limits.
-/

namespace BlobTree
namespace FileTree

variable {t : FileTree} {o : Memory.Options} {m : Memory} {fs : FileMap}

theorem perform_ends (h : Represents t.root m fs) (hsize : (Number.ofNat 1).le o.pageSize)
    (hbudget : m.objects.size < t.pageBudget) (q : Request) :
    t.Ends m (t.perform (Memory.backend o) q) (fs.perform (t.limits o) q) := by
  cases q with
  | getContent path => exact getContent_ends h path
  | putContent path data => exact putContent_ends h path data
  | reader path offset => exact reader_ends h path offset
  | writer path append =>
    cases append with
    | false => exact writer_create_ends h path
    | true => exact writer_append_ends h path
  | move source dest => exact move_ends h source dest
  | delete path => exact delete_ends h hsize hbudget path

theorem run_represents {w : World Memory} (h : Represents t.root w.store fs)
    (hsize : (Number.ofNat 1).le o.pageSize) (requests : List Request)
    (hbudget : w.store.objects.size + requests.length ≤ t.pageBudget) :
    (t.run (Memory.backend o) requests w).1 =
        (fs.run (t.limits o) requests).1.map (·.mapError .failed) ∧
      Represents t.root (t.run (Memory.backend o) requests w).2.store
        (fs.run (t.limits o) requests).2 := by
  -- Each operation leaves a store that stands for the map's files, with one key more at most.
  induction requests generalizing w fs with
  | nil => exact ⟨rfl, h⟩
  | cons q rest ih =>
    rw [List.length_cons] at hbudget
    obtain ⟨m', hgives, hnext, hgrown⟩ := perform_ends h hsize (by omega) q
    obtain ⟨w', hexec, rfl⟩ := hgives w rfl
    obtain ⟨hreplies, hfinal⟩ := ih hnext (by omega)
    simp only [run, hexec, FileMap.run, List.map_cons]
    exact ⟨by rw [hreplies], hfinal⟩

/-- **Refinement.** Over a memory store that stands for some files, any run of operations answers
as the same run on the files, and the store stands for the files that are left, and for no others.
A listing takes a page for every key and one more at most, which is what `pageBudget` has to
allow. -/
theorem run_refines (o : Memory.Options) (hsize : (Number.ofNat 1).le o.pageSize)
    (options : Options) (rootLogger : Logger) (logger : Option Logger) (fs : FileMap)
    (requests : List Request) (w : World Memory)
    (hbudget : w.store.objects.size + requests.length ≤ options.pageBudget)
    (h : Represents (Root.ofDir options.rootDirectory) w.store fs) :
    let t := onStore (Memory.backend o) options rootLogger logger
    let final := (t.run (Memory.backend o) requests w).2.store
    (t.run (Memory.backend o) requests w).1 =
        (fs.run (t.limits o) requests).1.map (·.mapError .failed) ∧
      Represents t.root final (fs.run (t.limits o) requests).2 ∧
      ∀ fs', Represents t.root final fs' → fs' = (fs.run (t.limits o) requests).2 := by
  intro t final
  have hroot : Represents t.root w.store fs := h
  obtain ⟨hreplies, hfinal⟩ := run_represents hroot hsize requests hbudget
  exact ⟨hreplies, hfinal, fun fs' hfs' => hfs'.unique hfinal⟩

/-- An append object under a root, taken through every operation with one key to a page. -/
theorem run_refines_session :
    let o : Memory.Options := { pageSize := .ofNat 1 }
    let t := onStore (Memory.backend o) { rootDirectory := "r".toList } default
    let w : World Memory := .fresh (Memory.write o default "r/a".toList [1, 2, 3] .append)
    let a := "/a".toList
    let c := "/b/c".toList
    let d := "/b/d".toList
    (Number.ofNat 1).le o.pageSize ∧
    (∃ fs, Represents t.root w.store fs) ∧
    (t.run (Memory.backend o) [.putContent c [7], .move a d, .writer d true,
        .reader d (.ofNat 1), .delete "/b".toList, .getContent c, .putContent "b".toList []] w).1 =
      [.ok .done, .ok .done, .ok (.session d (.ofNat 3)), .ok (.content [2, 3]), .ok .done,
        .error (.failed (.pathNotFound c)), .error (.failed (.invalidPath "b".toList))] := by
  intro o t w a c d
  have hsize : (Number.ofNat 1).le o.pageSize := by decide
  have hw := (Represents.empty t.root).put o (show Path.isValid "/a".toList by decide +kernel)
    ⟨[1, 2, 3], .append⟩
  refine ⟨hsize, ⟨_, hw⟩, ?_⟩
  have hrun := (run_refines o hsize { rootDirectory := "r".toList } default none _
    [.putContent c [7], .move a d, .writer d true, .reader d (.ofNat 1), .delete "/b".toList,
      .getContent c, .putContent "b".toList []] w (by decide +kernel) hw).1
  rw [hrun]
  decide +kernel

end FileTree
end BlobTree
