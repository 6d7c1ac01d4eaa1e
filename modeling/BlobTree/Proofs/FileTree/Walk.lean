import Mathlib
import BlobTree.Proofs.FileTree.Desk
import BlobTree.Proofs.FileTree.Directory
import BlobTree.Proofs.Path.Order

/-!
# BlobTree.Proofs.FileTree.Walk

What a walk visits. The visitor keeps the entries that it is given in the notes of its desk and
skips some directories; it changes nothing in the store. Over a store whose keys are those of some
files, a walk visits what is below its directory as far as no file and no skipped directory is in
the way (`Visited`), in the order of the names.

* `visited_iff`: by the children of a directory, as the walk goes.
* `visitChildren_shows`, `visitBelow_shows`: the children of a directory, and by induction on the
  depth everything below it.
-/

namespace BlobTree

open BlobTree.Action

/-- What a walk does with a child of the directory it is at. -/
def Walk.visitChild {σ : Type} (t : Walk σ) (visit : Entry → Action σ Visit)
    (logger : Option Logger) (depth : Nat) (child : Name) : Action σ Unit := do
  match ← Action.attempt (t.stat child) with
  | .error (.pathNotFound _) =>
    logger.forM fun l =>
      Action.log l .info [("path", .text (String.ofList child))] "ignoring deleted path"
  | .error f => Action.fail f
  | .ok entry =>
    let decision ← visit entry
    if entry.isDirectory ∧ decision ≠ .skip then visitBelow t visit logger depth child

theorem Walk.visitBelow_succ {σ : Type} (t : Walk σ) (visit : Entry → Action σ Visit)
    (logger : Option Logger) (depth : Nat) (dir : Name) :
    visitBelow t visit logger (depth + 1) dir = (do
      let children ← t.list dir
      (children.mergeSort Units.le).forM (visitChild t visit logger depth)) := rfl

namespace FileTree

variable {files : Finset Name} {skips : Name → Bool} {dir : Name}

/-- A path that a walk below a directory comes to: there is something at the path, and on the way
there is no file and no directory that is skipped. -/
structure Visited (files : Finset Name) (skips : Name → Bool) (dir p : Name) : Prop where
  valid : Path.isValid p
  below : Path.isBelow dir p
  entry : HasEntry files p
  free : ∀ a, Path.isValid a → Path.isBelow dir a → Path.isBelow a p → a ∉ files ∧ skips a = false

/-- A path that a walk comes to by a child: the child, or one that it comes to below the child. -/
def VisitedBy (files : Finset Name) (skips : Name → Bool) (c p : Name) : Prop :=
  p = c ∨ (c ∉ files ∧ skips c = false ∧ Visited files skips c p)

theorem isAbove_of_hasEntry {c p : Name} (hp : Path.isValid p) (hbelow : Path.isBelow c p)
    (h : HasEntry files p) : IsAbove files c := by
  rcases h with hfile | ⟨q, hq, habove⟩
  · exact ⟨p, hfile, hbelow⟩
  · exact ⟨q, hq, Path.isBelow_trans hp hbelow habove⟩

theorem visited_iff (hdir : Path.isDirectory dir) {p : Name} :
    Visited files skips dir p ↔ ∃ c, HasChild files dir c ∧ VisitedBy files skips c p := by
  constructor
  · intro h
    obtain ⟨hchild, hon⟩ := Listing.childOf_of_isBelow hdir h.valid h.below
    generalize Listing.childOf (Path.asContainer dir) p = c at hchild hon
    have hc := Path.isValid_of_isChild hdir hchild
    rcases hon with rfl | hon
    · exact ⟨c, ⟨hchild, h.entry⟩, .inl rfl⟩
    · obtain ⟨hfile, hskip⟩ := h.free c hc (Path.isBelow_of_isChild hchild) hon
      refine ⟨c, ⟨hchild, .inr (isAbove_of_hasEntry h.valid hon h.entry)⟩,
        .inr ⟨hfile, hskip, h.valid, hon, h.entry, fun a ha hca hap => ?_⟩⟩
      exact h.free a ha (Path.isBelow_trans hc (Path.isBelow_of_isChild hchild) hca) hap
  · rintro ⟨c, ⟨hchild, hentry⟩, hby⟩
    have hc := Path.isValid_of_isChild hdir hchild
    have hbelow := Path.isBelow_of_isChild hchild
    rcases hby with rfl | ⟨hfile, hskip, h⟩
    · exact ⟨hc, hbelow, hentry, fun a ha hda hap =>
        absurd hap (Path.not_isBelow_child hdir ha hda hchild)⟩
    · refine ⟨h.valid, Path.isBelow_trans hc hbelow h.below, h.entry, fun a ha hda hap => ?_⟩
      -- on the way to the path, whatever is not below the child is the child
      obtain ⟨hchild', hon⟩ := Listing.childOf_of_isBelow hdir ha hda
      generalize Listing.childOf (Path.asContainer dir) a = c' at hchild' hon
      have hway : Path.isBelow c' p := by
        rcases hon with rfl | hon
        · exact hap
        · exact Path.isBelow_trans ha hon hap
      obtain rfl : c' = c := by
        rw [← (Listing.childOf_of_isChild hdir hchild' (.inr hway)).2]
        exact (Listing.childOf_of_isChild hdir hchild (.inr h.below)).2
      rcases hon with rfl | hon
      · exact ⟨hfile, hskip⟩
      · exact h.free a ha hon hap

/-- What is come to by a child is at the child or below it. -/
theorem VisitedBy.at_or_below {c p : Name} (hc : Path.isValid c) (h : VisitedBy files skips c p) :
    Path.isValid p ∧ (p = c ∨ Path.isBelow c p) := by
  rcases h with rfl | ⟨-, -, h⟩
  · exact ⟨hc, .inl rfl⟩
  · exact ⟨h.valid, .inr h.below⟩

theorem exists_child_of_isAbove {p : Name} (hvalid : ∀ q ∈ files, Path.isValid q)
    (hp : Path.isDirectory p) (h : IsAbove files p) : ∃ c, HasChild files p c := by
  obtain ⟨q, hq, hbelow⟩ := h
  obtain ⟨hchild, hon⟩ := Listing.childOf_of_isBelow hp (hvalid q hq) hbelow
  refine ⟨_, hchild, hon.imp (fun heq => ?_) fun habove => ⟨q, hq, habove⟩⟩
  rwa [heq]

variable {t : FileTree} {o : Memory.Options} {m : Memory} {sessions : List Writer}

/-- Entries that a walk over a store has come to: they are those that looking at their paths gives,
their paths are in order and are the ones that it should come to. -/
structure Shows (t : FileTree) (o : Memory.Options) (m : Memory) (es : List Entry)
    (P : Name → Prop) : Prop where
  ordered : es.Pairwise fun a b => Path.Before a.path b.path
  exact : ∀ p, p ∈ es.map Entry.path ↔ P p
  seen : ∀ e ∈ es, (t.stat (Memory.backend o) e.path).Gives m (.ok e) m

theorem Shows.nodup {es : List Entry} {P : Name → Prop} (h : t.Shows o m es P) :
    (es.map Entry.path).Nodup := by
  refine List.pairwise_map.mpr (h.ordered.imp fun hbefore heq => ?_)
  rw [heq] at hbefore
  exact Path.not_before_self _ hbefore

/-- A visitor that changes nothing in the store, adds every entry to its notes and skips the
directories of a set of paths. -/
def Notes (visit : Entry → Action (Desk Memory (List Entry)) Visit) (m : Memory)
    (sessions : List Writer) (skips : Name → Bool) : Prop :=
  ∀ e seen, (visit e).Gives ⟨m, sessions, seen⟩ (.ok (if skips e.path then .skip else .enter))
    ⟨m, sessions, seen ++ [e]⟩

variable {visit : Entry → Action (Desk Memory (List Entry)) Visit} {logger : Option Logger}

def looks {σ : Type} (t : FileTree) (b : Backend σ) : Walk σ :=
  ⟨t.list b, t.stat b⟩

/-- A part of a walk goes well, whatever has been seen before it, and comes to the paths that it
should come to. -/
def Comes (t : FileTree) (o : Memory.Options) (m : Memory) (sessions : List Writer)
    (x : Action (Desk Memory (List Entry)) Unit) (P : Name → Prop) : Prop :=
  ∃ es, t.Shows o m es P ∧
    ∀ seen, x.Gives ⟨m, sessions, seen⟩ (.ok ()) ⟨m, sessions, seen ++ es⟩

section Visit

variable {depth : Nat} {c : Name} {e : Entry}

theorem visitChild_gives (hnotes : Notes visit m sessions skips)
    (hstat : (t.stat (Memory.backend o) c).Gives m (.ok e) m) (hpath : e.path = c)
    (seen : List Entry) {r : Except Stop Unit} {d : Desk Memory (List Entry)}
    (hrest : (if e.isDirectory ∧ (if skips c then Visit.skip else .enter) ≠ .skip then
        Walk.visitBelow (t.looks (Memory.backend o).onDesk) visit logger depth c
      else pure ()).Gives ⟨m, sessions, seen ++ [e]⟩ r d) :
    ((t.looks (Memory.backend o).onDesk).visitChild visit logger depth c).Gives
      ⟨m, sessions, seen⟩ r d := by
  have hdesk := hstat.onDesk sessions seen
  rw [stat_onDesk] at hdesk
  refine hdesk.attempt_ok.bind ((hnotes e seen).bind ?_)
  rwa [hpath]

theorem visitChild_alone (hnotes : Notes visit m sessions skips)
    (hstat : (t.stat (Memory.backend o) c).Gives m (.ok e) m) (hpath : e.path = c)
    (halone : e.isDirectory = false ∨ skips c = true) {P : Name → Prop} (hP : ∀ p, P p ↔ p = c) :
    t.Comes o m sessions
      ((t.looks (Memory.backend o).onDesk).visitChild visit logger depth c) P := by
  refine ⟨[e], ⟨by simp, fun p => ?_, by simpa [hpath] using hstat⟩, fun seen => ?_⟩
  · simp [hP, hpath]
  · refine visitChild_gives hnotes hstat hpath seen ?_
    rw [if_neg (by rcases halone with h | h <;> simp [h])]
    exact gives_pure _ _

/-- A directory, and then what is below it. -/
theorem visitChild_entered (hc : Path.isValid c) (hnotes : Notes visit m sessions skips)
    (hstat : (t.stat (Memory.backend o) c).Gives m (.ok (.directory c)) m) (hfile : c ∉ files)
    (hskip : skips c = false)
    (hbelow : t.Comes o m sessions
      (Walk.visitBelow (t.looks (Memory.backend o).onDesk) visit logger depth c)
      (Visited files skips c)) :
    t.Comes o m sessions
      ((t.looks (Memory.backend o).onDesk).visitChild visit logger depth c)
      (VisitedBy files skips c) := by
  obtain ⟨es, hshows, hgives⟩ := hbelow
  refine ⟨.directory c :: es, ⟨?_, fun p => ?_, ?_⟩, fun seen => ?_⟩
  · refine .cons (fun e he => ?_) hshows.ordered
    have hvisited := (hshows.exact e.path).mp (List.mem_map_of_mem he)
    exact Path.before_of_isBelow hc hvisited.valid hvisited.below
  · simp [VisitedBy, Entry.path, hfile, hskip, ← hshows.exact]
  · intro e he
    rcases List.mem_cons.mp he with rfl | he
    · exact hstat
    · exact hshows.seen e he
  · refine visitChild_gives hnotes hstat rfl seen ?_
    rw [if_pos (by simp [Entry.isDirectory, hskip])]
    have hrest := hgives (seen ++ [.directory c])
    rwa [List.append_assoc] at hrest

theorem visitChildren_shows (hdir : Path.isDirectory dir) {cs : List Name}
    {x : Name → Action (Desk Memory (List Entry)) Unit} (horder : cs.Pairwise Units.Lt)
    (hchildren : ∀ c ∈ cs, Path.IsChild dir c)
    (hcomes : ∀ c ∈ cs, t.Comes o m sessions (x c) (VisitedBy files skips c)) :
    t.Comes o m sessions (cs.forM x) fun p => ∃ c ∈ cs, VisitedBy files skips c p := by
  induction cs with
  | nil => exact ⟨[], ⟨by simp, by simp, by simp⟩, fun seen => by simpa using gives_pure _ _⟩
  | cons c rest ih =>
    obtain ⟨hfirst, horder⟩ := List.pairwise_cons.mp horder
    obtain ⟨hchild, hchildren⟩ := List.forall_mem_cons.mp hchildren
    obtain ⟨⟨es, hshows, hgives⟩, hcomes⟩ := List.forall_mem_cons.mp hcomes
    obtain ⟨es', hshows', hgives'⟩ := ih horder hchildren hcomes
    refine ⟨es ++ es', ⟨?_, fun p => ?_, ?_⟩, fun seen => ?_⟩
    · refine List.pairwise_append.mpr ⟨hshows.ordered, hshows'.ordered, fun e he e' he' => ?_⟩
      have hby := (hshows.exact e.path).mp (List.mem_map_of_mem he)
      obtain ⟨c', hc', hby'⟩ := (hshows'.exact e'.path).mp (List.mem_map_of_mem he')
      obtain ⟨hvalid, hon⟩ := hby.at_or_below (Path.isValid_of_isChild hdir hchild)
      obtain ⟨hvalid', hon'⟩ := hby'.at_or_below (Path.isValid_of_isChild hdir (hchildren c' hc'))
      exact Path.before_of_child hdir hchild (hchildren c' hc') (hfirst c' hc') hvalid hvalid' hon
        hon'
    · rw [List.map_append, List.mem_append, hshows.exact, hshows'.exact]
      simp
    · intro e he
      rcases List.mem_append.mp he with he | he
      · exact hshows.seen e he
      · exact hshows'.seen e he
    · rw [← List.append_assoc]
      exact Gives.bind (f := fun _ => rest.forM x) (hgives seen) (hgives' _)

end Visit

section Stored

variable (h : t.root.Stores m files) (hsize : (Number.ofNat 1).le o.pageSize)
  (hbudget : m.objects.size < t.pageBudget) (hnotes : Notes visit m sessions skips)

include h hsize hbudget hnotes

/-- The walk below a directory: by the levels that may be gone down, which are enough for every
file. -/
theorem visitBelow_shows (depth : Nat) (hdir : Path.isDirectory dir)
    (hlist : dir = Path.root ∨ ∃ c, HasChild files dir c) (hpos : 0 < depth)
    (hdepth : ∀ q ∈ files, Path.isBelow dir q →
      (Path.names q).length ≤ (Path.names dir).length + depth) :
    t.Comes o m sessions
      (Walk.visitBelow (t.looks (Memory.backend o).onDesk) visit logger depth dir)
      (Visited files skips dir) := by
  induction depth generalizing dir with
  | zero => exact absurd hpos (Nat.lt_irrefl 0)
  | succ depth ih =>
    obtain ⟨cs, hgives, hnodup, hmem⟩ :=
      (list_children (t := t) h hsize hbudget hdir).1 hlist
    have hsorted : ∀ c, c ∈ cs.mergeSort Units.le ↔ HasChild files dir c := fun c => by
      rw [List.mem_mergeSort, hmem]
    have hcomes : ∀ c ∈ cs.mergeSort Units.le, t.Comes o m sessions
        ((t.looks (Memory.backend o).onDesk).visitChild visit logger depth c)
        (VisitedBy files skips c) := by
      intro c hc
      obtain ⟨hchild, hentry⟩ := (hsorted c).mp hc
      have hvalid := Path.isValid_of_isChild hdir hchild
      have hcdir : Path.isDirectory c := Path.isDirectory_iff.mpr (.inr hvalid)
      by_cases hfile : c ∈ files
      · obtain ⟨x, -, hstat⟩ := stat_file (o := o) h hfile
        exact visitChild_alone hnotes hstat rfl (.inl rfl) fun p => by simp [VisitedBy, hfile]
      · have habove : IsAbove files c := hentry.resolve_left hfile
        have hstat := (stat_otherwise h hsize hcdir hfile).1 habove
        cases hskip : skips c with
        | true =>
          exact visitChild_alone hnotes hstat rfl (.inr hskip) fun p => by simp [VisitedBy, hskip]
        | false =>
          have hlevel := Path.length_names_of_isChild hdir hchild
          have hdeeper : ∀ q ∈ files, Path.isBelow c q →
              (Path.names q).length ≤ (Path.names c).length + depth := fun q hq hbelow => by
            have hdown := Path.isBelow_trans hvalid (Path.isBelow_of_isChild hchild) hbelow
            have hle := hdepth q hq hdown
            omega
          have hdepth' : 0 < depth := by
            obtain ⟨q, hq, hbelow⟩ := habove
            have hlt := Path.length_names_lt hcdir (h.valid q hq) hbelow
            have hle := hdeeper q hq hbelow
            omega
          refine visitChild_entered hvalid hnotes hstat hfile hskip ?_
          exact ih hcdir (.inr (exists_child_of_isAbove h.valid hcdir habove)) hdepth' hdeeper
    obtain ⟨es, hshows, hvisits⟩ := visitChildren_shows hdir
      (Units.pairwise_mergeSort hnodup) (fun c hc => ((hsorted c).mp hc).1) hcomes
    refine ⟨es, ⟨hshows.ordered, fun p => ?_, hshows.seen⟩, fun seen => ?_⟩
    · simp only [hshows.exact, hsorted, visited_iff hdir]
    · rw [Walk.visitBelow_succ]
      have hdesk := hgives.onDesk sessions seen
      rw [list_onDesk] at hdesk
      exact hdesk.bind (hvisits seen)

theorem walk_shows {start : Name}
    (hstart : start = Path.root ∨ Path.isValid start ∧ IsAbove files start)
    (hpos : 0 < t.depthBudget) (hdepth : ∀ p ∈ files, (Path.names p).length ≤ t.depthBudget) :
    t.Comes o m sessions (t.walk (Memory.backend o).onDesk start visit)
      (Visited files skips start) := by
  have hdir : Path.isDirectory start := Path.isDirectory_iff.mpr (hstart.imp_right (·.1))
  have hlist : start = Path.root ∨ ∃ c, HasChild files start c :=
    hstart.imp_right fun habove => exists_child_of_isAbove h.valid hdir habove.2
  rw [walk, onDirectory_valid hdir]
  refine visitBelow_shows h hsize hbudget hnotes t.depthBudget hdir hlist hpos fun q hq _ => ?_
  exact (hdepth q hq).trans (Nat.le_add_left _ _)

omit hbudget hnotes in
theorem Shows.isDirectory_iff {es : List Entry} {P : Name → Prop} (hshows : t.Shows o m es P)
    (hdir : ∀ p, P p → Path.isDirectory p) {e : Entry} (he : e ∈ es) :
    e.isDirectory = false ↔ e.path ∈ files := by
  have hseen := hshows.seen e he
  by_cases hfile : e.path ∈ files
  · obtain ⟨x, -, hstat⟩ := stat_file (o := o) h hfile
    refine iff_of_true ?_ hfile
    rw [Except.ok.inj (hseen.unique hstat).1]
    rfl
  · refine iff_of_false (fun hkind => ?_) hfile
    obtain ⟨hsome, hnone⟩ := stat_otherwise h hsize
      (hdir _ ((hshows.exact e.path).mp (List.mem_map_of_mem he))) hfile
    by_cases habove : IsAbove files e.path
    · rw [Except.ok.inj (hseen.unique (hsome habove)).1] at hkind
      cases hkind
    · cases (hseen.unique (hnone habove)).1

end Stored

/-- **What a walk visits.** Over a memory store whose keys under the root are those of some files, a
walk from the root or from a directory goes well and visits what is below, each path once and in
the order of the names, as far as no file and no skipped directory is in the way; each is visited as
what looking at it gives, a file if it is one of the files and else a directory. The two budgets
have to allow a page for every key and a level for every name. -/
theorem walk_visits (o : Memory.Options) (hsize : (Number.ofNat 1).le o.pageSize)
    (options : Options) (rootLogger : Logger) (logger : Option Logger) (m : Memory)
    (hbudget : m.objects.size < options.pageBudget) (hpos : 0 < options.depthBudget)
    (files : Finset Name) (h : (Root.ofDir options.rootDirectory).Stores m files)
    (hdepth : ∀ p ∈ files, (Path.names p).length ≤ options.depthBudget) {start : Name}
    (hstart : start = Path.root ∨ Path.isValid start ∧ IsAbove files start)
    (sessions : List Writer) (skips : Name → Bool)
    {visit : Entry → Action (Desk Memory (List Entry)) Visit}
    (hnotes : Notes visit m sessions skips) :
    let b := Memory.backend o
    let t := onStore b options rootLogger logger
    ∃ es : List Entry,
      (∀ seen, (t.walk b.onDesk start visit).Gives ⟨m, sessions, seen⟩ (.ok ())
        ⟨m, sessions, seen ++ es⟩) ∧
      (es.Pairwise fun e e' => Path.Before e.path e'.path) ∧ (es.map Entry.path).Nodup ∧
      (∀ p, (∃ e ∈ es, e.path = p) ↔ Visited files skips start p) ∧
      ∀ e ∈ es, (e.isDirectory = false ↔ e.path ∈ files) ∧ (t.stat b e.path).Gives m (.ok e) m := by
  intro b t
  have ht : t.root.Stores m files := h
  obtain ⟨es, hshows, hgives⟩ :=
    walk_shows (t := t) ht hsize hbudget hnotes hstart hpos hdepth
  refine ⟨es, hgives, hshows.ordered, hshows.nodup, fun p => ?_,
    fun e he => ⟨?_, hshows.seen e he⟩⟩
  · rw [← hshows.exact, List.mem_map]
  · exact hshows.isDirectory_iff ht hsize
      (fun p hp => Path.isDirectory_iff.mpr (.inr hp.valid)) he

/-- A visitor that skips the directories of a set of paths and does nothing else. -/
def noting (skips : Name → Bool) (e : Entry) : Action (Desk Memory (List Entry)) Visit :=
  Program.aside fun _ seen => (.ok (if skips e.path then .skip else .enter), seen ++ [e])

theorem notes_noting (skips : Name → Bool) (m : Memory) (sessions : List Writer) :
    Notes (noting skips) m sessions skips := by
  rintro e seen w hw
  refine ⟨{ w with store := ⟨m, sessions, seen ++ [e]⟩ }, ?_, rfl⟩
  simp only [noting, Program.aside, exec_of, hw]
  rfl

/-- A directory whose name begins the next one's, a file with another below it, and a directory that
is skipped. -/
theorem walk_visits_pruned :
    let o : Memory.Options := { pageSize := .ofNat 1 }
    let b := Memory.backend o
    let t := onStore b { rootDirectory := "r".toList } default
    let files : Finset Name :=
      {"/a/x".toList, "/a-b".toList, "/c".toList, "/c/d".toList, "/s/t".toList}
    let skips (p : Name) : Bool := p = "/s".toList
    let m := ["r/a/x", "r/a-b", "r/c", "r/c/d", "r/s/t", "rx"].foldl
      (fun m k => Memory.write o m k.toList [1] .block) default
    (Number.ofNat 1).le o.pageSize ∧ (Root.ofDir "r".toList).Stores m files ∧
    Notes (noting skips) m [] skips ∧
    ∃ es : List Entry,
      (t.walk b.onDesk Path.root (noting skips)).Gives ⟨m, [], []⟩ (.ok ()) ⟨m, [], es⟩ ∧
      es.map Entry.path = ["/a", "/a/x", "/a-b", "/c", "/s"].map String.toList ∧
      ∀ e ∈ es, e.isDirectory = false ↔ e.path ∈ files := by
  intro o b t files skips m
  have hsize : (Number.ofNat 1).le o.pageSize := by decide
  have hstores : (Root.ofDir "r".toList).Stores m files :=
    .of_keys (by decide +kernel) (by decide +kernel) (by decide +kernel)
  obtain ⟨es, hgives, -, -, -, hkinds⟩ := walk_visits o hsize { rootDirectory := "r".toList }
    default none m (by decide +kernel) (by decide) files hstores (by decide +kernel) (.inl rfl) []
    skips (notes_noting skips m [])
  refine ⟨hsize, hstores, notes_noting skips m [], es, hgives [], ?_, fun e he => (hkinds e he).1⟩
  have hnotes :
      ((t.walk b.onDesk Path.root (noting skips)).exec (.fresh ⟨m, [], []⟩)).2.store.notes = es := by
    rw [(hgives []).exec.2]
    rfl
  rw [← hnotes]
  cbv

end FileTree
end BlobTree
