import BlobTree.FileTree.Program
import BlobTree.Proofs.FileTree.Twin
import BlobTree.Proofs.FileTree.Walk

/-!
# BlobTree.Proofs.FileTree.Reachable

What a walk finds of the files that a client has left behind. From an empty store, whatever a client
does with a tree, every key under the root is the key of a valid path (`Tidy`), so that the store
holds some files and nothing else. A walk from the root visits each of them once, unless another
file is above it: a walk enters directories only, and a file is none, even if there are files below
it, which can be listed and read.

* `tidy_step`: calls about keys of valid paths; `run_tidy`: every program.
* `Tidy.stores`, `Reachable.stores`: the files of the store.
* `Shows.of_file`: what a walk has seen of one file.
* `walk_misses_file_below_file`: the smallest case in which one is missed.
-/

namespace BlobTree

def Root.IsKey (r : Root) (k : Name) : Prop :=
  ∃ p, Path.isValid p ∧ r.keyOf p = k

theorem Root.IsKey.under {r : Root} {k : Name} (h : r.IsKey k) :
    Path.isValid (r.pathUnder k) ∧ r.keyOf (r.pathUnder k) = k := by
  obtain ⟨p, hp, rfl⟩ := h
  rw [Root.pathUnder_keyOf hp]
  exact ⟨hp, rfl⟩

namespace FileTree

open BlobTree.Action

variable {κ α : Type} {t : FileTree} {root : Root} {o : Memory.Options} {m : Memory}

def FileAt (root : Root) (m : Memory) (p : Name) (x : StoredObject) : Prop :=
  Path.isValid p ∧ m.objects.get? (root.keyOf p) = some x

instance (root : Root) (m : Memory) (p : Name) (x : StoredObject) : Decidable (FileAt root m p x) :=
  inferInstanceAs (Decidable (_ ∧ _))

/-- What a client of a tree may leave of a store that was empty. -/
def Reachable (t : FileTree) (o : Memory.Options) (m : Memory) : Prop :=
  ∃ (κ α : Type) (client : Program κ α) (w : World (Desk Memory κ)),
    w.store.store.objects.keys = [] ∧ w.store.sessions = [] ∧
      ((client.run t (Memory.backend o)).exec w).2.store.store = m

/-- Under the root there are keys of valid paths only, and every session writes to such a key. -/
structure Tidy (root : Root) (d : Desk Memory κ) : Prop where
  keys : ∀ k ∈ d.store.objects.keys, root.owns k → root.IsKey k
  sessions : ∀ w ∈ d.sessions, root.IsKey w.key

theorem tidy_step {d : Desk Memory κ} (h : Tidy root d) {c : Call}
    (hkeys : ∀ k ∈ c.keys, root.IsKey k) :
    Tidy root ((Memory.backend o).onDesk.answer d c).2 := by
  refine { h with keys := fun k hk howns => ?_ }
  have hafter : k ∈ (d.store.step o c).2.objects.keys := hk
  rcases Memory.step_changes o d.store c with hsame | ⟨key, hkey, hbut⟩
  · rw [hsame] at hafter
    exact h.keys k hafter howns
  · by_cases heq : k = key
    · rw [heq]
      exact hkeys key hkey
    · rw [KeyMap.mem_keys, hbut k heq, ← KeyMap.mem_keys] at hafter
      exact h.keys k hafter howns

/-- Calls about keys of valid paths, and listings from anywhere. -/
def ofPaths (root : Root) : Scope (Desk Memory κ) where
  near := root.IsKey
  starts _ := True
  holds start k := start.isPrefixOf k ∧ (root.owns k → root.IsKey k)
  raises _ := True
  stops := True
  visits x := x.Keeps (Tidy root) fun _ => True

theorem ofPaths_admits : (ofPaths t.root : Scope (Desk Memory κ)).Admits t where
  raises _ := trivial
  stops := trivial
  key p hp := ⟨p, hp, rfl⟩
  start _ _ := trivial
  listed p q hp := by
    rintro ⟨k, ⟨hk, hkey⟩, hpath⟩
    show t.root.IsKey (t.root.keyOf q)
    rw [(Root.listed_path hp hk hpath).2]
    exact hkey (Root.owns_of_listingPrefix hp hk)

theorem ofPaths_keeps :
    (ofPaths root : Scope (Desk Memory κ)).Keeps (Memory.backend o).onDesk (Tidy root) where
  call _ _ hkeys h := tidy_step h hkeys
  page start request d _ h := by
    refine ⟨⟨h.keys, h.sessions⟩, fun page hpage k hk => ?_⟩
    obtain rfl : Memory.page o.pageSize d.store.objects.keys start request = page :=
      Except.ok.inj hpage
    obtain ⟨hkey, hstart⟩ := Memory.mem_page hk
    exact ⟨hstart, h.keys k hkey⟩
  visit _ h := h

section Programs

theorem aside_tidy (f : List Writer → κ → Except Failure α × κ) :
    (Program.aside f : Action (Desk Memory κ) α).Keeps (Tidy root) fun _ => True :=
  fun _ h => ⟨⟨h.keys, h.sessions⟩, fun _ _ => trivial⟩

theorem keep_tidy {a : Answer} (ha : ∀ w, a = .session w → root.IsKey w.key) :
    (Program.keep a : Action (Desk Memory κ) Answer).Keeps (Tidy root) fun _ => True := by
  intro w h
  refine ⟨{ h with sessions := fun s hs => ?_ }, fun _ _ => trivial⟩
  rcases List.mem_append.mp hs with hs | hs
  · exact h.sessions s hs
  · exact ha s (Answer.eq_session hs)

/-- A store is related to itself as long as it is tidy, so a session leaves it tidy. -/
theorem perform_tidy {s : Writer} (hkey : root.IsKey s.key) (q : Writer.Request)
    {w : World (Desk Memory κ)} (h : Tidy root w.store) :
    Tidy root (s.perform (Memory.backend o).onDesk q w).2.2.store := by
  let same (d₁ d₂ : Desk Memory κ) := d₁ = d₂ ∧ Tidy root d₁
  have hself : (Memory.backend o).onDesk.Respects root.IsKey same := by
    rintro c hkeys d _ ⟨rfl, hd⟩
    exact ⟨rfl, rfl, tidy_step hd hkeys⟩
  have hstore : same w.store w.store := ⟨rfl, h⟩
  exact (s.perform_alike hself q hkey hstore).2.2.2

theorem callSession_tidy (n : Nat) (q : Writer.Request) :
    (Program.callSession (Memory.backend o) n q : Action (Desk Memory κ) Nat).Keeps (Tidy root)
      fun _ => True := by
  intro w h
  refine ⟨?_, fun _ _ => trivial⟩
  simp only [Program.callSession, exec_of]
  cases hn : w.store.sessions[n]? with
  | none => exact h
  | some s =>
    have hkey := h.sessions s (List.mem_of_getElem? hn)
    have hafter := perform_tidy (o := o) hkey q h
    refine { hafter with sessions := fun s' hs' => ?_ }
    rcases List.mem_or_eq_of_mem_set hs' with hs' | rfl
    · exact hafter.sessions s' hs'
    · rwa [s.perform_key]

theorem run_tidy (p : Program κ α) :
    (p.run t (Memory.backend o)).Keeps (Tidy t.root) fun _ => True := by
  induction p with
  | own f => exact aside_tidy f
  | ask q =>
    have hq := carryOut_within (b := (Memory.backend o).onDesk)
      (ofPaths_admits (κ := κ) (t := t)) q
    exact (hq.keeps ofPaths_keeps).bind fun a ha => keep_tidy ha
  | session n q => exact callSession_tidy n q
  | walk path visit ih => exact (walk_within ofPaths_admits path ih).keeps ofPaths_keeps
  | attempt p ih => exact fun w h => ⟨(ih.attempt w h).1, fun _ _ => trivial⟩
  | bind p f ihp ihf => exact ihp.bind fun a _ => ihf a

end Programs

/-- A tidy store holds some files and nothing else under the root. -/
theorem Tidy.stores {d : Desk Memory κ} (h : Tidy root d) : ∃ files, root.Stores d.store files := by
  let owned := d.store.objects.keys.filter fun k => root.owns k
  let files := (owned.map root.pathUnder).toFinset
  have howned : ∀ {k}, k ∈ owned ↔ k ∈ d.store.objects.keys ∧ root.owns k := List.mem_filter
  have hfiles : ∀ p ∈ files, ∃ k ∈ owned, root.pathUnder k = p := fun p hp =>
    List.mem_map.mp (List.mem_toFinset.mp hp)
  refine ⟨files, .of_keys (fun p hp => ?_) (fun k hk howns => ?_) fun p hp => ?_⟩
  · obtain ⟨k, hk, rfl⟩ := hfiles p hp
    exact (h.keys k (howned.mp hk).1 (howned.mp hk).2).under.1
  · have hmem : root.pathUnder k ∈ files :=
      List.mem_toFinset.mpr (List.mem_map_of_mem (howned.mpr ⟨hk, howns⟩))
    exact ⟨root.pathUnder k, hmem, (h.keys k hk howns).under.2⟩
  · obtain ⟨k, hk, rfl⟩ := hfiles p hp
    rw [(h.keys k (howned.mp hk).1 (howned.mp hk).2).under.2]
    exact (howned.mp hk).1

section Found

variable {files : Finset Name} {p : Name} {x : StoredObject} {es : List Entry}

theorem mem_of_fileAt (h : root.Stores m files) (hp : FileAt root m p x) : p ∈ files := by
  rw [← h.mem_iff hp.1, KeyMap.mem_keys, hp.2]
  rfl

theorem exists_fileAt (h : root.Stores m files) (hp : p ∈ files) : ∃ x, FileAt root m p x := by
  have hvalid := h.valid p hp
  obtain ⟨x, hx⟩ := Option.isSome_iff_exists.mp (KeyMap.mem_keys.mp ((h.mem_iff hvalid).mpr hp))
  exact ⟨x, hvalid, hx⟩

/-- A walk that skips nothing comes to a file unless there is another one above it. -/
theorem visited_file_iff (hp : Path.isValid p) (hfile : p ∈ files) :
    Visited files (fun _ => false) Path.root p ↔
      ∀ q ∈ files, Path.isValid q → ¬Path.isBelow q p := by
  constructor
  · intro h q hq hvalid hbelow
    exact (h.free q hvalid (Path.isBelow_root hvalid) hbelow).1 hq
  · intro hnone
    refine ⟨hp, Path.isBelow_root hp, .inl hfile, fun a ha _ hbelow => ⟨fun hmem => ?_, rfl⟩⟩
    exact hnone a hmem ha hbelow

theorem Shows.of_file (hstores : t.root.Stores m files)
    (h : t.Shows o m es (Visited files (fun _ => false) Path.root)) (hp : FileAt t.root m p x) :
    ((∀ q y, FileAt t.root m q y → ¬Path.isBelow q p) →
      .file p (.ofNat x.data.length) x.modTime ∈ es ∧ (es.map Entry.path).count p = 1) ∧
    ∀ q y, FileAt t.root m q y → Path.isBelow q p → (es.map Entry.path).count p = 0 := by
  have hvisited := visited_file_iff hp.1 (mem_of_fileAt hstores hp)
  constructor
  · intro hnone
    have hmem : p ∈ es.map Entry.path := (h.exact p).mpr <| hvisited.mpr fun q hq _ => by
      obtain ⟨y, hy⟩ := exists_fileAt hstores hq
      exact hnone q y hy
    obtain ⟨e, he, rfl⟩ := List.mem_map.mp hmem
    have hentry := (h.seen e he).unique (stat_present hp.1 hp.2)
    refine ⟨?_, List.count_eq_one_of_mem h.nodup hmem⟩
    rwa [← Except.ok.inj hentry.1]
  · intro q y hq hbelow
    refine List.count_eq_zero.mpr fun hmem => ?_
    exact hvisited.mp ((h.exact p).mp hmem) q (mem_of_fileAt hstores hq) hq.1 hbelow

end Found

theorem reachable_run (t : FileTree) (o : Memory.Options) (client : Program κ α) (notes : κ) :
    Reachable t o ((client.run t (Memory.backend o)).exec
      (.fresh { store := default, notes })).2.store.store :=
  ⟨κ, α, client, _, rfl, rfl, rfl⟩

theorem Reachable.stores (h : Reachable t o m) : ∃ files, t.root.Stores m files := by
  obtain ⟨κ, α, client, w, hempty, hnew, rfl⟩ := h
  have hstart : Tidy t.root w.store := {
    keys := by simp [hempty]
    sessions := by simp [hnew] }
  exact (run_tidy client w hstart).1.stores

/-- **What a walk finds.** Whatever a client of a tree has done to an empty memory store: a walk
from the root whose visitor skips nothing and changes nothing goes well, and it visits a stored file
once, and as a file, if no stored file is above it, and not at all if there is one. So all files are
visited if and only if none is below another one. The two budgets have to allow a page for every
key and a level for every name. -/
theorem walk_visits_files (o : Memory.Options) (hsize : (Number.ofNat 1).le o.pageSize)
    (options : Options) (rootLogger : Logger) (logger : Option Logger) {m : Memory}
    (h : Reachable (onStore (Memory.backend o) options rootLogger logger) o m)
    (hbudget : m.objects.size < options.pageBudget) (hpos : 0 < options.depthBudget)
    (hdepth : ∀ p x, FileAt (Root.ofDir options.rootDirectory) m p x →
      (Path.names p).length ≤ options.depthBudget)
    (sessions : List Writer) {visit : Entry → Action (Desk Memory (List Entry)) Visit}
    (hnotes : Notes visit m sessions fun _ => false) :
    let b := Memory.backend o
    let t := onStore b options rootLogger logger
    ∃ es : List Entry,
      (∀ seen, (t.walk b.onDesk Path.root visit).Gives ⟨m, sessions, seen⟩ (.ok ())
        ⟨m, sessions, seen ++ es⟩) ∧
      ∀ p x, FileAt t.root m p x →
        ((∀ q y, FileAt t.root m q y → ¬Path.isBelow q p) →
          .file p (.ofNat x.data.length) x.modTime ∈ es ∧ (es.map Entry.path).count p = 1) ∧
        ∀ q y, FileAt t.root m q y → Path.isBelow q p → (es.map Entry.path).count p = 0 := by
  intro b t
  obtain ⟨files, hstores⟩ := h.stores
  have hnames : ∀ p ∈ files, (Path.names p).length ≤ t.depthBudget := fun p hp => by
    obtain ⟨x, hx⟩ := exists_fileAt hstores hp
    exact hdepth p x hx
  obtain ⟨es, hshows, hgives⟩ :=
    walk_shows (t := t) hstores hsize hbudget hnotes (.inl rfl) hpos hnames
  exact ⟨es, hgives, fun p x hp => hshows.of_file hstores hp⟩

/-- A client that writes a file in a session, one below it and some others, moves and deletes. -/
def author : Program Unit (List (Except Failure Answer)) :=
  .bind (.ask (.writer "/b".toList false)) fun _ =>
  .bind (.session 0 (.write [1, 2])) fun _ =>
  .bind (.session 0 .close) fun _ =>
  .inTurn <| [.putContent "/t".toList [3], .putContent "/a/x".toList [4],
    .putContent "/b/y".toList [5], .move "/t".toList "/c/d".toList, .delete "/a".toList].map .ask

/-- The files of this client: one is below another one and is not found. -/
theorem walk_visits_files_written :
    let o : Memory.Options := { pageSize := .ofNat 1 }
    let b := Memory.backend o
    let t := onStore b { rootDirectory := "r".toList } default
    let paths := ["/b", "/b/y", "/c/d"].map String.toList
    let visit := noting fun _ => false
    ∃ m, Reachable t o m ∧ m.objects.size = 3 ∧ (∀ p x, FileAt t.root m p x → p ∈ paths) ∧
    Notes visit m [] (fun _ => false) ∧
    ∃ es : List Entry,
      (t.walk b.onDesk Path.root visit).Gives ⟨m, [], []⟩ (.ok ()) ⟨m, [], es⟩ ∧
      (.file "/b".toList (.ofNat 2) 2 ∈ es ∧ (es.map Entry.path).count "/b".toList = 1) ∧
      (.file "/c/d".toList (.ofNat 1) 6 ∈ es ∧ (es.map Entry.path).count "/c/d".toList = 1) ∧
      (es.map Entry.path).count "/b/y".toList = 0 := by
  intro o b t paths visit
  -- the store that the client leaves is computed once, and only what is said here is used of it
  obtain ⟨m, hreach, hcount, hkeys, hb, hy, hd⟩ : ∃ m, Reachable t o m ∧ m.objects.size = 3 ∧
      m.objects.keys.map t.root.pathUnder = paths ∧
      FileAt t.root m "/b".toList ⟨[1, 2], .append, 2⟩ ∧
      FileAt t.root m "/b/y".toList ⟨[5], .block, 5⟩ ∧
      FileAt t.root m "/c/d".toList ⟨[3], .block, 6⟩ :=
    ⟨_, reachable_run t o author (), by decide +kernel⟩
  have hfiles : ∀ p x, FileAt t.root m p x → p ∈ paths := by
    intro p x hp
    have hkey : t.root.keyOf p ∈ m.objects.keys := KeyMap.mem_keys.mpr (by rw [hp.2]; rfl)
    rw [← hkeys, ← Root.pathUnder_keyOf (r := t.root) hp.1]
    exact List.mem_map_of_mem hkey
  have hnames : ∀ p ∈ paths, (Path.names p).length ≤ 1000000 := by decide +kernel
  have hfree : ∀ q ∈ paths, ¬Path.isBelow q "/b".toList ∧ ¬Path.isBelow q "/c/d".toList := by
    decide +kernel
  obtain ⟨es, hgives, hfound⟩ := walk_visits_files o (by decide) { rootDirectory := "r".toList }
    default none hreach (by rw [hcount]; decide) (by decide)
    (fun p x hp => hnames p (hfiles p x hp)) [] (notes_noting _ m [])
  refine ⟨m, hreach, hcount, hfiles, notes_noting _ m [], es, hgives [],
    (hfound _ _ hb).1 fun q y hq => (hfree q (hfiles q y hq)).1,
    (hfound _ _ hd).1 fun q y hq => (hfree q (hfiles q y hq)).2,
    (hfound _ _ hy).2 _ _ hb (by decide +kernel)⟩

/-- A file and another one below it: the walk visits the first and goes no further. -/
theorem walk_misses_file_below_file :
    let o : Memory.Options := {}
    let b := Memory.backend o
    let t := onStore b {} default
    let visit := noting fun _ => false
    let client : Program Unit (List (Except Failure Answer)) :=
      .inTurn <| [.putContent "/a".toList [1], .putContent "/a/b".toList [2]].map .ask
    let m := ((client.run t b).exec (.fresh { store := default, notes := () })).2.store.store
    let walked := (t.walk b.onDesk Path.root visit).exec (.fresh ⟨m, [], []⟩)
    Notes visit m [] (fun _ => false) ∧ FileAt t.root m "/a/b".toList ⟨[2], .block, 2⟩ ∧
    walked.1 = .ok () ∧ walked.2.store.notes = [.file "/a".toList (.ofNat 1) 1] := by
  intro o b t visit client m walked
  have hm : m = Memory.write o (.write o default "a".toList [1] .block) "a/b".toList [2]
      .block := by
    decide +kernel
  have hwalked : walked = (t.walk b.onDesk Path.root visit).exec (.fresh ⟨m, [], []⟩) := rfl
  rw [hm] at hwalked
  refine ⟨notes_noting _ _ _, by decide +kernel, ?_, ?_⟩
  · rw [hwalked]
    cbv
  · rw [hwalked]
    cbv

end FileTree
end BlobTree
