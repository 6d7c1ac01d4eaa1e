import BlobTree.Proofs.Budget
import BlobTree.Proofs.FileTree.Races
import BlobTree.Proofs.FileTree.Walk

/-!
# BlobTree.Proofs.FileTree.Descent

Whether a walk comes to its end on a store whose keys may be any names at all. A child that is no
path is refused when it is looked at, and the keys below a child that is one go on further from the
child than they do from its directory; so a walk ends, whatever else the store holds, unless the
root is its own child. It is if there is a key in whose path no name follows the first separator,
and a walk from the root then goes down the root for ever.

* `mem_childrenOf_iff`, `listingPrefix_child`: the children of a directory and the keys below them,
  over any keys.
* `visitBelow_ends`: by induction on the levels, of which the longest key needs one each.
* `walk_unfinished`: no number of levels is enough below a root that is its own child.
-/

namespace BlobTree

open BlobTree.Action

/-- What follows a directory in a path, up to the next separator. -/
theorem Path.isSegment_takeWhile {dir rest : Name} (hdir : isDirectory dir)
    (h : isValid (asContainer dir ++ rest.takeWhile (· ≠ separator))) :
    isSegment (rest.takeWhile (· ≠ separator)) := by
  obtain ⟨a, ha⟩ := Listing.exists_container hdir
  rw [ha, List.append_assoc, List.singleton_append] at h
  have hsegment := isSegment_of_isValid h
  rwa [List.takeWhile_idem] at hsegment

namespace Root

variable {r : Root} {dir : Name}

/-- A key under the root in whose path no name follows the first separator. -/
def Nameless (r : Root) (k : Name) : Prop :=
  ∃ rest, k = r.listingPrefix Path.root ++ rest ∧ rest.takeWhile (· ≠ Path.separator) = []

theorem keyOf_child {s : Name} (hdir : Path.isDirectory dir) (hs : Path.isSegment s) :
    r.keyOf (Path.asContainer dir ++ s) = r.listingPrefix dir ++ s := by
  rcases Path.isDirectory_iff.mp hdir with rfl | hp
  · by_cases hkey : r.key = []
    · rw [listingPrefix_root, keyOf_of_key_eq_nil hkey, keyOf_of_key_eq_nil hkey,
        Path.dropLeading_of_isValid (Path.isValid_child hdir hs)]
      rfl
    · rw [listingPrefix_root, keyOf_of_key_ne_nil hkey, keyOf_of_key_ne_nil hkey,
        List.append_assoc]
      rfl
  · rw [Path.asContainer_of_isValid hp, List.append_assoc, keyOf_append hp,
      listingPrefix_of_isValid hp, List.append_assoc]

theorem listingPrefix_child {s : Name} (hdir : Path.isDirectory dir) (hs : Path.isSegment s) :
    r.listingPrefix (Path.asContainer dir ++ s) =
      r.listingPrefix dir ++ s ++ [Path.separator] := by
  rw [listingPrefix_of_isValid (Path.isValid_child hdir hs), keyOf_child hdir hs]

end Root

namespace Action

variable {σ κ α β γ : Type}

/-- From a world, an action uses up the pages or the levels that it was given. -/
def Stalls (x : Action σ α) (w : World σ) : Prop :=
  (x.exec w).1 = .error .unfinished

theorem Stalls.bind {x : Action σ α} {f : α → Action σ β} {w : World σ} (h : x.Stalls w) :
    (x >>= f).Stalls w := by
  rcases hx : x.exec w with ⟨r, w'⟩
  rw [Stalls, hx] at h
  cases h
  rw [Stalls, exec_bind_error hx]

theorem stalls_after {x : Action σ α} {f : α → Action σ β} {w w' : World σ} {a : α}
    (h : x.exec w = (.ok a, w')) (hrest : (f a).Stalls w') : (x >>= f).Stalls w := by
  rw [Stalls, exec_bind_ok h]
  exact hrest

theorem Prolongs.stalls {x y : Action σ α} {w : World σ} (h : y.Prolongs x) (hy : y.Stalls w) :
    x.Stalls w := by
  by_contra hx
  rw [Stalls, h w hx] at hy
  exact hx hy

theorem Prolongs.exec {x y : Action σ α} {w : World σ} {R : Except Failure α → σ → Prop}
    (h : y.Prolongs x) (hx : x.Ends w R) : y.exec w = x.exec w := by
  obtain ⟨r, w', hrun, -⟩ := hx
  refine h w ?_
  rw [hrun]
  cases r with
  | ok a => rintro ⟨⟩
  | error f => rintro ⟨⟩

theorem exec_attempt_ok {x : Action σ α} {w w' : World σ} {a : α} (h : x.exec w = (.ok a, w')) :
    (attempt x).exec w = (.ok (.ok a), w') := by
  rw [exec_attempt, h]

/-- An action that is taken once for each member of a list and keeps an invariant. -/
theorem Ends.forM {inv : σ → Prop} {f : γ → Action σ PUnit} {cs : List γ}
    (h : ∀ c ∈ cs, ∀ w, inv w.store → (f c).Ends w fun _ s => inv s) {w : World σ}
    (hw : inv w.store) : (cs.forM f).Ends w fun _ s => inv s := by
  induction cs generalizing w with
  | nil => exact ⟨.ok ⟨⟩, w, rfl, hw⟩
  | cons c rest ih =>
    refine (h c List.mem_cons_self w hw).bind (fun _ w' _ hw' => ?_) fun _ _ hs => hs
    exact ih (fun c' hc' => h c' (List.mem_cons_of_mem _ hc')) hw'

theorem Gives.onDesk_ends {x : Action σ α} {w : World (Desk σ κ)} {s s' : σ}
    {r : Except Failure α} (h : x.Gives s (r.mapError .failed) s') (hw : w.store.store = s) :
    x.onDesk.Ends w fun r' d => r' = r ∧ d.store = s' := by
  subst hw
  exact (h.onDesk w.store.sessions w.store.notes).ends ⟨rfl, rfl⟩

end Action

namespace FileTree

variable {t : FileTree} {o : Memory.Options} {m : Memory} {dir c path : Name} {κ : Type}

theorem mem_childrenOf_iff {root : Root} (hdir : Path.isDirectory dir) :
    c ∈ childrenOf root m dir ↔ ∃ rest, root.listingPrefix dir ++ rest ∈ m.objects.keys ∧
      c = Path.asContainer dir ++ rest.takeWhile (· ≠ Path.separator) := by
  rw [childrenOf, Listing.mem_children, container_start hdir]
  constructor
  · rintro ⟨q, hq, -, rfl⟩
    obtain ⟨k, hk, rfl⟩ := List.mem_map.mp hq
    obtain ⟨hmem, hstart⟩ := mem_keysBelow.mp hk
    obtain ⟨rest, rfl⟩ := List.isPrefixOf_iff_prefix.mp hstart
    refine ⟨rest, hmem, ?_⟩
    rw [Root.pathUnder_listingPrefix_append hdir, Listing.childOf_append]
  · rintro ⟨rest, hmem, rfl⟩
    have hbelow : root.listingPrefix dir ++ rest ∈ keysBelow root m dir :=
      mem_keysBelow.mpr ⟨hmem, List.isPrefixOf_iff_prefix.mpr (List.prefix_append _ _)⟩
    refine ⟨Path.asContainer dir ++ rest, ?_, ?_, Listing.childOf_append _ _⟩
    · rw [← Root.pathUnder_listingPrefix_append (r := root) hdir]
      exact List.mem_map_of_mem hbelow
    · exact List.isPrefixOf_iff_prefix.mpr (List.prefix_append _ _)

/-- The root is its own child if some key under it has no name. -/
theorem root_mem_childrenOf {root : Root} :
    Path.root ∈ childrenOf root m Path.root ↔ ∃ k ∈ m.objects.keys, root.Nameless k := by
  rw [mem_childrenOf_iff rfl]
  constructor
  · rintro ⟨rest, hmem, hroot⟩
    refine ⟨_, hmem, rest, rfl, ?_⟩
    have hroot : Path.asContainer Path.root ++ [] =
        Path.asContainer Path.root ++ rest.takeWhile (· ≠ Path.separator) := hroot
    exact (List.append_cancel_left hroot).symm
  · rintro ⟨k, hk, rest, rfl, hnone⟩
    refine ⟨rest, hk, ?_⟩
    rw [hnone]
    rfl

theorem root_notMem_childrenOf {root : Root} (hp : Path.isValid dir) :
    Path.root ∉ childrenOf root m dir := by
  intro hmem
  obtain ⟨rest, -, hroot⟩ :=
    (mem_childrenOf_iff (Path.isDirectory_iff.mpr (.inr hp))).mp hmem
  obtain ⟨c, q, rfl, -⟩ := Path.exists_body hp
  rw [Path.asContainer_of_isValid hp] at hroot
  have hlength := congrArg List.length hroot
  simp [Path.root] at hlength

/-- Looking at any name at all: a directory is only seen if there is a key below it. -/
theorem stat_settles (hsize : (Number.ofNat 1).le o.pageSize) (path : Name) :
    ∃ r : Except Failure Entry,
      (t.stat (Memory.backend o) path).Gives m (r.mapError .failed) m ∧
      ∀ e, r = .ok e → e.isDirectory → Path.isDirectory path ∧ keysBelow t.root m path ≠ [] := by
  by_cases hdir : Path.isDirectory path
  case neg =>
    refine ⟨.error (.invalidPath path), ?_, by simp⟩
    rw [stat, onDirectory, if_neg hdir]
    exact gives_fail _ m
  case pos =>
    by_cases habsent : path = Path.root ∨ m.objects.get? (t.root.keyOf path) = none
    · have hstat := stat_absent (t := t) hsize hdir habsent
      by_cases hnone : keysBelow t.root m path = []
      · rw [if_pos hnone] at hstat
        exact ⟨.error (.pathNotFound path), hstat, by simp⟩
      · rw [if_neg hnone] at hstat
        exact ⟨.ok (.directory path), hstat, fun _ _ _ => ⟨hdir, hnone⟩⟩
    · obtain ⟨hroot, hthere⟩ := not_or.mp habsent
      have hp := (Path.isDirectory_iff.mp hdir).resolve_left hroot
      obtain ⟨x, hx⟩ := Option.ne_none_iff_exists'.mp hthere
      refine ⟨.ok (.file path (.ofNat x.data.length) x.modTime), stat_present hp hx, ?_⟩
      rintro e ⟨rfl⟩ ⟨⟩

/-- Where the root is its own child, it is the first one. -/
theorem exists_cons_root {root : Root} (hroot : Path.root ∈ childrenOf root m Path.root) :
    ∃ rest, (childrenOf root m Path.root).mergeSort Units.le = Path.root :: rest := by
  have hsorted := Units.pairwise_mergeSort (Listing.nodup_children (listed root m Path.root) [])
  change ((childrenOf root m Path.root).mergeSort Units.le).Pairwise Units.Lt at hsorted
  have hmem : Path.root ∈ (childrenOf root m Path.root).mergeSort Units.le :=
    List.mem_mergeSort.mpr hroot
  cases hcs : (childrenOf root m Path.root).mergeSort Units.le with
  | nil =>
    rw [hcs] at hmem
    cases hmem
  | cons first rest =>
    refine ⟨rest, ?_⟩
    have hfirst : first ∈ childrenOf root m Path.root :=
      List.mem_mergeSort.mp (hcs ▸ List.mem_cons_self)
    obtain ⟨s, -, rfl⟩ := (mem_childrenOf_iff rfl).mp hfirst
    rw [hcs] at hmem hsorted
    rcases List.mem_cons.mp hmem with heq | hlater
    · rw [← heq]
    · have hlt : Units.Lt (Path.root ++ s.takeWhile (· ≠ Path.separator)) (Path.root ++ []) :=
        (List.pairwise_cons.mp hsorted).1 _ hlater
      exact absurd (Units.lt_of_append_left hlt) (Units.not_lt_nil _)

theorem stat_root (hsize : (Number.ofNat 1).le o.pageSize)
    (hroot : Path.root ∈ childrenOf t.root m Path.root) :
    (t.stat (Memory.backend o) Path.root).Gives m (.ok (.directory Path.root)) m := by
  have hdir : Path.isDirectory Path.root := rfl
  have hstat := stat_absent (t := t) (m := m) hsize hdir (.inl rfl)
  rw [if_neg] at hstat
  · exact hstat
  · intro hnone
    simp [childrenOf, listed, hnone, Listing.children] at hroot

/-- A visitor that comes to an end with one of some results and changes nothing in the store. -/
def Watches (visit : Entry → Action (Desk Memory κ) Visit) (m : Memory)
    (decides : Except Failure Visit → Prop) : Prop :=
  ∀ e w, w.store.store = m → (visit e).Ends w fun r d => decides r ∧ d.store = m

variable {visit : Entry → Action (Desk Memory κ) Visit} {decides : Except Failure Visit → Prop}
  {logger : Option Logger} {w : World (Desk Memory κ)}

theorem ends_ignoring (logger : Option Logger) (c : Name) (hw : w.store.store = m) :
    (logger.forM fun l => log l .info [("path", .text (String.ofList c))]
      "ignoring deleted path" : Action (Desk Memory κ) PUnit).Ends w fun _ d => d.store = m := by
  cases logger with
  | none => exact ⟨.ok ⟨⟩, w, rfl, hw⟩
  | some l => exact ⟨.ok ⟨⟩, _, rfl, hw⟩

section Ends

variable (hsize : (Number.ofNat 1).le o.pageSize)

include hsize

/-- A child, if the walk comes to its end below it. -/
theorem visitChild_ends {depth : Nat} (hvisit : Watches visit m decides)
    (hbelow : Path.isDirectory c → keysBelow t.root m c ≠ [] → ∀ w, w.store.store = m →
      (Walk.visitBelow (t.looks (Memory.backend o).onDesk) visit logger depth c).Ends w
        fun _ d => d.store = m) (hw : w.store.store = m) :
    ((t.looks (Memory.backend o).onDesk).visitChild visit logger depth c).Ends w
      fun _ d => d.store = m := by
  obtain ⟨r, hstat, hfound⟩ := stat_settles (t := t) (m := m) hsize c
  have hlook := hstat.onDesk_ends hw
  rw [stat_onDesk] at hlook
  refine hlook.recover ?_ ?_
  · rintro e w' - ⟨rfl, hw'⟩
    refine (hvisit e w' hw').bind (fun decision w'' _ h => ?_) fun _ _ h => h.2
    by_cases henter : e.isDirectory ∧ decision ≠ .skip
    · rw [if_pos henter]
      obtain ⟨hdir, hsome⟩ := hfound e rfl henter.1
      exact hbelow hdir hsome w'' h.2
    · rw [if_neg henter]
      exact ⟨.ok (), w'', rfl, h.2⟩
  · rintro f w' ⟨-, hw'⟩
    cases f with
    | pathNotFound p => exact ends_ignoring logger c hw'
    | _ => exact ⟨.error _, w', rfl, hw'⟩

theorem list_ends_onDesk (hbudget : m.objects.size < t.pageBudget) (hdir : Path.isDirectory dir)
    (hw : w.store.store = m) :
    (t.list (Memory.backend o).onDesk dir).Ends w fun r d =>
      (∀ cs, r = .ok cs → cs = childrenOf t.root m dir) ∧ d.store = m := by
  have hlist := list_gives (t := t) (o := o) hsize hbudget hdir
  rw [← list_onDesk]
  by_cases hnone : dir ≠ Path.root ∧ childrenOf t.root m dir = []
  · rw [if_pos hnone] at hlist
    refine Ends.mono (Gives.onDesk_ends (r := .error (.pathNotFound dir)) hlist hw) ?_
    rintro r d ⟨rfl, hd⟩
    exact ⟨by simp, hd⟩
  · rw [if_neg hnone] at hlist
    refine Ends.mono (Gives.onDesk_ends (r := .ok (childrenOf t.root m dir)) hlist hw) ?_
    rintro r d ⟨rfl, hd⟩
    exact ⟨fun cs heq => (Except.ok.inj heq).symm, hd⟩

/-- The walk below a directory: by the levels that may be gone down, if they are more than the
characters that any key goes on for. -/
theorem visitBelow_ends (hbudget : m.objects.size < t.pageBudget)
    (hvisit : Watches visit m decides) {depth : Nat} (hdir : Path.isDirectory dir)
    (hroot : Path.root ∉ childrenOf t.root m dir) (hpos : 0 < depth)
    (hdepth : ∀ rest, t.root.listingPrefix dir ++ rest ∈ m.objects.keys → rest.length < depth)
    (hw : w.store.store = m) :
    (Walk.visitBelow (t.looks (Memory.backend o).onDesk) visit logger depth dir).Ends w
      fun _ d => d.store = m := by
  induction depth generalizing dir w with
  | zero => exact absurd hpos (Nat.lt_irrefl 0)
  | succ depth ih =>
    rw [Walk.visitBelow_succ]
    refine (list_ends_onDesk hsize hbudget hdir hw).bind ?_ fun _ _ h => h.2
    rintro cs w' - ⟨hcs, hw'⟩
    obtain rfl := hcs cs rfl
    refine Ends.forM (fun c hc w'' hw'' => ?_) hw'
    have hchild := List.mem_mergeSort.mp hc
    obtain ⟨rest, hmem, rfl⟩ := (mem_childrenOf_iff hdir).mp hchild
    refine visitChild_ends hsize hvisit (fun hcdir hsome w3 hw3 => ?_) hw''
    have hcp : Path.isValid (Path.asContainer dir ++ rest.takeWhile (· ≠ Path.separator)) :=
      (Path.isDirectory_iff.mp hcdir).resolve_left fun heq => hroot (heq ▸ hchild)
    have hs := Path.isSegment_takeWhile hdir hcp
    -- a key below the child goes on past the child's name and a separator
    have hdeeper : ∀ rest', t.root.listingPrefix
        (Path.asContainer dir ++ rest.takeWhile (· ≠ Path.separator)) ++ rest' ∈ m.objects.keys →
        rest'.length < depth := by
      intro rest' hmem'
      rw [Root.listingPrefix_child hdir hs, List.append_assoc, List.append_assoc] at hmem'
      have hlt := hdepth _ hmem'
      simp only [List.length_append, List.length_singleton] at hlt
      omega
    have hpos' : 0 < depth := by
      obtain ⟨k, hk⟩ := List.exists_mem_of_ne_nil _ hsome
      obtain ⟨hkey, hstart⟩ := mem_keysBelow.mp hk
      obtain ⟨rest', rfl⟩ := List.isPrefixOf_iff_prefix.mp hstart
      exact Nat.lt_of_le_of_lt (Nat.zero_le _) (hdeeper rest' hkey)
    exact ih hcdir (root_notMem_childrenOf hcp) hpos' hdeeper hw3

/-- The root is the first child of itself, so that no other child is come to. -/
theorem visitBelow_unfinished (hbudget : m.objects.size < t.pageBudget)
    (henters : Watches visit m (· = .ok .enter))
    (hroot : Path.root ∈ childrenOf t.root m Path.root) (depth : Nat) (hw : w.store.store = m) :
    (Walk.visitBelow (t.looks (Memory.backend o).onDesk) visit logger depth
      Path.root).Stalls w := by
  induction depth generalizing w with
  | zero => rfl
  | succ depth ih =>
    obtain ⟨rest, hsorted⟩ := exists_cons_root hroot
    have hdir : Path.isDirectory Path.root := rfl
    have hlist := list_gives (t := t) (o := o) hsize hbudget hdir
    rw [if_neg (by simp)] at hlist
    obtain ⟨-, w1, hlisted, rfl, hw1⟩ := hlist.onDesk_ends (r := .ok _) hw
    obtain ⟨-, w2, hlooked, rfl, hw2⟩ := (stat_root hsize hroot).onDesk_ends (r := .ok _) hw1
    obtain ⟨-, w3, hdecided, rfl, hw3⟩ := henters (.directory Path.root) w2 hw2
    rw [list_onDesk] at hlisted
    rw [stat_onDesk] at hlooked
    rw [Walk.visitBelow_succ]
    refine stalls_after hlisted ?_
    rw [hsorted]
    exact Stalls.bind (stalls_after (exec_attempt_ok hlooked) (stalls_after hdecided (ih hw3)))

theorem walk_ends (hbudget : m.objects.size < t.pageBudget) (hvisit : Watches visit m decides)
    (hdir : Path.isDirectory dir)
    (hroot : dir = Path.root → ∀ k ∈ m.objects.keys, ¬t.root.Nameless k)
    (hpos : 0 < t.depthBudget) (hdepth : ∀ k ∈ m.objects.keys, k.length < t.depthBudget)
    (hw : w.store.store = m) :
    (t.walk (Memory.backend o).onDesk dir visit).Ends w fun _ d => d.store = m := by
  have hnot : Path.root ∉ childrenOf t.root m dir := by
    rcases Path.isDirectory_iff.mp hdir with rfl | hp
    · rw [root_mem_childrenOf]
      rintro ⟨k, hk, hname⟩
      exact hroot rfl k hk hname
    · exact root_notMem_childrenOf hp
  rw [walk, onDirectory_valid hdir]
  refine visitBelow_ends hsize hbudget hvisit hdir hnot hpos (fun rest hmem => ?_) hw
  have hlt := hdepth _ hmem
  rw [List.length_append] at hlt
  omega

theorem walk_stalls (henters : Watches visit m (· = .ok .enter))
    (hnameless : ∃ k ∈ m.objects.keys, t.root.Nameless k) (hw : w.store.store = m) :
    (t.walk (Memory.backend o).onDesk Path.root visit).Stalls w := by
  let more : FileTree := { t with pageBudget := max t.pageBudget (m.objects.size + 1) }
  have hstalls : (more.walk (Memory.backend o).onDesk Path.root visit).Stalls w := by
    rw [walk, onDirectory_valid rfl]
    refine visitBelow_unfinished (t := more) hsize ?_ henters (root_mem_childrenOf.mpr hnameless) _
      hw
    exact Nat.lt_of_lt_of_le (Nat.lt_succ_self _) (Nat.le_max_right _ _)
  have hmore : (more.walk (Memory.backend o).onDesk Path.root visit).Prolongs
      (t.walk (Memory.backend o).onDesk Path.root visit) :=
    walk_prolongs _ (Nat.le_max_left _ _) (Nat.le_refl _) Path.root visit
  exact hmore.stalls hstalls

end Ends

/-- **Walks come to an end.** On a memory store whose keys may be any names at all, a walk whose
visitor changes nothing in it comes to its end, which is the same one for all budgets that are large
enough, unless it starts at the root and there is a key under the root in whose path no name follows
the first separator. With such a key a walk from the root that enters every directory uses up any
budget. -/
theorem walk_ends_unless_nameless (o : Memory.Options) (hsize : (Number.ofNat 1).le o.pageSize)
    (options : Options) (rootLogger : Logger) (logger : Option Logger) (m : Memory) (κ : Type) :
    let b := Memory.backend o
    let root := Root.ofDir options.rootDirectory
    let tree (pages depth : Nat) :=
      onStore b { options with pageBudget := pages, depthBudget := depth } rootLogger logger
    (∀ start, Path.isDirectory start →
      (start = Path.root → ∀ k ∈ m.objects.keys, ¬root.Nameless k) →
      ∀ visit : Entry → Action (Desk Memory κ) Visit, Watches visit m (fun _ => True) →
      ∀ w, w.store.store = m → ∃ r w', w'.store.store = m ∧
        ∀ pages depth, m.objects.size < pages → 0 < depth →
          (∀ k ∈ m.objects.keys, k.length < depth) →
          ((tree pages depth).walk b.onDesk start visit).exec w = (Except.mapError .failed r, w')) ∧
    ((∃ k ∈ m.objects.keys, root.Nameless k) →
      ∀ visit : Entry → Action (Desk Memory κ) Visit, Watches visit m (· = .ok .enter) →
      ∀ w, w.store.store = m → ∀ pages depth,
        (((tree pages depth).walk b.onDesk Path.root visit).exec w).1 = .error .unfinished) := by
  intro b root tree
  refine ⟨fun start hdir hroot visit hvisit w hw => ?_,
    fun hnameless visit henters w hw pages depth =>
      walk_stalls (t := tree pages depth) hsize henters hnameless hw⟩
  let levels := (m.objects.keys.map List.length).sum + 1
  have hlevels : ∀ k ∈ m.objects.keys, k.length < levels := fun k hk =>
    Nat.lt_succ_of_le (List.le_sum_of_mem (List.mem_map_of_mem hk))
  have hends (pages depth : Nat) (hpages : m.objects.size < pages) (hpos : 0 < depth)
      (hdepth : ∀ k ∈ m.objects.keys, k.length < depth) :
      ((tree pages depth).walk b.onDesk start visit).Ends w fun _ d => d.store = m :=
    walk_ends (t := tree pages depth) hsize hpages hvisit hdir hroot hpos hdepth hw
  obtain ⟨r, w', hrun, hw'⟩ :=
    hends (m.objects.size + 1) levels (Nat.lt_succ_self _) (Nat.succ_pos _) hlevels
  refine ⟨r, w', hw', fun pages depth hpages hpos hdepth => ?_⟩
  -- both ends are that of the walk with the larger one of the two budgets
  have hmore := walk_prolongs b.onDesk (t := tree (m.objects.size + 1) levels)
    (Nat.le_max_left _ pages) (Nat.le_max_left _ depth) start visit
  have hmore' := walk_prolongs b.onDesk (t := tree pages depth)
    (Nat.le_max_right (m.objects.size + 1) _) (Nat.le_max_right levels _) start visit
  rw [← hmore'.exec (hends pages depth hpages hpos hdepth), ← hrun]
  exact hmore.exec (R := fun _ _ => True) ⟨r, w', hrun, trivial⟩

theorem watches_noting (skips : Name → Bool) (m : Memory) :
    Watches (noting skips) m fun r => ∃ d, r = .ok d := by
  intro e w hw
  exact ⟨.ok (if skips e.path then .skip else .enter), _, rfl, ⟨_, rfl⟩, hw⟩

/-- A key with an empty name in the middle, at which a walk fails, and one with an empty name at
its start, at which it does not end. -/
theorem walk_ends_unless_nameless_foreign :
    let o : Memory.Options := { pageSize := .ofNat 1 }
    let b := Memory.backend o
    let tree (pages depth : Nat) : FileTree :=
      onStore b { rootDirectory := "r".toList, pageBudget := pages, depthBudget := depth } default
    let stored (k : String) := Memory.write o default k.toList [1] .block
    let visit := noting fun _ => false
    (Number.ofNat 1).le o.pageSize ∧
    (∃ r w', w'.store.store = stored "r/a//b" ∧ ∀ pages depth, 1 < pages → 6 < depth →
      ((tree pages depth).walk b.onDesk Path.root visit).exec (.fresh ⟨stored "r/a//b", [], []⟩) =
        (Except.mapError .failed r, w')) ∧
    ∀ pages depth, (((tree pages depth).walk b.onDesk Path.root visit).exec
      (.fresh ⟨stored "r//a", [], []⟩)).1 = .error .unfinished := by
  intro o b tree stored visit
  have hsize : (Number.ofNat 1).le o.pageSize := by decide
  have hnamed : ∀ k ∈ (stored "r/a//b").objects.keys, ¬(Root.ofDir "r".toList).Nameless k := by
    intro k hk
    obtain rfl : k = "r/a//b".toList := List.mem_singleton.mp hk
    rintro ⟨rest, heq, hnone⟩
    have heq : "r/".toList ++ "a//b".toList = "r/".toList ++ rest := heq
    obtain rfl := List.append_cancel_left heq
    cases hnone
  obtain ⟨hends, -⟩ := walk_ends_unless_nameless o hsize { rootDirectory := "r".toList } default
    none (stored "r/a//b") (List Entry)
  obtain ⟨-, hstalls⟩ := walk_ends_unless_nameless o hsize { rootDirectory := "r".toList } default
    none (stored "r//a") (List Entry)
  refine ⟨hsize, ?_, ?_⟩
  · obtain ⟨r, w', hw', hruns⟩ := hends Path.root rfl (fun _ => hnamed) visit
      (fun e w hw => (watches_noting _ _ e w hw).mono fun _ _ h => ⟨trivial, h.2⟩)
      (.fresh ⟨stored "r/a//b", [], []⟩) rfl
    refine ⟨r, w', hw', fun pages depth hpages hdepth => ?_⟩
    refine hruns pages depth hpages (Nat.lt_of_le_of_lt (Nat.zero_le 6) hdepth) fun k hk => ?_
    obtain rfl : k = "r/a//b".toList := List.mem_singleton.mp hk
    exact hdepth
  · refine hstalls ⟨"r//a".toList, List.mem_singleton.mpr rfl, "/a".toList, rfl, rfl⟩ visit ?_ _ rfl
    intro e w hw
    exact ⟨.ok .enter, _, rfl, rfl, hw⟩

/-- A key that begins with a separator makes a walk from the root go on for ever, however many pages
and levels it may take: it lists the root, finds a directory there that is the root, and enters. -/
theorem walk_never_ends :
    let o : Memory.Options := {}
    let b := Memory.backend o
    let m := Memory.write o default "/x".toList [1] .block
    ∀ pages depth, (((onStore b { pageBudget := pages, depthBudget := depth } default).walk b.onDesk
      Path.root (noting fun _ => false)).exec (.fresh ⟨m, [], []⟩)).1 = .error .unfinished := by
  intro o b m pages depth
  refine walk_stalls (m := m) (by decide) (fun e w hw => ⟨.ok .enter, _, rfl, rfl, hw⟩)
    ⟨"/x".toList, List.mem_singleton.mpr rfl, "/x".toList, rfl, rfl⟩ rfl

end FileTree
end BlobTree
