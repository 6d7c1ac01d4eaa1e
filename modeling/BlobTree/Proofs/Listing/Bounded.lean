import Mathlib.Data.List.Perm.Subperm
import BlobTree.Proofs.Listing.Cover
import BlobTree.Proofs.Store.Frame

/-!
# BlobTree.Proofs.Listing.Bounded

A listing among other clients comes to its end. A page that does not end it leaves fewer keys to
list; what another client does adds one key at most, and the others do only so much (`load`). So
whatever they do, and whatever the page size is, a listing that may take as many pages ends with
paths, each of which was fetched.

* `remaining_lt`: every page but the last brings the end nearer.
* `below_ends`: a whole listing.
-/

namespace BlobTree

/-- How much the other clients are going to do. -/
def Shared.pending (s : Shared) : Nat :=
  (s.coming.map List.length).sum

/-- The keys that are there and those that the other clients may add. -/
def Shared.load (s : Shared) : Nat :=
  s.memory.objects.size + s.pending

namespace Memory

variable {o : Options} {m m' : Memory}

/-- One key at most has come in. -/
def GainsOne (m m' : Memory) : Prop :=
  ∃ key, ∀ k ∈ m'.objects.keys, k = key ∨ k ∈ m.objects.keys

theorem SameBut.gainsOne {key : Name} (h : SameBut key m m') : GainsOne m m' := by
  refine ⟨key, fun k hk => or_iff_not_imp_left.mpr fun hne => ?_⟩
  rw [KeyMap.mem_keys] at hk ⊢
  rwa [← h k hne]

theorem step_gainsOne (o : Options) (m : Memory) (c : Call) : GainsOne m (m.step o c).2 := by
  rcases step_changes o m c with hsame | ⟨key, -, hbut⟩
  · exact ⟨[], fun k hk => .inr (hsame ▸ hk)⟩
  · exact hbut.gainsOne

theorem length_keysFrom_le (h : GainsOne m m') (start marker : Name) :
    (keysFrom m'.objects.keys start marker).length ≤
      (keysFrom m.objects.keys start marker).length + 1 := by
  obtain ⟨key, hkey⟩ := h
  have hnodup : (keysFrom m'.objects.keys start marker).Nodup :=
    Units.nodup_of_ascending (keysFrom_sorted m'.objects.keys_sorted start marker)
  have hsub : keysFrom m'.objects.keys start marker ⊆
      key :: keysFrom m.objects.keys start marker := by
    intro k hk
    obtain ⟨hmem, hrest⟩ := mem_keysFrom.mp hk
    exact (hkey k hmem).elim (fun heq => heq ▸ List.mem_cons_self) fun hold =>
      List.mem_cons_of_mem _ (mem_keysFrom.mpr ⟨hold, hrest⟩)
  exact (List.subperm_of_subset hnodup hsub).length_le

end Memory

theorem Foreign.apply_gainsOne (o : Memory.Options) (m : Memory) (f : Foreign) :
    Memory.GainsOne m (f.apply o m) := by
  cases f with
  | call c => exact Memory.step_gainsOne o m c
  | mutate change =>
    cases change with
    | delete key => exact (Memory.sameBut_remove key).gainsOne
    | seed key data kind => exact (Memory.sameBut_write key data kind).gainsOne

theorem length_keysFrom_foldl_le (o : Memory.Options) (fs : List Foreign) (m : Memory)
    (start marker : Name) :
    (Memory.keysFrom (fs.foldl (Foreign.apply o) m).objects.keys start marker).length ≤
      (Memory.keysFrom m.objects.keys start marker).length + fs.length := by
  induction fs generalizing m with
  | nil => simp
  | cons f rest ih =>
    have hone := Memory.length_keysFrom_le (Foreign.apply_gainsOne o m f) start marker
    have hrest := ih (f.apply o m)
    rw [List.foldl_cons, List.length_cons]
    omega

namespace Listing

open BlobTree.Action

variable {o : Memory.Options} {root : Root} {start : Name}

/-- What a listing can still meet. -/
def remaining (start marker : Name) (s : Shared) : Nat :=
  (Memory.keysFrom s.memory.objects.keys start marker).length + s.pending

/-- The turn of the other clients takes nothing from what is to come. -/
theorem remaining_interlude_le (o : Memory.Options) (start marker : Name) (s : Shared) :
    remaining start marker (s.interlude o) ≤ remaining start marker s := by
  obtain ⟨m, coming⟩ := s
  cases coming with
  | nil => exact Nat.le_refl _
  | cons fs coming =>
    have hfold := length_keysFrom_foldl_le o fs m start marker
    simp only [remaining, Shared.interlude, Shared.pending, List.head?_cons, Option.getD_some,
      List.tail_cons, List.map_cons, List.sum_cons]
    omega

theorem remaining_start_le (start : Name) (s : Shared) : remaining start [] s ≤ s.load := by
  have hfilter := List.length_filter_le
    (fun k => start.isPrefixOf k && !decide (Units.Lt k [])) s.memory.objects.keys
  rw [KeyMap.length_keys] at hfilter
  exact Nat.add_le_add_right hfilter _

theorem remaining_nil (s : Shared) : remaining [] [] s = s.load := by
  simp [remaining, Shared.load, Memory.keysFrom, Units.not_lt_nil, KeyMap.length_keys]

theorem load_interlude_le (o : Memory.Options) (s : Shared) : (s.interlude o).load ≤ s.load := by
  rw [← remaining_nil, ← remaining_nil]
  exact remaining_interlude_le o [] [] s

/-- A path whose key was on a page of a listing. -/
def Met {σ : Type} (events : List (Event σ)) (root : Root) (start p : Name) : Prop :=
  ∃ e ∈ events, (∃ request, e.call = .listPage start request) ∧
    ∃ k ∈ e.keys, start.isPrefixOf k ∧ root.pathOf? k = some p

theorem Met.mono {σ : Type} {events events' : List (Event σ)} {p : Name}
    (h : Met events root start p) (hsub : events ⊆ events') : Met events' root start p := by
  obtain ⟨e, he, hcall⟩ := h
  exact ⟨e, hsub he, hcall⟩

theorem Met.below {σ : Type} {events : List (Event σ)} {path p : Name} (hpath : Path.isValid path)
    (h : Met events root (root.listingPrefix path) p) : path ++ [Path.separator] <+: p := by
  obtain ⟨e, -, -, k, -, hunder, hk⟩ := h
  exact (Root.listed_path hpath hunder hk).1

theorem met_fetched (hstart : root.key.isPrefixOf start) (c : Cursor) (s : Shared) :
    let e := fetched (Memory.sharedBackend o) start c s
    ∀ p ∈ e.keys.map root.pathUnder, Met [e] root start p := by
  intro e p hp
  obtain ⟨k, hk, rfl⟩ := List.mem_map.mp hp
  have hunder := (Memory.mem_page (fetched_keys (shared_lists o) start c s ▸ hk)).2
  exact ⟨e, List.mem_singleton_self e, ⟨_, rfl⟩, k, hk, hunder, Root.pathOf?_listed hstart hunder⟩

theorem remaining_lt {c c' : Cursor} {s : Shared}
    (hne : (pageAt o.pageSize s.memory.objects.keys start c).keys ≠ [])
    (hsplit : (pageAt o.pageSize s.memory.objects.keys start c).keys ++
        Memory.keysFrom s.memory.objects.keys start c'.marker =
      Memory.keysFrom s.memory.objects.keys start c.marker) :
    remaining start c'.marker (s.interlude o) < remaining start c.marker s := by
  have hturn := remaining_interlude_le o start c'.marker s
  have hpage := List.length_pos_iff.mpr hne
  have hlength := congrArg List.length hsplit
  rw [List.length_append] at hlength
  simp only [remaining] at hturn ⊢
  omega

theorem rest_ends (hstart : root.key.isPrefixOf start) {budget : Nat} {c : Cursor}
    (hc : c.Forward) (t : Traced Shared) (hbudget : remaining start c.marker t.store < budget) :
    ∃ paths t' events,
      (rest (Memory.sharedBackend o).traced root start budget c).Gives t
        (.ok (c.gathered ++ paths)) t' ∧
      t'.events = t.events ++ events ∧ ∀ p ∈ paths, Met events root start p := by
  -- what the others may still add is in what remains from the start, so that every page lowers it
  induction budget generalizing c t with
  | zero => omega
  | succ budget ih =>
    let e := fetched (Memory.sharedBackend o) start c t.store
    let page := pageAt o.pageSize t.store.memory.objects.keys start c
    let t₁ := ((Memory.sharedBackend o).traced.answer t
      (.listPage start { marker := some c.marker })).2
    have hfetch : (fetch (Memory.sharedBackend o).traced root start c).Gives t
        (.ok (e.keys.map root.pathUnder, advance c page (e.keys.map root.pathUnder))) t₁ := by
      rw [fetched_keys (shared_lists o)]
      exact fetch_gives (traced_lists (shared_lists o)) hstart c t
    have hmet := met_fetched (o := o) hstart c t.store
    rw [rest]
    by_cases hend : page.keys = [] ∨ page.nextMarker = []
    · have hnext : advance c page (e.keys.map root.pathUnder) = .finished := if_pos hend
      refine ⟨e.keys.map root.pathUnder, t₁, [e], hfetch.bind ?_, rfl, hmet⟩
      rw [hnext]
      exact gives_pure _ _
    · obtain ⟨c', hnext, hc', hgathered, hne, hsplit, -, -⟩ :=
        advance_more t.store.memory.objects.keys_sorted start hc (e.keys.map root.pathUnder) hend
      have hlt : remaining start c'.marker t₁.store < budget :=
        Nat.lt_of_lt_of_le (remaining_lt hne hsplit) (Nat.le_of_lt_succ hbudget)
      obtain ⟨paths, t', events, hrest, hevents, hpaths⟩ := ih hc' t₁ hlt
      refine ⟨e.keys.map root.pathUnder ++ paths, t', e :: events, hfetch.bind ?_, ?_, ?_⟩
      · rw [hnext]
        rwa [hgathered, List.append_assoc] at hrest
      · rw [hevents]
        exact List.append_assoc ..
      · intro p hp
        rcases List.mem_append.mp hp with hp | hp
        · exact (hmet p hp).mono (by simp [e])
        · exact (hpaths p hp).mono (List.subset_cons_self e events)

/-- A listing that may take more pages than the load is high ends with paths that it has met. -/
theorem below_ends {budget : Nat} (root : Root) (path : Name) (t : Traced Shared)
    (hbudget : t.store.load < budget) :
    ∃ paths t' events,
      (below (Memory.sharedBackend o).traced root budget path).Gives t (.ok paths) t' ∧
      t'.events = t.events ++ events ∧
      ∀ p ∈ paths, Met events root (root.listingPrefix path) p :=
  rest_ends (Root.key_isPrefixOf_listingPrefix path) Cursor.forward_start t
    (Nat.lt_of_le_of_lt (remaining_start_le _ _) hbudget)

end Listing
end BlobTree
