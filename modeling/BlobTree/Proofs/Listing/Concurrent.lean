import Mathlib.Data.List.Nodup
import BlobTree.Proofs.Listing.Cover

/-!
# BlobTree.Proofs.Listing.Concurrent

Listing a memory store while other clients write to it. Whatever they do between the fetches, the
keys come in ascending order and each was there when its page was fetched (`Faithful`); when the
listing comes to its end, a key that was there all along has been handed out once (`Whole`).

* `listing_exact`: this for a listing and for its pages, and the exact result when nobody else
  writes.
-/

namespace BlobTree
namespace Listing

open BlobTree.Action

/-- What was fetched from a shared store is in order and was there. -/
structure Faithful (start : Name) (events : List (Event Shared)) : Prop where
  fetches : ∀ e ∈ events, ∃ marker, e.call = .listPage start { marker := some marker }
  ascending : (keysFetched events).Pairwise Units.Lt
  present : ∀ e ∈ events, ∀ k ∈ e.keys, k ∈ e.before.memory.objects.keys ∧ start.isPrefixOf k

/-- Every key that was there at all fetches was fetched, and once. -/
def Whole (start : Name) (events : List (Event Shared)) : Prop :=
  ∀ k, start.isPrefixOf k → (∀ e ∈ events, k ∈ e.before.memory.objects.keys) →
    (keysFetched events).count k = 1

variable {start marker : Name} {events : List (Event Shared)} {stop : Option Name}

theorem faithful_of_covers (h : Covers (·.memory.objects.keys) start marker events stop) :
    Faithful start events where
  fetches := h.fetches
  ascending := h.ascending fun s => s.memory.objects.keys_sorted
  present := h.present

theorem whole_of_covers (h : Covers (·.memory.objects.keys) start [] events none) :
    Whole start events := by
  intro k hstart hthere
  have hnodup : (keysFetched events).Nodup :=
    Units.nodup_of_ascending (faithful_of_covers h).ascending
  exact List.count_eq_one_of_mem hnodup (h.complete hstart (Units.not_lt_nil k) hthere)

theorem Faithful.paths {root : Root} (hstart : root.key.isPrefixOf start)
    (h : Faithful start events) :
    ((keysFetched events).map root.pathUnder).map some =
        (keysFetched events).map root.pathOf? ∧
      (events.map fun e => e.keys.map root.pathUnder).map (·.map some) =
        events.map fun e => e.keys.map root.pathOf? := by
  have hpresent : ∀ e ∈ events, ∀ k ∈ e.keys, start.isPrefixOf k := fun e he k hk =>
    (h.present e he k hk).2
  refine ⟨Root.paths_listed hstart fun k hk => ?_, ?_⟩
  · obtain ⟨e, he, hk⟩ := List.mem_flatMap.mp hk
    exact hpresent e he k hk
  · rw [List.map_map]
    exact List.map_congr_left fun e he => Root.paths_listed hstart (hpresent e he)

/-- **Exact listings.** Of all runs among other clients, and of their pages, which end with what the
keys fetched stand for; and, with nobody else there, that the listing ends and gives every key once
and in order. -/
theorem listing_exact (o : Memory.Options) (hsize : (Number.ofNat 1).le o.pageSize)
    (dir path : Name) :
    let root := Root.ofDir dir
    let start := root.listingPrefix path
    (∀ budget (w : World (Traced Shared)), w.store.events = [] →
      ∃ r w', (below (Memory.sharedBackend o).traced root budget path).exec w = (r, w') ∧
        Faithful start w'.store.events ∧
        (r ≠ .error .unfinished → Whole start w'.store.events ∧
          ∃ paths, r = .ok paths ∧
            paths.map some = (keysFetched w'.store.events).map root.pathOf?)) ∧
    (∀ count (w : World (Traced Shared)), w.store.events = [] →
      ∃ paged w', (pages (Memory.sharedBackend o).traced root start count {}).exec w =
          (.ok (paged, none), w') ∧
        Faithful start w'.store.events ∧
        paged.map (·.map some) = w'.store.events.map (fun e => e.keys.map root.pathOf?) ∧
        (paged.length < count → Whole start w'.store.events)) ∧
    (∀ (m : Memory) budget, (m.objects.keys.filter (start.isPrefixOf ·)).length < budget →
      ∃ paths, paths.map some =
          (m.objects.keys.filter (start.isPrefixOf ·)).map root.pathOf? ∧
        (below (Memory.backend o) root budget path).Gives m (.ok paths) m) := by
  intro root start
  have hstart : root.key.isPrefixOf start := Root.key_isPrefixOf_listingPrefix path
  refine ⟨fun budget w hw => ?_, fun count w hw => ?_, fun m budget hbudget => ?_⟩
  · obtain ⟨r, t', events, stop, hrun, hevents, hcovers, hend⟩ :=
      rest_covers (shared_lists o) hsize hstart budget Cursor.forward_start w.store
    obtain ⟨w', hexec, rfl⟩ := hrun w rfl
    rw [hw, List.nil_append] at hevents
    subst hevents
    have hfaithful := faithful_of_covers hcovers
    refine ⟨r, w', hexec, hfaithful, fun hfinished => ?_⟩
    rcases hend with hunfinished | ⟨rfl, rfl⟩
    · exact absurd hunfinished hfinished
    · exact ⟨whole_of_covers hcovers, _, rfl, (hfaithful.paths hstart).1⟩
  · obtain ⟨t', events, stop, hrun, hevents, hcovers, hend⟩ :=
      pages_covers (shared_lists o) hsize hstart count Cursor.forward_start w.store
    obtain ⟨w', hexec, rfl⟩ := hrun w rfl
    rw [hw, List.nil_append] at hevents
    subst hevents
    have hfaithful := faithful_of_covers hcovers
    refine ⟨_, w', hexec, hfaithful, (hfaithful.paths hstart).2, fun hlt => ?_⟩
    rw [List.length_map] at hlt
    obtain rfl := hend hlt
    exact whole_of_covers hcovers
  · have hall : Memory.keysFrom m.objects.keys start [] =
        m.objects.keys.filter (start.isPrefixOf ·) := by
      simp [Memory.keysFrom, Units.not_lt_nil]
    have hrest := rest_memory hsize hstart m Cursor.forward_start (hall ▸ hbudget)
    rw [hall, List.nil_append] at hrest
    exact ⟨_, Root.paths_listed hstart fun k hk => (List.mem_filter.mp hk).2, hrest⟩

/-- Three objects, one key to a page, and a client that deletes the second object and puts a
fourth one in place while the first page is being looked at. -/
def busy : Shared where
  memory :=
    let first := Memory.write {} default "a".toList [1] .block
    let second := first.write {} "b".toList [2] .block
    second.write {} "c".toList [3] .block
  coming := [[.mutate (.delete "b".toList), .call (.put "d".toList [4])]]

theorem listing_exact_busy :
    let o : Memory.Options := { pageSize := .ofNat 1 }
    (Number.ofNat 1).le o.pageSize ∧
    ∃ w', (below (Memory.sharedBackend o).traced (Root.ofDir []) 9 []).exec (.fresh ⟨busy, []⟩) =
        (.ok ["/a".toList, "/c".toList, "/d".toList], w') ∧
      Faithful [] w'.store.events ∧ Whole [] w'.store.events := by
  intro o
  have hsize : (Number.ofNat 1).le o.pageSize := by decide
  obtain ⟨r, w', hexec, hfaithful, hend⟩ :=
    (listing_exact o hsize [] []).1 9 (.fresh ⟨busy, []⟩) rfl
  have hr : ((below (Memory.sharedBackend o).traced (Root.ofDir []) 9 []).exec
      (.fresh ⟨busy, []⟩)).1 = .ok ["/a".toList, "/c".toList, "/d".toList] := by
    decide +kernel
  rw [hexec] at hr
  obtain rfl : r = _ := hr
  exact ⟨hsize, w', hexec, hfaithful, (hend (by simp)).1⟩

end Listing
end BlobTree
