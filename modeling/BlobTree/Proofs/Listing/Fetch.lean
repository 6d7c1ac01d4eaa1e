import BlobTree.Proofs.Execution
import BlobTree.Proofs.Root
import BlobTree.Proofs.Store.Page
import BlobTree.Store.Shared
import BlobTree.Store.Traced

/-!
# BlobTree.Proofs.Listing.Fetch

One page of a listing, over any store that answers with pages of its sorted keys as the memory
store does (`Backend.Lists`). The markers that come back only ever go forward, so none comes twice
and a page is the last one or has a next one.

* `fetch_gives`: what a fetch ends with and leaves behind.
* `advance_more`, `advance_cases`: how a listing goes on after a page.
* `rest_memory`: if nobody changes the store, a listing gives all of its keys in order.
-/

namespace BlobTree

variable {σ : Type}

/-- The store answers a listing call from its keys at that time, a page at a time. -/
structure Backend.Lists (b : Backend σ) (pageSize : Number) (keys : σ → List Name) : Prop where
  sorted : ∀ s, (keys s).Pairwise Units.Lt
  page : ∀ s start r,
    (b.answer s (.listPage start r)).1 = .ok (Memory.page pageSize (keys s) start r)

theorem memory_lists (o : Memory.Options) :
    (Memory.backend o).Lists o.pageSize (·.objects.keys) where
  sorted m := m.objects.keys_sorted
  page _ _ _ := rfl

theorem shared_lists (o : Memory.Options) :
    (Memory.sharedBackend o).Lists o.pageSize (·.memory.objects.keys) where
  sorted s := s.memory.objects.keys_sorted
  page _ _ _ := rfl

theorem traced_lists {b : Backend σ} {pageSize : Number} {keys : σ → List Name}
    (h : b.Lists pageSize keys) : b.traced.Lists pageSize fun t => keys t.store where
  sorted t := h.sorted t.store
  page t start r := by rw [Backend.traced_answer, h.page]

/-- No marker handed back so far is after the next page's start. -/
def Cursor.Forward (c : Cursor) : Prop :=
  ∀ marker ∈ c.seen, ¬Units.Lt c.marker marker

theorem Cursor.forward_start : ({} : Cursor).Forward := by
  intro marker hm
  cases hm

namespace Listing

open BlobTree.Action

variable {b : Backend σ} {root : Root} {start : Name} {pageSize : Number} {keys : σ → List Name}

def pageAt (pageSize : Number) (keys : List Name) (start : Name) (c : Cursor) : Page :=
  Memory.page pageSize keys start { marker := some c.marker }

theorem fetch_gives (h : b.Lists pageSize keys) (hstart : root.key.isPrefixOf start) (c : Cursor)
    (s : σ) :
    let page := pageAt pageSize (keys s) start c
    (fetch b root start c).Gives s
      (.ok (page.keys.map root.pathUnder, advance c page (page.keys.map root.pathUnder)))
      (b.answer s (.listPage start { marker := some c.marker })).2 := by
  intro page
  have hcall : (call b (.listPage start { marker := some c.marker })).Gives s (.ok page)
      (b.answer s (.listPage start { marker := some c.marker })).2 :=
    gives_call_ok (Prod.ext (h.page _ _ _) rfl)
  have hpaths : pathsOf root page.keys = .ok (page.keys.map root.pathUnder) :=
    Root.pathsOf_listed hstart fun k hk => (Memory.mem_page hk).2
  refine hcall.bind ?_
  rw [hpaths]
  exact (gives_ofExcept (.ok _) _).bind (gives_pure _ _)

/-- A page that does not end the listing leads to a later marker and what the page did not hold. -/
theorem advance_more {ks : List Name} (hsorted : ks.Pairwise Units.Lt) (start : Name) {c : Cursor}
    (hc : c.Forward) (paths : List Name) :
    let page := pageAt pageSize ks start c
    ¬(page.keys = [] ∨ page.nextMarker = []) →
    ∃ c', advance c page paths = .more c' ∧ c'.Forward ∧ c'.gathered = c.gathered ++ paths ∧
      page.keys ≠ [] ∧
      page.keys ++ Memory.keysFrom ks start c'.marker = Memory.keysFrom ks start c.marker ∧
      (∀ k ∈ page.keys, Units.Lt k c'.marker) ∧ Units.Lt c.marker c'.marker := by
  intro page hend
  obtain ⟨hkeys, hmarker⟩ := not_or.mp hend
  obtain ⟨hsplit, hbefore, hforward⟩ := Memory.page_more hsorted hkeys hmarker
  have hnew : page.nextMarker ∉ c.seen := fun hm => hc _ hm hforward
  refine ⟨⟨page.nextMarker, page.nextMarker :: c.seen, c.gathered ++ paths⟩, ?_, ?_, rfl,
    hkeys, hsplit, hbefore, hforward⟩
  · rw [advance, if_neg hend, if_neg hnew]
  · intro marker hm
    rcases List.mem_cons.mp hm with rfl | hm
    · exact Units.lt_irrefl _
    · exact fun hlt => hc marker hm (Units.lt_trans hforward hlt)

/-- A listing ends with a page that holds all that is left, or goes on. -/
theorem advance_cases {ks : List Name} (hsorted : ks.Pairwise Units.Lt)
    (hsize : (Number.ofNat 1).le pageSize) (start : Name) {c : Cursor} (hc : c.Forward)
    (paths : List Name) :
    let page := pageAt pageSize ks start c
    (advance c page paths = .finished ∧ page.keys = Memory.keysFrom ks start c.marker) ∨
    (∃ c', advance c page paths = .more c' ∧ c'.Forward ∧ c'.gathered = c.gathered ++ paths ∧
      page.keys ≠ [] ∧
      page.keys ++ Memory.keysFrom ks start c'.marker = Memory.keysFrom ks start c.marker ∧
      (∀ k ∈ page.keys, Units.Lt k c'.marker) ∧ Units.Lt c.marker c'.marker) := by
  intro page
  have hlimit : (Number.ofNat 1).le
      ((({ marker := some c.marker } : PageRequest).maxResults.getD pageSize).min pageSize) := by
    simpa using hsize
  by_cases hend : page.keys = [] ∨ page.nextMarker = []
  · exact .inl ⟨if_pos hend, Memory.page_last hsorted hlimit hend⟩
  · exact .inr (advance_more hsorted start hc paths hend)

theorem rest_memory {o : Memory.Options} (hsize : (Number.ofNat 1).le o.pageSize)
    (hstart : root.key.isPrefixOf start) (m : Memory) {budget : Nat} {c : Cursor} (hc : c.Forward)
    (hbudget : (Memory.keysFrom m.objects.keys start c.marker).length < budget) :
    (rest (Memory.backend o) root start budget c).Gives m
      (.ok (c.gathered ++ (Memory.keysFrom m.objects.keys start c.marker).map root.pathUnder)) m
    := by
  -- Every page but the last is not empty, so that fewer keys are left after it.
  induction budget generalizing c with
  | zero => omega
  | succ budget ih =>
    have hfetch := fetch_gives (memory_lists o) hstart c m
    rw [rest]
    refine hfetch.bind ?_
    rcases advance_cases m.objects.keys_sorted hsize start hc
        ((pageAt o.pageSize m.objects.keys start c).keys.map root.pathUnder) with
      ⟨hnext, hkeys⟩ | ⟨c', hnext, hc', hgathered, hne, hsplit, -, -⟩
    · simp only [hnext]
      rw [← hkeys]
      exact gives_pure _ _
    · simp only [hnext]
      rw [← hsplit, List.length_append] at hbudget
      have hpos := List.length_pos_iff.mpr hne
      have hrest := ih hc' (by omega)
      rw [hgathered] at hrest
      rwa [← hsplit, List.map_append, ← List.append_assoc]

end Listing
end BlobTree
