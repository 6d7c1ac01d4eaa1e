import BlobTree.Proofs.Listing.Fetch

/-!
# BlobTree.Proofs.Listing.Cover

What a listing has seen of a store that others change between its pages. Each page holds, as the
store was when it was fetched, the keys from its own marker to the marker of the next page, and
the last page holds the keys from its marker to the end: the pages cover adjacent intervals
(`Covers`), however the keys come and go in between.

* `Covers.ascending`, `Covers.present`, `Covers.complete`: what follows for the keys.
* `rest_covers`, `pages_covers`: a listing and its pages, fetch by fetch.
-/

namespace BlobTree
namespace Listing

variable {σ : Type}

def keysFetched (events : List (Event σ)) : List Name :=
  events.flatMap Event.keys

@[simp] theorem keysFetched_nil : keysFetched ([] : List (Event σ)) = [] := rfl

@[simp] theorem keysFetched_cons (e : Event σ) (events : List (Event σ)) :
    keysFetched (e :: events) = e.keys ++ keysFetched events := rfl

/-- The fetches go from a marker to the end, or to the marker of the page that would come next. -/
inductive Covers (keys : σ → List Name) (start : Name) :
    Name → List (Event σ) → Option Name → Prop where
  | nil (marker : Name) : Covers keys start marker [] (some marker)
  | last {marker : Name} {e : Event σ} :
      e.call = .listPage start { marker := some marker } →
      e.keys = Memory.keysFrom (keys e.before) start marker →
      Covers keys start marker [e] none
  | cons {marker next : Name} {e : Event σ} {events : List (Event σ)} {stop : Option Name} :
      e.call = .listPage start { marker := some marker } →
      e.keys ++ Memory.keysFrom (keys e.before) start next =
        Memory.keysFrom (keys e.before) start marker →
      (∀ k ∈ e.keys, Units.Lt k next) → Units.Lt marker next →
      Covers keys start next events stop →
      Covers keys start marker (e :: events) stop

namespace Covers

variable {keys : σ → List Name} {start marker : Name} {events : List (Event σ)}
  {stop : Option Name}

theorem fetches (h : Covers keys start marker events stop) :
    ∀ e ∈ events, ∃ m, e.call = .listPage start { marker := some m } := by
  induction h with
  | nil => simp
  | last hcall _ => simpa using ⟨_, hcall⟩
  | cons hcall _ _ _ _ ih =>
    intro e he
    rcases List.mem_cons.mp he with rfl | he
    · exact ⟨_, hcall⟩
    · exact ih e he

theorem present (h : Covers keys start marker events stop) :
    ∀ e ∈ events, ∀ k ∈ e.keys, k ∈ keys e.before ∧ start.isPrefixOf k := by
  induction h with
  | nil => simp
  | last _ hkeys =>
    intro e he k hk
    obtain rfl := List.mem_singleton.mp he
    obtain ⟨hmem, hstart, -⟩ := Memory.mem_keysFrom.mp (hkeys ▸ hk)
    exact ⟨hmem, hstart⟩
  | cons _ hsplit _ _ _ ih =>
    intro e he k hk
    rcases List.mem_cons.mp he with rfl | he
    · obtain ⟨hmem, hstart, -⟩ := Memory.mem_keysFrom.mp (hsplit ▸ List.mem_append_left _ hk)
      exact ⟨hmem, hstart⟩
    · exact ih e he k hk

theorem notBefore (h : Covers keys start marker events stop) :
    ∀ k ∈ keysFetched events, ¬Units.Lt k marker := by
  induction h with
  | nil => simp
  | last _ hkeys =>
    intro k hk
    rw [keysFetched_cons, keysFetched_nil, List.append_nil, hkeys] at hk
    exact (Memory.mem_keysFrom.mp hk).2.2
  | cons _ hsplit _ hforward _ ih =>
    intro k hk
    rcases List.mem_append.mp hk with hk | hk
    · exact (Memory.mem_keysFrom.mp (hsplit ▸ List.mem_append_left _ hk)).2.2
    · exact fun hlt => ih k hk (Units.lt_trans hlt hforward)

theorem ascending (hsorted : ∀ s, (keys s).Pairwise Units.Lt)
    (h : Covers keys start marker events stop) : (keysFetched events).Pairwise Units.Lt := by
  induction h with
  | nil => simp
  | last _ hkeys =>
    rw [keysFetched_cons, keysFetched_nil, List.append_nil, hkeys]
    exact Memory.keysFrom_sorted (hsorted _) _ _
  | @cons marker next e events stop _ hsplit hbefore _ hrest ih =>
    have hpage := Memory.keysFrom_sorted (hsorted e.before) start marker
    rw [← hsplit] at hpage
    rw [keysFetched_cons]
    -- What the page holds comes before the next marker, what later pages hold does not.
    refine List.pairwise_append.mpr ⟨(List.pairwise_append.mp hpage).1, ih, fun k hk k' hk' => ?_⟩
    have hafter : ¬Units.Lt k' next := hrest.notBefore k' hk'
    rcases Units.trichotomy k' next with hlt | rfl | hlt
    · exact absurd hlt hafter
    · exact hbefore k hk
    · exact Units.lt_trans (hbefore k hk) hlt

theorem complete (h : Covers keys start marker events none) {k : Name}
    (hstart : start.isPrefixOf k) (hk : ¬Units.Lt k marker)
    (hthere : ∀ e ∈ events, k ∈ keys e.before) : k ∈ keysFetched events := by
  generalize hstop : (none : Option Name) = stop at h
  induction h with
  | nil => cases hstop
  | last _ hkeys =>
    have hmem := Memory.mem_keysFrom.mpr ⟨hthere _ List.mem_cons_self, hstart, hk⟩
    simpa [hkeys] using hmem
  | @cons marker next e events stop _ hsplit _ _ _ ih =>
    rw [keysFetched_cons, List.mem_append]
    -- The key is in the page whose interval it lies in.
    by_cases hlt : Units.Lt k next
    · have hmem := Memory.mem_keysFrom.mpr ⟨hthere e List.mem_cons_self, hstart, hk⟩
      rw [← hsplit] at hmem
      refine .inl ((List.mem_append.mp hmem).resolve_right fun hlater => ?_)
      exact (Memory.mem_keysFrom.mp hlater).2.2 hlt
    · exact .inr (ih hlt (fun e' he' => hthere e' (List.mem_cons_of_mem _ he')) hstop)

end Covers

open BlobTree.Action

variable {b : Backend σ} {root : Root} {start : Name} {pageSize : Number} {keys : σ → List Name}

/-- The call for the page after a cursor, as it was answered. -/
def fetched (b : Backend σ) (start : Name) (c : Cursor) (s : σ) : Event σ where
  before := s
  call := .listPage start { marker := some c.marker }
  reply := (b.answer s (.listPage start { marker := some c.marker })).1

theorem fetched_keys (h : b.Lists pageSize keys) (start : Name) (c : Cursor) (s : σ) :
    (fetched b start c s).keys = (pageAt pageSize (keys s) start c).keys := by
  rw [Event.keys, fetched, h.page]
  rfl

theorem fetch_traced (h : b.Lists pageSize keys) (hstart : root.key.isPrefixOf start) (c : Cursor)
    (t : Traced σ) :
    let e := fetched b start c t.store
    ∃ t', (fetch b.traced root start c).Gives t
        (.ok (e.keys.map root.pathUnder,
          advance c (pageAt pageSize (keys t.store) start c) (e.keys.map root.pathUnder))) t' ∧
      t'.events = t.events ++ [e] := by
  intro e
  refine ⟨(b.traced.answer t (.listPage start { marker := some c.marker })).2, ?_, rfl⟩
  rw [fetched_keys h]
  exact fetch_gives (traced_lists h) hstart c t

theorem advance_covers (h : b.Lists pageSize keys) (hsize : (Number.ofNat 1).le pageSize)
    (start : Name) {c : Cursor} (hc : c.Forward) (paths : List Name) (s : σ) :
    let next := advance c (pageAt pageSize (keys s) start c) paths
    let e := fetched b start c s
    (next = .finished ∧ Covers keys start c.marker [e] none) ∨
    (∃ c', next = .more c' ∧ c'.Forward ∧ c'.gathered = c.gathered ++ paths ∧
      ∀ events stop, Covers keys start c'.marker events stop →
        Covers keys start c.marker (e :: events) stop) := by
  intro next e
  have hkeys := fetched_keys h start c s
  rcases advance_cases (h.sorted s) hsize start hc paths with
    ⟨hnext, hlast⟩ | ⟨c', hnext, hc', hgathered, -, hsplit, hbefore, hforward⟩
  · exact .inl ⟨hnext, .last rfl (hkeys.trans hlast)⟩
  · rw [← hkeys] at hsplit hbefore
    exact .inr ⟨c', hnext, hc', hgathered, fun events stop hcovers =>
      .cons rfl hsplit hbefore hforward hcovers⟩

theorem rest_covers (h : b.Lists pageSize keys) (hsize : (Number.ofNat 1).le pageSize)
    (hstart : root.key.isPrefixOf start) (budget : Nat) {c : Cursor} (hc : c.Forward)
    (t : Traced σ) :
    ∃ r t' events stop, (rest b.traced root start budget c).Gives t r t' ∧
      t'.events = t.events ++ events ∧ Covers keys start c.marker events stop ∧
      (r = .error .unfinished ∨
        stop = none ∧ r = .ok (c.gathered ++ (keysFetched events).map root.pathUnder)) := by
  induction budget generalizing c t with
  | zero => exact ⟨_, t, [], _, gives_unfinished t, by simp, .nil _, .inl rfl⟩
  | succ budget ih =>
    let e := fetched b start c t.store
    obtain ⟨t1, hfetch, hevents⟩ := fetch_traced h hstart c t
    rw [rest]
    rcases advance_covers h hsize start hc (e.keys.map root.pathUnder) t.store with
      ⟨hnext, hcovers⟩ | ⟨c', hnext, hc', hgathered, hcovers⟩
    · refine ⟨_, t1, [e], none, hfetch.bind ?_, hevents, hcovers, .inr ⟨rfl, rfl⟩⟩
      rw [hnext, keysFetched_cons, keysFetched_nil, List.append_nil]
      exact gives_pure _ _
    · obtain ⟨r, t', events, stop, hrest, hlaterEvents, hlater, hend⟩ := ih hc' t1
      refine ⟨r, t', e :: events, stop, hfetch.bind ?_, ?_, hcovers events stop hlater, ?_⟩
      · rw [hnext]
        exact hrest
      · rw [hlaterEvents, hevents, List.append_assoc]
        rfl
      · rw [keysFetched_cons, List.map_append, ← List.append_assoc, ← hgathered]
        exact hend

theorem pages_single (h : b.Lists pageSize keys) (hsize : (Number.ofNat 1).le pageSize)
    (hstart : root.key.isPrefixOf start) {count : Nat} (hcount : count ≤ 1) {c : Cursor}
    (hc : c.Forward) (t : Traced σ) :
    let e := fetched b start c t.store
    ∃ t' stop, (pages b.traced root start count c).Gives t
        (.ok ([e.keys.map root.pathUnder], none)) t' ∧
      t'.events = t.events ++ [e] ∧ Covers keys start c.marker [e] stop := by
  intro e
  obtain ⟨t', hfetch, hevents⟩ := fetch_traced h hstart c t
  have hpages : (pages b.traced root start count c).Gives t
      (.ok ([e.keys.map root.pathUnder], none)) t' := by
    rw [pages]
    refine hfetch.attempt_ok.bind ?_
    rcases Nat.le_one_iff_eq_zero_or_eq_one.mp hcount with rfl | rfl
    · exact gives_pure _ _
    · exact gives_pure _ _
  rcases advance_covers h hsize start hc [] t.store with
    ⟨-, hcovers⟩ | ⟨c', -, -, -, hcovers⟩
  · exact ⟨t', none, hpages, hevents, hcovers⟩
  · exact ⟨t', some c'.marker, hpages, hevents, hcovers [] _ (.nil _)⟩

/-- Only a listing that is cut short stops before the end. -/
theorem pages_covers (h : b.Lists pageSize keys) (hsize : (Number.ofNat 1).le pageSize)
    (hstart : root.key.isPrefixOf start) (count : Nat) {c : Cursor} (hc : c.Forward)
    (t : Traced σ) :
    ∃ t' events stop, (pages b.traced root start count c).Gives t
        (.ok (events.map (fun e => e.keys.map root.pathUnder), none)) t' ∧
      t'.events = t.events ++ events ∧ Covers keys start c.marker events stop ∧
      (events.length < count → stop = none) := by
  induction count generalizing c t with
  | zero =>
    obtain ⟨t', stop, hpages, hevents, hcovers⟩ := pages_single h hsize hstart (Nat.zero_le 1) hc t
    exact ⟨t', [_], stop, hpages, hevents, hcovers, fun hlt => absurd hlt (Nat.not_lt_zero _)⟩
  | succ count ih =>
    cases count with
    | zero =>
      obtain ⟨t', stop, hpages, hevents, hcovers⟩ :=
        pages_single h hsize hstart (Nat.le_refl 1) hc t
      exact ⟨t', [_], stop, hpages, hevents, hcovers, fun hlt => absurd hlt (Nat.lt_irrefl _)⟩
    | succ count =>
      let e := fetched b start c t.store
      obtain ⟨t1, hfetch, hevents⟩ := fetch_traced h hstart c t
      rw [pages]
      rcases advance_covers h hsize start hc (e.keys.map root.pathUnder) t.store with
        ⟨hnext, hcovers⟩ | ⟨c', hnext, hc', -, hcovers⟩
      · refine ⟨t1, [e], none, hfetch.attempt_ok.bind ?_, hevents, hcovers, fun _ => rfl⟩
        simp only [e, hnext, List.map_cons, List.map_nil]
        exact gives_pure _ _
      · obtain ⟨t', events, stop, hmore, hlaterEvents, hlater, hend⟩ := ih hc' t1
        refine ⟨t', e :: events, stop, hfetch.attempt_ok.bind ?_, ?_,
          hcovers events stop hlater, fun hlt => hend (Nat.lt_of_succ_lt_succ hlt)⟩
        · simp only [e, hnext, List.map_cons]
          exact hmore.bind (gives_pure _ _)
        · rw [hlaterEvents, hevents, List.append_assoc]
          rfl

end Listing
end BlobTree
