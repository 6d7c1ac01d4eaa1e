import Mathlib.Data.List.Perm.Subperm
import BlobTree.Proofs.Execution
import BlobTree.Proofs.Root
import BlobTree.Store.Traced

/-!
# BlobTree.Proofs.Listing.Markers

A listing over a store that keeps to no order of its own. Its pages may hold any keys under the
root and any markers, and a marker may come back after any number of pages. Every page but the
first is asked for with the marker of the page before it, and a listing goes on only while the
markers are new, so none is asked for twice.

* `Backend.Serves`: all that is assumed of the store.
* `GoOn`, `Ends`: the pages after which a listing goes on, and how it ends with its last page.
* `after`, `advance_after`: the cursor holds the markers and the paths of the pages so far.
* `rest_follows`: by induction on the pages that may still be taken; `listing_follows_markers`: a
  whole listing, and how many pages it takes of a store with so many markers.
-/

namespace BlobTree

variable {σ : Type}

def Call.page? : (c : Call) → Except StoreError c.Reply → Option Page
  | .listPage _ _, .ok page => some page
  | _, _ => none

/-- The page that a call was answered with, if it asked for one. -/
def Event.page? (e : Event σ) : Option Page :=
  e.call.page? e.reply

/-- Every listing call is answered with a page, whose keys begin as the root's do. -/
def Backend.Serves (b : Backend σ) (root : Root) : Prop :=
  ∀ s start request, ∃ page, (b.answer s (.listPage start request)).1 = .ok page ∧
    ∀ k ∈ page.keys, root.key.isPrefixOf k

/-- A store that answers listing calls with one page of a sequence after the other, whatever they
ask for, and refuses all other calls. -/
def Backend.ofPages (pages : Nat → Page) : Backend Nat where
  maxPutSize := .ofNat 0
  maxAppendSize := .ofNat 0
  answer n c :=
    match c with
    | .listPage _ _ => (.ok (pages n), n + 1)
    | _ => (.error (.broken "a store of pages"), n)

theorem ofPages_serves {pages : Nat → Page} {root : Root}
    (h : ∀ n, ∀ k ∈ (pages n).keys, root.key.isPrefixOf k) : (Backend.ofPages pages).Serves root :=
  fun n _ _ => ⟨pages n, rfl, h n⟩

namespace Listing

open BlobTree.Action

/-- Each page has keys and a marker, and no marker comes twice. -/
structure GoOn (pages : List Page) : Prop where
  keys : ∀ page ∈ pages, page.keys ≠ []
  marker : ∀ page ∈ pages, page.nextMarker ≠ []
  fresh : (pages.map (·.nextMarker)).Nodup

/-- The markers that pages are asked for with, of which the first is given. -/
def asked (marker : Name) (pages : List Page) : List Name :=
  (marker :: pages.map (·.nextMarker)).take pages.length

/-- The paths of all keys on some pages. -/
def PathsOf (root : Root) (pages : List Page) (paths : List Name) : Prop :=
  paths.map some = (pages.flatMap (·.keys)).map root.pathOf?

/-- How a listing ends that may take so many pages. -/
inductive Ends (root : Root) (start : Name) (budget : Nat) :
    List Page → Except Stop (List Name) → Prop where
  /-- The first page without keys or without a marker. -/
  | whole {before : List Page} {page : Page} {paths : List Name} :
      GoOn before → (page.keys = [] ∨ page.nextMarker = []) →
      PathsOf root (before ++ [page]) paths → Ends root start budget (before ++ [page]) (.ok paths)
  /-- The first page with keys and with a marker that an earlier page has handed back. -/
  | repeated {before : List Page} {page : Page} {paths : List Name} :
      GoOn before → page.keys ≠ [] → page.nextMarker ≠ [] →
      page.nextMarker ∈ before.map (·.nextMarker) → PathsOf root (before ++ [page]) paths →
      Ends root start budget (before ++ [page])
        (.error (.failed (.repeatedMarker start page.nextMarker paths)))
  /-- No page so far has ended the listing. -/
  | cutShort {pages : List Page} :
      GoOn pages → pages.length = budget → Ends root start budget pages (.error .unfinished)

variable {b : Backend σ} {root : Root} {start : Name} {pages before : List Page} {page : Page}

theorem goOn_nil : GoOn [] :=
  ⟨by simp, by simp, List.nodup_nil⟩

theorem GoOn.snoc (h : GoOn before) (hkeys : page.keys ≠ []) (hmarker : page.nextMarker ≠ [])
    (hnew : page.nextMarker ∉ before.map (·.nextMarker)) : GoOn (before ++ [page]) := by
  refine ⟨fun p hp => ?_, fun p hp => ?_, ?_⟩
  · rcases List.mem_append.mp hp with hp | hp
    · exact h.keys p hp
    · rwa [List.mem_singleton.mp hp]
  · rcases List.mem_append.mp hp with hp | hp
    · exact h.marker p hp
    · rwa [List.mem_singleton.mp hp]
  · rw [List.map_append, List.nodup_append]
    refine ⟨h.fresh, by simp, fun m hm m' hm' heq => ?_⟩
    obtain rfl : m' = page.nextMarker := by simpa using hm'
    exact hnew (heq ▸ hm)

theorem GoOn.nodup (h : GoOn pages) : ([] :: pages.map (·.nextMarker)).Nodup := by
  refine List.nodup_cons.mpr ⟨fun hnil => ?_, h.fresh⟩
  obtain ⟨p, hp, hmarker⟩ := List.mem_map.mp hnil
  exact h.marker p hp hmarker

theorem GoOn.length_le (h : GoOn pages) {markers : List Name}
    (hmarkers : ∀ page ∈ pages, page.nextMarker ∈ markers) : pages.length ≤ markers.length := by
  have hsub : pages.map (·.nextMarker) ⊆ markers := by
    intro m hm
    obtain ⟨p, hp, rfl⟩ := List.mem_map.mp hm
    exact hmarkers p hp
  have hlength := (List.subperm_of_subset h.fresh hsub).length_le
  rwa [List.length_map] at hlength

theorem asked_cons (marker : Name) (page : Page) (pages : List Page) :
    asked marker (page :: pages) = marker :: asked page.nextMarker pages := by
  simp [asked]

theorem asked_snoc (marker : Name) (before : List Page) (page : Page) :
    asked marker (before ++ [page]) = marker :: before.map (·.nextMarker) := by
  simp [asked]

def after (root : Root) (pages : List Page) : Cursor where
  marker := (pages.getLast?.map (·.nextMarker)).getD []
  seen := (pages.map (·.nextMarker)).reverse
  gathered := (pages.flatMap (·.keys)).map root.pathUnder

theorem after_snoc_gathered (root : Root) (before : List Page) (page : Page) :
    (after root (before ++ [page])).gathered =
      (after root before).gathered ++ page.keys.map root.pathUnder := by
  simp [after]

theorem advance_after (root : Root) (before : List Page) (page : Page) :
    advance (after root before) page (page.keys.map root.pathUnder) =
      if page.keys = [] ∨ page.nextMarker = [] then .finished
      else if page.nextMarker ∈ before.map (·.nextMarker) then .repeated page.nextMarker
      else .more (after root (before ++ [page])) := by
  simp [advance, after]

/-- The cursor has gathered the paths of all keys so far. -/
theorem pathsOf_after (h : ∀ page ∈ pages, ∀ k ∈ page.keys, root.key.isPrefixOf k) :
    PathsOf root pages (after root pages).gathered := by
  rw [PathsOf, after, List.map_map]
  refine List.map_congr_left fun k hk => ?_
  obtain ⟨page, hpage, hk⟩ := List.mem_flatMap.mp hk
  exact (Root.pathOf?_eq (h page hpage k hk)).symm

theorem fetch_served (hb : b.Serves root) (start : Name) (c : Cursor) (w : World (Traced σ)) :
    ∃ page store e, e.call = .listPage start { marker := some c.marker } ∧
      Event.page? e = some page ∧ (∀ k ∈ page.keys, root.key.isPrefixOf k) ∧
      (fetch b.traced root start c).exec w =
        (.ok (page.keys.map root.pathUnder, advance c page (page.keys.map root.pathUnder)),
          { w with store := ⟨store, w.store.events ++ [e]⟩ }) := by
  let call : Call := .listPage start { marker := some c.marker }
  let answered := b.answer w.store.store call
  obtain ⟨page, hpage, hkeys⟩ := hb w.store.store start { marker := some c.marker }
  have hpaths : pathsOf root page.keys = .ok (page.keys.map root.pathUnder) :=
    Root.pathsOf_listed (List.isPrefixOf_iff_prefix.mpr List.prefix_rfl) hkeys
  have hcall : (Action.call b.traced call).exec w =
      (.ok page, { w with
        store := ⟨answered.2, w.store.events ++ [⟨w.store.store, call, answered.1⟩]⟩ }) := by
    rw [exec_call, Backend.traced_answer, hpage]
    rfl
  refine ⟨page, answered.2, ⟨w.store.store, call, answered.1⟩, rfl, ?_, hkeys, ?_⟩
  · simp only [Event.page?, answered, call, hpage, Call.page?]
  · rw [fetch, exec_bind_ok hcall, hpaths]
    rfl

theorem rest_follows (hb : b.Serves root) (start : Name) (budget : Nat) (hbefore : GoOn before)
    (hunder : ∀ page ∈ before, ∀ k ∈ page.keys, root.key.isPrefixOf k) (w : World (Traced σ)) :
    ∃ r store events later,
      (rest b.traced root start budget (after root before)).exec w =
        (r, { w with store := ⟨store, w.store.events ++ events⟩ }) ∧
      events.map Event.page? = later.map some ∧
      events.map (·.call) =
        (asked (after root before).marker later).map
          (fun m => .listPage start { marker := some m }) ∧
      Ends root start (before.length + budget) (before ++ later) r := by
  induction budget generalizing before w with
  | zero =>
    refine ⟨.error .unfinished, w.store.store, [], [], ?_, rfl, rfl, ?_⟩
    · rw [List.append_nil]
      rfl
    · rw [List.append_nil]
      exact .cutShort hbefore rfl
  | succ budget ih =>
    obtain ⟨page, store, e, hcall, hpage, hkeys, hfetch⟩ :=
      fetch_served hb start (after root before) w
    have hunder' : ∀ p ∈ before ++ [page], ∀ k ∈ p.keys, root.key.isPrefixOf k := by
      intro p hp
      rcases List.mem_append.mp hp with hp | hp
      · exact hunder p hp
      · rwa [List.mem_singleton.mp hp]
    have hpaths := pathsOf_after hunder'
    rw [after_snoc_gathered] at hpaths
    rw [advance_after] at hfetch
    rw [rest, exec_bind_ok hfetch]
    by_cases hend : page.keys = [] ∨ page.nextMarker = []
    · rw [if_pos hend]
      exact ⟨_, store, [e], [page], rfl, by simp [hpage], by simp [hcall, asked],
        .whole hbefore hend hpaths⟩
    · rw [if_neg hend]
      obtain ⟨hsome, hmarker⟩ := not_or.mp hend
      by_cases hseen : page.nextMarker ∈ before.map (·.nextMarker)
      · rw [if_pos hseen]
        exact ⟨_, store, [e], [page], rfl, by simp [hpage], by simp [hcall, asked],
          .repeated hbefore hsome hmarker hseen hpaths⟩
      · rw [if_neg hseen]
        -- the page joins those that the cursor has behind it
        obtain ⟨r, store', events, later, hrest, hpages, hcalls, hends⟩ :=
          ih (hbefore.snoc hsome hmarker hseen) hunder'
            { w with store := ⟨store, w.store.events ++ [e]⟩ }
        have hmarker : (after root (before ++ [page])).marker = page.nextMarker := by simp [after]
        refine ⟨r, store', e :: events, page :: later, ?_, ?_, ?_, ?_⟩
        · rw [hrest, List.append_assoc]
          rfl
        · rw [List.map_cons, hpage, hpages, List.map_cons]
        · rw [List.map_cons, hcall, hcalls, hmarker, asked_cons, List.map_cons]
        · rw [List.length_append, List.length_singleton, List.append_assoc] at hends
          rwa [Nat.add_comm budget, ← Nat.add_assoc]

variable {budget : Nat} {r : Except Stop (List Name)}

theorem Ends.nodup_asked (h : Ends root start budget pages r) : (asked [] pages).Nodup := by
  cases h with
  | whole hgo =>
    rw [asked_snoc]
    exact hgo.nodup
  | repeated hgo =>
    rw [asked_snoc]
    exact hgo.nodup
  | cutShort hgo => exact hgo.nodup.sublist (List.take_sublist _ _)

theorem Ends.length_le (h : Ends root start budget pages r) {markers : List Name}
    (hmarkers : ∀ page ∈ pages, page.nextMarker ≠ [] → page.nextMarker ∈ markers) :
    pages.length ≤ markers.length + 1 ∧ (markers.length < budget → r ≠ .error .unfinished) := by
  have hfront {front : List Page} (hgo : GoOn front) (hsub : front ⊆ pages) :
      front.length ≤ markers.length :=
    hgo.length_le fun page hpage => hmarkers page (hsub hpage) (hgo.marker page hpage)
  cases h with
  | whole hgo =>
    have hlength := hfront hgo (List.subset_append_left _ _)
    rw [List.length_append, List.length_singleton]
    exact ⟨Nat.succ_le_succ hlength, by simp⟩
  | repeated hgo =>
    have hlength := hfront hgo (List.subset_append_left _ _)
    rw [List.length_append, List.length_singleton]
    exact ⟨Nat.succ_le_succ hlength, by simp⟩
  | cutShort hgo hbudget =>
    have hlength := hfront hgo (List.Subset.refl _)
    exact ⟨Nat.le_succ_of_le hlength, fun hlt => by omega⟩

/-- **Listings follow the markers.** Whatever pages the store answers with: the first page is asked
for with the empty marker and every other one with the marker of the page before it, no marker is
asked for twice, nothing else is done, and the listing ends with the first page that has no keys, no
marker, or a marker that has come before. -/
theorem listing_follows_markers (b : Backend σ) (root : Root) (hb : b.Serves root) (path : Name)
    (budget : Nat) (w : World (Traced σ)) :
    let start := root.listingPrefix path
    ∃ r store events pages,
      (below b.traced root budget path).exec w =
        (r, { w with store := ⟨store, w.store.events ++ events⟩ }) ∧
      events.map Event.page? = pages.map some ∧
      events.map (·.call) =
        (asked [] pages).map (fun m => .listPage start { marker := some m }) ∧
      (asked [] pages).Nodup ∧ Ends root start budget pages r ∧
      ∀ markers : List Name,
        (∀ page ∈ pages, page.nextMarker ≠ [] → page.nextMarker ∈ markers) →
        pages.length ≤ markers.length + 1 ∧
          (markers.length < budget → r ≠ .error .unfinished) := by
  intro start
  obtain ⟨r, store, events, pages, hrun, hpages, hcalls, hends⟩ :=
    rest_follows hb start budget goOn_nil (by simp) w
  rw [List.length_nil, Nat.zero_add, List.nil_append] at hends
  exact ⟨r, store, events, pages, hrun, hpages, hcalls, hends.nodup_asked, hends,
    fun markers hmarkers => hends.length_le hmarkers⟩

/-- Markers that go round between the second and the third page. -/
theorem listing_follows_markers_cycle :
    let root := Root.ofDir "/r".toList
    let pages (n : Nat) : Page :=
      ⟨["r/x".toList], if n = 0 then ['a'] else if n % 2 = 1 then ['b'] else ['c']⟩
    let b := Backend.ofPages pages
    let start := root.listingPrefix []
    let ended := (below b.traced root 10 []).exec (.fresh ⟨0, []⟩)
    let paths := List.replicate 4 "/x".toList
    b.Serves root ∧ ended.1 = .error (.failed (.repeatedMarker start ['b'] paths)) ∧
    ∃ pages, asked [] pages = [[], ['a'], ['b'], ['c']] ∧ Ends root start 10 pages ended.1 := by
  intro root pages b start ended paths
  have hserves : b.Serves root := by
    refine ofPages_serves fun n k hk => ?_
    obtain rfl : k = "r/x".toList := by simpa [pages] using hk
    decide
  have hcalls : ended.2.store.events.map (·.call) =
      [[], ['a'], ['b'], ['c']].map fun m => .listPage start { marker := some m } := by
    decide +kernel
  obtain ⟨r, store, events, answered, hrun, -, hasked, -, hends, -⟩ :=
    listing_follows_markers b root hserves [] 10 (.fresh ⟨0, []⟩)
  have hended : ended = (r, { (World.fresh ⟨0, []⟩ : World (Traced Nat)) with
      store := ⟨store, [] ++ events⟩ }) := hrun
  rw [hended] at hcalls ⊢
  refine ⟨hserves, ?_, answered, ?_, hends⟩
  · rw [← congrArg Prod.fst hended]
    decide +kernel
  · refine List.map_injective_iff.mpr (fun m m' heq => ?_) (hasked.symm.trans hcalls)
    cases heq
    rfl

end Listing
end BlobTree
