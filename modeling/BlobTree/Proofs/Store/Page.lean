import BlobTree.Proofs.Number.Rounding
import BlobTree.Store.Memory

/-!
# BlobTree.Proofs.Store.Page

What a page of the memory store's listing holds. The keys of a listing that are not before a
marker are an interval of the sorted keys (`keysFrom`); a page is the first part of it and its marker
is the first key of what is left.

* `page_spec`: that; the page is not empty if its size is at least one.
* `page_last`: a page of that size that ends the listing holds all of the interval.
* `page_more`: any other page and the interval from its marker on are the interval, split.
* `mem_page`: a page holds keys of the store that begin as asked, whatever its size.
-/

namespace BlobTree
namespace Memory

theorem le_cutAt {len n : Nat} {d : Number} (hlen : n ≤ len) (h : (Number.ofNat n).le d) :
    n ≤ cutAt len d := by
  cases d with
  | nan => cases h
  | negInf => cases h
  | posInf => exact hlen
  | finite q =>
    have hq : (n : Rat) ≤ q := by simpa [Number.ofNat, Number.le, Number.lt] using h
    have hnum : (n : Int) * q.den ≤ q.num := Number.le_num_of_natCast_le hq
    have htrunc : (n : Int) ≤ Number.truncRat q := by
      have hden : 0 < (q.den : Int) := by exact_mod_cast q.den_pos
      have hzero : 0 ≤ (n : Int) * q.den :=
        Int.mul_nonneg (Int.natCast_nonneg _) (Int.natCast_nonneg _)
      rw [Number.truncRat, Int.tdiv_eq_ediv_of_nonneg (le_trans hzero hnum)]
      exact (Int.le_ediv_iff_mul_le hden).mpr hnum
    simp only [cutAt]
    rw [if_neg (by omega)]
    omega

theorem succ_le_cutAt {len n : Nat} {limit : Number} (hn : n < len)
    (h : (Number.ofNat 1).le limit) : n + 1 ≤ cutAt len (Number.placeAfter n limit) :=
  le_cutAt hn (Number.le_placeAfter h)

theorem mem_page {pageSize : Number} {keys : List Name} {start k : Name} {r : PageRequest}
    (h : k ∈ (page pageSize keys start r).keys) : k ∈ keys ∧ start.isPrefixOf k := by
  have hmem : k ∈ keys.filter (start.isPrefixOf ·) := List.mem_of_mem_take (List.mem_of_mem_drop h)
  exact List.mem_filter.mp hmem

/-- The keys that begin with `start` and are not before `marker`. -/
def keysFrom (keys : List Name) (start marker : Name) : List Name :=
  keys.filter fun k => start.isPrefixOf k && !decide (Units.Lt k marker)

theorem mem_keysFrom {keys : List Name} {start marker k : Name} :
    k ∈ keysFrom keys start marker ↔ k ∈ keys ∧ start.isPrefixOf k ∧ ¬Units.Lt k marker := by
  simp [keysFrom]

theorem keysFrom_sorted {keys : List Name} (h : keys.Pairwise Units.Lt) (start marker : Name) :
    (keysFrom keys start marker).Pairwise Units.Lt :=
  h.filter _

theorem drop_takeWhile_lt {found : List Name} (h : found.Pairwise Units.Lt) (marker : Name) :
    found.drop (found.takeWhile fun k => decide (Units.Lt k marker)).length =
      found.filter fun k => !decide (Units.Lt k marker) := by
  induction found with
  | nil => rfl
  | cons k rest ih =>
    obtain ⟨hhead, htail⟩ := List.pairwise_cons.mp h
    by_cases hk : Units.Lt k marker
    · simpa [hk] using ih htail
    · have hrest : ∀ k' ∈ rest, ¬Units.Lt k' marker := fun k' hk' hlt =>
        hk (Units.lt_trans (hhead k' hk') hlt)
      have hall : rest.filter (fun k => !decide (Units.Lt k marker)) = rest :=
        List.filter_eq_self.mpr fun k' hk' => by simp [hrest k' hk']
      simp [hk, hall]

theorem page_spec {pageSize : Number} {keys : List Name} (hsorted : keys.Pairwise Units.Lt)
    (start : Name) (r : PageRequest) :
    ∃ n, page pageSize keys start r =
        ⟨(keysFrom keys start (r.marker.getD [])).take n,
          ((keysFrom keys start (r.marker.getD [])).drop n).head?.getD []⟩ ∧
      ((Number.ofNat 1).le ((r.maxResults.getD pageSize).min pageSize) →
        keysFrom keys start (r.marker.getD []) ≠ [] → 0 < n) := by
  let marker := r.marker.getD []
  let found := keys.filter (start.isPrefixOf ·)
  let first := (found.takeWhile fun k => decide (Units.Lt k marker)).length
  let limit := (r.maxResults.getD pageSize).min pageSize
  let stop := cutAt found.length (Number.placeAfter first limit)
  have hrest : found.drop first = keysFrom keys start marker := by
    show found.drop (found.takeWhile _).length = _
    rw [drop_takeWhile_lt (hsorted.filter _)]
    simp [keysFrom, List.filter_filter, Bool.and_comm]
  have hkeys : slice found first (Number.placeAfter first limit) =
      (keysFrom keys start marker).take (stop - first) := by
    rw [slice, List.drop_take, hrest]
  refine ⟨stop - first, ?_, ?_⟩
  · show Page.mk _ _ = _
    rw [hkeys]
    congr 2
    rw [← hrest, ← List.getElem?_drop, List.head?_drop, List.length_take]
    rcases Nat.le_total (stop - first) (found.drop first).length with hle | hle
    · rw [Nat.min_eq_left hle]
    · rw [Nat.min_eq_right hle, List.getElem?_eq_none (Nat.le_refl _), List.getElem?_eq_none hle]
  · intro hlimit hne
    rw [← hrest] at hne
    have hlt : first < found.length := by
      by_contra hge
      exact hne (List.drop_eq_nil_of_le (Nat.le_of_not_lt hge))
    have hstop : first + 1 ≤ stop := succ_le_cutAt hlt hlimit
    omega

variable {pageSize : Number} {keys : List Name} {start : Name} {r : PageRequest}

/-- What comes after a later marker is the end of what comes after an earlier one. -/
theorem filter_keysFrom {marker m : Name} (hm : ¬Units.Lt m marker) :
    (keysFrom keys start marker).filter (fun k => !decide (Units.Lt k m)) =
      keysFrom keys start m := by
  simp only [keysFrom, List.filter_filter]
  refine List.filter_congr fun k _ => ?_
  by_cases hk : Units.Lt k m
  · simp [hk]
  · have hk' : ¬Units.Lt k marker := fun hlt => hm (Units.lt_of_not_lt_of_lt hk hlt)
    simp [hk, hk']

theorem sorted_split {front rest : List Name} {m : Name}
    (h : (front ++ m :: rest).Pairwise Units.Lt) :
    (∀ k ∈ front, Units.Lt k m) ∧
      (front ++ m :: rest).filter (fun k => !decide (Units.Lt k m)) = m :: rest := by
  obtain ⟨-, hrest, hcross⟩ := List.pairwise_append.mp h
  have hbefore : ∀ k ∈ front, Units.Lt k m := fun k hk => hcross k hk m List.mem_cons_self
  refine ⟨hbefore, ?_⟩
  have hfront : front.filter (fun k => !decide (Units.Lt k m)) = [] :=
    List.filter_eq_nil_iff.mpr fun k hk => by simp [hbefore k hk]
  have hafter : ∀ k ∈ m :: rest, ¬Units.Lt k m := by
    intro k hk
    rcases List.mem_cons.mp hk with rfl | hk
    · exact Units.lt_irrefl k
    · exact Units.lt_asymm ((List.pairwise_cons.mp hrest).1 k hk)
  rw [List.filter_append, hfront, List.nil_append, List.filter_eq_self]
  intro k hk
  simp [hafter k hk]

theorem page_last (hsorted : keys.Pairwise Units.Lt)
    (hlimit : (Number.ofNat 1).le ((r.maxResults.getD pageSize).min pageSize))
    (hend : (page pageSize keys start r).keys = [] ∨
      (page pageSize keys start r).nextMarker = []) :
    (page pageSize keys start r).keys = keysFrom keys start (r.marker.getD []) := by
  obtain ⟨n, hpage, hn⟩ := page_spec hsorted start r
  replace hn := hn hlimit
  rw [hpage] at hend ⊢
  have hK := keysFrom_sorted hsorted start (r.marker.getD [])
  generalize keysFrom keys start (r.marker.getD []) = K at *
  rcases hend with hnil | hnil
  · rcases List.take_eq_nil_iff.mp hnil with hzero | hempty
    · by_contra hne
      have hpos := hn fun hK0 => hne (by simp [hK0])
      omega
    · simp [hempty]
  · cases hrest : K.drop n with
    | nil => exact List.take_of_length_le (List.drop_eq_nil_iff.mp hrest)
    | cons m rest =>
      -- The marker would be empty, but the page is not, and its keys come before the marker.
      have hm : m = [] := by simpa [hrest] using hnil
      have hsplit : K.take n ++ m :: rest = K := by rw [← hrest, List.take_append_drop]
      have hne : K.take n ≠ [] := by
        intro hfirst
        rcases List.take_eq_nil_iff.mp hfirst with hzero | hempty
        · have hpos := hn fun h => by simp [h] at hrest
          omega
        · simp [hempty] at hrest
      rw [← hsplit] at hK
      obtain ⟨k, hk⟩ := List.exists_mem_of_ne_nil _ hne
      have hlt : Units.Lt k m := (sorted_split hK).1 k hk
      rw [hm] at hlt
      exact absurd hlt (Units.not_lt_nil k)

theorem page_more (hsorted : keys.Pairwise Units.Lt)
    (hkeys : (page pageSize keys start r).keys ≠ [])
    (hmarker : (page pageSize keys start r).nextMarker ≠ []) :
    (page pageSize keys start r).keys ++
        keysFrom keys start (page pageSize keys start r).nextMarker =
      keysFrom keys start (r.marker.getD []) ∧
    (∀ k ∈ (page pageSize keys start r).keys,
      Units.Lt k (page pageSize keys start r).nextMarker) ∧
    Units.Lt (r.marker.getD []) (page pageSize keys start r).nextMarker := by
  obtain ⟨n, hpage, -⟩ := page_spec hsorted start r
  rw [hpage] at hkeys hmarker ⊢
  have hK := keysFrom_sorted hsorted start (r.marker.getD [])
  have hnot : ∀ k ∈ keysFrom keys start (r.marker.getD []), ¬Units.Lt k (r.marker.getD []) :=
    fun k hk => (mem_keysFrom.mp hk).2.2
  cases hrest : (keysFrom keys start (r.marker.getD [])).drop n with
  | nil => simp [hrest] at hmarker
  | cons m rest =>
    have hsplit := List.take_append_drop n (keysFrom keys start (r.marker.getD []))
    rw [hrest] at hsplit
    rw [← hsplit] at hK
    obtain ⟨hbefore, hfrom⟩ := sorted_split hK
    rw [hsplit] at hfrom
    have hm : ¬Units.Lt m (r.marker.getD []) := hnot m (by rw [← hsplit]; simp)
    rw [filter_keysFrom hm] at hfrom
    simp only [List.head?_cons, Option.getD_some]
    refine ⟨by rw [hfrom, hsplit], hbefore, ?_⟩
    obtain ⟨k, hk⟩ := List.exists_mem_of_ne_nil _ hkeys
    exact Units.lt_of_not_lt_of_lt (hnot k (List.mem_of_mem_take hk)) (hbefore k hk)

end Memory
end BlobTree
