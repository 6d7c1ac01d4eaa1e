import BlobTree.Text.Units

/-!
# BlobTree.KeyMap

Finite maps from names, kept as a list sorted by `Units.Lt`. The invariant is part of the type,
so equal contents are equal values (`KeyMap.ext_get?`) and the keys come out in order.

* `get?_insert`, `get?_erase`, `get?_keep`: one equation per operation.
* `mem_keys`: a key is listed exactly when it has a value.
-/

namespace BlobTree

structure KeyMap (α : Type) where
  entries : List (Name × α) := []
  sorted : entries.Pairwise (fun a b => Units.Lt a.1 b.1) := by exact List.Pairwise.nil
  deriving DecidableEq

namespace KeyMap

variable {α : Type}

def empty : KeyMap α := {}

instance : Inhabited (KeyMap α) := ⟨empty⟩

/-- The value stored first under a key. -/
def find (k : Name) : List (Name × α) → Option α
  | [] => none
  | (k', v) :: rest => if k = k' then some v else find k rest

def get? (m : KeyMap α) (k : Name) : Option α :=
  find k m.entries

def contains (m : KeyMap α) (k : Name) : Bool :=
  (m.get? k).isSome

theorem contains_of_get?_some {m : KeyMap α} {k : Name} {v : α} (h : m.get? k = some v) :
    m.contains k = true := by
  rw [contains, h]
  rfl

theorem contains_of_get?_none {m : KeyMap α} {k : Name} (h : m.get? k = none) :
    m.contains k = false := by
  rw [contains, h]
  rfl

def keys (m : KeyMap α) : List Name :=
  m.entries.map (·.1)

def size (m : KeyMap α) : Nat :=
  m.entries.length

/-- Replaces the value of a key or puts the pair in its place. -/
def place (k : Name) (v : α) : List (Name × α) → List (Name × α)
  | [] => [(k, v)]
  | (k', v') :: rest =>
    if k = k' then (k, v) :: rest
    else if Units.Lt k k' then (k, v) :: (k', v') :: rest
    else (k', v') :: place k v rest

theorem mem_place {k : Name} {v : α} {l : List (Name × α)} {e : Name × α}
    (h : e ∈ place k v l) : e = (k, v) ∨ e ∈ l := by
  induction l with
  | nil => simpa [place] using h
  | cons a rest ih =>
    simp only [place] at h
    split at h
    · rcases List.mem_cons.mp h with h | h
      · exact .inl h
      · exact .inr (List.mem_cons_of_mem _ h)
    · split at h
      · simpa using h
      · rcases List.mem_cons.mp h with h | h
        · exact .inr (h ▸ List.mem_cons_self)
        · exact (ih h).imp id (List.mem_cons_of_mem _)

theorem place_sorted (k : Name) (v : α) {l : List (Name × α)}
    (h : l.Pairwise (fun a b => Units.Lt a.1 b.1)) :
    (place k v l).Pairwise (fun a b => Units.Lt a.1 b.1) := by
  induction l with
  | nil => simp [place]
  | cons a rest ih =>
    obtain ⟨hhead, htail⟩ := List.pairwise_cons.mp h
    simp only [place]
    split
    · next he => exact List.pairwise_cons.mpr ⟨he ▸ hhead, htail⟩
    · next hne =>
      split
      · next hlt =>
        refine List.pairwise_cons.mpr ⟨fun e he => ?_, h⟩
        rcases List.mem_cons.mp he with rfl | he
        · exact hlt
        · exact Units.lt_trans hlt (hhead e he)
      · next hnlt =>
        refine List.pairwise_cons.mpr ⟨fun e he => ?_, ih htail⟩
        rcases mem_place he with rfl | he
        · exact ((Units.trichotomy k a.1).resolve_left hnlt).resolve_left hne
        · exact hhead e he

def insert (m : KeyMap α) (k : Name) (v : α) : KeyMap α where
  entries := place k v m.entries
  sorted := place_sorted k v m.sorted

def erase (m : KeyMap α) (k : Name) : KeyMap α where
  entries := m.entries.filter (fun e => e.1 ≠ k)
  sorted := m.sorted.filter _

def keep (m : KeyMap α) (p : Name → Bool) : KeyMap α where
  entries := m.entries.filter (fun e => p e.1)
  sorted := m.sorted.filter _

theorem find_place (k k' : Name) (v : α) (l : List (Name × α)) :
    find k' (place k v l) = if k' = k then some v else find k' l := by
  induction l with
  | nil => simp [place, find]
  | cons a rest ih => grind [place, find]

theorem find_filter (k k' : Name) (l : List (Name × α)) :
    find k' (l.filter (fun e => e.1 ≠ k)) = if k' = k then none else find k' l := by
  induction l with
  | nil => simp [find]
  | cons a rest ih => grind [find]

theorem mem_of_find {k : Name} {v : α} {l : List (Name × α)} (h : find k l = some v) :
    (k, v) ∈ l := by
  induction l with
  | nil => simp [find] at h
  | cons a rest ih => grind [find]

theorem find_keep (p : Name → Bool) (k : Name) (l : List (Name × α)) :
    find k (l.filter (fun e => p e.1)) = if p k then find k l else none := by
  induction l with
  | nil => simp [find]
  | cons a rest ih => grind [find]

theorem get?_insert (m : KeyMap α) (k k' : Name) (v : α) :
    (m.insert k v).get? k' = if k' = k then some v else m.get? k' :=
  find_place k k' v m.entries

theorem get?_erase (m : KeyMap α) (k k' : Name) :
    (m.erase k).get? k' = if k' = k then none else m.get? k' :=
  find_filter k k' m.entries

theorem get?_keep (m : KeyMap α) (p : Name → Bool) (k : Name) :
    (m.keep p).get? k = if p k then m.get? k else none :=
  find_keep p k m.entries

theorem size_insert_le (m : KeyMap α) (k : Name) (v : α) : (m.insert k v).size ≤ m.size + 1 := by
  have hplace : ∀ l : List (Name × α), (place k v l).length ≤ l.length + 1 := by
    intro l
    induction l with
    | nil => simp [place]
    | cons a rest ih => grind [place]
  exact hplace m.entries

theorem size_erase_le (m : KeyMap α) (k : Name) : (m.erase k).size ≤ m.size :=
  List.length_filter_le _ _

theorem length_keys (m : KeyMap α) : m.keys.length = m.size :=
  List.length_map ..

/-- In a sorted list the pair stored under a key is the one that is found. -/
theorem find_eq_some_iff {k : Name} {v : α} {l : List (Name × α)}
    (h : l.Pairwise (fun a b => Units.Lt a.1 b.1)) : find k l = some v ↔ (k, v) ∈ l := by
  refine ⟨mem_of_find, fun hm => ?_⟩
  induction l with
  | nil => simp at hm
  | cons a rest ih =>
    obtain ⟨hhead, htail⟩ := List.pairwise_cons.mp h
    rcases List.mem_cons.mp hm with rfl | hm
    · simp [find]
    · have hlt := hhead _ hm
      have hne : k ≠ a.1 := fun e => Units.lt_irrefl k (by simpa [e] using hlt)
      simp [find, hne, ih htail hm]

theorem get?_eq_some_iff {m : KeyMap α} {k : Name} {v : α} :
    m.get? k = some v ↔ (k, v) ∈ m.entries :=
  find_eq_some_iff m.sorted

theorem mem_keys {m : KeyMap α} {k : Name} : k ∈ m.keys ↔ (m.get? k).isSome := by
  simp only [keys, List.mem_map, Option.isSome_iff_exists, get?_eq_some_iff]
  exact ⟨fun ⟨e, he, hk⟩ => ⟨e.2, hk ▸ he⟩, fun ⟨v, hv⟩ => ⟨(k, v), hv, rfl⟩⟩

theorem keys_sorted (m : KeyMap α) : m.keys.Pairwise Units.Lt :=
  List.pairwise_map.mpr m.sorted

/-- Sorted lists with the same members are equal. -/
theorem sorted_ext {l l' : List (Name × α)}
    (h : l.Pairwise (fun a b => Units.Lt a.1 b.1)) (h' : l'.Pairwise (fun a b => Units.Lt a.1 b.1))
    (heq : ∀ e, e ∈ l ↔ e ∈ l') : l = l' := by
  induction l generalizing l' with
  | nil =>
    cases l' with
    | nil => rfl
    | cons b _ => exact absurd ((heq b).mpr List.mem_cons_self) (by simp)
  | cons a rest ih =>
    cases l' with
    | nil => exact absurd ((heq a).mp List.mem_cons_self) (by simp)
    | cons b rest' =>
      obtain ⟨ha, hrest⟩ := List.pairwise_cons.mp h
      obtain ⟨hb, hrest'⟩ := List.pairwise_cons.mp h'
      have hab : a = b := by
        rcases List.mem_cons.mp ((heq a).mp List.mem_cons_self) with e | e
        · exact e
        · rcases List.mem_cons.mp ((heq b).mpr List.mem_cons_self) with e' | e'
          · exact e'.symm
          · exact absurd (ha _ e') (Units.lt_asymm (hb _ e))
      subst hab
      congr 1
      refine ih hrest hrest' fun e => ⟨fun he => ?_, fun he => ?_⟩
      · rcases List.mem_cons.mp ((heq e).mp (List.mem_cons_of_mem _ he)) with rfl | he'
        · exact absurd (ha _ he) (Units.lt_irrefl _)
        · exact he'
      · rcases List.mem_cons.mp ((heq e).mpr (List.mem_cons_of_mem _ he)) with rfl | he'
        · exact absurd (hb _ he) (Units.lt_irrefl _)
        · exact he'

theorem ext_get? {m m' : KeyMap α} (h : ∀ k, m.get? k = m'.get? k) : m = m' := by
  obtain ⟨l, hl⟩ := m
  obtain ⟨l', hl'⟩ := m'
  have : l = l' := sorted_ext hl hl' fun e => by
    have := h e.1
    simp only [get?] at this
    rw [← Prod.eta e, ← find_eq_some_iff hl, ← find_eq_some_iff hl', this]
  subst this
  rfl

end KeyMap
end BlobTree
