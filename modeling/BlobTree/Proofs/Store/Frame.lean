import BlobTree.Store.Memory

/-!
# BlobTree.Proofs.Store.Frame

What a call on a memory store looks at and what it changes. Its reply depends on the objects under
the keys that it names and, for a listing, on those that begin with its start; it writes or removes
the object under one of those keys at most.

* `step_changes`: everything but one object stays.
* `Agree.step`: two memories that agree on the keys of a call answer it alike and still agree.
-/

namespace BlobTree

/-- The keys, or the start of a listing, that a call is about. -/
def Call.keys : Call → List Name
  | .get key | .read key _ | .put key _ | .properties key | .exists key | .deleteIfExists key
  | .delete key | .createAppendable key | .appendChunk key _ | .listPage key _ => [key]
  | .copy source dest => [source, dest]
  | .createContainer => []

theorem KeyMap.keys_keep {α : Type} (m : KeyMap α) (p : Name → Bool) :
    (m.keep p).keys = m.keys.filter p := by
  simp only [keys, keep, List.filter_map]
  rfl

namespace Memory

variable {o : Options} {m m' : Memory}

theorem get?_write (o : Options) (m : Memory) (key : Name) (data : Bytes) (kind : ObjectKind)
    (k : Name) : (m.write o key data kind).objects.get? k =
      if k = key then some ⟨data, kind, o.clock (m.readings + 1)⟩ else m.objects.get? k :=
  KeyMap.get?_insert ..

theorem get?_remove (m : Memory) (key k : Name) :
    (m.remove key).objects.get? k = if k = key then none else m.objects.get? k :=
  KeyMap.get?_erase ..

/-- Only the object under one key may be another one. -/
def SameBut (key : Name) (m m' : Memory) : Prop :=
  ∀ k, k ≠ key → m'.objects.get? k = m.objects.get? k

theorem SameBut.refl (key : Name) (m : Memory) : SameBut key m m :=
  fun _ _ => rfl

theorem SameBut.trans {m'' : Memory} {key : Name} (h : SameBut key m m')
    (h' : SameBut key m' m'') : SameBut key m m'' :=
  fun k hk => (h' k hk).trans (h k hk)

theorem sameBut_write (key : Name) (data : Bytes) (kind : ObjectKind) :
    SameBut key m (m.write o key data kind) :=
  fun _ hk => (get?_write ..).trans (if_neg hk)

theorem sameBut_remove (key : Name) : SameBut key m (m.remove key) :=
  fun _ hk => (get?_remove ..).trans (if_neg hk)

theorem sameBut_withObject {α : Type} {key other : Name}
    {f : StoredObject → Except StoreError α × Memory} (hf : ∀ x, SameBut other m (f x).2) :
    SameBut other m (m.withObject key f).2 := by
  rw [withObject]
  split
  · exact hf _
  · exact .refl _ m

/-- A call that changes anything changes the object under one of its keys. -/
theorem step_changes (o : Options) (m : Memory) (c : Call) :
    (m.step o c).2.objects = m.objects ∨ ∃ key ∈ c.keys, SameBut key m (m.step o c).2 := by
  cases c with
  | listPage | createContainer => exact .inl rfl
  | «exists» key => exact .inl rfl
  | get key | read key | properties key =>
    exact .inr ⟨key, List.mem_singleton_self key, sameBut_withObject fun _ => .refl key m⟩
  | deleteIfExists key => exact .inr ⟨key, List.mem_singleton_self key, sameBut_remove key⟩
  | createAppendable key => exact .inr ⟨key, List.mem_singleton_self key, sameBut_write key _ _⟩
  | put key data =>
    refine .inr ⟨key, List.mem_singleton_self key, ?_⟩
    rw [step]
    split
    · exact .refl key m
    · exact sameBut_write key _ _
  | delete key =>
    exact .inr ⟨key, List.mem_singleton_self key, sameBut_withObject fun _ => sameBut_remove key⟩
  | appendChunk key data =>
    refine .inr ⟨key, List.mem_singleton_self key, sameBut_withObject fun x => ?_⟩
    split
    · exact .refl key m
    · split
      · exact .refl key m
      · exact sameBut_write key _ _
  | copy source dest =>
    exact .inr ⟨dest, by simp [Call.keys], sameBut_withObject fun _ => sameBut_write dest _ _⟩

/-- The same objects under some keys, and as many readings of the clock. -/
structure Agree (near : Name → Prop) (m m' : Memory) : Prop where
  objects : ∀ k, near k → m.objects.get? k = m'.objects.get? k
  readings : m.readings = m'.readings

variable {near : Name → Prop}

/-- The same answer, and memories that agree. -/
def AgreeAfter {α : Type} (near : Name → Prop) (r r' : Except StoreError α × Memory) : Prop :=
  r.1 = r'.1 ∧ Agree near r.2 r'.2

namespace Agree

theorem write (h : Agree near m m') (o : Options) (key : Name) (data : Bytes) (kind : ObjectKind) :
    Agree near (m.write o key data kind) (m'.write o key data kind) where
  objects k hk := by rw [get?_write, get?_write, h.readings, h.objects k hk]
  readings := congrArg (· + 1) h.readings

theorem remove (h : Agree near m m') (key : Name) : Agree near (m.remove key) (m'.remove key) where
  objects k hk := by rw [get?_remove, get?_remove, h.objects k hk]
  readings := h.readings

theorem contains (h : Agree near m m') {key : Name} (hkey : near key) :
    m.objects.contains key = m'.objects.contains key := by
  simp only [KeyMap.contains, h.objects key hkey]

theorem withObject {α : Type} (h : Agree near m m') {key : Name} (hkey : near key)
    {f f' : StoredObject → Except StoreError α × Memory}
    (hf : ∀ x, AgreeAfter near (f x) (f' x)) :
    AgreeAfter near (m.withObject key f) (m'.withObject key f') := by
  rw [Memory.withObject, Memory.withObject, h.objects key hkey]
  split
  · exact hf _
  · exact ⟨rfl, h⟩

theorem keys (h : Agree near m m') {start : Name} (hstart : ∀ k, start.isPrefixOf k → near k) :
    m.objects.keys.filter (start.isPrefixOf ·) = m'.objects.keys.filter (start.isPrefixOf ·) := by
  have hkeep : m.objects.keep (start.isPrefixOf ·) = m'.objects.keep (start.isPrefixOf ·) := by
    refine KeyMap.ext_get? fun k => ?_
    rw [KeyMap.get?_keep, KeyMap.get?_keep]
    split
    · next hk => exact h.objects k (hstart k hk)
    · rfl
  rw [← KeyMap.keys_keep, ← KeyMap.keys_keep, hkeep]

/-- A call about keys on which two memories agree. -/
theorem step (h : Agree near m m') (o : Options) {c : Call} (hkeys : ∀ k ∈ c.keys, near k)
    (hlist : ∀ start r, c = .listPage start r → ∀ k, start.isPrefixOf k → near k) :
    AgreeAfter near (m.step o c) (m'.step o c) := by
  cases c with
  | get key | properties key | read key offset =>
    exact h.withObject (hkeys key (by simp [Call.keys])) fun _ => ⟨rfl, h⟩
  | put key data =>
    rw [Memory.step, Memory.step]
    split
    · exact ⟨rfl, h⟩
    · exact ⟨rfl, h.write o key data .block⟩
  | «exists» key => exact ⟨congrArg Except.ok (h.contains (hkeys key (by simp [Call.keys]))), h⟩
  | deleteIfExists key =>
    exact ⟨congrArg Except.ok (h.contains (hkeys key (by simp [Call.keys]))), h.remove key⟩
  | delete key =>
    exact h.withObject (hkeys key (by simp [Call.keys])) fun _ => ⟨rfl, h.remove key⟩
  | listPage start request =>
    refine ⟨?_, h⟩
    simp only [Memory.step, Memory.page, h.keys (hlist start request rfl)]
  | createAppendable key => exact ⟨rfl, h.write o key [] .append⟩
  | appendChunk key data =>
    refine h.withObject (hkeys key (by simp [Call.keys])) fun x => ?_
    split
    · exact ⟨rfl, h⟩
    · split
      · exact ⟨rfl, h⟩
      · exact ⟨rfl, h.write o key (x.data ++ data) .append⟩
  | copy source dest =>
    exact h.withObject (hkeys source (by simp [Call.keys])) fun x =>
      ⟨rfl, h.write o dest x.data x.kind⟩
  | createContainer => exact ⟨rfl, h.objects, h.readings⟩

end Agree

end Memory
end BlobTree
