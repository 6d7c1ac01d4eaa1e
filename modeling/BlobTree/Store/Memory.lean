import BlobTree.KeyMap
import BlobTree.Store.Call

/-!
# BlobTree.Store.Memory

The store that keeps its objects in memory. It is deterministic: a sorted map of objects and a
clock that is read once by every call that writes an object.

* `Memory.step` answers one call; a refused call changes nothing (`step_error`).
* `withObject_some`, `withObject_none`, `withObject_ok`: a call about an object that is there, or is
  not.
* `Memory.page`: a listing's marker is the first key of the next page.
-/

namespace BlobTree

structure StoredObject where
  data : Bytes
  kind : ObjectKind
  modTime : Time
  deriving DecidableEq, Inhabited

structure Memory where
  objects : KeyMap StoredObject := {}
  /-- How often the clock has been read. -/
  readings : Nat := 0
  containerCreated : Bool := false
  deriving DecidableEq, Inhabited

namespace Memory

structure Options where
  /-- Keys per listing page when the caller does not ask for fewer. -/
  pageSize : Number := .ofNat 5000
  maxPutSize : Number := .ofNat (256 * 1024 * 1024)
  maxAppendSize : Number := .ofNat (4 * 1024 * 1024)
  /-- What the clock shows when it is read for the n-th time, counted from one. -/
  clock : Nat → Time := fun n => n

/-- Where a cut at a relative position falls in `len` places: a position below zero counts from
the end, fractions are dropped and the ends are not passed. -/
def cutAt (len : Nat) : Number → Nat
  | .nan | .negInf => 0
  | .posInf => len
  | .finite q =>
    let i := Number.truncRat q
    if i < 0 then (len + i).toNat else min i.toNat len

@[simp] theorem cutAt_ofNat (len n : Nat) : cutAt len (.ofNat n) = min n len := by
  have h : ¬(n : Int) < 0 := by omega
  simp [cutAt, Number.ofNat, h]

/-- The stretch of `xs` from `start` as far as the cut at `stop`. -/
def slice {α : Type} (xs : List α) (start : Nat) (stop : Number) : List α :=
  (xs.take (cutAt xs.length stop)).drop start

/-- One page of the sorted keys that begin with `start`. -/
def page (pageSize : Number) (keys : List Name) (start : Name) (r : PageRequest) : Page :=
  let found := keys.filter (start.isPrefixOf ·)
  let marker := r.marker.getD []
  let first := (found.takeWhile fun k => decide (Units.Lt k marker)).length
  let limit := ((r.maxResults.getD pageSize)).min pageSize
  let keys := slice found first (Number.placeAfter first limit)
  { keys, nextMarker := found[first + keys.length]?.getD [] }

variable (o : Options) (m : Memory)

/-- Writes an object, stamped with the next reading of the clock. -/
def write (key : Name) (data : Bytes) (kind : ObjectKind) : Memory :=
  let reading := m.readings + 1
  { m with objects := m.objects.insert key ⟨data, kind, o.clock reading⟩, readings := reading }

def remove (key : Name) : Memory :=
  { m with objects := m.objects.erase key }

theorem write_remove (key : Name) (data : Bytes) (kind : ObjectKind) :
    (m.remove key).write o key data kind = m.write o key data kind := by
  simp only [write, remove]
  congr 1
  refine KeyMap.ext_get? fun k => ?_
  rw [KeyMap.get?_insert, KeyMap.get?_insert, KeyMap.get?_erase]
  split <;> rfl

theorem remove_absent {m : Memory} {key : Name} (h : m.objects.get? key = none) :
    m.remove key = m := by
  have hobjects : m.objects.erase key = m.objects := by
    refine KeyMap.ext_get? fun k => ?_
    rw [KeyMap.get?_erase]
    split
    · next heq => rw [heq, h]
    · rfl
  rw [remove, hobjects]

/-- Answers a call about an object that has to be there. -/
def withObject {α : Type} (key : Name) (f : StoredObject → Except StoreError α × Memory) :
    Except StoreError α × Memory :=
  match m.objects.get? key with
  | some object => f object
  | none => (.error (.notFound key), m)

def step : (c : Call) → Except StoreError c.Reply × Memory
  | .get key => m.withObject key fun b => (.ok b.data, m)
  | .read key offset => m.withObject key fun b =>
    let rest := b.data.drop (cutAt b.data.length offset)
    (.ok { chunks := if rest.isEmpty then [] else [rest] }, m)
  | .put key data =>
    if o.maxPutSize.lt (.ofNat data.length) then
      (.error (.putTooLarge data.length o.maxPutSize), m)
    else (.ok (), m.write o key data .block)
  | .properties key => m.withObject key fun b => (.ok ⟨.ofNat b.data.length, b.modTime, b.kind⟩, m)
  | .exists key => (.ok (m.objects.contains key), m)
  | .deleteIfExists key => (.ok (m.objects.contains key), m.remove key)
  | .delete key => m.withObject key fun _ => (.ok (), m.remove key)
  | .listPage start request => (.ok (page o.pageSize m.objects.keys start request), m)
  | .createAppendable key => (.ok (), m.write o key [] .append)
  | .appendChunk key data => m.withObject key fun b =>
    if b.kind ≠ .append then (.error (.notAppendable key b.kind), m)
    else if o.maxAppendSize.lt (.ofNat data.length) then
      (.error (.chunkTooLarge data.length o.maxAppendSize), m)
    else (.ok (), m.write o key (b.data ++ data) .append)
  | .copy source dest => m.withObject source fun b => (.ok (), m.write o dest b.data b.kind)
  | .createContainer => (.ok (), { m with containerCreated := true })

def backend : Backend Memory where
  maxPutSize := o.maxPutSize
  maxAppendSize := o.maxAppendSize
  answer m c := m.step o c

@[simp] theorem backend_maxPutSize : (backend o).maxPutSize = o.maxPutSize := rfl

@[simp] theorem backend_answer (c : Call) : (backend o).answer m c = m.step o c := rfl

theorem withObject_some {α : Type} {m : Memory} {key : Name} {x : StoredObject}
    (h : m.objects.get? key = some x) (f : StoredObject → Except StoreError α × Memory) :
    m.withObject key f = f x := by
  rw [withObject, h]

theorem withObject_none {α : Type} {m : Memory} {key : Name} (h : m.objects.get? key = none)
    (f : StoredObject → Except StoreError α × Memory) :
    m.withObject key f = (.error (.notFound key), m) := by
  rw [withObject, h]

/-- A call about an object that has been answered has found it. -/
theorem withObject_ok {α : Type} {m m' : Memory} {key : Name}
    {f : StoredObject → Except StoreError α × Memory} {a : α}
    (h : m.withObject key f = (.ok a, m')) :
    ∃ x, m.objects.get? key = some x ∧ f x = (.ok a, m') := by
  cases hx : m.objects.get? key with
  | none =>
    rw [withObject_none hx] at h
    cases h
  | some x => exact ⟨x, rfl, withObject_some hx f ▸ h⟩

theorem step_error {c : Call} {e : StoreError} (h : (m.step o c).1 = .error e) :
    (m.step o c).2 = m := by
  cases c <;> simp only [step, withObject] at h ⊢ <;> grind

end Memory
end BlobTree
