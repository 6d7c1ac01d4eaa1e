import BlobTree.Proofs.FileTree.Calls
import BlobTree.Proofs.Root
import BlobTree.Store.Refusing

/-!
# BlobTree.Proofs.FileTree.Move

Moving a file when the store may refuse any call. A move copies and then deletes, so that a call
that is refused leaves the file at its source, at its destination or at both. It is lost in one
case only: a move onto the same path whose calls all pass deletes what it has copied onto itself.

* `move_leaves`: what a move leaves behind, by the first call that is refused.
* `move_keeps_iff`: when the file can still be read. `move_onto_itself_loses`: when it cannot.
-/

namespace BlobTree
namespace FileTree

open BlobTree.Action

def Holds (t : FileTree) (o : Memory.Options) (m : Memory) (path : Name) (data : Bytes) : Prop :=
  (t.getContent (Memory.backend o) path).Gives m (.ok data) m

variable {t : FileTree} {o : Memory.Options} {m : Memory} {source dest : Name}

theorem holds_iff {path : Name} (hp : Path.isValid path) (data : Bytes) :
    t.Holds o m path data ↔ ∃ x, m.objects.get? (t.root.keyOf path) = some x ∧ x.data = data := by
  rw [Holds, getContent, onPath_valid hp]
  cases hx : m.objects.get? (t.root.keyOf path) with
  | none =>
    have hnone : (callAt (Memory.backend o) path (.get (t.root.keyOf path))).Gives m
        (.error (.failed (.pathNotFound path))) m :=
      callAt_notFound (Memory.withObject_none hx _)
    constructor
    · intro hgives
      cases (hgives.unique (counted_gives hnone)).1
    · rintro ⟨x, hx', -⟩
      cases hx'
  | some x =>
    have hsome : (callAt (Memory.backend o) path (.get (t.root.keyOf path))).Gives m
        (.ok x.data) m :=
      callAt_ok (Memory.withObject_some hx _)
    constructor
    · intro hgives
      cases (hgives.unique (counted_gives hsome)).1
      exact ⟨x, rfl, rfl⟩
    · rintro ⟨y, hy, rfl⟩
      cases hy
      exact counted_gives hsome

section Calls

variable {σ : Type} {b : Backend σ} {s s' : σ} {plan : List (Option StoreError)}

theorem callAt_passed {path : Name} {c : Call} {a : c.Reply} (hplan : plan.head?.join = none)
    (h : b.answer s c = (.ok a, s')) :
    (callAt b.refusing path c).Gives ⟨s, plan⟩ (.ok a) ⟨s', plan.tail⟩ := by
  have hpassed := Backend.refusing_passed b (s := ⟨s, plan⟩) hplan c
  rw [h] at hpassed
  exact callAt_ok hpassed

theorem callAt_refused (b : Backend σ) (path : Name) (c : Call) (e : StoreError)
    (plan : List (Option StoreError)) :
    (callAt b.refusing path c).Gives ⟨s, some e :: plan⟩
      (.error (.failed (Failure.atPath path (.store e)))) ⟨s, plan⟩ :=
  callAt_error (Backend.refusing_refused b s e plan c)

end Calls

theorem take_two_iff (plan : List (Option StoreError)) :
    (∀ refusal ∈ plan.take 2, refusal = none) ↔
      plan.head?.join = none ∧ plan.tail.head?.join = none := by
  rcases plan with _ | ⟨first, _ | ⟨second, rest⟩⟩
  · simp
  · simp
  · simp

/-- The copy is refused, or the delete is, or neither. -/
theorem move_leaves (hsource : Path.isValid source) (hdest : Path.isValid dest) {x : StoredObject}
    (hx : m.objects.get? (t.root.keyOf source) = some x) (plan : List (Option StoreError)) :
    ∃ (r : Except Failure Unit) (s' : Refusing Memory),
      (t.move (Memory.backend o).refusing source dest).Gives ⟨m, plan⟩ (r.mapError .failed) s' ∧
      ((¬∀ refusal ∈ plan.take 2, refusal = none) ∧
          (s'.store = m ∨ s'.store = t.copied o m dest x) ∨
        (∀ refusal ∈ plan.take 2, refusal = none) ∧ r = .ok () ∧
          s'.store = (t.copied o m dest x).remove (t.root.keyOf source)) := by
  let copy := Call.copy (t.root.keyOf source) (t.root.keyOf dest)
  let delete := Call.delete (t.root.keyOf source)
  rw [move, onPath_valid hsource, onPath_valid hdest, take_two_iff]
  rcases plan_cases plan with ⟨e, hplan⟩ | hfirst
  · have hcopy := callAt_refused (s := m) (Memory.backend o) source copy e plan.tail
    have hrefused : ¬(plan.head?.join = none ∧ plan.tail.head?.join = none) := by
      rw [hplan]
      simp
    rw [← hplan] at hcopy
    exact ⟨.error _, _, counted_gives hcopy.bind_error, .inl ⟨hrefused, .inl rfl⟩⟩
  have hcopy : (callAt (Memory.backend o).refusing source copy).Gives ⟨m, plan⟩ (.ok ())
      ⟨t.copied o m dest x, plan.tail⟩ :=
    callAt_passed hfirst (Memory.withObject_some hx _)
  rcases plan_cases plan.tail with ⟨e, hplan⟩ | hsecond
  · have hdelete := callAt_refused (s := t.copied o m dest x) (Memory.backend o) source delete e
      plan.tail.tail
    have hrefused : ¬(plan.head?.join = none ∧ plan.tail.head?.join = none) := by
      rw [hplan]
      simp
    rw [← hplan] at hdelete
    exact ⟨.error _, _, counted_gives (hcopy.bind hdelete), .inl ⟨hrefused, .inr rfl⟩⟩
  · obtain ⟨y, hy, -⟩ := copied_source (o := o) (t := t) (m := m) (x := x) hx
    have hdelete : (callAt (Memory.backend o).refusing source delete).Gives
        ⟨t.copied o m dest x, plan.tail⟩ (.ok ())
        ⟨(t.copied o m dest x).remove (t.root.keyOf source), plan.tail.tail⟩ :=
      callAt_passed hsecond (Memory.withObject_some hy _)
    exact ⟨.ok (), _, counted_gives (hcopy.bind hdelete), .inr ⟨⟨hfirst, hsecond⟩, rfl, rfl⟩⟩

/-- **No loss.** Whichever calls are refused, the file can be read at one of the two paths after a
move, unless both calls of a move onto the same path have passed. -/
theorem move_keeps_iff (o : Memory.Options) (t : FileTree) (m : Memory)
    (plan : List (Option StoreError)) {source dest : Name} (hsource : Path.isValid source)
    (hdest : Path.isValid dest) {data : Bytes} (hfile : t.Holds o m source data) :
    ∃ (r : Except Failure Unit) (s' : Refusing Memory),
      (t.move (Memory.backend o).refusing source dest).Gives ⟨m, plan⟩ (r.mapError .failed) s' ∧
      (t.Holds o s'.store source data ∨ t.Holds o s'.store dest data ↔
        ¬(source = dest ∧ ∀ refusal ∈ plan.take 2, refusal = none)) := by
  obtain ⟨x, hx, rfl⟩ := (holds_iff hsource data).mp hfile
  obtain ⟨r, s', hgives, ⟨hrefused, hleft⟩ | ⟨hpassed, -, hleft⟩⟩ :=
    move_leaves (o := o) hsource hdest hx plan
  · refine ⟨r, s', hgives, iff_of_true (.inl ?_) fun hlost => hrefused hlost.2⟩
    rcases hleft with hleft | hleft
    · rw [hleft]
      exact hfile
    · rw [hleft, holds_iff hsource]
      exact copied_source hx
  · refine ⟨r, s', hgives, ?_⟩
    rw [hleft, holds_iff hsource, holds_iff hdest, Memory.remove]
    by_cases heq : source = dest
    case pos =>
      refine iff_of_false ?_ fun hkept => hkept ⟨heq, hpassed⟩
      simp [KeyMap.get?_erase, heq]
    case neg =>
      have hkeys : t.root.keyOf dest ≠ t.root.keyOf source := fun hk =>
        heq (Root.keyOf_injective hsource hdest hk.symm)
      refine iff_of_true (.inr ?_) fun hlost => heq hlost.1
      rw [KeyMap.get?_erase, if_neg hkeys, copied, Memory.write, KeyMap.get?_insert, if_pos rfl]
      exact ⟨_, rfl, rfl⟩

/-- The delete after the copy is refused. -/
theorem move_keeps_iff_refused :
    let o : Memory.Options := {}
    let t := onStore (Memory.backend o) {} default
    let m := Memory.write o default "a".toList [120] .append
    let a := "/a".toList
    let b := "/b".toList
    let plan := [none, some (StoreError.remote 503 "busy")]
    Path.isValid a ∧ Path.isValid b ∧ t.Holds o m a [120] ∧
    ∃ (r : Except Failure Unit) (s' : Refusing Memory),
      (t.move (Memory.backend o).refusing a b).Gives ⟨m, plan⟩ (r.mapError .failed) s' ∧
      (t.Holds o s'.store a [120] ∨ t.Holds o s'.store b [120]) := by
  intro o t m a b plan
  have ha : Path.isValid a := by decide +kernel
  have hb : Path.isValid b := by decide +kernel
  have hfile : t.Holds o m a [120] := (holds_iff ha _).mpr ⟨_, rfl, rfl⟩
  obtain ⟨r, s', hgives, hkept⟩ := move_keeps_iff o t m plan ha hb hfile
  exact ⟨ha, hb, hfile, r, s', hgives, hkept.mpr fun hlost => absurd hlost.1 (by decide)⟩

theorem move_onto_itself_loses :
    let o : Memory.Options := {}
    let t := onStore (Memory.backend o) {} default
    let m := Memory.write o default "a".toList [120] .block
    let a := "/a".toList
    Path.isValid a ∧ t.Holds o m a [120] ∧
    ∃ s' : Refusing Memory,
      (t.move (Memory.backend o).refusing a a).Gives ⟨m, []⟩ (.ok ()) s' ∧
      ¬(t.Holds o s'.store a [120] ∨ t.Holds o s'.store a [120]) := by
  intro o t m a
  have ha : Path.isValid a := by decide +kernel
  obtain ⟨r, s', hgives, ⟨hrefused, -⟩ | ⟨-, rfl, hleft⟩⟩ :=
    move_leaves (o := o) (t := t) (m := m) ha ha rfl []
  · exact absurd (by simp) hrefused
  · refine ⟨ha, (holds_iff ha _).mpr ⟨_, rfl, rfl⟩, s', hgives, ?_⟩
    rw [or_self, holds_iff ha, hleft, Memory.remove]
    simp [KeyMap.get?_erase]

end FileTree
end BlobTree
