import BlobTree.Proofs.FileTree.Residue

/-!
# BlobTree.Proofs.FileTree.Opening

What a writer that cannot be opened leaves behind, on a memory store that may refuse any of its
calls. If no call has been rejected, a path that is none, a missing file to append to, or a largest
chunk that is no size is what stood in the way. The last of the three comes to light only after the
place of the file has been taken, so an object at the path is lost.

* `Memory.Alike`: the same objects, whenever they were written.
* `Unopened`: what is left; `writer_unopened`: that it is, by the calls of the operation in turn.
* `writer_refused_leaves`: exactly when the store is as it was.
-/

namespace BlobTree

/-- The same keys, and under each the same bytes in an object of the same kind. -/
def Memory.Alike (m m' : Memory) : Prop :=
  ∀ k, (m'.objects.get? k).map (fun x => (x.data, x.kind)) =
    (m.objects.get? k).map fun x => (x.data, x.kind)

/-- There is an object of the given kind with no bytes. -/
def Memory.HoldsEmpty (m : Memory) (key : Name) (kind : ObjectKind) : Prop :=
  ∃ x, m.objects.get? key = some x ∧ x.data = [] ∧ x.kind = kind

namespace Memory

variable {o : Options} {m : Memory} {key : Name} {kind : ObjectKind}

theorem Alike.refl (m : Memory) : m.Alike m :=
  fun _ => rfl

/-- Only an empty object can be replaced by an empty one unnoticed. -/
theorem alike_write_iff : m.Alike (m.write o key [] kind) ↔ m.HoldsEmpty key kind := by
  constructor
  · intro h
    have hkey := h key
    rw [get?_write, if_pos rfl] at hkey
    obtain ⟨x, hx, hsame⟩ := Option.map_eq_some_iff.mp hkey.symm
    obtain ⟨hdata, hkind⟩ := Prod.mk.inj hsame
    exact ⟨x, hx, hdata, hkind⟩
  · rintro ⟨x, hx, hdata, hkind⟩ k
    rw [get?_write]
    split
    · next heq => rw [heq, hx, Option.map_some, Option.map_some, hdata, hkind]
    · rfl

end Memory

namespace FileTree

open BlobTree.Action

/-- What is left of a memory if no call was rejected and yet no session is opened. -/
inductive Unopened (t : FileTree) (o : Memory.Options) (m : Memory) (path : Name) :
    (append : Bool) → Memory → Prop where
  | kept {append : Bool} : (Path.isValid path → append) → Unopened t o m path append m
  | emptied : Path.isValid path → t.maxChunkSize.toPositive? = none →
      Unopened t o m path false (m.write o (t.root.keyOf path) [] .append)

/-- A call has been rejected, or no session is opened for another reason. -/
def Turned (t : FileTree) (o : Memory.Options) (m : Memory) (path : Name) (append : Bool)
    (events : Calls) (m' : Memory) : Prop :=
  (∃ e ∈ events, e.error? ≠ none) ∨ Unopened t o m path append m'

variable {t : FileTree} {o : Memory.Options} {m m' : Memory} {path : Name}
  {w : World (Traced (Refusing Memory))}

theorem turned_of_rejected {append : Bool} {c : Call} {e : Event (Refusing Memory)} (front : Calls)
    (he : e.Rejected c) : Turned t o m path append (front ++ [e]) m' :=
  .inl ⟨e, by simp, he.2⟩

theorem Unopened.alike_iff {append : Bool} (h : Unopened t o m path append m') :
    m.Alike m' ↔ (Path.isValid path → append = false →
      m.HoldsEmpty (t.root.keyOf path) .append) := by
  cases h with
  | kept hkept =>
    refine iff_of_true (.refl m) fun hp happend => ?_
    rw [hkept hp] at happend
    cases happend
  | emptied hp _ => simp only [Memory.alike_write_iff, hp, true_implies]

/-- Whatever is refused on the way, a session that does not open has been turned away. -/
theorem writer_unopened (path : Name) (append : Bool) (hm : w.store.store.store = m) :
    (t.writer (Memory.backend o).refusing.traced path append).Leaves w
      (Turned t o m path append) := by
  subst hm
  by_cases hp : Path.isValid path
  case neg =>
    have hkept : Turned t o w.store.store.store path append [] w.store.store.store :=
      .inr (.kept fun h => absurd h hp)
    exact onPath_leaves hkept fun h => absurd h hp
  rw [writer, onPath_valid hp]
  refine Leaves.measured ?_ _ _
  refine leaves_of_asked (call_asked _) (fun e he => turned_of_rejected [] he)
    fun present w₁ asked _ hstep => ?_
  obtain ⟨⟨rfl⟩, hsame⟩ := Prod.mk.inj hstep
  rw [hsame]
  cases append with
  | true =>
    have hkept {m' : Memory} (events : Calls) (h : m' = w₁.store.store.store) :
        Turned t o w₁.store.store.store path true events m' :=
      .inr (h ▸ .kept fun _ => rfl)
    by_cases hpresent : w₁.store.store.store.objects.contains (t.root.keyOf path)
    · rw [if_pos ⟨hpresent, rfl⟩]
      refine leaves_of_properties rfl (fun _ => hkept _ rfl) fun found w₂ before hsame _ => ?_
      cases found with
      | none =>
        exact logs_of_quiet (gives_fail _ _).bind_error (.inr ⟨_, rfl, hkept _ hsame⟩)
      | some p =>
        refine opened_leaves (fun _ => ?_) path true p.size
        exact hkept _ hsame
    · rw [if_neg (by simp [hpresent]), if_pos rfl]
      exact logs_of_quiet (gives_fail _ _).bind_error (.inr ⟨_, rfl, hkept _ rfl⟩)
  | false =>
    simp only [Bool.false_eq_true, and_false, if_false]
    -- What the delete has left does not matter for what is there once the object is created.
    have hcreate {w' : World (Traced (Refusing Memory))} (front : Calls)
        (hdeleted : w'.store.store.store.write o (t.root.keyOf path) [] .append =
          w₁.store.store.store.write o (t.root.keyOf path) [] .append) :
        (do
          call (Memory.backend o).refusing.traced (.createAppendable (t.root.keyOf path))
          let size ← pure (Number.ofNat 0)
          log t.logger .debug
            [textField "path" path, ("append", .flag false), ("size", .number size)] "writer opened"
          ofExcept (Writer.start path (t.root.keyOf path) size t.maxChunkSize
            (some (t.logger.child [textField "writer" path])))).Leaves w' fun events m' =>
          Turned t o w₁.store.store.store path false (front ++ events) m' := by
      refine leaves_of_asked (call_asked _) (fun e he => turned_of_rejected front he)
        fun _ w₂ created _ hstep => ?_
      refine opened_leaves (fun hchunk => ?_) path false (.ofNat 0)
      rw [← (Prod.mk.inj hstep).2, hdeleted]
      exact .inr (.emptied hp hchunk)
    by_cases hpresent : w₁.store.store.store.objects.contains (t.root.keyOf path)
    · rw [if_pos hpresent]
      refine leaves_of_asked (callAt_asked path _)
        (fun e he => turned_of_rejected [asked] he) fun _ w₂ deleted _ hstep => ?_
      obtain ⟨x, -, hremoved⟩ := Memory.withObject_ok hstep
      refine hcreate [asked, deleted] ?_
      rw [← (Prod.mk.inj hremoved).2, Memory.write_remove]
    · rw [if_neg hpresent]
      exact hcreate [asked] rfl

/-- **Opening.** Over a memory store that may refuse calls, for any largest chunk that is asked for
and any that the store takes: if no session is opened although no call was rejected, the store holds
what it held before, unless a new file was to be begun at a path where there was not an empty append
object. Then the largest chunk is not a positive whole number, and the file begun is there, empty,
in place of what was. -/
theorem writer_refused_leaves (o : Memory.Options) (options : Options) (rootLogger : Logger)
    (logger : Option Logger) (path : Name) (append : Bool)
    (w : World (Traced (Refusing Memory))) :
    let b := (Memory.backend o).refusing
    let t := onStore b options rootLogger logger
    let key := t.root.keyOf path
    let m := w.store.store.store
    ∃ (r : Except Failure Writer) (w' : World (Traced (Refusing Memory))) (events : Calls),
      (t.writer b.traced path append).exec w = (r.mapError .failed, w') ∧
      w'.store.events = w.store.events ++ events ∧
      ∀ f, r = .error f → (∀ e ∈ events, e.error? = none) →
        let m' := w'.store.store.store
        (m.Alike m' ↔ (Path.isValid path → append = false → m.HoldsEmpty key .append)) ∧
        (Path.isValid path → append = false →
          t.maxChunkSize.toPositive? = none ∧ m' = m.write o key [] .append) := by
  intro b t key m
  obtain ⟨_, w', events, hrun, hevents, ⟨s, rfl⟩ | ⟨f, rfl, hturned⟩⟩ :=
    writer_unopened (t := t) (o := o) path append (w := w) rfl
  · exact ⟨.ok s, w', events, hrun, hevents, by simp⟩
  · refine ⟨.error f, w', events, hrun, hevents, fun _ _ haccepted => ?_⟩
    have hunopened : Unopened t o m path append w'.store.store.store :=
      hturned.resolve_left fun ⟨e, he, herror⟩ => herror (haccepted e he)
    refine ⟨hunopened.alike_iff, fun hp happend => ?_⟩
    generalize w'.store.store.store = m' at hunopened ⊢
    cases hunopened with
    | kept hkept =>
      rw [hkept hp] at happend
      cases happend
    | emptied _ hchunk => exact ⟨hchunk, rfl⟩

/-- Half a byte at a time is no size to append to a file with, and the file stays as it is. -/
theorem writer_refused_leaves_appending :
    let o : Memory.Options := {}
    let b := (Memory.backend o).refusing
    let half : Number := .finite (1 / 2)
    let t := onStore b { maxChunkSize := some half } default
    let m := Memory.write o default "a".toList [1] .block
    let w : World (Traced (Refusing Memory)) := .fresh ⟨⟨m, []⟩, []⟩
    let ended := (t.writer b.traced "/a".toList true).exec w
    ended.1 = .error (.failed (.badChunkSize half)) ∧
    (∀ e ∈ ended.2.store.events, e.error? = none) ∧ m.Alike ended.2.store.store.store := by
  intro o b half t m w ended
  have hfails : ended.1 = .error (.failed (.badChunkSize half)) := by decide +kernel
  have haccepted : ∀ e ∈ ended.2.store.events, e.error? = none := by decide +kernel
  obtain ⟨r, w', events, hrun, hevents, hleft⟩ :=
    writer_refused_leaves o { maxChunkSize := some half } default none "/a".toList true w
  have hend : ended = (r.mapError .failed, w') := hrun
  refine ⟨hfails, haccepted, ?_⟩
  rw [hend] at hfails haccepted ⊢
  rw [show w'.store.events = events from hevents] at haccepted
  cases r with
  | ok s => cases hfails
  | error f => exact (hleft f rfl haccepted).1.mpr fun _ h => absurd h (by decide)

/-- A file is lost to a writer that has no size to append chunks of. -/
theorem writer_refused_empties :
    let o : Memory.Options := {}
    let b := (Memory.backend o).refusing
    let t := onStore b { maxChunkSize := some (.ofNat 0) } default
    let m := Memory.write o default "a".toList [1] .block
    let w : World (Traced (Refusing Memory)) := .fresh ⟨⟨m, []⟩, []⟩
    let ended := (t.writer b.traced "/a".toList false).exec w
    ended.1 = .error (.failed (.badChunkSize (.ofNat 0))) ∧
    (∀ e ∈ ended.2.store.events, e.error? = none) ∧ ¬m.Alike ended.2.store.store.store := by
  intro o b t m w ended
  refine ⟨by decide +kernel, by decide +kernel, fun h => ?_⟩
  exact absurd (h "a".toList) (by decide +kernel)

end FileTree
end BlobTree
