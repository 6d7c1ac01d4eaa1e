import BlobTree.FileTree.Operation
import BlobTree.Proofs.FileTree.Delete
import BlobTree.Proofs.Logged
import BlobTree.Proofs.Store.Frame
import BlobTree.Proofs.Writer.Calls
import BlobTree.Store.Refusing

/-!
# BlobTree.Proofs.FileTree.Residue

What an operation leaves behind when it fails, on a memory store that may refuse any of its calls.
A call that is rejected changes nothing. Most operations change something with their last call
only, so that a failure leaves the store as it was; the others are cut off between two changes.

* `Residue`: what may be left, with the calls that have led to it.
* `Asked`: how one call ends. `Leaves`: an action that has a value or leaves something; one rule for
  a call and what follows it.
* `rest_kept`, `deleteAll_leaves`: the two loops.
* `failures_leave`: every operation of a tree.
-/

namespace BlobTree

open BlobTree.Action

def Event.Accepted {σ : Type} (e : Event σ) (c : Call) : Prop :=
  e.call = c ∧ e.error? = none

def Event.Rejected {σ : Type} (e : Event σ) (c : Call) : Prop :=
  e.call = c ∧ e.error? ≠ none

/-- The calls of an operation on a memory store that may refuse some. -/
abbrev Calls :=
  List (Event (Refusing Memory))

/-- How a call ends: it is rejected, by a refusal or by the memory, and nothing has changed, or the
memory has carried it out. -/
inductive Asked (o : Memory.Options) (m : Memory) (c : Call) :
    Except Stop c.Reply → Calls → Refusing Memory → Prop where
  | rejected {e : Event (Refusing Memory)} {f : Failure} {s : Refusing Memory} :
      e.Rejected c → s.store = m → Asked o m c (.error (.failed f)) [e] s
  | accepted {e : Event (Refusing Memory)} {a : c.Reply} {s : Refusing Memory} :
      e.Accepted c → m.step o c = (.ok a, s.store) → Asked o m c (.ok a) [e] s

namespace Action

variable {α β : Type} {o : Memory.Options} {w : World (Traced (Refusing Memory))}
  {x : Action (Traced (Refusing Memory)) α} {R R' : Calls → Memory → Prop}

theorem asked_of_one {c : Call} {x : Action (Traced (Refusing Memory)) c.Reply}
    (g : StoreError → Failure)
    (hx : x.Gives w.store
      (((Memory.backend o).refusing.traced.answer w.store c).1.mapError fun e => .failed (g e))
      ((Memory.backend o).refusing.traced.answer w.store c).2) :
    x.Logs w (Asked o w.store.store.store c) := by
  refine logs_of_one hx ?_
  rw [Backend.traced_answer]
  rcases hs : w.store.store with ⟨m, plan⟩
  rcases plan_cases plan with ⟨e, hplan⟩ | hpassed
  · rw [hplan, Backend.refusing_refused]
    exact .rejected ⟨rfl, by simp [Event.error?]⟩ rfl
  · rw [Backend.refusing_passed _ hpassed, Memory.backend_answer]
    rcases hstep : m.step o c with ⟨e | a, m'⟩
    · have hsame := m.step_error o (e := e) (by rw [hstep])
      rw [hstep] at hsame
      exact .rejected ⟨rfl, by simp [Event.error?]⟩ hsame
    · exact .accepted ⟨rfl, by simp [Event.error?]⟩ hstep

theorem call_asked (c : Call) :
    (call (Memory.backend o).refusing.traced c).Logs w (Asked o w.store.store.store c) :=
  asked_of_one .store (gives_call _ c w.store)

theorem callAt_asked (path : Name) (c : Call) :
    (FileTree.callAt (Memory.backend o).refusing.traced path c).Logs w
      (Asked o w.store.store.store c) :=
  asked_of_one (fun e => Failure.atPath path (.store e)) (FileTree.callAt_gives _ path c w.store)

/-- An action that ends with a value, or has failed and left something. -/
def Leaves (x : Action (Traced (Refusing Memory)) α) (w : World (Traced (Refusing Memory)))
    (R : Calls → Memory → Prop) : Prop :=
  x.Logs w fun r events s => (∃ a, r = .ok a) ∨ ∃ f, r = .error (.failed f) ∧ R events s.store

theorem Leaves.mono (h : x.Leaves w R) (hR : ∀ events m, R events m → R' events m) :
    x.Leaves w R' :=
  Logs.mono h fun _ _ _ => .imp id fun ⟨f, hf, hleft⟩ => ⟨f, hf, hR _ _ hleft⟩

theorem leaves_pure (a : α) : (pure a : Action (Traced (Refusing Memory)) α).Leaves w R :=
  logs_of_quiet (gives_pure a _) (.inl ⟨a, rfl⟩)

theorem leaves_log (l : Logger) (level : Level) (fields : Fields) (message : String) :
    (log l level fields message : Action (Traced (Refusing Memory)) Unit).Leaves w R :=
  logs_of_quiet (gives_log l level fields message _) (.inl ⟨(), rfl⟩)

theorem leaves_fail (f : Failure) (h : R [] w.store.store.store) :
    (fail f : Action (Traced (Refusing Memory)) α).Leaves w R :=
  logs_of_quiet (gives_fail f _) (.inr ⟨f, rfl, h⟩)

theorem leaves_of_quiet {a : α} {f : α → Action (Traced (Refusing Memory)) β}
    (hx : x.Gives w.store (.ok a) w.store)
    (hf : ∀ w' : World (Traced (Refusing Memory)), w'.store = w.store → (f a).Leaves w' R) :
    (x >>= f).Leaves w R := by
  obtain ⟨w', hrun, hstore⟩ := hx w rfl
  obtain ⟨r, w'', events, hrest, hevents, hleft⟩ := hf w' hstore
  exact ⟨r, w'', events, (exec_bind_ok hrun).trans hrest, hstore ▸ hevents, hleft⟩

theorem Leaves.measured (h : x.Leaves w R) (name : Name) (labels : Option Labels) :
    (measured name x labels).Leaves w R :=
  Logs.measured h name labels

theorem Leaves.map (h : x.Leaves w R) (g : α → β) : (x >>= fun a => pure (g a)).Leaves w R := by
  refine Logs.bind h (fun a w' _ _ => ?_) fun e events s h => ?_
  · exact leaves_pure (g a)
  · obtain ⟨_, ⟨⟩⟩ | ⟨f, ⟨rfl⟩, hleft⟩ := h
    exact .inr ⟨f, rfl, hleft⟩

theorem leaves_of_asked {c : Call} {x : Action (Traced (Refusing Memory)) c.Reply}
    {f : c.Reply → Action (Traced (Refusing Memory)) β} {m : Memory} (hx : x.Logs w (Asked o m c))
    (hrejected : ∀ e : Event (Refusing Memory), e.Rejected c → R [e] m)
    (haccepted : ∀ a w' (e : Event (Refusing Memory)), e.Accepted c →
      m.step o c = (.ok a, w'.store.store.store) → (f a).Leaves w' fun events => R (e :: events)) :
    (x >>= f).Leaves w R := by
  refine Logs.bind hx (fun a w' events h => ?_) fun stop events s h => ?_
  · cases h with
    | accepted he hstep => exact haccepted a w' _ he hstep
  · cases h with
    | @rejected e f _ he hs => exact .inr ⟨f, rfl, hs ▸ hrejected e he⟩

theorem leaves_of_last {c : Call} {x : Action (Traced (Refusing Memory)) c.Reply} {m : Memory}
    (hx : x.Logs w (Asked o m c))
    (hrejected : ∀ e : Event (Refusing Memory), e.Rejected c → R [e] m) : x.Leaves w R := by
  refine Logs.mono hx fun r events s h => ?_
  cases h with
  | @rejected e f _ he hs => exact .inr ⟨f, rfl, hs ▸ hrejected e he⟩
  | accepted => exact .inl ⟨_, rfl⟩

end Action

namespace Listing

variable {o : Memory.Options} {root : Root} {start : Name} {m : Memory}

theorem fetch_kept (hstart : root.key.isPrefixOf start) (c : Cursor)
    {w : World (Traced (Refusing Memory))} (hm : w.store.store.store = m) :
    let paths := (pageAt o.pageSize m.objects.keys start c).keys.map root.pathUnder
    (fetch (Memory.backend o).refusing.traced root start c).Logs w fun r _ s => s.store = m ∧
      ((∃ f, r = .error (.failed f)) ∨
        r = .ok (paths, advance c (pageAt o.pageSize m.objects.keys start c) paths)) := by
  intro paths
  subst hm
  refine Logs.bind (call_asked (.listPage start { marker := some c.marker }))
    (fun page w' events h => ?_) fun e events s h => ?_
  · cases h with
    | accepted _ hstep =>
      obtain ⟨⟨rfl⟩, hsame⟩ := Prod.ext_iff.mp hstep
      have hpaths : pathsOf root (pageAt o.pageSize w.store.store.store.objects.keys start c).keys =
          .ok paths := Root.pathsOf_listed hstart fun k hk => (Memory.mem_page hk).2
      rw [pageAt] at hpaths
      rw [hpaths]
      exact logs_of_quiet ((gives_ofExcept (.ok _) _).bind (gives_pure _ _)) ⟨hsame.symm, .inr rfl⟩
  · cases h with
    | rejected _ hs => exact ⟨hs, .inl ⟨_, rfl⟩⟩

/-- A listing leaves the store as it is and does not stop halfway without a failure. -/
theorem rest_kept (hsize : (Number.ofNat 1).le o.pageSize) (hstart : root.key.isPrefixOf start)
    {budget : Nat} {c : Cursor} (hc : c.Forward)
    (hbudget : (Memory.keysFrom m.objects.keys start c.marker).length < budget)
    {w : World (Traced (Refusing Memory))} (hm : w.store.store.store = m) :
    (rest (Memory.backend o).refusing.traced root start budget c).Logs w fun r _ s =>
      s.store = m ∧ ((∃ f, r = .error (.failed f)) ∨ r = .ok (c.gathered ++
        (Memory.keysFrom m.objects.keys start c.marker).map root.pathUnder)) := by
  induction budget generalizing c w with
  | zero => omega
  | succ budget ih =>
    rw [rest]
    refine Logs.bind (fetch_kept hstart c hm) ?_ fun e events s h => ?_
    · rintro _ w' events ⟨hsame, ⟨_, ⟨⟩⟩ | ⟨⟨rfl⟩⟩⟩
      rcases advance_cases m.objects.keys_sorted hsize start hc
          ((pageAt o.pageSize m.objects.keys start c).keys.map root.pathUnder) with
        ⟨hnext, hkeys⟩ | ⟨c', hnext, hc', hgathered, hne, hsplit, -, -⟩
      · simp only [hnext]
        rw [← hkeys]
        exact logs_of_quiet (gives_pure _ _) ⟨hsame, .inr rfl⟩
      · simp only [hnext]
        rw [← hsplit, List.length_append] at hbudget
        have hpos := List.length_pos_iff.mpr hne
        refine (ih hc' (by omega) hsame).mono fun r _ s h => ?_
        rwa [hgathered, List.append_assoc, ← List.map_append, hsplit] at h
    · exact ⟨h.1, .inl (by simpa using h.2)⟩

end Listing

namespace FileTree

variable {α : Type} {t : FileTree} {o : Memory.Options} {m : Memory} {path : Name}
  {w : World (Traced (Refusing Memory))} {R : Calls → Memory → Prop}

theorem below_kept (hsize : (Number.ofNat 1).le o.pageSize)
    (hbudget : m.objects.size < t.pageBudget) (hm : w.store.store.store = m) (path : Name) :
    (Listing.below (Memory.backend o).refusing.traced t.root t.pageBudget path).Logs w
      fun r _ s => s.store = m ∧ ((∃ f, r = .error (.failed f)) ∨
        r = .ok ((keysBelow t.root m path).map t.root.pathUnder)) := by
  have hlength : (keysBelow t.root m path).length ≤ m.objects.keys.length :=
    List.length_filter_le _ _
  rw [KeyMap.length_keys] at hlength
  exact Listing.rest_kept hsize (Root.key_isPrefixOf_listingPrefix path) Cursor.forward_start
    (Nat.lt_of_le_of_lt hlength hbudget) hm

theorem leaves_of_below {f : List Name → Action (Traced (Refusing Memory)) α}
    (hsize : (Number.ofNat 1).le o.pageSize) (hbudget : m.objects.size < t.pageBudget)
    (hm : w.store.store.store = m) (hfailed : ∀ events, R events m)
    (hf : ∀ w' before, w'.store.store.store = m →
      (f ((keysBelow t.root m path).map t.root.pathUnder)).Leaves w'
        fun events => R (before ++ events)) :
    (Listing.below (Memory.backend o).refusing.traced t.root t.pageBudget path >>= f).Leaves w
      R := by
  refine Logs.bind (below_kept hsize hbudget hm path) (fun files w' before h => ?_)
    fun e events s h => ?_
  · obtain ⟨hsame, ⟨_, ⟨⟩⟩ | ⟨⟨rfl⟩⟩⟩ := h
    exact hf w' before hsame
  · obtain ⟨hsame, ⟨f, ⟨rfl⟩⟩ | ⟨⟨⟩⟩⟩ := h
    exact .inr ⟨f, rfl, hsame ▸ hfailed events⟩

theorem properties_kept (key : Name) (hm : w.store.store.store = m) :
    (properties? (Memory.backend o).refusing.traced key).Logs w fun r _ s => s.store = m ∧
      ((∃ f, r = .error (.failed f)) ∨ r = .ok none ∨
        ∃ x, m.objects.get? key = some x ∧
          r = .ok (some ⟨.ofNat x.data.length, x.modTime, x.kind⟩)) := by
  subst hm
  refine Logs.recover (call_asked (.properties key)) (fun p w' events h => ?_)
    (fun f w' events h => ?_) fun events s h => by cases h
  · cases h with
    | accepted _ hstep =>
      obtain ⟨x, hx, hfound⟩ := Memory.withObject_ok hstep
      obtain ⟨⟨rfl⟩, hsame⟩ := Prod.mk.inj hfound
      exact logs_of_quiet (gives_pure _ _) ⟨hsame.symm, .inr (.inr ⟨x, hx, rfl⟩)⟩
  · cases h with
    | rejected _ hs =>
      split
      · next heq => cases heq
      · exact logs_of_quiet (gives_pure _ _) ⟨hs, .inr (.inl rfl)⟩
      · exact logs_of_quiet (gives_fail _ _) ⟨hs, .inl ⟨_, rfl⟩⟩

theorem leaves_of_properties {key : Name}
    {f : Option Properties → Action (Traced (Refusing Memory)) α}
    (hm : w.store.store.store = m) (hfailed : ∀ events, R events m)
    (hf : ∀ found w' before, w'.store.store.store = m →
      (∀ p, found = some p → ∃ x, m.objects.get? key = some x ∧
        p = ⟨.ofNat x.data.length, x.modTime, x.kind⟩) →
      (f found).Leaves w' fun events => R (before ++ events)) :
    (properties? (Memory.backend o).refusing.traced key >>= f).Leaves w R := by
  refine Logs.bind (properties_kept key hm) (fun found w' before h => ?_) fun e events s h => ?_
  · obtain ⟨hsame, ⟨_, ⟨⟩⟩ | ⟨⟨rfl⟩⟩ | ⟨x, hx, ⟨rfl⟩⟩⟩ := h
    · exact hf none w' before hsame (by simp)
    · exact hf _ w' before hsame fun p hp => ⟨x, hx, by cases hp; rfl⟩
  · obtain ⟨hsame, ⟨f, ⟨rfl⟩⟩ | ⟨⟨⟩⟩ | ⟨_, _, ⟨⟩⟩⟩ := h
    exact .inr ⟨f, rfl, hsame ▸ hfailed events⟩

theorem onPath_leaves {x : Action (Traced (Refusing Memory)) α} (hfailed : R [] w.store.store.store)
    (hx : Path.isValid path → x.Leaves w R) : (onPath path x).Leaves w R := by
  by_cases hp : Path.isValid path
  · rw [onPath_valid hp]
    exact hx hp
  · exact logs_of_quiet (onPath_invalid hp x _) (.inr ⟨_, rfl, hfailed⟩)

/-- What a failed operation may leave in place of a memory, and the calls that have led to it. -/
inductive Residue (t : FileTree) (o : Memory.Options) (m : Memory) :
    Operation → Calls → Memory → Prop where
  | nothing {q : Operation} {events : Calls} : Residue t o m q events m
  /-- An object that cannot be overwritten has been deleted but not put again. -/
  | replaced {path : Name} {data : Bytes} {x : StoredObject} {before : Calls}
      {deleted refused : Event (Refusing Memory)} :
      m.objects.get? (t.root.keyOf path) = some x → x.kind ≠ .block →
      deleted.Accepted (.delete (t.root.keyOf path)) →
      refused.Rejected (.put (t.root.keyOf path) data) →
      Residue t o m (.putContent path data) (before ++ [deleted, refused])
        (m.remove (t.root.keyOf path))
  /-- The object at the path of a new session has been deleted but not created again. -/
  | reopened {path : Name} {x : StoredObject} {before : Calls}
      {deleted refused : Event (Refusing Memory)} :
      m.objects.get? (t.root.keyOf path) = some x →
      deleted.Accepted (.delete (t.root.keyOf path)) →
      refused.Rejected (.createAppendable (t.root.keyOf path)) →
      Residue t o m (.writer path false) (before ++ [deleted, refused])
        (m.remove (t.root.keyOf path))
  /-- A file has been copied but not deleted. -/
  | copied {source dest : Name} {x : StoredObject} {copied refused : Event (Refusing Memory)} :
      (t.copied o m dest x).objects.get? (t.root.keyOf source) = some x →
      m.objects.get? (t.root.keyOf source) = some x →
      copied.Accepted (.copy (t.root.keyOf source) (t.root.keyOf dest)) →
      refused.Rejected (.delete (t.root.keyOf source)) →
      Residue t o m (.move source dest) [copied, refused] (t.copied o m dest x)
  /-- The first keys below a directory have been deleted, and the others have not; deleting the
  directory again, with no call refused, deletes the others too. -/
  | shortened {path k : Name} {front rest : List Name} {before : Calls}
      {refused : Event (Refusing Memory)} :
      m.objects.get? (t.root.keyOf path) = none →
      keysBelow t.root m path = front ++ k :: rest → (front ++ k :: rest).Pairwise Units.Lt →
      refused.Rejected (.delete k) →
      (t.delete (Memory.backend o) path).Gives (m.removeAll front) (.ok ())
        ((m.removeAll front).removeAll (k :: rest)) →
      Residue t o m (.delete path) (before ++ [refused]) (m.removeAll front)

theorem putContent_residue (path : Name) (data : Bytes) (hm : w.store.store.store = m) :
    (t.putContent (Memory.backend o).refusing.traced path data).Leaves w
      (Residue t o m (.putContent path data)) := by
  subst hm
  refine onPath_leaves .nothing fun hp => ?_
  split
  · exact leaves_fail _ .nothing
  refine Leaves.measured ?_ _ _
  refine leaves_of_properties rfl (fun _ => .nothing) fun found w₁ before hsame hfound => ?_
  rw [← hsame] at hfound ⊢
  have hput : (call (Memory.backend o).refusing.traced (.put (t.root.keyOf path) data)).Leaves w₁
      fun events => Residue t o w₁.store.store.store (.putContent path data) (before ++ events) :=
    leaves_of_last (call_asked _) fun _ _ => .nothing
  cases found with
  | none => exact hput
  | some p =>
    obtain ⟨x, hx, rfl⟩ := hfound p rfl
    by_cases hkind : x.kind = .block
    case pos =>
      simp only [hkind]
      exact hput
    case neg =>
      simp only [ne_eq, hkind, not_false_eq_true, if_true]
      refine leaves_of_quiet (gives_log _ _ _ _ _) fun w₂ hstore => ?_
      rw [← hstore] at hx ⊢
      refine leaves_of_asked (callAt_asked path _) (fun _ _ => .nothing)
        fun _ w₃ deleted hdeleted hstep => ?_
      obtain ⟨_, -, hremoved⟩ := Memory.withObject_ok hstep
      refine leaves_of_last (call_asked _) fun refused hrefused => ?_
      rw [← (Prod.mk.inj hremoved).2]
      exact .replaced hx hkind hdeleted hrefused

/-- Once the size is known a session opens, unless the largest chunk is no size. -/
theorem opened_leaves (hfailed : t.maxChunkSize.toPositive? = none → R [] w.store.store.store)
    (path : Name) (append : Bool) (size : Number) :
    (do
      let size ← pure size
      log t.logger .debug
        [textField "path" path, ("append", .flag append), ("size", .number size)] "writer opened"
      ofExcept (Writer.start path (t.root.keyOf path) size t.maxChunkSize
        (some (t.logger.child [textField "writer" path])))).Leaves w R := by
  refine leaves_of_quiet (gives_pure _ _) fun w₁ hpure => leaves_of_quiet (gives_log _ _ _ _ _)
    fun w₂ hlog => ?_
  cases hstart : Writer.start path (t.root.keyOf path) size t.maxChunkSize
      (some (t.logger.child [textField "writer" path])) with
  | ok s => exact leaves_pure s
  | error f =>
    refine leaves_fail f ?_
    rw [hlog, hpure]
    exact hfailed (start_error hstart).2

theorem writer_residue (hchunk : t.maxChunkSize.toPositive?.isSome) (path : Name) (append : Bool)
    (hm : w.store.store.store = m) :
    (t.writer (Memory.backend o).refusing.traced path append).Leaves w
      (Residue t o m (.writer path append)) := by
  have hsize : t.maxChunkSize.toPositive? ≠ none := Option.isSome_iff_ne_none.mp hchunk
  subst hm
  refine onPath_leaves .nothing fun hp => Leaves.measured ?_ _ _
  refine leaves_of_asked (call_asked _) (fun _ _ => .nothing) fun present w₁ asked _ hstep => ?_
  obtain ⟨⟨rfl⟩, hsame⟩ := Prod.mk.inj hstep
  rw [hsame]
  cases append with
  | true =>
    by_cases hpresent : w₁.store.store.store.objects.contains (t.root.keyOf path)
    · rw [if_pos ⟨hpresent, rfl⟩]
      refine leaves_of_properties rfl (fun _ => .nothing) fun found w₂ before hsame _ => ?_
      cases found with
      | none => exact logs_of_quiet (gives_fail _ _).bind_error (.inr ⟨_, rfl, hsame ▸ .nothing⟩)
      | some p => exact opened_leaves (absurd · hsize) path true p.size
    · rw [if_neg (by simp [hpresent]), if_pos rfl]
      exact logs_of_quiet (gives_fail _ _).bind_error (.inr ⟨_, rfl, .nothing⟩)
  | false =>
    simp only [Bool.false_eq_true, and_false, if_false]
    by_cases hpresent : w₁.store.store.store.objects.contains (t.root.keyOf path)
    · rw [if_pos hpresent]
      refine leaves_of_asked (callAt_asked path _) (fun _ _ => .nothing)
        fun _ w₂ deleted hdeleted hstep => ?_
      obtain ⟨x, hx, hremoved⟩ := Memory.withObject_ok hstep
      refine leaves_of_asked (call_asked _) (fun refused hrefused => ?_) fun _ _ _ _ _ =>
        opened_leaves (absurd · hsize) path false (.ofNat 0)
      rw [← (Prod.mk.inj hremoved).2]
      have hresidue : Residue t o w₁.store.store.store (.writer path false)
          ([asked] ++ [deleted, refused]) (w₁.store.store.store.remove (t.root.keyOf path)) :=
        .reopened hx hdeleted hrefused
      exact hresidue
    · rw [if_neg hpresent]
      exact leaves_of_asked (call_asked _) (fun _ _ => .nothing) fun _ _ _ _ _ =>
        opened_leaves (absurd · hsize) path false (.ofNat 0)

theorem move_residue {source dest : Name} (hne : source ≠ dest) (hm : w.store.store.store = m) :
    (t.move (Memory.backend o).refusing.traced source dest).Leaves w
      (Residue t o m (.move source dest)) := by
  subst hm
  refine onPath_leaves .nothing fun hsource => onPath_leaves .nothing fun hdest => ?_
  refine Leaves.measured ?_ _ _
  refine leaves_of_asked (callAt_asked source _) (fun _ _ => .nothing)
    fun _ w₁ copied hcopied hstep => ?_
  refine leaves_of_last (callAt_asked source _) fun refused hrefused => ?_
  obtain ⟨x, hx, hwritten⟩ := Memory.withObject_ok hstep
  have hkeys : t.root.keyOf source ≠ t.root.keyOf dest := fun heq =>
    hne (Root.keyOf_injective hsource hdest heq)
  rw [← (Prod.mk.inj hwritten).2]
  refine .copied ?_ hx hcopied hrefused
  rw [FileTree.copied, Memory.get?_write, if_neg hkeys, hx]

theorem keysBelow_remove (root : Root) (m : Memory) (path k : Name) :
    keysBelow root (m.remove k) path = (keysBelow root m path).filter (· ≠ k) := by
  have hkeys : (m.remove k).objects.keys = m.objects.keys.filter (· ≠ k) :=
    m.objects.keys_keep (· ≠ k)
  simp only [keysBelow, Memory.keysFrom, hkeys, List.filter_filter, Bool.and_comm]

/-- Removing the first keys below a path leaves the others. -/
theorem keysBelow_removeAll {root : Root} {front rest : List Name}
    (h : keysBelow root m path = front ++ rest) :
    keysBelow root (m.removeAll front) path = rest := by
  induction front generalizing m with
  | nil => exact h
  | cons k front ih =>
    refine ih ?_
    have hnodup := keysBelow_nodup root m path
    rw [h] at hnodup
    have hnew := (List.nodup_cons.mp hnodup).1
    rw [keysBelow_remove, h, List.cons_append, List.filter_cons_of_neg (by simp)]
    exact List.filter_eq_self.mpr fun k' hk' => by
      simpa using fun heq : k' = k => hnew (heq ▸ hk')

/-- Deleting again what has been deleted in part deletes the rest. -/
theorem delete_again (hsize : (Number.ofNat 1).le o.pageSize)
    (hbudget : m.objects.size < t.pageBudget) (hp : Path.isValid path)
    (hfile : m.objects.get? (t.root.keyOf path) = none) {k : Name} {front rest : List Name}
    (h : keysBelow t.root m path = front ++ k :: rest) :
    (t.delete (Memory.backend o) path).Gives (m.removeAll front) (.ok ())
      ((m.removeAll front).removeAll (k :: rest)) := by
  have hleft := keysBelow_removeAll h
  have habsent : t.root.keyOf path ∉ (m.removeAll front).objects.keys := by
    rw [KeyMap.mem_keys, Memory.get?_removeAll, hfile, ite_self]
    simp
  have hdelete := delete_gives hsize
    (Nat.lt_of_le_of_lt (m.size_removeAll_le front) hbudget) (m := m.removeAll front) hp
  rwa [hleft, if_pos (.inr (List.cons_ne_nil k rest)), if_neg habsent] at hdelete

/-- The objects of listed keys are deleted one after another, up to the first call that is
rejected. -/
theorem deleteAll_leaves (root : Root) {ks : List Name} (hnodup : ks.Nodup)
    (hthere : ∀ k ∈ ks, k ∈ m.objects.keys) (hkeys : ∀ k ∈ ks, root.keyOf (root.pathUnder k) = k)
    (hm : w.store.store.store = m) :
    ((ks.map root.pathUnder).forM fun file =>
      callAt (Memory.backend o).refusing.traced file (.delete (root.keyOf file))).Leaves w
      fun events m' => ∃ front k rest before refused, ks = front ++ k :: rest ∧
        events = before ++ [refused] ∧ refused.Rejected (.delete k) ∧ m' = m.removeAll front := by
  induction ks generalizing m w with
  | nil => exact leaves_pure ()
  | cons k rest ih =>
    subst hm
    obtain ⟨hnew, hrest⟩ := List.nodup_cons.mp hnodup
    have hkey := hkeys k List.mem_cons_self
    rw [List.map_cons, List.forM]
    refine leaves_of_asked (callAt_asked _ _) (fun refused hrefused => ?_)
      fun _ w₁ deleted _ hstep => ?_
    · rw [hkey] at hrefused
      exact ⟨[], k, rest, [], refused, rfl, rfl, hrefused, rfl⟩
    · obtain ⟨x, hx, hremoved⟩ := Memory.withObject_ok hstep
      rw [hkey] at hremoved
      obtain ⟨-, hremoved⟩ := Prod.mk.inj hremoved
      refine (ih hrest (fun k' hk' => ?_) (fun k' hk' => hkeys k' (List.mem_cons_of_mem _ hk'))
        rfl).mono fun events m' h => ?_
      · have hne : k' ≠ k := fun heq => hnew (heq ▸ hk')
        have hold := KeyMap.mem_keys.mp (hthere k' (List.mem_cons_of_mem _ hk'))
        rw [← hremoved, KeyMap.mem_keys, Memory.get?_remove, if_neg hne]
        exact hold
      · obtain ⟨front, k', rest, before, refused, rfl, rfl, hrefused, rfl⟩ := h
        exact ⟨k :: front, k', rest, deleted :: before, refused, rfl, rfl, hrefused,
          hremoved ▸ rfl⟩

theorem delete_residue (hsize : (Number.ofNat 1).le o.pageSize)
    (hbudget : m.objects.size < t.pageBudget) (path : Name) (hm : w.store.store.store = m) :
    (t.delete (Memory.backend o).refusing.traced path).Leaves w (Residue t o m (.delete path)) := by
  subst hm
  refine onPath_leaves .nothing fun hp => Leaves.measured ?_ _ _
  refine leaves_of_asked (call_asked _) (fun _ _ => .nothing) fun present w₁ asked _ hstep => ?_
  obtain ⟨⟨rfl⟩, hremoved⟩ := Prod.mk.inj hstep
  cases hfile : w.store.store.store.objects.get? (t.root.keyOf path) with
  | some x =>
    rw [KeyMap.contains_of_get?_some hfile]
    exact leaves_pure ()
  | none =>
    rw [KeyMap.contains_of_get?_none hfile]
    rw [Memory.remove_absent hfile] at hremoved
    rw [hremoved] at hbudget hfile ⊢
    refine leaves_of_below hsize hbudget rfl (fun _ => .nothing) fun w₂ listed hsame => ?_
    by_cases hempty : keysBelow t.root w₁.store.store.store path = []
    · rw [hempty]
      exact logs_of_quiet (gives_fail _ _).bind_error (.inr ⟨_, rfl, hsame ▸ .nothing⟩)
    · rw [if_neg (by simpa using hempty)]
      have hall := deleteAll_leaves (o := o) t.root (keysBelow_nodup t.root _ path)
        (fun k hk => (mem_keysBelow.mp hk).1)
        (fun k hk => (Root.pathUnder_listed hp (mem_keysBelow.mp hk).2).2) hsame
      refine Logs.bind hall (fun _ w₃ _ _ => leaves_log _ _ _ _) fun e events s h => ?_
      obtain ⟨_, ⟨⟩⟩ | ⟨f, ⟨rfl⟩, front, k, rest, before, refused, hkeys, rfl, hrefused, hleft⟩ := h
      have hsorted := Memory.keysFrom_sorted w₁.store.store.store.objects.keys_sorted
        (t.root.listingPrefix path) []
      have hresidue : Residue t o w₁.store.store.store (.delete path)
          (asked :: (listed ++ before) ++ [refused]) (w₁.store.store.store.removeAll front) :=
        .shortened hfile hkeys (hkeys ▸ hsorted) hrefused
          (delete_again hsize hbudget hp hfile hkeys)
      rw [List.cons_append, List.append_assoc] at hresidue
      exact .inr ⟨f, rfl, hleft ▸ hresidue⟩

section Reads

theorem getContent_kept (path : Name) (hm : w.store.store.store = m) :
    (t.getContent (Memory.backend o).refusing.traced path).Leaves w fun _ m' => m' = m := by
  subst hm
  refine onPath_leaves rfl fun hp => Leaves.measured ?_ _ _
  exact leaves_of_last (callAt_asked path _) fun _ _ => rfl

theorem reader_kept (path : Name) (offset : Number) (hm : w.store.store.store = m) :
    (t.reader (Memory.backend o).refusing.traced path offset).Leaves w fun _ m' => m' = m := by
  subst hm
  refine onPath_leaves rfl fun hp => ?_
  split
  · exact leaves_fail _ rfl
  refine Leaves.measured ?_ _ _
  refine leaves_of_properties rfl (fun _ => rfl) fun found w₁ before hsame _ => ?_
  cases found with
  | none => exact leaves_fail _ hsame
  | some p =>
    by_cases hend : p.size.le offset
    · simp only [if_pos hend]
      exact leaves_pure _
    · simp only [if_neg hend]
      exact leaves_of_last (callAt_asked path _) fun _ _ => hsame

theorem onDirectory_leaves {x : Action (Traced (Refusing Memory)) α}
    (hfailed : R [] w.store.store.store) (hx : x.Leaves w R) : (onDirectory path x).Leaves w R := by
  by_cases hdir : Path.isDirectory path
  · rwa [onDirectory_valid hdir]
  · rw [onDirectory, if_neg hdir]
    exact leaves_fail _ hfailed

theorem stat_kept (path : Name) (hm : w.store.store.store = m) :
    (t.stat (Memory.backend o).refusing.traced path).Leaves w fun _ m' => m' = m := by
  have hlook (w' : World (Traced (Refusing Memory))) (hm' : w'.store.store.store = m) :
      (do
        let page ← call (Memory.backend o).refusing.traced
          (.listPage (t.root.listingPrefix path) { maxResults := some (.ofNat 1) })
        if page.keys.isEmpty then fail (.pathNotFound path)
        else return Entry.directory path).Leaves w' fun _ m'' => m'' = m := by
    subst hm'
    refine leaves_of_asked (call_asked _) (fun _ _ => rfl) fun page w'' e _ hstep => ?_
    by_cases hnone : page.keys.isEmpty
    · rw [if_pos hnone]
      exact leaves_fail _ (Prod.mk.inj hstep).2.symm
    · rw [if_neg hnone]
      exact leaves_pure _
  refine onDirectory_leaves hm (Leaves.measured ?_ _ _)
  subst hm
  by_cases hroot : path ≠ Path.root
  case neg =>
    rw [if_neg hroot]
    exact hlook w rfl
  case pos =>
    rw [if_pos hroot]
    refine leaves_of_asked (call_asked _) (fun _ _ => rfl) fun present w₁ e _ hstep => ?_
    obtain ⟨⟨rfl⟩, hsame⟩ := Prod.mk.inj hstep
    cases w.store.store.store.objects.contains (t.root.keyOf path) with
    | false => exact hlook w₁ hsame.symm
    | true =>
      refine leaves_of_properties hsame.symm (fun _ => rfl) fun found w₂ before hkept _ => ?_
      cases found with
      | none => exact hlook w₂ hkept
      | some p => exact leaves_pure _

theorem list_kept (hsize : (Number.ofNat 1).le o.pageSize) (hbudget : m.objects.size < t.pageBudget)
    (path : Name) (hm : w.store.store.store = m) :
    (t.list (Memory.backend o).refusing.traced path).Leaves w fun _ m' => m' = m := by
  refine onDirectory_leaves hm (Leaves.measured ?_ _ _)
  generalize (if path = Path.root then [] else path) = start
  refine leaves_of_below hsize hbudget hm (fun _ => rfl) fun w₁ before hsame => ?_
  by_cases hnone : start ≠ [] ∧
      Listing.children ((keysBelow t.root m start).map t.root.pathUnder) start = []
  · simp only [if_pos hnone]
    exact leaves_fail _ hsame
  · simp only [if_neg hnone]
    exact leaves_pure _

end Reads

theorem carryOut_residue (hsize : (Number.ofNat 1).le o.pageSize)
    (hchunk : t.maxChunkSize.toPositive?.isSome) {q : Operation} (hmove : ∀ p, q ≠ .move p p)
    (hbudget : m.objects.size < t.pageBudget) (hm : w.store.store.store = m) :
    (t.carryOut (Memory.backend o).refusing.traced q).Leaves w (Residue t o m q) := by
  have hkept {α : Type} {x : Action (Traced (Refusing Memory)) α}
      (h : x.Leaves w fun _ m' => m' = m) : x.Leaves w (Residue t o m q) :=
    h.mono fun _ _ heq => heq ▸ .nothing
  cases q with
  | getContent path => exact (hkept (getContent_kept path hm)).map _
  | putContent path data => exact (putContent_residue path data hm).map _
  | reader path offset => exact (hkept (reader_kept path offset hm)).map _
  | writer path append => exact (writer_residue hchunk path append hm).map _
  | stat path => exact (hkept (stat_kept path hm)).map _
  | list path => exact (hkept (list_kept hsize hbudget path hm)).map _
  | move source dest =>
    exact (move_residue (fun heq => hmove dest (by rw [heq])) hm).map _
  | delete path => exact (delete_residue hsize hbudget path hm).map _
  | urlFor path =>
    exact (onPath_leaves (hm ▸ .nothing) fun _ => leaves_fail _ (hm ▸ .nothing)).map _

/-- **Residue.** Every operation of a tree over a memory store, but a move onto the same path, ends
with an answer or fails, whichever calls the store refuses. What it leaves behind when it fails is
the store as it was, with the exceptions that `Residue` lists, each with the call that failed. -/
theorem failures_leave (o : Memory.Options) (t : FileTree) (hsize : (Number.ofNat 1).le o.pageSize)
    (hchunk : t.maxChunkSize.toPositive?.isSome) {q : Operation} (hmove : ∀ p, q ≠ .move p p)
    (w : World (Traced (Refusing Memory)))
    (hbudget : w.store.store.store.objects.size < t.pageBudget) :
    ∃ (r : Except Failure Answer) (w' : World (Traced (Refusing Memory))) (events : Calls),
      (t.carryOut (Memory.backend o).refusing.traced q).exec w = (r.mapError .failed, w') ∧
      w'.store.events = w.store.events ++ events ∧
      ∀ f, r = .error f → Residue t o w.store.store.store q events w'.store.store.store := by
  obtain ⟨_, w', events, hrun, hevents, ⟨a, rfl⟩ | ⟨f, rfl, hleft⟩⟩ :=
    carryOut_residue hsize hchunk hmove hbudget rfl
  · exact ⟨.ok a, w', events, hrun, hevents, by simp⟩
  · exact ⟨.error f, w', events, hrun, hevents, fun _ _ => hleft⟩

/-- Three files below a directory, in two pages of a listing; the second delete is refused. -/
theorem failures_leave_rest :
    let o : Memory.Options := { pageSize := .ofNat 2 }
    let b := (Memory.backend o).refusing
    let t := onStore b { rootDirectory := "r".toList } default
    let memory := ["r/d/a", "r/d/b", "r/d/c"].foldl
      (fun m k => Memory.write o m k.toList [1] .block) default
    let lost : StoreError := .broken "connection lost"
    let w : World (Traced (Refusing Memory)) :=
      .fresh ⟨⟨memory, [none, none, none, none, some lost]⟩, []⟩
    let ended := (t.carryOut b.traced (.delete "/d".toList)).exec w
    (Number.ofNat 1).le o.pageSize ∧ t.maxChunkSize.toPositive?.isSome ∧
    memory.objects.size < t.pageBudget ∧ ended.1 = .error (.failed (.store lost)) ∧
    ended.2.store.store.store.objects.keys = ["r/d/b".toList, "r/d/c".toList] ∧
    Residue t o memory (.delete "/d".toList) ended.2.store.events ended.2.store.store.store := by
  intro o b t memory lost w ended
  have hsize : (Number.ofNat 1).le o.pageSize := by decide +kernel
  have hchunk : t.maxChunkSize.toPositive?.isSome := by decide +kernel
  have hbudget : memory.objects.size < t.pageBudget := by decide +kernel
  have hfails : ended.1 = .error (.failed (.store lost)) := by decide +kernel
  obtain ⟨r, w', events, hrun, hevents, hleft⟩ :=
    failures_leave o t hsize hchunk (q := .delete "/d".toList) (by simp) w hbudget
  have hend : ended = (r.mapError .failed, w') := hrun
  refine ⟨hsize, hchunk, hbudget, hfails, by decide +kernel, ?_⟩
  rw [hend] at hfails ⊢
  rw [hevents]
  cases r with
  | ok a => cases hfails
  | error f => exact hleft f rfl

end FileTree
end BlobTree
