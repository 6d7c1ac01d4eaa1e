import BlobTree.FileTree.Operation
import BlobTree.Proofs.FileTree.Calls
import BlobTree.Proofs.Path.Below
import BlobTree.Proofs.Store.Frame

/-!
# BlobTree.Proofs.FileTree.Within

What an operation is made of. Every operation of a tree asks the store about keys that stand for
its paths, translates a failure to find an object, raises failures of its own, and does nothing
else (`Within`). This is shown once for each operation; what every action of that kind has in
common is then an induction over the parts.

* `Within`: an action whose calls and failures stay within a scope, and what is known of its value
  (`Within.yields`).
* `Within.keeps`: an invariant that the calls of a scope keep is kept by every such action.
* `carryOut_within`, `walk_within`: the operations of a tree, over any store.
-/

namespace BlobTree

/-- A call that fails if there is nothing under its first key. -/
def Call.Seeks : Call → Prop
  | .get _ | .read _ _ | .properties _ | .delete _ | .copy _ _ => True
  | _ => False

/-- A call that a store has no reason to refuse. -/
def Call.Plain {σ : Type} (b : Backend σ) : Call → Prop
  | .exists _ | .deleteIfExists _ | .createAppendable _ => True
  | .put _ data => ¬b.maxPutSize.lt (.ofNat data.length)
  | _ => False

theorem Failure.pathNotFound_or (e : Failure) :
    (∃ p, e = .pathNotFound p) ∨ ∀ p, e ≠ .pathNotFound p := by
  cases e with
  | pathNotFound p => exact .inl ⟨p, rfl⟩
  | _ => exact .inr (by simp)

/-- Bounds for what an action does. -/
structure Scope (σ : Type) where
  /-- Keys that calls may be about. -/
  near : Name → Prop
  /-- Names that listings may begin with. -/
  starts : Name → Prop
  /-- What a page of a listing that begins with the first name may hold. -/
  holds : Name → Name → Prop
  /-- Failures that may be raised. -/
  raises : Failure → Prop
  /-- A listing or a walk may come to the end of its budget. -/
  stops : Prop
  /-- What the function that is given to a walk may do. -/
  visits : Action σ Visit → Prop

section Scopes

variable {σ : Type}

/-- There is room for every failure that a tree raises about one path. -/
def Scope.Reports (S : Scope σ) (path : Name) : Prop :=
  ∀ f : Failure, f.isDriver → (∀ p, f = .pathNotFound p → p = path) → S.raises f

/-- A path that a listing with this start may give. -/
def Scope.Lists (S : Scope σ) (root : Root) (start p : Name) : Prop :=
  ∃ k, S.holds start k ∧ root.pathOf? k = some p

/-- The scope has room for all that a tree does. -/
structure Scope.Admits (S : Scope σ) (t : FileTree) : Prop where
  raises : ∀ f, S.raises f
  stops : S.stops
  key : ∀ p, Path.isValid p → S.near (t.root.keyOf p)
  start : ∀ p, Path.isDirectory p → S.starts (t.root.listingPrefix p)
  listed : ∀ p q, Path.isValid p → S.Lists t.root (t.root.listingPrefix p) q →
    S.near (t.root.keyOf q)

/-- Pages hold what the scope says they do. -/
def Scope.Fits (S : Scope σ) (b : Backend σ) : Prop :=
  ∀ start request s page, (b.answer s (.listPage start request)).1 = .ok page →
    ∀ k ∈ page.keys, S.holds start k

/-- Calls within the scope keep an invariant of the store, under which pages hold what the scope
says they do. -/
structure Scope.Keeps (S : Scope σ) (b : Backend σ) (inv : σ → Prop) : Prop where
  call : ∀ c s, (∀ k ∈ c.keys, S.near k) → inv s → inv (b.answer s c).2
  page : ∀ start request s, S.starts start → inv s →
    inv (b.answer s (.listPage start request)).2 ∧
      ∀ page, (b.answer s (.listPage start request)).1 = .ok page → ∀ k ∈ page.keys, S.holds start k
  visit : ∀ x, S.visits x → x.Keeps inv fun _ => True

end Scopes

namespace FileTree

open BlobTree.Action

variable {σ : Type}

/-- An action that is put together from calls and failures within a scope; the predicate is what is
known of its value. -/
inductive Within (b : Backend σ) (S : Scope σ) :
    {α : Type} → Action σ α → (α → Prop) → Prop where
  | pure {α : Type} {Q : α → Prop} {a : α} : Q a → Within b S (pure a) Q
  | fail {α : Type} {Q : α → Prop} {f : Failure} : S.raises f → Within b S (fail f) Q
  | unfinished {α : Type} {Q : α → Prop} : S.stops → Within b S unfinished Q
  | log (l : Logger) (level : Level) (fields : Fields) (message : String) :
      Within b S (log l level fields message) fun _ => True
  | plain {c : Call} : c.Plain b → (∀ k ∈ c.keys, S.near k) → Within b S (call b c) fun _ => True
  | page {start : Name} (request : PageRequest) : S.starts start →
      Within b S (call b (.listPage start request)) fun page => ∀ k ∈ page.keys, S.holds start k
  /-- A call whose failure to find an object is reported as the path. -/
  | seek {c : Call} {path : Name} : c.Seeks → (∀ k ∈ c.keys, S.near k) →
      S.raises (.pathNotFound path) → Within b S (callAt b path c) fun _ => True
  | properties {key : Name} : S.near key → Within b S (properties? b key) fun _ => True
  | visit {x : Action σ Visit} : S.visits x → Within b S x fun _ => True
  | bind {α β : Type} {x : Action σ α} {f : α → Action σ β} {Q : α → Prop} {R : β → Prop} :
      Within b S x Q → (∀ a, Q a → Within b S (f a) R) → Within b S (x >>= f) R
  | measured {α : Type} {x : Action σ α} {Q : α → Prop} (name : Name) (labels : Option Labels) :
      Within b S x Q → Within b S (measured name x labels) Q
  /-- A path that is not found is passed over; every other failure is raised again. -/
  | recover {α β : Type} {x : Action σ α} {f : Except Failure α → Action σ β} {Q : α → Prop}
      {R : β → Prop} :
      Within b S x Q → (∀ a, Q a → Within b S (f (.ok a)) R) →
      (∀ p, Within b S (f (.error (.pathNotFound p))) R) →
      (∀ e, (∀ p, e ≠ .pathNotFound p) → f (.error e) = Action.fail e) →
      Within b S (attempt x >>= f) R

namespace Within

variable {b : Backend σ} {S : Scope σ} {α β : Type} {x : Action σ α} {Q : α → Prop}

theorem keeps {inv : σ → Prop} (hS : S.Keeps b inv) (hx : Within b S x Q) : x.Keeps inv Q := by
  induction hx with
  | @pure _ _ a ha =>
    refine keeps_of_gives fun s hs => ⟨_, s, gives_pure a s, hs, fun a' heq => ?_⟩
    cases heq
    exact ha
  | @fail _ _ f => exact keeps_of_gives fun s hs => ⟨_, s, gives_fail f s, hs, by simp⟩
  | unfinished => exact keeps_of_gives fun s hs => ⟨_, s, gives_unfinished s, hs, by simp⟩
  | log l level fields message =>
    exact keeps_of_gives fun s hs => ⟨_, s, gives_log l level fields message s, hs, by simp⟩
  | @plain c _ hkeys =>
    exact keeps_of_gives fun s hs => ⟨_, _, gives_call b c s, hS.call c s hkeys hs, by simp⟩
  | page request hstart =>
    refine keeps_of_gives fun s hs => ?_
    obtain ⟨hinv, hholds⟩ := hS.page _ request s hstart hs
    refine ⟨_, _, gives_call b _ s, hinv, fun page heq => hholds page ?_⟩
    cases hreply : (b.answer s (.listPage _ request)).1 with
    | ok page' => rw [hreply] at heq; cases heq; rfl
    | error e => rw [hreply] at heq; cases heq
  | @seek c path _ hkeys =>
    exact keeps_of_gives fun s hs => ⟨_, _, callAt_gives b path c s, hS.call c s hkeys hs, by simp⟩
  | @properties key hkey =>
    have hkeys : ∀ k ∈ (Call.properties key).keys, S.near k := by simpa [Call.keys] using hkey
    exact keeps_of_gives fun s hs => ⟨_, _, properties_gives b key s, hS.call _ s hkeys hs, by simp⟩
  | visit h => exact hS.visit _ h
  | bind _ _ ihx ihf => exact ihx.bind ihf
  | measured name labels _ ih => exact ih.measured name labels
  | recover _ _ _ hfail ihx ihok ihpath =>
    refine ihx.attempt.bind fun r hr => ?_
    cases r with
    | ok a => exact ihok a (hr a rfl)
    | error e =>
      rcases e.pathNotFound_or with ⟨p, rfl⟩ | hother
      · exact ihpath p
      · rw [hfail e hother]
        exact keeps_of_gives fun s hs => ⟨_, s, gives_fail e s, hs, by simp⟩

/-- What is known of the value of an action is true of every value it ends with. -/
theorem yields (hS : S.Fits b) (hx : Within b S x Q) {w w' : World σ} {a : α}
    (h : x.exec w = (.ok a, w')) : Q a := by
  have hany : S.Keeps b fun _ => True := {
    call _ _ _ _ := trivial
    page start request s _ _ := ⟨trivial, fun page hpage => hS start request s page hpage⟩
    visit _ _ _ _ := ⟨trivial, fun _ _ => trivial⟩ }
  exact (hx.keeps hany w trivial).2 a (by rw [h])

theorem map {R : β → Prop} (hx : Within b S x Q) {g : α → β} (h : ∀ a, Q a → R (g a)) :
    Within b S (x >>= fun a => Pure.pure (g a)) R :=
  hx.bind fun a ha => .pure (h a ha)

theorem ofExcept {r : Except Failure α} (hok : ∀ a, r = .ok a → Q a)
    (herror : ∀ f, r = .error f → S.raises f) : Within b S (ofExcept r) Q := by
  cases r with
  | ok a => exact .pure (hok a rfl)
  | error f => exact .fail (herror f rfl)

theorem forM {l : List α} {f : α → Action σ Unit}
    (h : ∀ a ∈ l, Within b S (f a) fun _ => True) : Within b S (l.forM f) fun _ => True := by
  induction l with
  | nil => exact .pure trivial
  | cons a rest ih =>
    rw [List.forM]
    exact (h a List.mem_cons_self).bind fun _ _ =>
      ih fun a' ha' => h a' (List.mem_cons_of_mem _ ha')

theorem fail_bind {R : β → Prop} {e : Failure} {g : α → Action σ β} (h : S.raises e) :
    Within b S (Action.fail e >>= g) R :=
  .bind (Q := fun _ => False) (.fail h) fun _ hf => hf.elim

theorem pure_bind {R : β → Prop} {a : α} {g : α → Action σ β} (h : Within b S (g a) R) :
    Within b S (Pure.pure a >>= g) R :=
  .bind (Q := (· = a)) (.pure rfl) fun _ ha => ha ▸ h

theorem ite {c : Prop} [Decidable c] {y : Action σ α} (hx : c → Within b S x Q)
    (hy : ¬c → Within b S y Q) : Within b S (if c then x else y) Q := by
  by_cases hc : c
  · rw [if_pos hc]
    exact hx hc
  · rw [if_neg hc]
    exact hy hc

end Within

section Operations

variable {t : FileTree} {b : Backend σ} {S : Scope σ} {path : Name} {α : Type} {Q : α → Prop}

theorem raises_notFound (h : S.Reports path) : S.raises (.pathNotFound path) :=
  h _ rfl fun _ heq => (Failure.pathNotFound.inj heq).symm

theorem onPath_within {x : Action σ α} (h : S.Reports path)
    (hx : Path.isValid path → Within b S x Q) : Within b S (onPath path x) Q :=
  .ite hx fun _ => .fail (h _ rfl (by simp))

theorem onDirectory_within {x : Action σ α} (h : S.Reports path)
    (hx : Path.isDirectory path → Within b S x Q) : Within b S (onDirectory path x) Q :=
  .ite hx fun _ => .fail (h _ rfl (by simp))

theorem callAt_within {c : Call} {key : Name} (h : S.Reports path) (hkey : S.near key)
    (hseeks : c.Seeks) (hkeys : c.keys = [key]) : Within b S (callAt b path c) fun _ => True := by
  refine .seek hseeks ?_ (raises_notFound h)
  rw [hkeys]
  simpa using hkey

theorem getContent_within (h : S.Reports path)
    (hkey : Path.isValid path → S.near (t.root.keyOf path)) :
    Within b S (t.getContent b path) fun _ => True :=
  onPath_within h fun hp => .measured _ _ (callAt_within h (hkey hp) trivial rfl)

theorem putContent_within {data : Bytes} (h : S.Reports path)
    (hkey : Path.isValid path → S.near (t.root.keyOf path)) :
    Within b S (t.putContent b path data) fun _ => True := by
  simp only [putContent]
  refine onPath_within h fun hp => .ite (fun _ => .fail (h _ rfl (by simp))) fun hsize => ?_
  have hput : Within b S (call b (.put (t.root.keyOf path) data)) fun _ => True :=
    .plain hsize (by simpa [Call.keys] using hkey hp)
  refine .measured _ _ (.bind (.properties (hkey hp)) fun existing _ => ?_)
  cases existing with
  | none => exact hput
  | some existing =>
    refine .ite (fun _ => ?_) fun _ => hput
    exact .bind (.log ..) fun _ _ =>
      .bind (callAt_within h (hkey hp) trivial rfl) fun _ _ => hput

theorem reader_within {offset : Number} (h : S.Reports path)
    (hkey : Path.isValid path → S.near (t.root.keyOf path)) :
    Within b S (t.reader b path offset) fun _ => True := by
  simp only [reader]
  refine onPath_within h fun hp => .ite (fun _ => .fail (h _ rfl (by simp))) fun _ => ?_
  refine .measured _ _ (.bind (.properties (hkey hp)) fun found _ => ?_)
  cases found with
  | none => exact .fail (raises_notFound h)
  | some p =>
    exact .ite (fun _ => .pure trivial) fun _ => callAt_within h (hkey hp) trivial rfl

theorem writer_within {append : Bool} (h : S.Reports path)
    (hkey : Path.isValid path → S.near (t.root.keyOf path))
    (hchunk : t.maxChunkSize.toPositive? = none → S.raises (.badChunkSize t.maxChunkSize)) :
    Within b S (t.writer b path append) fun w => S.near w.key := by
  simp only [writer]
  refine onPath_within h fun hp => .measured _ _ ?_
  have hopened (size : Number) : Within b S (do
      log t.logger .debug
        [textField "path" path, ("append", .flag append), ("size", .number size)] "writer opened"
      ofExcept <| Writer.start path (t.root.keyOf path) size t.maxChunkSize
        (some (t.logger.child [textField "writer" path]))) fun w => S.near w.key := by
    refine .bind (.log ..) fun _ _ => .ofExcept (fun w hw => ?_) fun f hf => ?_
    · rw [start_key hw]
      exact hkey hp
    · obtain ⟨rfl, hnone⟩ := start_error hf
      exact hchunk hnone
  have hkeys : ∀ k ∈ [t.root.keyOf path], S.near k := by simpa using hkey hp
  refine .bind (.plain (c := .exists _) trivial hkeys) fun present _ => .ite (fun _ => ?_) fun _ =>
    .ite (fun _ => ?_) fun _ => ?_
  · refine .bind (.properties (hkey hp)) fun found _ => ?_
    cases found with
    | none => exact .fail_bind (raises_notFound h)
    | some p => exact .pure_bind (hopened p.size)
  · exact .fail_bind (raises_notFound h)
  · have hcreate := Within.bind (.plain (c := .createAppendable _) trivial hkeys) fun _ _ =>
      .pure_bind (hopened (.ofNat 0))
    exact .ite (fun _ => .bind (callAt_within h (hkey hp) trivial rfl) fun _ _ => hcreate)
      fun _ => hcreate

theorem stat_within (h : S.Reports path)
    (hkey : Path.isValid path → S.near (t.root.keyOf path))
    (hstart : Path.isDirectory path → S.starts (t.root.listingPrefix path)) :
    Within b S (t.stat b path) fun _ => True := by
  simp only [stat]
  refine onDirectory_within h fun hdir => .measured _ _ ?_
  have hlook : Within b S (do
      let page ← call b (.listPage (t.root.listingPrefix path) { maxResults := some (.ofNat 1) })
      if page.keys.isEmpty then fail (.pathNotFound path) else return Entry.directory path)
      fun _ => True :=
    .bind (.page _ (hstart hdir)) fun _ _ =>
      .ite (fun _ => .fail (raises_notFound h)) fun _ => .pure trivial
  refine .ite (fun hroot => ?_) fun _ => .pure_bind hlook
  have hnear := hkey ((Path.isDirectory_iff.mp hdir).resolve_left hroot)
  refine .bind (.plain (c := .exists _) trivial (by simpa [Call.keys] using hnear)) fun _ _ =>
    .ite (fun _ => .bind (.properties hnear) fun found _ => ?_) fun _ => .pure_bind hlook
  cases found with
  | none => exact hlook
  | some p => exact .pure trivial

theorem move_within {source dest : Name} (h : S.Reports source)
    (hdest : S.raises (.invalidPath dest)) (hkey : ∀ p, Path.isValid p → S.near (t.root.keyOf p)) :
    Within b S (t.move b source dest) fun _ => True := by
  rw [move]
  refine onPath_within h fun hsource => .ite (fun hdest => ?_) fun _ => .fail hdest
  refine .measured _ _ (.bind (.seek trivial ?_ (raises_notFound h)) fun _ _ =>
    callAt_within h (hkey source hsource) trivial rfl)
  simpa [Call.keys] using ⟨hkey source hsource, hkey dest hdest⟩

theorem deleteFiles_within (path : Name) (files : List Name)
    (hraises : ∀ file ∈ files, S.raises (.pathNotFound file))
    (hkeys : ∀ file ∈ files, S.near (t.root.keyOf file)) : Within b S (do
      files.forM fun file => callAt b file (.delete (t.root.keyOf file))
      log t.logger .debug
        [textField "path" path, ("count", .number (.ofNat files.length))]
        "deleted virtual directory") fun _ => True := by
  refine .bind (.forM fun file hfile => .seek trivial ?_ (hraises file hfile)) fun _ _ => .log ..
  simpa [Call.keys] using hkeys file hfile

theorem urlFor_within (h : S.Reports path) :
    Within b S (urlFor path : Action σ String) fun _ => True :=
  onPath_within h fun _ => .fail (h _ rfl (by simp))

end Operations

section Listing

variable {t : FileTree} {b : Backend σ} {S : Scope σ} {root : Root} {start path : Name}

theorem exists_key_of_mem_pathsOf {ks ps : List Name} (h : Listing.pathsOf root ks = .ok ps) :
    ∀ p ∈ ps, ∃ k ∈ ks, root.pathOf? k = some p := by
  induction ks generalizing ps with
  | nil =>
    cases h
    simp
  | cons k rest ih =>
    rw [Listing.pathsOf] at h
    cases hk : root.pathOf? k with
    | none =>
      rw [hk] at h
      cases h
    | some first =>
      rw [hk] at h
      cases hrest : Listing.pathsOf root rest with
      | error f =>
        rw [hrest] at h
        cases h
      | ok more =>
        rw [hrest] at h
        cases h
        intro p hp
        rcases List.mem_cons.mp hp with rfl | hp
        · exact ⟨k, List.mem_cons_self, hk⟩
        · obtain ⟨k', hk', hpath⟩ := ih hrest p hp
          exact ⟨k', List.mem_cons_of_mem _ hk', hpath⟩

variable (hraises : ∀ f, S.raises f) (hstops : S.stops)

include hraises in
theorem fetch_within (hstart : S.starts start) (c : Cursor) :
    Within b S (Listing.fetch b root start c) fun r =>
      (∀ p ∈ r.1, S.Lists root start p) ∧
        ∀ c', r.2 = .more c' → c'.gathered = c.gathered ++ r.1 := by
  rw [Listing.fetch]
  refine .bind (.page _ hstart) fun page hpage => .bind
    (.ofExcept (Q := fun paths => ∀ p ∈ paths, S.Lists root start p) (fun paths hpaths p hp => ?_)
      fun f _ => hraises f) fun paths hpaths => .pure ⟨hpaths, fun c' hc' => ?_⟩
  · obtain ⟨k, hk, hpath⟩ := exists_key_of_mem_pathsOf hpaths p hp
    exact ⟨k, hpage k hk, hpath⟩
  · simp only [Listing.advance] at hc'
    split at hc'
    · cases hc'
    · split at hc'
      · cases hc'
      · cases hc'
        rfl

include hraises hstops in
theorem rest_within (hstart : S.starts start) (budget : Nat) {c : Cursor}
    (hc : ∀ p ∈ c.gathered, S.Lists root start p) :
    Within b S (Listing.rest b root start budget c) fun ps =>
      ∀ p ∈ ps, S.Lists root start p := by
  induction budget generalizing c with
  | zero => exact .unfinished hstops
  | succ budget ih =>
    rw [Listing.rest]
    refine .bind (fetch_within hraises hstart c) fun (paths, next) ⟨hpaths, hnext⟩ => ?_
    have hall : ∀ p ∈ c.gathered ++ paths, S.Lists root start p := fun p hp =>
      (List.mem_append.mp hp).elim (hc p) (hpaths p)
    cases next with
    | finished => exact .pure hall
    | repeated marker => exact .fail (hraises _)
    | more c' => exact ih (hnext c' rfl ▸ hall)

end Listing

section Tree

variable {t : FileTree} {b : Backend σ} {S : Scope σ} (hS : S.Admits t) (path : Name)

include hS

theorem reports (path : Name) : S.Reports path :=
  fun f _ _ => hS.raises f

theorem below_within (hstart : S.starts (t.root.listingPrefix path)) :
    Within b S (Listing.below b t.root t.pageBudget path) fun ps =>
      ∀ p ∈ ps, S.Lists t.root (t.root.listingPrefix path) p :=
  rest_within hS.raises hS.stops hstart _ (by simp)

theorem list_within : Within b S (t.list b path) fun _ => True := by
  simp only [list]
  refine onDirectory_within (reports hS path) fun hdir => .measured _ _ (.bind
    (below_within hS _ ?_) fun _ _ => .ite (fun _ => .fail (hS.raises _)) fun _ => .pure trivial)
  split
  · exact hS.start Path.root rfl
  · exact hS.start path hdir

theorem delete_within : Within b S (t.delete b path) fun _ => True := by
  simp only [delete]
  refine onPath_within (reports hS path) fun hp => .measured _ _ ?_
  have hstart := hS.start path (Path.isDirectory_iff.mpr (.inr hp))
  refine .bind (.plain (c := .deleteIfExists _) trivial (by simpa [Call.keys] using hS.key path hp))
    fun gone _ => .ite (fun _ => .pure trivial) fun _ =>
      .bind (below_within hS path hstart) fun files hfiles => ?_
  exact .ite (fun _ => .fail_bind (hS.raises _)) fun _ =>
    deleteFiles_within path files (fun _ _ => hS.raises _) fun file hfile =>
      hS.listed path file hp (hfiles file hfile)

/-- Every operation keeps within a scope that admits the tree, and a session that it opens is on a
key of the scope. -/
theorem carryOut_within (q : Operation) :
    Within b S (t.carryOut b q) fun a => ∀ w, a = .session w → S.near w.key := by
  have hreports := reports hS
  have hkey := hS.key
  cases q with
  | getContent p => exact (getContent_within (hreports p) (hkey p)).map (by simp)
  | putContent p data => exact (putContent_within (hreports p) (hkey p)).map (by simp)
  | reader p offset => exact (reader_within (hreports p) (hkey p)).map (by simp)
  | writer p append =>
    refine (writer_within (hreports p) (hkey p) fun _ => hS.raises _).map fun w hw w' heq => ?_
    cases heq
    exact hw
  | stat p => exact (stat_within (hreports p) (hkey p) (hS.start p)).map (by simp)
  | list p => exact (list_within hS p).map (by simp)
  | move p dest => exact (move_within (hreports p) (hS.raises _) hkey).map (by simp)
  | delete p => exact (delete_within hS p).map (by simp)
  | urlFor p => exact (urlFor_within (hreports p)).map (by simp)

theorem visitBelow_within {visit : Entry → Action σ Visit} (logger : Option Logger)
    (hvisit : ∀ e, S.visits (visit e)) (depth : Nat) (dir : Name) :
    Within b S (Walk.visitBelow ⟨t.list b, t.stat b⟩ visit logger depth dir) fun _ => True := by
  induction depth generalizing dir with
  | zero => exact .unfinished hS.stops
  | succ depth ih =>
    rw [Walk.visitBelow]
    -- `recover` and not `bind`: a child may have gone since it was listed
    refine .bind (list_within hS dir) fun children _ => .forM fun child _ => ?_
    refine .recover (stat_within (reports hS child) (hS.key child) (hS.start child))
      (fun entry _ => ?_) (fun p => ?_) fun e he => ?_
    · exact .bind (.visit (hvisit entry)) fun _ _ => .ite (fun _ => ih child) fun _ => .pure trivial
    · cases logger with
      | none => exact .pure trivial
      | some l => exact .log ..
    · cases e with
      | pathNotFound p => exact absurd rfl (he p)
      | _ => rfl

theorem walk_within {visit : Entry → Action σ Visit} (hvisit : ∀ e, S.visits (visit e)) :
    Within b S (t.walk b path visit) fun _ => True :=
  onDirectory_within (reports hS path) fun _ => visitBelow_within hS _ hvisit _ path

end Tree

end FileTree
end BlobTree
