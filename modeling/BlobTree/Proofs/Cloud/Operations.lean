import BlobTree.Proofs.Cloud.Course
import BlobTree.Proofs.FileTree.Within

/-!
# BlobTree.Proofs.Cloud.Operations

The terms of each operation of a tree over a connected container, and that the operation keeps to
them.

* `terms`: for each operation; `Look`: the request after which `stat` knows whether there is a
  directory.
* `follows_rest`: the pages of a listing, by induction on the budget; `follows_deletes`: the deletes
  after it.
* `carryOut_follows`: every operation.
-/

namespace BlobTree
namespace Cloud

open BlobTree.Action BlobTree.FileTree

def listed (root : Root) (es : List Exchanged) : List Name :=
  (es.flatMap (·.names)).filterMap root.pathOf?

/-- How many deletes have been asked for. -/
def deleted (es : List Exchanged) : Nat :=
  es.countP (·.request.isDelete)

def Look (t : FileTree) (path : Name) : Request :=
  .list (nonEmpty (t.root.listingPrefix path)) none (some (.ofNat 1))

def terms (t : FileTree) : Operation → Terms
  | .getContent path => {
      concerned := fun _ _ p => p = path
      streamed := fun s r => r = (s.drain.map .content).mapError fun err => .failed (.store err) }
  | .putContent path data => {
      concerned := fun _ _ p => p = path
      continues := fun _ _ after =>
        ∃ e, after = [e] ∧ e.request = .upload (t.root.keyOf path) data }
  | .reader path _ => {
      concerned := fun _ _ p => p = path
      continues := fun _ r after => after = [] ∧ r = .error (.failed (.pathNotFound path))
      streamed := fun s r => r = .ok (.stream s) }
  | .writer path _ => {
      concerned := fun _ _ p => p = path
      continues := fun _ r after => after = [] ∧ r = .error (.failed (.pathNotFound path)) }
  | .stat path => { continues := fun _ _ after => ∃ e, after = [e] ∧ e.request = Look t path }
  | .list _ | .urlFor _ => {}
  | .move source _ => { concerned := fun _ _ p => p = source }
  | .delete _ => {
      concerned := fun before e p =>
        (listed t.root before)[deleted before]? = some p ∧ e.request = .delete (t.root.keyOf p) }

@[simp] theorem listed_append (root : Root) (es es' : List Exchanged) :
    listed root (es ++ es') = listed root es ++ listed root es' := by
  simp [listed]

@[simp] theorem deleted_append (es es' : List Exchanged) :
    deleted (es ++ es') = deleted es + deleted es' := by
  simp [deleted]

variable {T : Terms} {before : List Exchanged} {σ α β : Type} {client : Client σ}
  {g : α → Answer} {g' : β → Answer}

theorem follows_onPath {x : Action (Link (Transcript σ)) α} {path : Name}
    (h : Follows T before g x) : Follows T before g (onPath path x) := by
  unfold onPath
  split
  · exact h
  · exact follows_fail (by simp)

theorem follows_onDirectory {x : Action (Link (Transcript σ)) α} {path : Name}
    (h : Follows T before g x) : Follows T before g (onDirectory path x) := by
  unfold onDirectory
  split
  · exact h
  · exact follows_fail (by simp)

theorem atPath_broken {s : ByteStream} {err : StoreError} (h : s.error? = some err)
    (path : Name) : Failure.atPath path (.store err) = .store err := by
  unfold ByteStream.error? at h
  cases hfault : s.fault with
  | none => simp [hfault] at h
  | some message => cases hstatus : s.status <;> simp [hfault, hstatus] at h <;> subst h <;> rfl

theorem error?_of_drain {s : ByteStream} {err : StoreError} (h : s.drain = .error err) :
    s.error? = some err := by
  unfold ByteStream.drain at h
  split at h
  · cases h
  · rename_i he
    cases h
    exact he

theorem follows_download {c : Call} {path key : Name} {offset : Number} {g : c.Reply → Answer}
    {value : ByteStream → Except StoreError c.Reply}
    (hc : SendsOne (exchange client.transcribed c) (.download key offset)
      (fun s => (bodyOf key s).bind value) (Fault.about key))
    (hpath : ∀ f, T.concerned before ⟨.download key offset, .error f⟩ path)
    (hvalue : ∀ s err, value s = .error err → s.error? = some err)
    (hstream : ∀ s, T.streamed s (((value s).map g).mapError fun err => .failed (.store err))) :
    Follows T before g (callAt (backend client.transcribed) path c) := by
  refine (callAt_asking path hc).mono ?_
  rintro r _ ⟨f | s, rfl, rfl⟩
  · exact course_sought rfl (hpath f) key
  · cases s with
    | none => exact .bodiless ⟨offset, rfl⟩
    | some s =>
      have hs := hstream s
      cases h : value s with
      | error err =>
        have hbroken := hvalue s err h
        simp only [bodyOf, Except.bind, h, mapError_error, atPath_broken hbroken]
        rw [h] at hs
        refine .streamed rfl hs ?_
        intro err' herr
        cases herr
        exact hbroken
      | ok a =>
        simp only [bodyOf, Except.bind, h]
        rw [h] at hs
        refine .streamed rfl hs ?_
        intro err herr
        cases herr

theorem follows_copy {path source dest : Name} {k : Unit → Action (Link (Transcript σ)) β}
    (hpath : ∀ before e, T.concerned before e path)
    (hk : ∀ before, Follows T before g' (k ())) :
    Follows T before g' (callAt (backend client.transcribed) path (.copy source dest) >>= k) := by
  refine Asks.bind (asks_of_sends (c := .copy source dest) _ (callAt_gives _ path _)
    (copy_sends client source dest)) ?_ ?_
  · rintro a _ ⟨_, h, ha⟩
    rcases h with ⟨f, rfl, rfl⟩ | ⟨reply, rfl, rfl⟩
    · cases ha
    · cases reply with
      | error f => cases ha
      | ok =>
        refine (hk (before ++ [⟨.beginCopy dest (client.url source), .ok ()⟩] ++
          [⟨.finishCopy dest, .ok ()⟩])).mono ?_
        intro r later h
        exact .passed rfl rfl (.passed rfl rfl h)
  · rintro e _ ⟨_, h, ha⟩
    rcases h with ⟨f, rfl, rfl⟩ | ⟨reply, rfl, rfl⟩
    · cases ha
      exact course_sought rfl (hpath _ _) source
    · cases reply with
      | error f =>
        cases ha
        exact .passed rfl rfl (course_sought rfl (hpath _ _) source)
      | ok => cases ha

theorem pathsOf_eq {root : Root} {keys paths : List Name}
    (h : Listing.pathsOf root keys = .ok paths) : paths = keys.filterMap root.pathOf? := by
  induction keys generalizing paths with
  | nil =>
    cases h
    rfl
  | cons k keys ih =>
    rw [Listing.pathsOf] at h
    cases hk : root.pathOf? k with
    | none => simp [hk] at h
    | some path =>
      cases hkeys : Listing.pathsOf root keys with
      | error f => simp [hk, hkeys, Except.map] at h
      | ok rest =>
        simp only [hk, hkeys, Except.map, Except.ok.injEq] at h
        rw [← h, List.filterMap_cons_some hk, ih hkeys]

/-- After all pages of a listing, by induction on how many it may take. -/
theorem follows_rest {root : Root} {start : Name} {k : List Name → Action (Link (Transcript σ)) β}
    (budget : Nat) (c : Cursor) (before : List Exchanged)
    (hk : ∀ es, deleted es = 0 →
      Follows T (before ++ es) g' (k (c.gathered ++ listed root es))) :
    Follows T before g'
      (Listing.rest (backend client.transcribed) root start budget c >>= k) := by
  induction budget generalizing c before with
  | zero => exact follows_quiet (fun s => (gives_unfinished s).bind_error) (by simp)
  | succ budget ih =>
    simp only [Listing.rest, Listing.fetch, bind_assoc]
    refine follows_request (call_asking (listPage_sends client start _)) rfl rfl ?_
    intro segment
    generalize he : (⟨.list _ _ _, .ok segment⟩ : Exchanged) = e
    have hdeleted : deleted [e] = 0 := by subst he; rfl
    cases hpaths : Listing.pathsOf root (pageOf segment).keys with
    | error f =>
      obtain ⟨key, rfl⟩ := Root.pathsOf_error hpaths
      exact follows_fail_bind (by simp)
    | ok paths =>
      have hlisted : listed root [e] = paths := by
        rw [pathsOf_eq hpaths]
        subst he
        cases segment <;> simp [listed, Exchanged.names, Request.names, pageOf]
      simp only [Action.ofExcept, pure_bind]
      cases hnext : Listing.advance c (pageOf segment) paths with
      | finished =>
        simp only [pure_bind]
        rw [← hlisted]
        exact hk [e] hdeleted
      | repeated marker => exact follows_fail_bind (by simp)
      | more c' =>
        -- the cursor has gathered the paths of this page, which its exchange lists
        refine ih c' (before ++ [e]) ?_
        intro es hes
        have hgathered : c'.gathered = c.gathered ++ paths := by
          unfold Listing.advance at hnext
          split at hnext
          · cases hnext
          · split at hnext <;> cases hnext
            rfl
        have h := hk ([e] ++ es) (by rw [deleted_append, hdeleted, hes])
        rwa [listed_append, hlisted, ← List.append_assoc, ← List.append_assoc,
          ← hgathered] at h

section Operations

variable (client) (t : FileTree)

theorem getContent_follows (path : Name) :
    Follows (terms t (.getContent path)) before .content
      (t.getContent (backend client.transcribed) path) := by
  refine follows_onPath <| Follows.measured ?_ _ _
  refine follows_download (get_sends client _) ?_ ?_ ?_
  · intro f
    rfl
  · intro s err h
    exact error?_of_drain h
  · intro s
    rfl

theorem putContent_follows (path : Name) (data : Bytes) :
    Follows (terms t (.putContent path data)) before (fun _ => .done)
      (t.putContent (backend client.transcribed) path data) := by
  have hput : ∀ before, (call (backend client.transcribed) (.put (t.root.keyOf path) data)).Asks
      fun r es => (∃ e, es = [e] ∧ e.request = .upload (t.root.keyOf path) data) ∧
        Course (terms t (.putContent path data)) before (r.map fun _ => .done) es := by
    intro before
    refine (call_asking (c := .put _ _) (send_sends client (.upload _ _) _)).mono ?_
    rintro r _ ⟨reply, rfl, rfl⟩
    refine ⟨⟨_, rfl, rfl⟩, ?_⟩
    cases reply with
    | error f => exact course_refused (.inl ⟨rfl, rfl⟩)
    | ok => exact .passed rfl rfl (course_ended (by simp [Except.map]))
  refine follows_onPath ?_
  split
  · exact follows_fail (by simp)
  · refine Follows.measured (follows_properties ?_ ?_) _ _
    · intro d
      dsimp only
      split
      · refine follows_log (follows_delete ?_ ?_)
        · intro f
          rfl
        · exact (hput _).mono fun r es h => h.2
      · exact (hput _).mono fun r es h => h.2
    · intro f hf
      exact hput _

theorem reader_follows (path : Name) (offset : Number) :
    Follows (terms t (.reader path offset)) before .stream
      (t.reader (backend client.transcribed) path offset) := by
  refine follows_onPath ?_
  split
  · exact follows_fail (by simp)
  · refine Follows.measured (follows_properties ?_ ?_) _ _
    · intro d
      dsimp only
      split
      · exact follows_pure _
      · have hread := read_sends client (t.root.keyOf path) offset
        rw [← bodyOf_bind_ok] at hread
        refine follows_download hread ?_ ?_ ?_
        · intro f
          rfl
        · intro s err h
          cases h
        · intro s
          rfl
    · intro f hf
      refine asks_of_quiet (gives_fail _) ?_
      exact ⟨⟨rfl, rfl⟩, course_ended (by simp [Except.map])⟩

theorem writer_follows (path : Name) (append : Bool) :
    Follows (terms t (.writer path append)) before .session
      (t.writer (backend client.transcribed) path append) := by
  have hopened : ∀ size before, Follows (σ := σ) (terms t (.writer path append)) before .session
      (do
        log t.logger .debug
          [textField "path" path, ("append", .flag append), ("size", .number size)] "writer opened"
        Action.ofExcept (Writer.start path (t.root.keyOf path) size t.maxChunkSize
          (some (t.logger.child [textField "writer" path])))) := by
    intro size before
    refine follows_log (follows_quiet (gives_ofExcept _) ?_)
    intro err h
    cases hw : Writer.start path (t.root.keyOf path) size t.maxChunkSize
      (some (t.logger.child [textField "writer" path])) with
    | ok w => simp [hw] at h
    | error f =>
      obtain ⟨rfl, _⟩ := start_error hw
      simp [hw] at h
  have hcreate : ∀ before, Follows (terms t (.writer path append)) before .session
      (do
        call (backend client.transcribed) (.createAppendable (t.root.keyOf path))
        let size ← pure (Number.ofNat 0)
        log t.logger .debug
          [textField "path" path, ("append", .flag append), ("size", .number size)] "writer opened"
        Action.ofExcept (Writer.start path (t.root.keyOf path) size t.maxChunkSize
          (some (t.logger.child [textField "writer" path])))) := by
    intro before
    refine follows_request (call_asking (c := .createAppendable _)
      (send_sends client (.createAppendable _) _)) rfl rfl ?_
    intro a
    exact hopened _ _
  refine follows_onPath <| Follows.measured ?_ _ _
  refine follows_request (call_asking (c := .exists _) (send_sends client (.exists _) _)) rfl rfl ?_
  intro present
  dsimp only
  split
  · refine follows_properties ?_ ?_
    · intro d
      exact hopened _ _
    · intro f hf
      refine asks_of_quiet (fun s => (gives_fail _ s).bind_error) ?_
      exact ⟨⟨rfl, rfl⟩, course_ended (by simp [Except.map])⟩
  · split
    · exact follows_fail_bind (by simp)
    · split
      · refine follows_delete ?_ (hcreate _)
        intro f
        rfl
      · exact hcreate _

theorem list_follows (path : Name) :
    Follows T before .paths (t.list (backend client.transcribed) path) := by
  refine follows_onDirectory <| Follows.measured (follows_rest _ _ _ ?_) _ _
  intro es _
  generalize (if path = Path.root then [] else path) = start
  dsimp only
  split
  · exact follows_fail (by simp)
  · exact follows_pure _

theorem stat_follows (path : Name)
    (hT : ∀ f e r, f.Absent → e.request = Look t path →
      T.continues ⟨.describe (t.root.keyOf path), .error f⟩ r [e]) :
    Follows T before .entry (t.stat (backend client.transcribed) path) := by
  have hlook : ∀ before, (do
      let page ← call (backend client.transcribed)
        (.listPage (t.root.listingPrefix path) { maxResults := some (.ofNat 1) })
      if page.keys.isEmpty then fail (.pathNotFound path) else pure (Entry.directory path)).Asks
      fun r es => (∃ e, es = [e] ∧ e.request = Look t path) ∧
        Course T before (r.map .entry) es := by
    intro before
    refine Asks.bind (call_asking (c := .listPage _ _) (listPage_sends client _ _)) ?_ ?_
    · rintro page _ ⟨f | segment, rfl, h⟩
      · cases h
      · split
        · refine asks_of_quiet (gives_fail _) ⟨⟨_, rfl, rfl⟩, ?_⟩
          exact .passed rfl rfl (course_ended (by simp [Except.map]))
        · refine asks_of_quiet (gives_pure _) ⟨⟨_, rfl, rfl⟩, ?_⟩
          exact .passed rfl rfl (course_ended (by simp [Except.map]))
    · rintro e _ ⟨f | segment, rfl, h⟩
      · cases h
        exact ⟨⟨_, rfl, rfl⟩, course_refused (.inl ⟨rfl, rfl⟩)⟩
      · cases h
  refine follows_onDirectory <| Follows.measured ?_ _ _
  dsimp only
  split
  · refine follows_request (call_asking (c := .exists _) (send_sends client (.exists _) _))
      rfl rfl ?_
    intro present
    split
    · refine follows_properties ?_ ?_
      · intro d
        exact follows_pure _
      · intro f hf
        exact (hlook _).mono fun r es ⟨⟨e, hes, he⟩, h⟩ => ⟨hes ▸ hT f e _ hf he, h⟩
    · exact (hlook _).mono fun r es h => h.2
  · exact (hlook _).mono fun r es h => h.2

theorem move_follows (source dest : Name) :
    Follows (terms t (.move source dest)) before (fun _ => .done)
      (t.move (backend client.transcribed) source dest) := by
  refine follows_onPath <| follows_onPath <| Follows.measured (follows_copy ?_ ?_) _ _
  · intro before e
    rfl
  · intro before
    rw [← bind_pure (callAt _ _ _)]
    refine follows_delete ?_ (follows_pure ())
    intro f
    rfl

/-- The deletes after a listing, each of the next path that has been listed. -/
theorem follows_deletes (path : Name) {k : Unit → Action (Link (Transcript σ)) β}
    (files : List Name) (before : List Exchanged)
    (hbefore : (listed t.root before).drop (deleted before) = files)
    (hk : ∀ before, Follows (terms t (.delete path)) before g' (k ())) :
    Follows (terms t (.delete path)) before g'
      ((files.forM fun file =>
        callAt (backend client.transcribed) file (.delete (t.root.keyOf file))) >>= k) := by
  induction files generalizing before with
  | nil => exact hk before
  | cons file files ih =>
    have hfile : (listed t.root before)[deleted before]? = some file := by
      have h := congrArg (·[0]?) hbefore
      simpa using h
    have hrest : (listed t.root before).drop (deleted before + 1) = files := by
      rw [← List.drop_drop, hbefore]
      rfl
    -- a delete lists nothing, so the next one is of the path after this one
    rw [List.forM, bind_assoc]
    refine follows_delete ?_ (ih _ ?_)
    · intro f
      exact ⟨hfile, rfl⟩
    · simpa [listed, deleted, Exchanged.names, Request.names, Request.isDelete] using hrest

theorem delete_follows (path : Name) :
    Follows (terms t (.delete path)) [] (fun _ => .done)
      (t.delete (backend client.transcribed) path) := by
  refine follows_onPath <| Follows.measured ?_ _ _
  refine follows_request (call_asking (c := .deleteIfExists _)
    (send_sends client (.deleteIfExists _) _)) rfl rfl ?_
  intro found
  dsimp only
  split
  · exact follows_pure ()
  · refine follows_rest _ _ _ ?_
    intro es hes
    have hlog : ∀ before fields message, Follows (σ := σ) (terms t (.delete path)) before
        (fun _ => Answer.done) (log t.logger .debug fields message) := by
      intro before fields message
      exact follows_quiet (gives_log _ _ _ _) (by simp)
    split
    · exact follows_fail_bind (by simp)
    · refine follows_deletes client t path _ _ ?_ fun before => hlog before _ _
      rw [listed_append, deleted_append, hes]
      rfl

/-- Every operation keeps to its terms. -/
theorem carryOut_follows (q : Operation) :
    Follows (terms t q) [] id (t.carryOut (backend client.transcribed) q) := by
  cases q with
  | getContent path => exact (getContent_follows client t path).map
  | putContent path data => exact (putContent_follows client t path data).map
  | reader path offset => exact (reader_follows client t path offset).map
  | writer path append => exact (writer_follows client t path append).map
  | stat path =>
    refine Follows.map (stat_follows client t path ?_)
    intro f e r _ he
    exact ⟨e, rfl, he⟩
  | list path => exact (list_follows client t path).map
  | move source dest => exact (move_follows client t source dest).map
  | delete path => exact (delete_follows client t path).map
  | urlFor path =>
    refine Follows.map (f := .address) (follows_onPath (follows_fail ?_))
    simp

end Operations

end Cloud
end BlobTree
