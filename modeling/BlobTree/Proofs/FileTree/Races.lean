import BlobTree.Proofs.FileTree.Within
import BlobTree.Proofs.Listing.Bounded

/-!
# BlobTree.Proofs.FileTree.Races

Operations of a tree on a memory store that other clients use at the same time. An object may go
or come between any two calls of an operation, so that what was found first is not there when it is
used; whatever happens, the operation ends with a value or with a failure of the tree's own, and a
path that is not found is the one that was asked about, or one that a delete has met below it.

* `Ends`: how an action ends and what it leaves behind, with rules for sequences.
* `Within.ends`: every action that is made of calls and failures, listings apart.
* `list_ends`, `delete_ended`: the two operations that list.
* `races_reported`: all operations.
-/

namespace BlobTree
namespace Action

variable {σ α β : Type}

/-- From a world, an action comes to its end, with a result and a store such that `R`. -/
def Ends (x : Action σ α) (w : World σ) (R : Except Failure α → σ → Prop) : Prop :=
  ∃ r w', x.exec w = (r.mapError .failed, w') ∧ R r w'.store

variable {x : Action σ α} {w : World σ} {R R' : Except Failure α → σ → Prop}

theorem Ends.mono (h : x.Ends w R) (hR : ∀ r s, R r s → R' r s) : x.Ends w R' := by
  obtain ⟨r, w', hx, hr⟩ := h
  exact ⟨r, w', hx, hR r _ hr⟩

theorem Gives.ends {r : Except Failure α} {s : σ} (h : x.Gives w.store (r.mapError .failed) s)
    (hR : R r s) : x.Ends w R := by
  obtain ⟨w', hx, rfl⟩ := h w rfl
  exact ⟨r, w', hx, hR⟩

theorem Gives.bind_ends {a : α} {s : σ} {f : α → Action σ β} {S : Except Failure β → σ → Prop}
    (hx : x.Gives w.store (.ok a) s) (hf : ∀ w', w'.store = s → (f a).Ends w' S) :
    (x >>= f).Ends w S := by
  obtain ⟨w', hrun, hs⟩ := hx w rfl
  obtain ⟨r, w'', hrest, hS⟩ := hf w' hs
  exact ⟨r, w'', (exec_bind_ok hrun).trans hrest, hS⟩

theorem Ends.bind {f : α → Action σ β} {S : Except Failure β → σ → Prop} (hx : x.Ends w R)
    (hok : ∀ a w', x.exec w = (.ok a, w') → R (.ok a) w'.store → (f a).Ends w' S)
    (herror : ∀ e s, R (.error e) s → S (.error e) s) : (x >>= f).Ends w S := by
  obtain ⟨e | a, w', hrun, hr⟩ := hx
  · exact ⟨.error e, w', exec_bind_error hrun, herror e _ hr⟩
  · obtain ⟨r, w'', hrest, hS⟩ := hok a w' hrun hr
    exact ⟨r, w'', (exec_bind_ok hrun).trans hrest, hS⟩

theorem Ends.map {S : Except Failure β → σ → Prop} (hx : x.Ends w R) (g : α → β)
    (hS : ∀ r s, R r s → S (r.map g) s) : (x >>= fun a => pure (g a)).Ends w S :=
  hx.bind (fun a w' _ hr => ⟨.ok (g a), w', rfl, hS _ _ hr⟩) fun _ _ hr => hS _ _ hr

theorem Ends.measured (hx : x.Ends w R) (name : Name) (labels : Option Labels) :
    (measured name x labels).Ends w R := by
  obtain ⟨r, w', hrun, hr⟩ := hx
  obtain ⟨hend, hstore⟩ := exec_measured_eq name x labels w
  rw [hrun] at hend hstore
  exact ⟨r, ((Action.measured name x labels).exec w).2, Prod.ext hend rfl, hstore ▸ hr⟩

theorem Ends.recover {f : Except Failure α → Action σ β} {S : Except Failure β → σ → Prop}
    (hx : x.Ends w R)
    (hok : ∀ a w', x.exec w = (.ok a, w') → R (.ok a) w'.store → (f (.ok a)).Ends w' S)
    (herror : ∀ e w', R (.error e) w'.store → (f (.error e)).Ends w' S) :
    (attempt x >>= f).Ends w S := by
  obtain ⟨e | a, w', hrun, hr⟩ := hx
  · obtain ⟨r, w'', hrest, hS⟩ := herror e w' hr
    exact ⟨r, w'', (exec_attempt_bind_failed hrun).trans hrest, hS⟩
  · obtain ⟨r, w'', hrest, hS⟩ := hok a w' hrun hr
    exact ⟨r, w'', (exec_attempt_bind_ok hrun).trans hrest, hS⟩

end Action

section Answers

variable {o : Memory.Options} {c : Call}

theorem Memory.step_plain (m : Memory) (h : c.Plain (Memory.sharedBackend o).traced) :
    ∃ a, (m.step o c).1 = .ok a := by
  cases c with
  | «exists» | deleteIfExists | createAppendable => exact ⟨_, rfl⟩
  | put key data => exact ⟨(), congrArg Prod.fst (if_neg h)⟩
  | _ => cases h

theorem Memory.withObject_answer {α : Type} (m : Memory) (key : Name)
    {f : StoredObject → Except StoreError α × Memory} (hf : ∀ x, ∃ a, (f x).1 = .ok a) :
    (∃ a, (m.withObject key f).1 = .ok a) ∨ (m.withObject key f).1 = .error (.notFound key) := by
  rw [withObject]
  split
  · exact .inl (hf _)
  · exact .inr rfl

/-- The memory store refuses these for want of an object only. -/
theorem Memory.step_seeks (o : Memory.Options) (m : Memory) (h : c.Seeks) :
    (∃ a, (m.step o c).1 = .ok a) ∨ ∃ key, (m.step o c).1 = .error (.notFound key) := by
  cases c with
  | get key | read key | properties key | delete key | copy key =>
    exact (m.withObject_answer key fun _ => ⟨_, rfl⟩).imp id fun heq => ⟨key, heq⟩
  | _ => cases h

end Answers

namespace FileTree

open BlobTree.Action

variable {o : Memory.Options} {α : Type} {raises : Failure → Prop}

/-- The calls made before stand, and a failure is one that may be raised. -/
def Calm (events : List (Event Shared)) (raises : Failure → Prop) (r : Except Failure α)
    (s : Traced Shared) : Prop :=
  events <+: s.events ∧ ∀ f, r = .error f → raises f

theorem ends_of_one {x : Action (Traced Shared) α} {w : World (Traced Shared)} (c : Call)
    (r : Except Failure α)
    (hx : x.Gives w.store (r.mapError .failed) ((Memory.sharedBackend o).traced.answer w.store c).2)
    (hr : ∀ f, r = .error f → raises f) : x.Ends w (Calm w.store.events raises) :=
  hx.ends ⟨List.prefix_append _ _, hr⟩

theorem Calm.after {events events' : List (Event Shared)} {r : Except Failure α}
    {s : Traced Shared} (h : Calm events' raises r s) (hbefore : events <+: events') :
    Calm events raises r s :=
  ⟨hbefore.trans h.1, h.2⟩

/-- A failure says nothing of the value that was to come. -/
theorem Calm.error {β : Type} {events : List (Event Shared)} {e : Failure} {s : Traced Shared}
    (h : Calm events raises (.error e : Except Failure α) s) :
    Calm events raises (.error e : Except Failure β) s :=
  ⟨h.1, fun _ heq => h.2 _ (congrArg _ (Except.error.inj heq))⟩

/-- An action that is made of calls and failures and lists nothing. -/
theorem Within.ends {S : Scope (Traced Shared)} (hfits : S.Fits (Memory.sharedBackend o).traced)
    (hstops : ¬S.stops) (hvisits : ∀ x, ¬S.visits x) {x : Action (Traced Shared) α} {Q : α → Prop}
    (hx : Within (Memory.sharedBackend o).traced S x Q) (w : World (Traced Shared)) :
    x.Ends w (Calm w.store.events S.raises) := by
  -- for every world, because the stores in the middle of a sequence are not known beforehand
  induction hx generalizing w with
  | @pure _ _ a => exact ⟨.ok a, w, rfl, List.prefix_rfl, by simp⟩
  | @fail _ _ f hf => exact ⟨.error f, w, rfl, List.prefix_rfl, by simpa using hf⟩
  | unfinished h => exact absurd h hstops
  | log => exact ⟨.ok (), _, rfl, List.prefix_rfl, by simp⟩
  | visit h => exact absurd h (hvisits _)
  | @plain c hplain =>
    obtain ⟨a, ha⟩ := Memory.step_plain w.store.store.memory hplain
    exact ends_of_one c (.ok a) (gives_call_ok (Prod.ext ha rfl)) (by simp)
  | @page start request =>
    exact ends_of_one (o := o) (.listPage start request) (.ok _) (gives_call_ok rfl) (by simp)
  | @seek c path hseeks _ hraises =>
    rcases Memory.step_seeks o w.store.store.memory hseeks with ⟨a, ha⟩ | ⟨key, hkey⟩
    · exact ends_of_one c (.ok a) (callAt_ok (Prod.ext ha rfl)) (by simp)
    · exact ends_of_one c (.error (.pathNotFound path)) (callAt_notFound (Prod.ext hkey rfl))
        (by simpa using hraises)
  | @properties key =>
    have hask := properties_gives (Memory.sharedBackend o).traced key w.store
    rcases Memory.step_seeks o w.store.store.memory (c := .properties key) trivial with
      ⟨p, hp⟩ | ⟨k, hnone⟩
    · have hreply : ((Memory.sharedBackend o).traced.answer w.store (.properties key)).1 = .ok p :=
        hp
      rw [hreply] at hask
      exact ends_of_one (.properties key) (.ok (some p)) hask (by simp)
    · have hreply : ((Memory.sharedBackend o).traced.answer w.store (.properties key)).1 =
          .error (.notFound k) := hnone
      rw [hreply] at hask
      exact ends_of_one (.properties key) (.ok none) hask (by simp)
  | bind hx _ ihx ihf =>
    refine (ihx w).bind (fun a w' hrun hr => ?_) fun e s hr => hr.error
    exact (ihf a (hx.yields hfits hrun) w').mono fun r s h => h.after hr.1
  | measured name labels _ ih => exact (ih w).measured name labels
  | recover hx _ _ hfail ihx ihok ihpath =>
    refine (ihx w).recover (fun a w' hrun hr => ?_) fun e w' hr => ?_
    · exact (ihok a (hx.yields hfits hrun) w').mono fun r s h => h.after hr.1
    · rcases e.pathNotFound_or with ⟨p, rfl⟩ | hother
      · exact (ihpath p w').mono fun r s h => h.after hr.1
      · rw [hfail e hother]
        exact ⟨.error e, w', rfl, hr.error⟩

/-- A failure of the tree's own; a path that is not found is one of some paths. -/
def Blames (paths : Name → Prop) (f : Failure) : Prop :=
  f.isDriver ∧ ∀ p, f = .pathNotFound p → paths p

/-- Calls on any keys, but no listing as far as its end. -/
def unlisted (raises : Failure → Prop) : Scope (Traced Shared) where
  near _ := True
  starts _ := True
  holds _ _ := True
  raises := raises
  stops := False
  visits _ := False

theorem ends_of_within {x : Action (Traced Shared) α} {Q : α → Prop}
    (hx : Within (Memory.sharedBackend o).traced (unlisted raises) x Q)
    (w : World (Traced Shared)) : x.Ends w (Calm w.store.events raises) :=
  hx.ends (fun _ _ _ _ _ _ _ => trivial) id (fun _ => id) w

variable {t : FileTree} {path : Name} {w : World (Traced Shared)}

theorem list_ends (path : Name) (hbudget : w.store.store.load < t.pageBudget) :
    (t.list (Memory.sharedBackend o).traced path).Ends w
      (Calm w.store.events (Blames (· = path))) := by
  simp only [list]
  by_cases hdir : Path.isDirectory path
  · let start := if path = Path.root then [] else path
    rw [onDirectory_valid hdir]
    refine Ends.measured ?_ _ _
    obtain ⟨paths, s, events, hbelow, hevents, -⟩ :=
      Listing.below_ends (o := o) t.root start w.store hbudget
    refine hbelow.bind_ends fun w' hw' => ?_
    have hprefix : w.store.events <+: w'.store.events := by
      rw [hw', hevents]
      exact List.prefix_append _ _
    by_cases hnone : start ≠ [] ∧ Listing.children paths start = []
    · rw [if_pos hnone]
      exact ⟨.error (.pathNotFound path), w', rfl, hprefix, by simp [Blames, Failure.isDriver]⟩
    · rw [if_neg hnone]
      exact ⟨.ok _, w', rfl, hprefix, by simp⟩
  · rw [onDirectory, if_neg hdir]
    exact ⟨.error (.invalidPath path), w, rfl, List.prefix_rfl, by simp [Blames, Failure.isDriver]⟩

/-- What an operation may say after some calls: that a path is not found only of the path that it is
about, or of one that a delete has met below it. -/
def Reported (t : FileTree) (q : Operation) (events : List (Event Shared)) (f : Failure) : Prop :=
  f.isDriver ∧ ∀ p, f = .pathNotFound p → p = q.path ∨
    ∃ path, q = .delete path ∧ path ++ [Path.separator] <+: p ∧
      Listing.Met events t.root (t.root.listingPrefix path) p

def Ended (t : FileTree) (q : Operation) (before : List (Event Shared)) (r : Except Failure α)
    (s : Traced Shared) : Prop :=
  ∃ events, s.events = before ++ events ∧ ∀ f, r = .error f → Reported t q events f

theorem Calm.ended {q : Operation} {events : List (Event Shared)} {r : Except Failure α}
    {s : Traced Shared} (h : Calm events (Blames (· = q.path)) r s) : Ended t q events r s := by
  obtain ⟨⟨later, hlater⟩, hraises⟩ := h
  refine ⟨later, hlater.symm, fun f hf => ?_⟩
  obtain ⟨hdriver, hpath⟩ := hraises f hf
  exact ⟨hdriver, fun p heq => .inl (hpath p heq)⟩

theorem Ended.map {β : Type} {q : Operation} {before : List (Event Shared)} {r : Except Failure α}
    {s : Traced Shared} (h : Ended t q before r s) (g : α → β) : Ended t q before (r.map g) s := by
  obtain ⟨events, hevents, hfails⟩ := h
  refine ⟨events, hevents, fun f hf => hfails f ?_⟩
  cases r with
  | ok a => cases hf
  | error e => exact congrArg _ (Except.error.inj hf)

theorem Reported.mono {q : Operation} {events events' : List (Event Shared)} {f : Failure}
    (h : Reported t q events f) (hsub : events ⊆ events') : Reported t q events' f := by
  refine ⟨h.1, fun p heq => (h.2 p heq).imp id ?_⟩
  rintro ⟨path, hq, hbelow, hmet⟩
  exact ⟨path, hq, hbelow, hmet.mono hsub⟩

theorem Ended.after {q : Operation} {before before' : List (Event Shared)}
    {r : Except Failure α} {s : Traced Shared} (h : Ended t q before' r s)
    (hbefore : before <+: before') : Ended t q before r s := by
  obtain ⟨events, hevents, hfails⟩ := h
  obtain ⟨earlier, rfl⟩ := hbefore
  exact ⟨earlier ++ events, by rw [hevents, List.append_assoc], fun f hf =>
    (hfails f hf).mono (List.subset_append_right _ _)⟩

theorem deleteBelow_ended (hp : Path.isValid path) (hload : w.store.store.load < t.pageBudget) :
    (do
      let files ← Listing.below (Memory.sharedBackend o).traced t.root t.pageBudget path
      if files = [] then fail (.pathNotFound path)
      files.forM fun file =>
        callAt (Memory.sharedBackend o).traced file (.delete (t.root.keyOf file))
      log t.logger .debug
        [textField "path" path, ("count", .number (.ofNat files.length))]
        "deleted virtual directory").Ends w (Ended t (.delete path) w.store.events) := by
  obtain ⟨files, s, events, hbelow, hevents, hmet⟩ :=
    Listing.below_ends (o := o) t.root path w.store hload
  refine hbelow.bind_ends fun w' hw' => ?_
  have hlisted : w'.store.events = w.store.events ++ events := by rw [hw', hevents]
  by_cases hnone : files = []
  · rw [if_pos hnone]
    exact ⟨.error (.pathNotFound path), w', rfl, events, hlisted,
      by simp [Reported, Operation.path, Failure.isDriver]⟩
  · rw [if_neg hnone]
    have hall := deleteFiles_within (t := t) (b := (Memory.sharedBackend o).traced)
      (S := unlisted (Blames (· ∈ files))) path files
      (fun _ hfile => ⟨rfl, fun p heq => Failure.pathNotFound.inj heq ▸ hfile⟩)
      fun _ _ => trivial
    refine (ends_of_within hall w').mono fun r s' hcalm => ?_
    obtain ⟨⟨deleted, hdeleted⟩, hraises⟩ := hcalm
    refine ⟨events ++ deleted, by rw [← hdeleted, hlisted, List.append_assoc], fun f hf => ?_⟩
    obtain ⟨hdriver, hpath⟩ := hraises f hf
    -- a file that has gone since the listing is one that the listing has met
    refine ⟨hdriver, fun p heq => .inr ⟨path, rfl, ?_⟩⟩
    have hfound := hmet p (hpath p heq)
    exact ⟨hfound.below hp, hfound.mono (List.subset_append_left _ _)⟩

theorem delete_ended (path : Name) (hbudget : w.store.store.load < t.pageBudget) :
    (t.delete (Memory.sharedBackend o).traced path).Ends w
      (Ended t (.delete path) w.store.events) := by
  simp only [delete]
  by_cases hp : Path.isValid path
  · rw [onPath_valid hp]
    refine Ends.measured ?_ _ _
    let key := t.root.keyOf path
    have hfirst : (call (Memory.sharedBackend o).traced (.deleteIfExists key)).Gives w.store
        (.ok (w.store.store.memory.objects.contains key))
        ((Memory.sharedBackend o).traced.answer w.store (.deleteIfExists key)).2 :=
      gives_call_ok rfl
    refine hfirst.bind_ends fun w' hw' => ?_
    have hload : w'.store.store.load < t.pageBudget := by
      have hturn := Listing.load_interlude_le o
        { w.store.store with memory := w.store.store.memory.remove key }
      have hsize := w.store.store.memory.size_remove_le key
      rw [hw']
      refine Nat.lt_of_le_of_lt (Nat.le_trans hturn ?_) hbudget
      exact Nat.add_le_add_right hsize _
    have hasked : w.store.events <+: w'.store.events := by
      rw [hw']
      exact List.prefix_append _ _
    split
    · obtain ⟨asked, hasked⟩ := hasked
      exact ⟨.ok (), w', rfl, asked, hasked.symm, by simp⟩
    · exact (deleteBelow_ended hp hload).mono fun r s h => h.after hasked
  · rw [onPath, if_neg hp]
    exact ⟨.error (.invalidPath path), w, rfl, [], by simp, by simp [Reported, Failure.isDriver]⟩

theorem answer_ends {x : Action (Traced Shared) α} {Q : α → Prop}
    (hx : Within (Memory.sharedBackend o).traced (unlisted raises) x Q) (g : α → Answer)
    (w : World (Traced Shared)) :
    (x >>= fun a => pure (g a)).Ends w (Calm w.store.events raises) :=
  ends_of_within (hx.map (R := fun _ => True) fun _ _ => trivial) w

/-- The operations that take no listing as far as its end. -/
theorem unlisted_ends {q : Operation} (hchunk : t.maxChunkSize.toPositive?.isSome)
    (hlist : ∀ p, q ≠ .list p) (hdelete : ∀ p, q ≠ .delete p) (w : World (Traced Shared)) :
    (t.carryOut (Memory.sharedBackend o).traced q).Ends w
      (Calm w.store.events (Blames (· = q.path))) := by
  have hreports (p : Name) : (unlisted (Blames (· = p))).Reports p := fun f hf hpath => ⟨hf, hpath⟩
  cases q with
  | getContent p => exact answer_ends (getContent_within (hreports p) fun _ => trivial) _ w
  | putContent p data => exact answer_ends (putContent_within (hreports p) fun _ => trivial) _ w
  | reader p offset => exact answer_ends (reader_within (hreports p) fun _ => trivial) _ w
  | writer p append =>
    refine answer_ends (writer_within (hreports p) (fun _ => trivial) fun hnone => ?_) _ w
    rw [hnone] at hchunk
    cases hchunk
  | stat p =>
    exact answer_ends (stat_within (hreports p) (fun _ => trivial) fun _ => trivial) _ w
  | move p dest =>
    have hinvalid : (unlisted (Blames (· = p))).raises (.invalidPath dest) := ⟨rfl, by simp⟩
    exact answer_ends (move_within (hreports p) hinvalid fun _ _ => trivial) _ w
  | urlFor p => exact answer_ends (o := o) (urlFor_within (hreports p)) _ w
  | list p => exact absurd rfl (hlist p)
  | delete p => exact absurd rfl (hdelete p)

/-- **Races.** On a memory store that other clients write to between any two calls, every operation
ends with a value or with a failure of the tree's own, if its listings may take more pages than the
load is high. A path that is not found is the one that the operation is about, or one that a delete
has met below it. -/
theorem races_reported (o : Memory.Options) (t : FileTree)
    (hchunk : t.maxChunkSize.toPositive?.isSome) (q : Operation) (w : World (Traced Shared))
    (hbudget : w.store.store.load < t.pageBudget) :
    ∃ (r : Except Failure Answer) (w' : World (Traced Shared)) (events : List (Event Shared)),
      (t.carryOut (Memory.sharedBackend o).traced q).exec w = (r.mapError .failed, w') ∧
      w'.store.events = w.store.events ++ events ∧ ∀ f, r = .error f → Reported t q events f := by
  have hends : (t.carryOut (Memory.sharedBackend o).traced q).Ends w
      (Ended t q w.store.events) := by
    cases q with
    | list p => exact (list_ends p hbudget).map _ fun _ _ h => Ended.map h.ended _
    | delete p => exact (delete_ended p hbudget).map _ fun _ _ h => h.map _
    | _ => exact (unlisted_ends hchunk (by simp) (by simp) w).mono fun _ _ h => h.ended
  obtain ⟨r, w', hrun, events, hevents, hfails⟩ := hends
  exact ⟨r, w', events, hrun, hevents, hfails⟩

/-- A file that another client deletes once the directory has been listed. -/
theorem races_reported_vanished :
    let o : Memory.Options := {}
    let t := onStore (Memory.sharedBackend o) {} default
    let memory := ["d/a", "d/b"].foldl (fun m k => Memory.write o m k.toList [1] .block) default
    let w : World (Traced Shared) :=
      .fresh ⟨⟨memory, [[], [.mutate (.delete "d/b".toList)]]⟩, []⟩
    let lost : Failure := .pathNotFound "/d/b".toList
    t.maxChunkSize.toPositive?.isSome ∧ w.store.store.load < t.pageBudget ∧
    ∃ w', (t.carryOut (Memory.sharedBackend o).traced (.delete "/d".toList)).exec w =
        (.error (.failed lost), w') ∧ Reported t (.delete "/d".toList) w'.store.events lost := by
  intro o t memory w lost
  have hchunk : t.maxChunkSize.toPositive?.isSome := by decide +kernel
  have hload : w.store.store.load < t.pageBudget := by decide +kernel
  obtain ⟨r, w', events, hrun, hevents, hfails⟩ :=
    races_reported o t hchunk (.delete "/d".toList) w hload
  have hend : ((t.carryOut (Memory.sharedBackend o).traced (.delete "/d".toList)).exec w).1 =
      .error (.failed lost) := by decide +kernel
  obtain rfl : r = .error lost := by
    rw [hrun] at hend
    cases r with
    | ok a => cases hend
    | error f => cases hend; rfl
  obtain rfl : w'.store.events = events := hevents
  exact ⟨hchunk, hload, w', hrun, hfails lost rfl⟩

end FileTree
end BlobTree
