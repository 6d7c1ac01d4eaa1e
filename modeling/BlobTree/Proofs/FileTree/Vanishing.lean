import BlobTree.Proofs.FileTree.Descent
import BlobTree.Proofs.FileTree.Refusal
import BlobTree.Proofs.Logged

/-!
# BlobTree.Proofs.FileTree.Vanishing

A walk on a memory store that other clients and the visitor itself change at the same time. A child
that has gone by the time it is looked at is passed over; a directory that has gone between that
look and its own listing is not, and the walk fails with its path. This is the only way in which a
walk that has begun comes to a path that is not found, and the listing is then its last call.

* `Seen`, `Missed`, `Vanished`: the two calls between which a directory goes.
* `stat_logs`, `list_logs`: what the two operations of a walk ask and how they end.
* `visitBelow_logs`: by induction on the levels; `walk_fails_iff_vanished`: a whole walk.
-/

namespace BlobTree

open BlobTree.Action

theorem Path.isBelow_of_isBelow {a b c : Name} (hab : isBelow a b) (hbc : isBelow b c) :
    isBelow a c := by
  rw [isBelow_iff] at hab hbc ⊢
  refine hab.trans (List.IsPrefix.trans ?_ hbc)
  rw [asContainer]
  split
  · exact List.prefix_rfl
  · exact List.prefix_append _ _

/-- A directory is found again from the start of its listing. -/
theorem Root.listingPrefix_injective {r : Root} {p q : Name} (hp : Path.isValid p)
    (hq : Path.isDirectory q) (h : r.listingPrefix p = r.listingPrefix q) : p = q := by
  have hcontainer : Path.asContainer p = Path.asContainer q := by
    have hpath := pathUnder_listingPrefix_append (r := r) (Path.isDirectory_iff.mpr (.inr hp)) []
    rw [h, pathUnder_listingPrefix_append hq, List.append_nil, List.append_nil] at hpath
    exact hpath.symm
  rw [Path.asContainer_of_isValid hp] at hcontainer
  rcases Path.isDirectory_iff.mp hq with rfl | hq
  · obtain ⟨c, rest, rfl, -⟩ := Path.exists_body hp
    have hlength := congrArg List.length hcontainer
    simp at hlength
  · rw [Path.asContainer_of_isValid hq] at hcontainer
    exact List.append_cancel_right hcontainer

namespace Listing

variable {o : Memory.Options} {root : Root} {start : Name}

/-- The pages after a cursor start there or further on, and the paths before it are not lost. -/
theorem rest_forward (hunder : root.key.isPrefixOf start) (budget : Nat) {c : Cursor}
    (hc : c.Forward) (s : Traced Shared) :
    ∃ r s' events, (rest (Memory.sharedBackend o).traced root start budget c).Gives s r s' ∧
      s'.events = s.events ++ events ∧
      (∀ e ∈ events, ∃ m, e.call = .listPage start { marker := some m } ∧ ¬Units.Lt m c.marker) ∧
      (r = .error .unfinished ∨ ∃ paths, r = .ok (c.gathered ++ paths)) := by
  induction budget generalizing c s with
  | zero => exact ⟨_, s, [], gives_unfinished s, by simp, by simp, .inl rfl⟩
  | succ budget ih =>
    let e := fetched (Memory.sharedBackend o) start c s.store
    obtain ⟨s₁, hfetch, hevents⟩ := fetch_traced (shared_lists o) hunder c s
    have hcall : ∃ m, e.call = .listPage start { marker := some m } ∧ ¬Units.Lt m c.marker :=
      ⟨_, rfl, Units.lt_irrefl _⟩
    rw [rest]
    by_cases hend : (pageAt o.pageSize s.store.memory.objects.keys start c).keys = [] ∨
        (pageAt o.pageSize s.store.memory.objects.keys start c).nextMarker = []
    · have hnext : advance c (pageAt o.pageSize s.store.memory.objects.keys start c)
          (e.keys.map root.pathUnder) = .finished := if_pos hend
      rw [hnext] at hfetch
      exact ⟨_, s₁, [e], hfetch.bind (gives_pure _ _), hevents, by simpa using hcall,
        .inr ⟨_, rfl⟩⟩
    · obtain ⟨c', hnext, hc', hgathered, -, -, -, hforward⟩ :=
        advance_more s.store.memory.objects.keys_sorted start hc (e.keys.map root.pathUnder) hend
      rw [hnext] at hfetch
      obtain ⟨r, s', later, hrest, hlater, hcalls, hr⟩ := ih hc' s₁
      refine ⟨r, s', e :: later, hfetch.bind hrest, ?_, fun e' he' => ?_, hr.imp id ?_⟩
      · rw [hlater, hevents, List.append_assoc]
        rfl
      · rcases List.mem_cons.mp he' with rfl | he'
        · exact hcall
        · obtain ⟨m, hm, hback⟩ := hcalls e' he'
          exact ⟨m, hm, fun hlt => hback (Units.lt_trans hlt hforward)⟩
      · rintro ⟨paths, rfl⟩
        exact ⟨e.keys.map root.pathUnder ++ paths, by rw [hgathered, List.append_assoc]⟩

end Listing

namespace FileTree

variable {t : FileTree} {o : Memory.Options} {root : Root} {α : Type} {dir c p path : Name}

/-- A look at a directory, when some key lay below it. -/
def Seen (root : Root) (p : Name) (e : Event Shared) : Prop :=
  e.call = .listPage (root.listingPrefix p) { maxResults := some (.ofNat 1) } ∧
    keysBelow root e.before.memory p ≠ []

/-- The first page of the listing of a directory, when it is empty; if a page has room for a key,
there was none below the directory. -/
def Missed (o : Memory.Options) (root : Root) (p : Name) (e : Event Shared) : Prop :=
  e.call = .listPage (root.listingPrefix p) { marker := some [] } ∧ e.keys = [] ∧
    ((Number.ofNat 1).le o.pageSize → keysBelow root e.before.memory p = [])

/-- The last two calls are a look at a directory, which was there, and its listing, when it had
gone. -/
def Vanished (o : Memory.Options) (root : Root) (p : Name) (events : List (Event Shared)) : Prop :=
  ∃ before seen missed, events = before ++ [seen, missed] ∧ Seen root p seen ∧
    Missed o root p missed

/-- No directory has been missed. -/
def Unmissed (o : Memory.Options) (root : Root) (events : List (Event Shared)) : Prop :=
  ∀ p, ∀ e ∈ events, Path.isValid p → ¬Missed o root p e

theorem Unmissed.append {events later : List (Event Shared)} (h : Unmissed o root events)
    (hlater : Unmissed o root later) : Unmissed o root (events ++ later) := by
  intro p e he
  rcases List.mem_append.mp he with he | he
  · exact h p e he
  · exact hlater p e he

theorem unmissed_nil : Unmissed o root [] := by
  intro p e he
  cases he

theorem unmissed_of_call {e : Event Shared}
    (h : ∀ start, e.call ≠ .listPage start { marker := some [] }) : Unmissed o root [e] := by
  intro p e' he' _ hmissed
  obtain rfl := List.mem_singleton.mp he'
  exact h _ hmissed.1

/-- A look at a path misses no directory, and the last thing that it asks before it gives one is
whether a key lies below it. -/
structure Looked (o : Memory.Options) (root : Root) (path : Name) (r : Except Stop Entry)
    (events : List (Event Shared)) : Prop where
  unmissed : Unmissed o root events
  seen : ∀ e, r = .ok e → e.isDirectory →
    ∃ before seen, events = before ++ [seen] ∧ Seen root path seen

theorem Looked.after {r : Except Stop Entry} {events later : List (Event Shared)}
    (h : Looked o root path r later) (hevents : Unmissed o root events) :
    Looked o root path r (events ++ later) := by
  refine ⟨hevents.append h.unmissed, fun e he hdir => ?_⟩
  obtain ⟨before, seen, rfl, hseen⟩ := h.seen e he hdir
  exact ⟨events ++ before, seen, (List.append_assoc ..).symm, hseen⟩

theorem looked_error {e : Stop} {events : List (Event Shared)} (h : Unmissed o root events) :
    Looked o root path (.error e) events :=
  ⟨h, by simp⟩

/-- How the pages of a listing end, and which of them there are: none if none may be taken, one if
it is empty, and none but the first starts where the first one does. -/
inductive Paged (o : Memory.Options) (root : Root) (path : Name) :
    Except Stop (List Name) → List (Event Shared) → Prop where
  | unasked : Paged o root path (.error .unfinished) []
  | empty {e : Event Shared} : Missed o root path e → Paged o root path (.ok []) [e]
  | more {e : Event Shared} {later : List (Event Shared)} {r : Except Stop (List Name)} :
      e.call = .listPage (root.listingPrefix path) { marker := some [] } → e.keys ≠ [] →
      (∀ e' ∈ later, ∀ start, e'.call ≠ .listPage start { marker := some [] }) →
      (r = .error .unfinished ∨ ∃ paths k, r = .ok paths ∧ root.pathUnder k ∈ paths ∧
        (root.listingPrefix path).isPrefixOf k) → Paged o root path r (e :: later)

/-- Only a listing that is empty from its first page on misses a directory, and that is its own. -/
theorem Paged.of_missed {r : Except Stop (List Name)} {events : List (Event Shared)}
    (h : Paged o root path r events) {e : Event Shared} (he : e ∈ events)
    (hmissed : Missed o root p e) :
    root.listingPrefix p = root.listingPrefix path ∧ r = .ok [] := by
  cases h with
  | unasked => cases he
  | empty hown =>
    obtain rfl := List.mem_singleton.mp he
    have hcalls := hmissed.1.symm.trans hown.1
    exact ⟨(Call.listPage.inj hcalls).1, rfl⟩
  | more hcall hsome hlater _ =>
    rcases List.mem_cons.mp he with rfl | he
    · exact absurd hmissed.2.1 hsome
    · exact absurd hmissed.1 (hlater e he _)

section Looks

variable (w : World (Traced Shared))

theorem look_logs (path : Name) :
    (do
      let page ← call (Memory.sharedBackend o).traced
        (.listPage (t.root.listingPrefix path) { maxResults := some (.ofNat 1) })
      if page.keys.isEmpty then fail (.pathNotFound path) else return Entry.directory path).Logs w
      fun r events _ => Looked o t.root path r events := by
  let page := Memory.page o.pageSize w.store.store.memory.objects.keys
    (t.root.listingPrefix path) { maxResults := some (.ofNat 1) }
  let e : Event Shared := {
    before := w.store.store
    call := .listPage (t.root.listingPrefix path) { maxResults := some (.ofNat 1) }
    reply := .ok page }
  have hasked : Unmissed o t.root [e] := unmissed_of_call (by simp [e])
  refine Logs.bind (logs_call (R := fun r events _ => r = .ok page ∧ events = [e]) ⟨rfl, rfl⟩) ?_
    (by simp)
  rintro _ w' _ ⟨⟨rfl⟩, rfl⟩
  by_cases hnone : page.keys.isEmpty
  · rw [if_pos hnone]
    exact logs_of_quiet (gives_fail _ _) (looked_error hasked)
  · rw [if_neg hnone]
    refine logs_of_quiet (gives_pure _ _) ⟨hasked, fun _ _ _ => ⟨[], e, rfl, rfl, ?_⟩⟩
    obtain ⟨k, hk⟩ := List.exists_mem_of_ne_nil _ (mt List.isEmpty_iff.mpr hnone)
    exact List.ne_nil_of_mem (mem_keysBelow.mpr (Memory.mem_page hk))

theorem stat_logs (path : Name) :
    (t.stat (Memory.sharedBackend o).traced path).Logs w fun r events _ =>
      Looked o t.root path r events := by
  have hasked (c : Call) (hc : ∀ start, c ≠ .listPage start { marker := some [] })
      (s : Shared) (r : Except StoreError c.Reply) : Unmissed o t.root [⟨s, c, r⟩] :=
    unmissed_of_call hc
  have hlook (w : World (Traced Shared)) {events : List (Event Shared)}
      (hevents : Unmissed o t.root events) :=
    (look_logs (t := t) w path).mono fun _ _ _ h => h.after hevents
  simp only [stat]
  by_cases hdir : Path.isDirectory path
  case neg =>
    rw [onDirectory, if_neg hdir]
    exact logs_of_quiet (gives_fail _ _) (looked_error unmissed_nil)
  case pos =>
    rw [onDirectory_valid hdir]
    refine Logs.measured ?_ _ _
    by_cases hroot : path ≠ Path.root
    case neg =>
      rw [if_neg hroot]
      exact look_logs w path
    case pos =>
      rw [if_pos hroot]
      refine Logs.bind (logs_call (R := fun _ events _ => Unmissed o t.root events)
        (hasked _ (by simp) _ _)) (fun there w' events hevents => ?_) fun _ _ _ => looked_error
      cases there with
      | false => exact hlook w' hevents
      | true =>
        refine Logs.bind (logs_of_one (properties_gives (Memory.sharedBackend o).traced _ w'.store)
          (R := fun _ later _ => Unmissed o t.root later) (hasked _ (by simp) _ _))
          (fun file? w'' later hlater => ?_) fun _ _ _ h => looked_error (hevents.append h)
        have hboth := hevents.append hlater
        cases file? with
        | none =>
          refine (hlook w'' hboth).mono fun r events' _ h => ?_
          rwa [List.append_assoc] at h
        | some p =>
          refine logs_of_quiet (gives_pure _ _) ⟨by simpa using hboth, ?_⟩
          rintro e ⟨rfl⟩ ⟨⟩

theorem below_logs (path : Name) (budget : Nat) :
    (Listing.below (Memory.sharedBackend o).traced t.root budget path).Logs w fun r events _ =>
      Paged o t.root path r events := by
  cases budget with
  | zero => exact logs_of_quiet (gives_unfinished _) .unasked
  | succ budget =>
    let e := Listing.fetched (Memory.sharedBackend o) (t.root.listingPrefix path) {} w.store.store
    let page := Listing.pageAt o.pageSize w.store.store.memory.objects.keys
      (t.root.listingPrefix path) {}
    have hkeys : e.keys = page.keys := Listing.fetched_keys (shared_lists o) _ {} w.store.store
    have hunder := Root.key_isPrefixOf_listingPrefix (r := t.root) path
    obtain ⟨s, hfetch, hevents⟩ := Listing.fetch_traced (shared_lists o) hunder {} w.store
    have hmore (later : List (Event Shared)) (r : Except Stop (List Name)) (hsome : e.keys ≠ [])
        (hlater : ∀ e' ∈ later, ∀ start, e'.call ≠ .listPage start { marker := some [] })
        (hr : r = .error .unfinished ∨ ∃ paths, r = .ok (e.keys.map t.root.pathUnder ++ paths)) :
        Paged o t.root path r (e :: later) := by
      refine .more rfl hsome hlater (hr.imp id fun ⟨paths, hpaths⟩ => ?_)
      obtain ⟨k, hk⟩ := List.exists_mem_of_ne_nil _ hsome
      exact ⟨_, k, hpaths, List.mem_append_left _ (List.mem_map_of_mem hk),
        (Memory.mem_page (hkeys ▸ hk)).2⟩
    rw [Listing.below, Listing.rest]
    by_cases hend : page.keys = [] ∨ page.nextMarker = []
    · have hnext : Listing.advance {} page (e.keys.map t.root.pathUnder) = .finished := if_pos hend
      rw [hnext] at hfetch
      refine logs_of_gives (hfetch.bind (gives_pure _ _)) hevents ?_
      show Paged o t.root path (.ok (e.keys.map t.root.pathUnder)) [e]
      by_cases hnone : e.keys = []
      · rw [hnone]
        refine .empty ⟨rfl, hnone, fun hsize => ?_⟩
        have hlimit : (Number.ofNat 1).le ((({ marker := some [] } : PageRequest).maxResults.getD
            o.pageSize).min o.pageSize) := by
          simpa using hsize
        exact (Memory.page_last w.store.store.memory.objects.keys_sorted hlimit hend).symm.trans
          (hkeys.symm.trans hnone)
      · exact hmore [] _ hnone (by simp) (.inr ⟨[], by rw [List.append_nil]⟩)
    · obtain ⟨c, hnext, hc, hgathered, hsome, -, -, hforward⟩ :=
        Listing.advance_more w.store.store.memory.objects.keys_sorted _ Cursor.forward_start
          (e.keys.map t.root.pathUnder) hend
      rw [hnext] at hfetch
      obtain ⟨r, s', later, hrest, hlater, hcalls, hr⟩ :=
        Listing.rest_forward hunder budget hc s
      have hevents' : s'.events = w.store.events ++ (e :: later) := by
        rw [hlater, hevents, List.append_assoc]
        rfl
      refine logs_of_gives (hfetch.bind hrest) hevents'
        (hmore later r (hkeys ▸ hsome) (fun e' he' start hcall => ?_) ?_)
      case refine_2 =>
        rw [hgathered] at hr
        exact hr
      -- a later page starts after the first one
      obtain ⟨m, hm, hback⟩ := hcalls e' he'
      rw [hm] at hcall
      cases hcall
      exact hback hforward

end Looks

/-- A listing of a directory fails for want of it if its first page misses it, and then that page is
all that it asks for. -/
structure Listed (o : Memory.Options) (root : Root) (path : Name) (r : Except Stop (List Name))
    (events : List (Event Shared)) : Prop where
  below : ∀ cs, r = .ok cs → ∀ c ∈ cs, Path.isBelow path c
  missed : ∀ p, r = .error (.failed (.pathNotFound p)) → p = path ∧ Path.isValid path ∧
    ∃ e, events = [e] ∧ Missed o root path e
  fails : ∀ p, ∀ e ∈ events, Path.isValid p → Missed o root p e →
    r = .error (.failed (.pathNotFound p))

section Children

variable {start : Name} {paths : List Name}

theorem isBelow_of_mem_children (hdir : Path.isDirectory path)
    (hstart : start = if path = Path.root then [] else path)
    (h : c ∈ Listing.children paths start) : Path.isBelow path c := by
  obtain ⟨q, -, -, rfl⟩ := Listing.mem_children.mp h
  rw [hstart, container_start hdir]
  exact Path.isBelow_iff.mpr (List.prefix_append _ _)

theorem children_ne_nil {k : Name} (hdir : Path.isDirectory path)
    (hstart : start = if path = Path.root then [] else path) (hk : root.pathUnder k ∈ paths)
    (hbelow : (root.listingPrefix path).isPrefixOf k) : Listing.children paths start ≠ [] := by
  obtain ⟨rest, rfl⟩ := List.isPrefixOf_iff_prefix.mp hbelow
  rw [Root.pathUnder_listingPrefix_append hdir] at hk
  refine List.ne_nil_of_mem (Listing.mem_children.mpr ⟨_, hk, ?_, rfl⟩)
  rw [hstart, container_start hdir]
  exact List.isPrefixOf_iff_prefix.mpr (List.prefix_append _ _)

end Children

section Listings

variable {start : Name} {paths : List Name} {events : List (Event Shared)}

theorem Paged.of_listingPrefix_eq {r : Except Stop (List Name)} (h : Paged o root start r events)
    (hbegins : root.listingPrefix start = root.listingPrefix path) :
    Paged o root path r events := by
  cases h with
  | unasked => exact .unasked
  | empty hmissed =>
    simp only [Missed, keysBelow, hbegins] at hmissed
    exact .empty hmissed
  | more hcall hsome hlater hend =>
    rw [hbegins] at hcall hend
    exact .more hcall hsome hlater hend

theorem Paged.listed_error {stop : Stop} (h : Paged o root path (.error stop) events) :
    Listed o root path (.error stop) events := by
  refine ⟨by simp, fun p hp => ?_, fun p e he _ hmissed => ?_⟩
  · cases h with
    | unasked => cases hp
    | more _ _ _ hend =>
      obtain ⟨⟨rfl⟩⟩ | ⟨_, _, ⟨⟩, -⟩ := hend
      cases hp
  · cases (h.of_missed he hmissed).2

theorem Paged.listed_none (h : Paged o root path (.ok paths) events) (hdir : Path.isDirectory path)
    (hstart : start = if path = Path.root then [] else path) (hroot : path ≠ Path.root)
    (hnone : Listing.children paths start = []) :
    Listed o root path (.error (.failed (.pathNotFound path))) events := by
  refine ⟨by simp, fun p hp => ?_, fun p e he hp hmissed => ?_⟩
  · cases hp
    refine ⟨rfl, (Path.isDirectory_iff.mp hdir).resolve_left hroot, ?_⟩
    cases h with
    | empty hmissed => exact ⟨_, rfl, hmissed⟩
    | more _ _ _ hend =>
      obtain ⟨_, k, ⟨rfl⟩, hk, hbelow⟩ := hend.resolve_left (by simp)
      exact absurd hnone (children_ne_nil hdir hstart hk hbelow)
  · rw [Root.listingPrefix_injective hp hdir (h.of_missed he hmissed).1]

/-- The children of a path are found, or the path is the root. -/
theorem Paged.listed_ok (h : Paged o root path (.ok paths) events) (hdir : Path.isDirectory path)
    (hstart : start = if path = Path.root then [] else path)
    (hsome : ¬(start ≠ [] ∧ Listing.children paths start = [])) :
    Listed o root path (.ok (Listing.children paths start)) events := by
  refine ⟨?_, by simp, fun p e he hp hmissed => ?_⟩
  · rintro cs ⟨rfl⟩ c hc
    exact isBelow_of_mem_children hdir hstart hc
  · obtain ⟨hsame, ⟨rfl⟩⟩ := h.of_missed he hmissed
    obtain rfl := Root.listingPrefix_injective hp hdir hsame
    rw [if_neg (Path.ne_root_of_isValid hp)] at hstart
    refine absurd ⟨fun hnil => ?_, rfl⟩ hsome
    rw [← hstart, hnil] at hp
    cases hp

end Listings

theorem list_logs (w : World (Traced Shared)) (path : Name) :
    (t.list (Memory.sharedBackend o).traced path).Logs w fun r events _ =>
      Listed o t.root path r events := by
  by_cases hdir : Path.isDirectory path
  case neg =>
    rw [list, onDirectory, if_neg hdir]
    exact logs_of_quiet (gives_fail _ _) ⟨by simp, by simp, by simp⟩
  case pos =>
    rw [list, onDirectory_valid hdir]
    refine Logs.measured ?_ _ _
    generalize hstart : (if path = Path.root then [] else path) = start
    have hbegins : t.root.listingPrefix start = t.root.listingPrefix path :=
      hstart ▸ Root.listingPrefix_start path
    refine (below_logs w start t.pageBudget).bind (fun paths w' events hpaged => ?_)
      fun stop events _ hpaged => (hpaged.of_listingPrefix_eq hbegins).listed_error
    have hpaged := hpaged.of_listingPrefix_eq hbegins
    by_cases hnone : start ≠ [] ∧ Listing.children paths start = []
    · have hroot : path ≠ Path.root := fun hroot => hnone.1 (hstart ▸ if_pos hroot)
      rw [if_pos hnone]
      refine logs_of_quiet (gives_fail _ _) ?_
      rw [List.append_nil]
      exact hpaged.listed_none hdir hstart.symm hroot hnone.2
    · rw [if_neg hnone]
      refine logs_of_quiet (gives_pure _ _) ?_
      rw [List.append_nil]
      exact hpaged.listed_ok hdir hstart.symm hnone

/-- Children of a directory, visited with what is below them: the visits fail for want of a path if
a directory is missed, and then the path is the directory's, which has vanished. -/
structure Below (o : Memory.Options) (root : Root) (dir : Name) (r : Except Stop PUnit)
    (events : List (Event Shared)) : Prop where
  vanished : ∀ p, r = .error (.failed (.pathNotFound p)) →
    Path.isValid p ∧ Path.isBelow dir p ∧ Vanished o root p events
  fails : ∀ p, ∀ e ∈ events, Path.isValid p → Missed o root p e →
    r = .error (.failed (.pathNotFound p))

/-- The same for a directory whose own listing comes first and may miss it. -/
structure Entered (o : Memory.Options) (root : Root) (dir : Name) (r : Except Stop PUnit)
    (events : List (Event Shared)) : Prop where
  vanished : ∀ p, r = .error (.failed (.pathNotFound p)) →
    Path.isValid p ∧ ((p = dir ∧ ∃ e, events = [e] ∧ Missed o root dir e) ∨
      (Path.isBelow dir p ∧ Vanished o root p events))
  fails : ∀ p, ∀ e ∈ events, Path.isValid p → Missed o root p e →
    r = .error (.failed (.pathNotFound p))

section Sequence

variable {r : Except Stop PUnit} {events later : List (Event Shared)}

theorem Vanished.after (h : Vanished o root p later) (events : List (Event Shared)) :
    Vanished o root p (events ++ later) := by
  obtain ⟨before, seen, missed, rfl, hseen, hmissed⟩ := h
  exact ⟨events ++ before, seen, missed, (List.append_assoc ..).symm, hseen, hmissed⟩

theorem below_unmissed (h : Unmissed o root events)
    (hr : ∀ p, r ≠ .error (.failed (.pathNotFound p))) : Below o root dir r events :=
  ⟨fun p hp => absurd hp (hr p), fun p e he hp hmissed => absurd hmissed (h p e he hp)⟩

theorem Below.unmissed {a : PUnit} (h : Below o root dir (.ok a) events) :
    Unmissed o root events := by
  intro p e he hp hmissed
  cases h.fails p e he hp hmissed

theorem Below.after (h : Below o root dir r later) (hevents : Unmissed o root events) :
    Below o root dir r (events ++ later) := by
  refine ⟨fun p hp => ?_, fun p e he hp hmissed => ?_⟩
  · obtain ⟨hvalid, hbelow, hvanished⟩ := h.vanished p hp
    exact ⟨hvalid, hbelow, hvanished.after events⟩
  · rcases List.mem_append.mp he with he | he
    · exact absurd hmissed (hevents p e he hp)
    · exact h.fails p e he hp hmissed

theorem Entered.after {before : List (Event Shared)} {seen : Event Shared}
    (h : Entered o root c r later) (hbelow : Path.isBelow dir c) (hseen : Seen root c seen)
    (hevents : Unmissed o root (before ++ [seen])) :
    Below o root dir r (before ++ [seen] ++ later) := by
  refine ⟨fun p hp => ?_, fun p e he hp hmissed => ?_⟩
  · obtain ⟨hvalid, ⟨rfl, e, rfl, hmissed⟩ | ⟨hfurther, hvanished⟩⟩ := h.vanished p hp
    · exact ⟨hvalid, hbelow, before, seen, e, by simp, hseen, hmissed⟩
    · exact ⟨hvalid, Path.isBelow_of_isBelow hbelow hfurther, hvanished.after _⟩
  · rcases List.mem_append.mp he with he | he
    · exact absurd hmissed (hevents p e he hp)
    · exact h.fails p e he hp hmissed

theorem forM_below {f : Name → Action (Traced Shared) PUnit} {cs : List Name}
    (h : ∀ c ∈ cs, ∀ w, (f c).Logs w fun r events _ => Below o root dir r events)
    (w : World (Traced Shared)) :
    (cs.forM f).Logs w fun r events _ => Below o root dir r events := by
  induction cs generalizing w with
  | nil => exact logs_of_quiet (gives_pure _ _) (below_unmissed unmissed_nil (by simp))
  | cons c rest ih =>
    refine (h c List.mem_cons_self w).bind (fun _ w' events hfirst => ?_) fun _ _ _ h => ?_
    · have hrest := ih (fun c' hc' => h c' (List.mem_cons_of_mem _ hc')) w'
      exact hrest.mono fun r later _ hlater => hlater.after hfirst.unmissed
    · exact ⟨fun p hp => h.vanished p (by cases hp; rfl), fun p e he hp hm => by
        cases h.fails p e he hp hm
        rfl⟩

end Sequence

/-- A visitor that does not fail, whatever it does with the store. -/
def Decides (visit : Entry → Action Shared Visit) : Prop :=
  ∀ e w, ∃ decision w', (visit e).exec w = (.ok decision, w')

section Visit

variable {visit : Entry → Action Shared Visit} {logger : Option Logger} {depth : Nat}
  (hvisit : Decides visit)

include hvisit

theorem visit_logs (e : Entry) (w : World (Traced Shared)) :
    (untraced (visit e)).Logs w fun r events _ => events = [] ∧ ∃ decision, r = .ok decision := by
  obtain ⟨decision, w', hrun⟩ := hvisit e { w with store := w.store.store }
  refine ⟨.ok decision, { w' with store := { w.store with store := w'.store } }, [], ?_,
    (List.append_nil _).symm, rfl, decision, rfl⟩
  rw [untraced, exec_of, hrun]

theorem visitChild_logs (hbelow : Path.isBelow dir c)
    (hentered : ∀ w, (Walk.visitBelow (t.looks (Memory.sharedBackend o).traced)
      (fun e => untraced (visit e)) logger depth c).Logs w fun r events _ =>
        Entered o t.root c r events) (w : World (Traced Shared)) :
    ((t.looks (Memory.sharedBackend o).traced).visitChild (fun e => untraced (visit e)) logger depth
      c).Logs w fun r events _ => Below o t.root dir r events := by
  refine (stat_logs w c).recover (fun entry w' events hlooked => ?_)
    (fun f w' events hlooked => ?_)
    fun events _ hlooked => below_unmissed hlooked.unmissed (by simp)
  · refine (visit_logs hvisit entry w').bind ?_ ?_
    · rintro decision w'' _ ⟨rfl, -⟩
      by_cases henter : entry.isDirectory ∧ decision ≠ .skip
      · rw [if_pos henter]
        obtain ⟨before, seen, rfl, hseen⟩ := hlooked.seen entry rfl henter.1
        exact (hentered w'').mono fun r later _ h => h.after hbelow hseen hlooked.unmissed
      · rw [if_neg henter]
        refine logs_of_quiet (gives_pure _ _) (below_unmissed ?_ (by simp))
        exact hlooked.unmissed.append unmissed_nil
    · rintro _ _ _ ⟨-, _, ⟨⟩⟩
  · have hquiet : Unmissed o t.root (events ++ []) := hlooked.unmissed.append unmissed_nil
    cases f with
    | pathNotFound p =>
      cases logger with
      | none => exact logs_of_quiet (gives_pure _ _) (below_unmissed hquiet (by simp))
      | some l => exact logs_of_quiet (gives_log _ _ _ _ _) (below_unmissed hquiet (by simp))
    | _ => exact logs_of_quiet (gives_fail _ _) (below_unmissed hquiet (by simp))

/-- All children of a directory, once it has been listed. -/
theorem visitChildren_logs {cs : List Name} {events : List (Event Shared)}
    (hlisted : Listed o t.root dir (.ok cs) events)
    (hentered : ∀ c w, (Walk.visitBelow (t.looks (Memory.sharedBackend o).traced)
      (fun e => untraced (visit e)) logger depth c).Logs w fun r events _ =>
        Entered o t.root c r events) (w : World (Traced Shared)) :
    ((cs.mergeSort Units.le).forM ((t.looks (Memory.sharedBackend o).traced).visitChild
      (fun e => untraced (visit e)) logger depth)).Logs w fun r later _ =>
        Below o t.root dir r (events ++ later) := by
  have hquiet : Unmissed o t.root events := fun p e he hp hmissed => by
    cases hlisted.fails p e he hp hmissed
  refine (forM_below (fun c hc => visitChild_logs hvisit ?_ (hentered c)) w).mono
    fun r later _ h => h.after hquiet
  exact hlisted.below cs rfl c (List.mem_mergeSort.mp hc)

/-- The walk below a directory: by the levels that may be gone down. -/
theorem visitBelow_logs (depth : Nat) (dir : Name) (w : World (Traced Shared)) :
    (Walk.visitBelow (t.looks (Memory.sharedBackend o).traced) (fun e => untraced (visit e)) logger
      depth dir).Logs w fun r events _ => Entered o t.root dir r events := by
  induction depth generalizing dir w with
  | zero => exact logs_of_quiet (gives_unfinished _) ⟨by simp, by simp⟩
  | succ depth ih =>
    rw [Walk.visitBelow_succ]
    refine (list_logs w dir).bind (fun cs w' events hlisted => ?_) fun stop events _ hlisted =>
      ⟨fun p hp => ?_, fun p e he hp hmissed => ?_⟩
    · refine (visitChildren_logs hvisit hlisted ih w').mono fun r later _ h => ?_
      refine ⟨fun p hp => ?_, h.fails⟩
      obtain ⟨hvalid, hbelow, hvanished⟩ := h.vanished p hp
      exact ⟨hvalid, .inr ⟨hbelow, hvanished⟩⟩
    · cases hp
      obtain ⟨rfl, hvalid, hmissed⟩ := hlisted.missed p rfl
      exact ⟨hvalid, .inl ⟨rfl, hmissed⟩⟩
    · cases hlisted.fails p e he hp hmissed
      rfl

theorem walk_logs {start : Name} (hstart : Path.isDirectory start) {w w₁ : World (Traced Shared)}
    {cs : List Name}
    (hlist : (t.list (Memory.sharedBackend o).traced start).exec w = (.ok cs, w₁)) :
    (t.walk (Memory.sharedBackend o).traced start fun e => untraced (visit e)).Logs w
      fun r events _ => Below o t.root start r events := by
  rw [walk, onDirectory_valid hstart]
  cases t.depthBudget with
  | zero => exact logs_of_quiet (gives_unfinished _) (below_unmissed unmissed_nil (by simp))
  | succ depth =>
    obtain ⟨r, w₂, events, hrun, hevents, hlisted⟩ := list_logs (t := t) w start
    cases hlist.symm.trans hrun
    have hentered (c : Name) (w : World (Traced Shared)) :
        (Walk.visitBelow (t.looks (Memory.sharedBackend o).traced) (fun e => untraced (visit e))
          (some t.logger) depth c).Logs w fun r events _ => Entered o t.root c r events :=
      visitBelow_logs hvisit depth c w
    obtain ⟨r, w', later, hrest, hlater, hbelow⟩ := visitChildren_logs hvisit hlisted hentered w₁
    refine ⟨r, w', events ++ later, (exec_bind_ok hrun).trans hrest, ?_, hbelow⟩
    rw [hlater, hevents, List.append_assoc]

end Visit

/-- **Directories that vanish.** On a memory store that other clients change between any two calls,
and the visitor during its visits, a walk of a directory whose listing goes well, with a visitor
that does not fail, comes to a path that is not found if and only if that is the path of a directory
that it has missed. The last two calls are then a look at the directory, when there was a key below
it, and its own listing, when there was none any more. -/
theorem walk_fails_iff_vanished (o : Memory.Options) (t : FileTree) {start : Name}
    (hstart : Path.isDirectory start) {w w₁ : World (Traced Shared)} {cs : List Name}
    (hlist : (t.list (Memory.sharedBackend o).traced start).exec w = (.ok cs, w₁))
    {visit : Entry → Action Shared Visit} (hvisit : Decides visit) :
    ∃ r w' events,
      (t.walk (Memory.sharedBackend o).traced start fun e => untraced (visit e)).exec w =
        (r, w') ∧ w'.store.events = w.store.events ++ events ∧
      ∀ p, (r = .error (.failed (.pathNotFound p)) ↔
          Path.isValid p ∧ ∃ e ∈ events, Missed o t.root p e) ∧
        (r = .error (.failed (.pathNotFound p)) →
          Path.isBelow start p ∧ Vanished o t.root p events) := by
  obtain ⟨r, w', events, hrun, hevents, hbelow⟩ := walk_logs (t := t) hvisit hstart hlist
  refine ⟨r, w', events, hrun, hevents,
    fun p => ⟨⟨fun hp => ?_, ?_⟩, fun hp => (hbelow.vanished p hp).2⟩⟩
  · obtain ⟨hvalid, -, before, seen, missed, rfl, -, hmissed⟩ := hbelow.vanished p hp
    exact ⟨hvalid, missed, by simp, hmissed⟩
  · rintro ⟨hvalid, e, he, hmissed⟩
    exact hbelow.fails p e he hvalid hmissed

/-- A visitor that deletes the only file below a directory when it is shown the directory. -/
theorem walk_fails_iff_vanished_visited :
    let o : Memory.Options := { pageSize := .ofNat 1 }
    let b := (Memory.sharedBackend o).traced
    let t := onStore b { rootDirectory := "r".toList } default
    let memory := ["r/d/y", "rx"].foldl (fun m k => Memory.write o m k.toList [1] .block) default
    let w : World (Traced Shared) := .fresh ⟨⟨memory, []⟩, []⟩
    let visit (e : Entry) : Action Shared Visit := do
      if e.path = "/d".toList then
        let _ ← call (Memory.sharedBackend o) (.deleteIfExists "r/d/y".toList)
      return .enter
    let walked := (t.walk b Path.root fun e => untraced (visit e)).exec w
    Decides visit ∧ ((t.list b Path.root).exec w).1 = .ok ["/d".toList] ∧
    walked.1 = .error (.failed (.pathNotFound "/d".toList)) ∧
    Vanished o t.root "/d".toList walked.2.store.events := by
  intro o b t memory w visit walked
  have hvisit : Decides visit := by
    intro e w
    by_cases he : e.path = "/d".toList
    · simp only [visit, if_pos he]
      exact ⟨.enter, _, rfl⟩
    · simp only [visit, if_neg he]
      exact ⟨.enter, _, rfl⟩
  have hlist : ((t.list b Path.root).exec w).1 = .ok ["/d".toList] := by
    decide +kernel
  have hfails : walked.1 = .error (.failed (.pathNotFound "/d".toList)) := by decide +kernel
  have hroot : Path.isDirectory Path.root := rfl
  obtain ⟨r, w', events, hrun, hevents, hvanished⟩ :=
    walk_fails_iff_vanished o t hroot (Prod.ext hlist rfl) hvisit
  have hend : walked = (r, w') := hrun
  have hevents : w'.store.events = events := hevents
  rw [hend] at hfails ⊢
  rw [hevents]
  exact ⟨hvisit, hlist, hfails, ((hvanished _).2 hfails).2⟩

/-- The only file below a directory is deleted by another client once the walk has seen the
directory. All keys are those of valid paths, the listing of the root goes well and the visitor does
nothing, but the walk fails. -/
theorem walk_fails_after_deletion :
    let o : Memory.Options := {}
    let b := (Memory.sharedBackend o).traced
    let t := onStore b {} default
    let memory := Memory.write o default "d/a".toList [1] .block
    let w : World (Traced Shared) :=
      .fresh ⟨⟨memory, [[], [], [.mutate (.delete "d/a".toList)]]⟩, []⟩
    let visit (_ : Entry) : Action Shared Visit := pure .enter
    Decides visit ∧ (∀ k ∈ memory.objects.keys, Path.isValid (t.root.pathUnder k)) ∧
    ((t.list b Path.root).exec w).1 = .ok ["/d".toList] ∧
    ((t.walk b Path.root fun e => untraced (visit e)).exec w).1 =
      .error (.failed (.pathNotFound "/d".toList)) := by
  intro o b t memory w visit
  exact ⟨fun e w => ⟨.enter, w, rfl⟩, by decide +kernel, by decide +kernel, by decide +kernel⟩

end FileTree
end BlobTree
