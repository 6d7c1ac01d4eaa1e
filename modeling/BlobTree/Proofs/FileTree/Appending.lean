import BlobTree.Proofs.FileTree.Reachable
import BlobTree.Proofs.FileTree.Upload
import BlobTree.Proofs.Store.Frame

/-!
# BlobTree.Proofs.FileTree.Appending

A session that goes on from a file that is there. The size of the file is all that is looked at when
the session is opened, but the memory store lets append objects alone grow: a file that was written
in a session can be gone on with, one that was put there in one call cannot, which shows when the
first chunk is sent.

* `Memory.Grown`: an append object with some bytes, next to the objects of another store.
* `run_grown`, `session_grown`: the writes of a session on an append object, and all of its calls;
  `run_refused`, `session_refused`: on any other object.
* `append_resumes`: both, from opening the session to reading the file.
-/

namespace BlobTree

/-- A whole number that another one caps is not above the cap. -/
theorem Number.not_lt_of_min {a b : Number} {c n : Nat} (h : (a.min b).toPositive? = some c)
    (hle : n ≤ c) : ¬b.lt (.ofNat n) := by
  have hmin := eq_ofNat_of_toPositive? h
  cases b with
  | nan => simp [lt]
  | posInf => simp [lt, ofNat]
  | negInf => cases a <;> simp [min, lt, ofNat] at hmin
  | finite q =>
    have hcap : (c : Rat) ≤ q := by
      cases a with
      | nan => cases hmin
      | negInf => cases hmin
      | posInf =>
        have heq : q = c := Number.finite.inj hmin
        rw [heq]
      | finite p =>
        simp only [min] at hmin
        split at hmin
        · next hlt =>
          have heq : p = c := Number.finite.inj hmin
          rw [← heq]
          exact le_of_lt (of_decide_eq_true hlt)
        · have heq : q = c := Number.finite.inj hmin
          rw [heq]
    have hn : (n : Rat) ≤ c := Nat.cast_le.mpr hle
    simpa [lt, ofNat] using hn.trans hcap

/-- Under a key there is an append object with some bytes, and everything else is as it was. -/
structure Memory.Grown (key : Name) (m : Memory) (data : Bytes) (m' : Memory) : Prop where
  object : ∃ x, m'.objects.get? key = some x ∧ x.kind = .append ∧ x.data = data
  others : SameBut key m m'

variable {o : Memory.Options} {key : Name} {m m' : Memory} {x : StoredObject} {data : Bytes}

theorem Memory.Grown.appended (h : m.Grown key data m') {piece : Bytes}
    (hfit : ¬o.maxAppendSize.lt (.ofNat piece.length)) :
    ∃ m'', m'.step o (.appendChunk key piece) = (.ok (), m'') ∧
      m.Grown key (data ++ piece) m'' := by
  obtain ⟨⟨x, hx, hkind, rfl⟩, hothers⟩ := h
  let grown : StoredObject := ⟨x.data ++ piece, .append, o.clock (m'.readings + 1)⟩
  refine ⟨m'.write o key (x.data ++ piece) .append, ?_, ⟨grown, ?_, rfl, rfl⟩,
    hothers.trans (Memory.sameBut_write key _ _)⟩
  · rw [Memory.step, Memory.withObject_some hx, if_neg (by simp [hkind]), if_neg hfit]
  · rw [Memory.get?_write, if_pos rfl]

theorem Append.send_grown {ps : List Bytes}
    (hfit : ∀ piece ∈ ps, ¬o.maxAppendSize.lt (.ofNat piece.length)) (h : m.Grown key data m') :
    (send (Memory.backend o) key ps m').1.failure = none ∧
      m.Grown key (data ++ ps.flatten) (send (Memory.backend o) key ps m').2 := by
  induction ps generalizing data m' with
  | nil => exact ⟨rfl, by simpa [send] using h⟩
  | cons piece more ih =>
    obtain ⟨hpiece, hmore⟩ := List.forall_mem_cons.mp hfit
    obtain ⟨m'', hstep, hgrown⟩ := h.appended hpiece
    obtain ⟨hdone, hall⟩ := ih hmore hgrown
    rw [List.append_assoc] at hall
    rw [send, Memory.backend_answer, hstep]
    exact ⟨hdone, hall⟩

theorem Append.send_refused (hx : m.objects.get? key = some x) (hkind : x.kind ≠ .append)
    (piece : Bytes) (more : List Bytes) :
    send (Memory.backend o) key (piece :: more) m =
      ({ failure := some (.notAppendable key x.kind) }, m) := by
  rw [send, Memory.backend_answer, Memory.step, Memory.withObject_some hx, if_pos hkind]

namespace Writer

variable {s : Writer} {world : World Memory}

theorem full_append_buffer (s : Writer) (more : Bytes) :
    s.full more ++ (s.holding more).buffer = s.buffer ++ more :=
  List.take_append_drop _ _

theorem run_cons {σ : Type} {b : Backend σ} {q : Request} {qs : List Request} {s₁ s₂ : Writer}
    {world world₁ world₂ : World σ} {r : Except Failure Nat} {rs : List (Except Failure Nat)}
    (h : perform b q s world = (r, s₁, world₁)) (hrest : run b qs s₁ world₁ = (rs, s₂, world₂)) :
    run b (q :: qs) s world = (r :: rs, s₂, world₂) := by
  rw [run, h]
  simp only [hrest]

section Grown

variable (hfit : ∀ n, n ≤ s.chunk → ¬o.maxAppendSize.lt (.ofNat n))

include hfit

theorem append_grown (h : m.Grown s.key data world.store) (block : Bytes) :
    ∃ world', append (Memory.backend o) s block world = (.ok (), s, world') ∧
      m.Grown s.key (data ++ block) world'.store := by
  have hpieces : ∀ piece ∈ Append.pieces s.chunk block,
      ¬o.maxAppendSize.lt (.ofNat piece.length) := by
    intro piece hpiece
    rw [Append.pieces_eq_chunks s.chunk_pos] at hpiece
    exact hfit _ (Append.length_of_mem_chunks s.chunk_pos hpiece).2
  obtain ⟨hdone, hgrown⟩ := Append.send_grown hpieces h
  rw [Append.pieces_flatten s.chunk_pos] at hgrown
  refine ⟨{ world with store := _ }, ?_, hgrown⟩
  simp only [append, Append.block, hdone]

/-- The writes of an open session whose object, with the buffer after it, has some bytes. -/
theorem run_grown (writes : List Bytes) {sent : Bytes} (hopen : s.state = .open)
    (h : m.Grown s.key sent world.store) :
    ∃ s' world' sent', run (Memory.backend o) (writes.map .write) s world =
        (writes.map fun more => .ok more.length, s', world') ∧
      s'.key = s.key ∧ s'.chunk = s.chunk ∧ s'.state = .open ∧
      m.Grown s.key sent' world'.store ∧
      sent' ++ s'.buffer = sent ++ s.buffer ++ writes.flatten := by
  induction writes generalizing s world sent with
  | nil => exact ⟨s, world, sent, rfl, rfl, rfl, hopen, h, by simp⟩
  | cons more rest ih =>
    obtain ⟨world₁, happend, hgrown⟩ :=
      append_grown (s := s.holding more) hfit h (s.full more)
    obtain ⟨s', world', sent', hrun, hkey, hchunk, hstate, hend, hbytes⟩ :=
      ih (s := s.holding more) hfit hopen hgrown
    refine ⟨s', world', sent', ?_, hkey, hchunk, hstate, hend, ?_⟩
    · refine run_cons ?_ hrun
      rw [perform, write_eq_append hopen, happend]
      rfl
    · rw [hbytes, List.append_assoc sent, full_append_buffer]
      simp

theorem commit_grown {sent : Bytes} (hopen : s.state = .open)
    (h : m.Grown s.key sent world.store) :
    (perform (Memory.backend o) .commit s world).1 = .ok 0 ∧
      m.Grown s.key (sent ++ s.buffer) (perform (Memory.backend o) .commit s world).2.2.store := by
  obtain ⟨hstore, hend⟩ := ending_eq_flush (.inl rfl) hopen (Memory.backend o) world
  obtain ⟨world', happend, hgrown⟩ := append_grown (s := { s with buffer := [] }) hfit h s.buffer
  rw [← flush_eq_append] at happend
  rw [hstore, happend]
  exact ⟨(hend _ _ happend).1, hgrown⟩

theorem session_grown (writes : List Bytes) (hopen : s.state = .open) (hbuffer : s.buffer = [])
    (h : m.Grown s.key data world.store) {accepted : List (Except Failure Nat)}
    {result : Except Failure Nat} {s₁ s₂ : Writer} {world₁ world₂ : World Memory}
    (hrun : run (Memory.backend o) (writes.map .write) s world = (accepted, s₁, world₁))
    (hcommit : perform (Memory.backend o) .commit s₁ world₁ = (result, s₂, world₂)) :
    accepted = (writes.map fun more => .ok more.length) ∧ result = .ok 0 ∧
      m.Grown s.key (data ++ writes.flatten) world₂.store := by
  obtain ⟨s', world', sent, hrun', hkey, hchunk, hstate, hsent, hbytes⟩ :=
    run_grown hfit writes hopen h
  cases hrun.symm.trans hrun'
  obtain ⟨hresult, hend⟩ := commit_grown (s := s₁) (hchunk ▸ hfit) hstate (hkey ▸ hsent)
  rw [hcommit] at hresult hend
  rw [hbytes, hbuffer, List.append_nil, hkey] at hend
  exact ⟨rfl, hresult, hend⟩

end Grown

section Refused

variable (hx : world.store.objects.get? s.key = some x) (hkind : x.kind ≠ .append)

include hx hkind

theorem append_refused {block : Bytes} (hblock : block ≠ []) :
    ∃ size world', append (Memory.backend o) s block world =
        (.error (.store (.notAppendable s.key x.kind)), { s with size, buffer := [] }, world') ∧
      world'.store = world.store := by
  obtain ⟨piece, more, hpieces⟩ : ∃ piece more, Append.pieces s.chunk block = piece :: more := by
    refine List.exists_cons_of_ne_nil fun hnone => hblock ?_
    rw [← Append.pieces_flatten s.chunk_pos block, hnone]
    rfl
  have hsend := Append.send_refused (o := o) hx hkind piece more
  refine ⟨_, _, by simp only [append, Append.block, hpieces, hsend]; rfl, ?_⟩
  rw [note_store]

/-- The writes of an open session on an object that cannot grow: they fill the buffer, and as soon
as there is a full chunk one of them fails. -/
theorem run_refused (writes : List Bytes) (hopen : s.state = .open) :
    ∃ accepted s' world', run (Memory.backend o) (writes.map .write) s world =
        (accepted, s', world') ∧
      s'.key = s.key ∧ s'.state = .open ∧ world'.store = world.store ∧
      (∀ f, .error f ∈ accepted → f = .store (.notAppendable s.key x.kind)) ∧
      ((∃ f, .error f ∈ accepted ∧ s.buffer ++ writes.flatten ≠ []) ∨
        accepted = (writes.map fun more => .ok more.length) ∧
          s'.buffer = s.buffer ++ writes.flatten) := by
  induction writes generalizing s world with
  | nil => exact ⟨[], s, world, rfl, rfl, hopen, rfl, by simp, .inr ⟨rfl, by simp⟩⟩
  | cons more rest ih =>
    have hsplit := full_append_buffer s more
    have hall : s.buffer ++ (more :: rest).flatten = s.buffer ++ more ++ rest.flatten := by simp
    rw [hall]
    by_cases hfull : s.full more = []
    · have hwrite : perform (Memory.backend o) (.write more) s world =
          (.ok more.length, s.holding more, world) := by
        rw [perform, write_eq_append hopen, hfull, append_nil]
        rfl
      rw [hfull, List.nil_append] at hsplit
      obtain ⟨accepted, s', world', hrun, hkey, hstate, hstore, herrors, hend⟩ :=
        ih (s := s.holding more) hx hopen
      refine ⟨.ok more.length :: accepted, s', world', run_cons hwrite hrun, hkey, hstate, hstore,
        ?_, ?_⟩
      · intro f hf
        exact herrors f (by simpa using hf)
      · rw [hsplit] at hend
        rcases hend with ⟨f, hf, hsome⟩ | ⟨rfl, hbuffer⟩
        · exact .inl ⟨f, List.mem_cons_of_mem _ hf, hsome⟩
        · exact .inr ⟨rfl, hbuffer⟩
    · obtain ⟨size, world₁, happend, hworld⟩ :=
        append_refused (o := o) (s := s.holding more) hx hkind hfull
      let lost : Writer := { s.holding more with size, buffer := [] }
      have hwrite : perform (Memory.backend o) (.write more) s world =
          (.error (.store (.notAppendable s.key x.kind)), lost, world₁) := by
        rw [perform, write_eq_append hopen, happend]
        rfl
      have hlost : world₁.store.objects.get? lost.key = some x := hworld ▸ hx
      obtain ⟨accepted, s', world', hrun, hkey, hstate, hstore, herrors, -⟩ :=
        ih (s := lost) hlost hopen
      refine ⟨_ :: accepted, s', world', run_cons hwrite hrun, hkey, hstate, hstore.trans hworld,
        ?_, .inl ⟨_, List.mem_cons_self, ?_⟩⟩
      · intro f hf
        rcases List.mem_cons.mp hf with heq | hf
        · exact Except.error.inj heq
        · exact herrors f hf
      · -- the full chunks are some of the bytes
        rw [← hsplit]
        simp [hfull]

theorem commit_refused (hopen : s.state = .open) :
    (perform (Memory.backend o) .commit s world).2.2.store = world.store ∧
      (s.buffer = [] → (perform (Memory.backend o) .commit s world).1 = .ok 0) ∧
      (s.buffer ≠ [] → (perform (Memory.backend o) .commit s world).1 =
        .error (.store (.notAppendable s.key x.kind))) := by
  obtain ⟨hstore, hend⟩ := ending_eq_flush (.inl rfl) hopen (Memory.backend o) world
  rw [hstore]
  by_cases hbuffer : s.buffer = []
  · have hflush : flush (Memory.backend o) s world = (.ok (), { s with buffer := [] }, world) := by
      rw [flush_eq_append, hbuffer, append_nil]
    rw [hflush]
    exact ⟨rfl, fun _ => (hend _ _ hflush).1, fun hsome => absurd hbuffer hsome⟩
  · obtain ⟨size, world₁, happend, hworld⟩ :=
      append_refused (o := o) (s := { s with buffer := [] }) hx hkind hbuffer
    rw [← flush_eq_append] at happend
    have hlegal : s.state ∈ Operation.commit.allowed := by simp [hopen, Operation.allowed]
    refine ⟨by rw [happend, hworld], fun hnone => absurd hnone hbuffer, fun _ => ?_⟩
    rw [perform, commit, allowing_legal hlegal, happend]
    rfl

/-- All calls of a session on an object that cannot grow: the one that sends a chunk first fails. -/
theorem session_refused (writes : List Bytes) (hopen : s.state = .open) (hbuffer : s.buffer = [])
    {accepted : List (Except Failure Nat)} {result : Except Failure Nat} {s₁ s₂ : Writer}
    {world₁ world₂ : World Memory}
    (hrun : run (Memory.backend o) (writes.map .write) s world = (accepted, s₁, world₁))
    (hcommit : perform (Memory.backend o) .commit s₁ world₁ = (result, s₂, world₂)) :
    world₂.store = world.store ∧
      (writes.flatten = [] →
        accepted = (writes.map fun more => .ok more.length) ∧ result = .ok 0) ∧
      (writes.flatten ≠ [] → ∃ f, .error f ∈ accepted ++ [result]) ∧
      ∀ f, .error f ∈ accepted ++ [result] → f = .store (.notAppendable s.key x.kind) := by
  obtain ⟨_, _, _, hrun', hkey, hstate, hstore, herrors, hend⟩ :=
    run_refused (o := o) hx hkind writes hopen
  cases hrun.symm.trans hrun'
  have hx₁ : world₁.store.objects.get? s₁.key = some x := by
    rw [hstore, hkey]
    exact hx
  obtain ⟨hsame, hok, hfails⟩ := commit_refused (o := o) hx₁ hkind hstate
  rw [hcommit] at hsame hok hfails
  rw [hkey] at hfails
  rw [hbuffer, List.nil_append] at hend
  refine ⟨hsame.trans hstore, fun hnone => ?_, fun hdata => ?_, fun f hf => ?_⟩
  · rcases hend with ⟨_, _, hsome⟩ | ⟨haccepted, hrest⟩
    · exact absurd hnone hsome
    · exact ⟨haccepted, hok (hrest.trans hnone)⟩
  · rcases hend with ⟨f, hf, -⟩ | ⟨-, hrest⟩
    · exact ⟨f, List.mem_append_left _ hf⟩
    · have hresult := hfails (hrest ▸ hdata)
      exact ⟨_, List.mem_append_right _ (List.mem_singleton.mpr hresult.symm)⟩
  · rcases List.mem_append.mp hf with hf | hf
    · exact herrors f hf
    · obtain rfl := List.mem_singleton.mp hf
      by_cases hrest : s₁.buffer = []
      · cases hok hrest
      · exact Except.error.inj (hfails hrest)

end Refused

end Writer

namespace FileTree

open BlobTree.Action

variable {t : FileTree} {path : Name}

def resumed (t : FileTree) (path : Name) (x : StoredObject) {c : Nat} (hc : 0 < c) : Writer where
  path
  key := t.root.keyOf path
  chunk := c
  chunk_pos := hc
  size := .ofNat x.data.length
  logger := some (t.logger.child [textField "writer" path])

theorem writer_resumes {c : Nat} (hc : t.maxChunkSize.toPositive? = some c)
    (hfile : FileAt t.root m path x) :
    (t.writer (Memory.backend o) path true).Gives m
      (.ok (t.resumed path x (Number.toPositive?_pos hc))) m := by
  have hpos : 0 < c := Number.toPositive?_pos hc
  have hstart : (Writer.start path (t.root.keyOf path) (.ofNat x.data.length) t.maxChunkSize
      (some (t.logger.child [textField "writer" path]))).mapError Stop.failed =
        .ok (t.resumed path x hpos) := by
    simp only [Writer.start, Append.chunkSize, hc, hpos, dif_pos]
    rfl
  have hopened := opened_gives t path (t.root.keyOf path) true x.data.length m
  rw [← hstart]
  rw [writer, onPath_valid hfile.1]
  refine counted_gives ((exists_gives _).bind ?_)
  rw [KeyMap.contains_of_get?_some hfile.2]
  exact (properties_some hfile.2).bind ((gives_pure _ m).bind hopened)

theorem getContent_gives (hfile : FileAt t.root m path x) :
    (t.getContent (Memory.backend o) path).Gives m (.ok x.data) m := by
  rw [getContent, onPath_valid hfile.1]
  exact counted_gives (callAt_ok (Memory.withObject_some hfile.2 _))

/-- **Going on with a file.** A session that appends to a file of a memory store opens at the file's
size, and then all writes and the commit go well if the file is an append object or nothing is
written at all; the file has its bytes and those of the writes after them, and no other object is
touched. If it is an object of another kind, the first call that sends a chunk fails, whichever of
them that is, and the store stays as it is. -/
theorem append_resumes (o : Memory.Options) (options : Options) (rootLogger : Logger)
    (logger : Option Logger) {c : Nat}
    (hc : ((options.maxChunkSize.getD o.maxAppendSize).min o.maxAppendSize).toPositive? = some c)
    {m : Memory} {path : Name} {x : StoredObject}
    (hfile : FileAt (Root.ofDir options.rootDirectory) m path x) (writes : List Bytes) :
    let b := Memory.backend o
    let t := onStore b options rootLogger logger
    let key := t.root.keyOf path
    let data := writes.flatten
    ∃ s, (t.writer b path true).Gives m (.ok s) m ∧ s.size = .ofNat x.data.length ∧
      ∀ world, world.store = m →
      ∀ accepted s₁ world₁, s.run b (writes.map .write) world = (accepted, s₁, world₁) →
      ∀ result s₂ world₂, s₁.perform b .commit world₁ = (result, s₂, world₂) →
      (x.kind = .append ∨ data = [] →
        accepted = (writes.map fun more => .ok more.length) ∧ result = .ok 0 ∧
        (t.getContent b path).Gives world₂.store (.ok (x.data ++ data)) world₂.store ∧
        Memory.SameBut key m world₂.store) ∧
      (x.kind ≠ .append → data ≠ [] →
        (∃ f, .error f ∈ accepted ++ [result]) ∧
        (∀ f, .error f ∈ accepted ++ [result] → f = .store (.notAppendable key x.kind)) ∧
        world₂.store = m) := by
  intro b t key data
  have hpos : 0 < c := Number.toPositive?_pos hc
  have hopens : (t.writer b path true).Gives m (.ok (t.resumed path x hpos)) m :=
    writer_resumes (t := t) hc hfile
  refine ⟨t.resumed path x hpos, hopens, rfl, ?_⟩
  rintro world rfl accepted s₁ world₁ hrun result s₂ world₂ hcommit
  by_cases hkind : x.kind = .append
  · have hfit : ∀ n, n ≤ c → ¬o.maxAppendSize.lt (.ofNat n) := fun n => Number.not_lt_of_min hc
    have hfound : world.store.Grown key x.data world.store :=
      ⟨⟨x, hfile.2, hkind, rfl⟩, .refl key _⟩
    obtain ⟨haccepted, hresult, hend⟩ := Writer.session_grown (s := t.resumed path x hpos) hfit
      writes rfl rfl hfound hrun hcommit
    obtain ⟨y, hy, -, hdata⟩ := hend.object
    have hread : FileAt t.root world₂.store path y := ⟨hfile.1, hy⟩
    have hcontent := getContent_gives (o := o) hread
    rw [hdata] at hcontent
    exact ⟨fun _ => ⟨haccepted, hresult, hcontent, hend.others⟩, fun hnot => absurd hkind hnot⟩
  · obtain ⟨hsame, hquiet, hfails, herrors⟩ := Writer.session_refused
      (s := t.resumed path x hpos) hfile.2 hkind writes rfl rfl hrun hcommit
    refine ⟨fun hor => ?_, fun _ hdata => ⟨hfails hdata, herrors, hsame⟩⟩
    have hnone : data = [] := hor.resolve_left hkind
    obtain ⟨haccepted, hresult⟩ := hquiet hnone
    rw [hsame, hnone, List.append_nil]
    exact ⟨haccepted, hresult, getContent_gives hfile, .refl key _⟩

/-- A file of each kind, gone on with in two writes, the second of which fills a chunk. -/
theorem append_resumes_both :
    let o : Memory.Options := { maxAppendSize := .ofNat 2 }
    let b := Memory.backend o
    let t := onStore b {} default
    let m := Memory.write o (.write o default "a".toList [1] .append) "b".toList [2] .block
    let wrote (s : Writer) := s.run b ([[3], [4, 5]].map .write) (.fresh m)
    let ended (s : Writer) := (wrote s).2.1.perform b .commit (wrote s).2.2
    FileAt t.root m "/a".toList ⟨[1], .append, 1⟩ ∧ FileAt t.root m "/b".toList ⟨[2], .block, 2⟩ ∧
    (∃ s, (t.writer b "/a".toList true).Gives m (.ok s) m ∧ (wrote s).1 = [.ok 1, .ok 2] ∧
      (ended s).1 = .ok 0 ∧
      (t.getContent b "/a".toList).Gives (ended s).2.2.store (.ok [1, 3, 4, 5])
        (ended s).2.2.store) ∧
    ∃ s, (t.writer b "/b".toList true).Gives m (.ok s) m ∧
      (∃ f, .error f ∈ (wrote s).1 ++ [(ended s).1]) ∧ (ended s).2.2.store = m := by
  intro o b t m wrote ended
  have hc : ((({} : Options).maxChunkSize.getD o.maxAppendSize).min o.maxAppendSize).toPositive? =
      some 2 := by
    decide +kernel
  have ha : FileAt t.root m "/a".toList ⟨[1], .append, 1⟩ := by decide +kernel
  have hb : FileAt t.root m "/b".toList ⟨[2], .block, 2⟩ := by decide +kernel
  obtain ⟨s, hopens, -, hruns⟩ := append_resumes o {} default none hc ha [[3], [4, 5]]
  obtain ⟨s', hopens', -, hruns'⟩ := append_resumes o {} default none hc hb [[3], [4, 5]]
  have hsplit {α : Type} (r : α × Writer × World Memory) : r = (r.1, r.2.1, r.2.2) := rfl
  obtain ⟨hgrows, -⟩ := hruns (.fresh m) rfl _ _ _ (hsplit (wrote s)) _ _ _ (hsplit (ended s))
  obtain ⟨-, hfails⟩ := hruns' (.fresh m) rfl _ _ _ (hsplit (wrote s')) _ _ _ (hsplit (ended s'))
  obtain ⟨haccepted, hresult, hcontent, -⟩ := hgrows (.inl rfl)
  obtain ⟨hsome, -, hsame⟩ := hfails (by decide) (by decide)
  exact ⟨ha, hb, ⟨s, hopens, haccepted, hresult, hcontent⟩, s', hopens', hsome, hsame⟩

/-- A file put there in one call, which a session opens and takes a byte for: the commit fails, and
the file is as it was. -/
theorem append_fails_after_put :
    let o : Memory.Options := {}
    let b := Memory.backend o
    let t := onStore b {} default
    let path := "/a".toList
    let client : Program Unit Answer := .ask (.putContent path [1])
    let m := ((client.run t b).exec (.fresh { store := default, notes := () })).2.store.store
    Reachable t o m ∧ FileAt t.root m path ⟨[1], .block, 1⟩ ∧
    t.maxChunkSize.toPositive? = some 4194304 ∧
    ∃ s, (t.writer b path true).Gives m (.ok s) m ∧
      let wrote := s.run b [.write [2]] (.fresh m)
      let ended := wrote.2.1.perform b .commit wrote.2.2
      wrote.1 = [.ok 1] ∧ ended.1 = .error (.store (.notAppendable "a".toList .block)) ∧
      (t.getContent b path).Gives ended.2.2.store (.ok [1]) ended.2.2.store := by
  intro o b t path client m
  have hm : m = Memory.write o default "a".toList [1] .block := by decide +kernel
  have hfile : FileAt t.root m path ⟨[1], .block, 1⟩ := by
    rw [hm]
    decide +kernel
  have hc : t.maxChunkSize.toPositive? = some 4194304 := by decide +kernel
  let s := t.resumed path ⟨[1], .block, 1⟩ (Nat.succ_pos 4194303)
  have hopens : (t.writer b path true).Gives m (.ok s) m := writer_resumes hc hfile
  refine ⟨reachable_run t o client (), hfile, hc, s, hopens, ?_⟩
  rw [hm]
  refine ⟨by decide +kernel, by decide +kernel, ?_⟩
  exact getContent_gives (x := ⟨[1], .block, 1⟩) (by decide +kernel)

end FileTree
end BlobTree
