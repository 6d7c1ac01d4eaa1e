import BlobTree.Proofs.Writer.Append
import BlobTree.Writer.Request

/-!
# BlobTree.Proofs.Writer.Durability

What a session owes its caller. The stream of a session is the object's first content with the
bytes of every write put after it; whenever the store refuses a call, the stream is cut to the
size that the session reports. After every call of a run the object followed by the buffer is the
stream, and nothing waits in the buffer of a session that is over or has just been refused, so
that the object alone is the stream there and its length is the size to go on from.

* `Account.step`: one call, with the stream kept beside the session.
* `append_sound`: the step lemma for everything that reaches the store, with both of its endings.
* `Account.run_sound`: after any run of writes, commits and closes.
* `step_commit`, `step_close`: a commit or a close that gives a value has ended the session.
-/

namespace BlobTree
namespace Writer

variable {σ : Type}

/-- The bytes that a call puts into the stream: those of a write to an open session. -/
def Request.taken (q : Request) (w : Writer) : Bytes :=
  match q with
  | .write data => if w.state = .open then data else []
  | _ => []

def fixed (w : Writer) : Name × Name × Nat :=
  (w.path, w.key, w.chunk)

/-- A session, the world it is in and its stream. -/
structure Account (σ : Type) where
  writer : Writer
  world : World σ
  stream : Bytes
  /-- The store has refused the last call. -/
  refused : Bool := false

namespace Account

def step (b : Backend σ) (a : Account σ) (q : Request) : Account σ :=
  let stream := a.stream ++ q.taken a.writer
  match perform b q a.writer a.world with
  | (.error (.store _), writer, world) =>
    ⟨writer, world, Memory.slice stream 0 writer.size, true⟩
  | (_, writer, world) => ⟨writer, world, stream, false⟩

def run (b : Backend σ) (a : Account σ) (qs : List Request) : Account σ :=
  qs.foldl (step b) a

/-- Along a run the stream stays within the whole numbers that stand as they are. -/
def Fits (b : Backend σ) : List Request → Account σ → Prop
  | [], _ => True
  | q :: rest, a =>
    (a.stream ++ q.taken a.writer).length ≤ Number.exactBound ∧ Fits b rest (a.step b q)

instance Fits.decidable (b : Backend σ) :
    (qs : List Request) → (a : Account σ) → Decidable (Fits b qs a)
  | [], _ => isTrue trivial
  | q :: rest, a => by
    unfold Fits
    exact @instDecidableAnd _ _ _ (Fits.decidable b rest (a.step b q))

/-- The store's part of the stream, seen through `object`, and the session's part. -/
structure Sound (object : σ → Bytes) (a : Account σ) : Prop where
  whole : object a.world.store ++ a.writer.buffer = a.stream
  counted : a.writer.size = .ofNat ((object a.world.store).length + a.writer.buffer.length)
  short : a.writer.buffer.length < a.writer.chunk
  settled : a.writer.state ≠ .open ∨ a.refused → a.writer.buffer = []

end Account

variable {b : Backend σ} {object : σ → Bytes}

/-- Where the store has taken the first `n` bytes of a block, the size falls back to the object's
length and the stream to the object. -/
theorem shift_lost {size : Number} {held data rest : Bytes} {n : Nat} (hn : n ≤ data.length)
    (hsize : size = .ofNat (held.length + data.length + rest.length))
    (hfit : held.length + data.length + rest.length ≤ Number.exactBound) :
    size.shift (-(data.length - n + rest.length : Nat)) = .ofNat (held ++ data.take n).length ∧
      Memory.slice (held ++ data ++ rest) 0
        (size.shift (-(data.length - n + rest.length : Nat))) = held ++ data.take n := by
  have hlen : (held ++ data.take n).length = held.length + n := by
    rw [List.length_append, List.length_take, Nat.min_eq_left hn]
  have hshift : size.shift (-(data.length - n + rest.length : Nat)) = .ofNat (held.length + n) := by
    rw [hsize, Number.shift_sub (by omega) hfit]
    congr 1
    omega
  refine ⟨by rw [hshift, hlen], ?_⟩
  rw [hshift]
  simp only [Memory.slice, Memory.cutAt_ofNat, List.drop_zero, List.length_append]
  rw [Nat.min_eq_left (by omega), List.append_assoc, List.take_length_add_append,
    List.take_append_of_le_length hn]

/-- The step lemma for everything that reaches the store: a block that leaves a session whose size
counts the object, the block and the buffer. -/
theorem append_sound {w : Writer} (h : b.AppendsTo w.key object) (data : Bytes) (world : World σ)
    (hsize : w.size =
      .ofNat ((object world.store).length + data.length + w.buffer.length))
    (hfit : (object world.store).length + data.length + w.buffer.length ≤ Number.exactBound) :
    (∃ world', append b w data world = (.ok (), w, world') ∧
      object world'.store = object world.store ++ data) ∨
    (∃ e w' world', append b w data world = (.error (.store e), w', world') ∧
      w'.fixed = w.fixed ∧ w'.buffer = [] ∧ w'.size = .ofNat (object world'.store).length ∧
      Memory.slice (object world.store ++ data ++ w.buffer) 0 w'.size = object world'.store) := by
  rcases append_cases h data world with hok | ⟨e, n, world', hn, happ, hobj⟩
  · exact .inl hok
  · obtain ⟨hback, hcut⟩ := shift_lost hn hsize hfit
    refine .inr ⟨e, _, world', happ, rfl, rfl, ?_, ?_⟩
    · rw [hobj]; exact hback
    · rw [hobj]; exact hcut

theorem flush_sound {w : Writer} (h : b.AppendsTo w.key object) (world : World σ)
    (hsize : w.size = .ofNat ((object world.store).length + w.buffer.length))
    (hfit : (object world.store).length + w.buffer.length ≤ Number.exactBound) :
    (∃ world', flush b w world = (.ok (), { w with buffer := [] }, world') ∧
      object world'.store = object world.store ++ w.buffer) ∨
    (∃ e w' world', flush b w world = (.error (.store e), w', world') ∧
      w'.fixed = w.fixed ∧ w'.buffer = [] ∧ w'.size = .ofNat (object world'.store).length ∧
      Memory.slice (object world.store ++ w.buffer) 0 w'.size = object world'.store) := by
  by_cases he : w.buffer = []
  · refine .inl ⟨world, ?_, by simp [he]⟩
    cases w
    simp_all [flush]
  · have hflush : flush b w world = append b { w with buffer := [] } w.buffer world := by
      simp [flush, he]
    have happ := append_sound (w := { w with buffer := [] }) h w.buffer world hsize hfit
    rw [List.append_nil] at happ
    rw [hflush]
    exact happ

namespace Account

variable {a : Account σ}

theorem sound_of_refused {w : Writer} {world : World σ} {stream : Bytes} (hbuf : w.buffer = [])
    (hsize : w.size = .ofNat (object world.store).length)
    (hcut : Memory.slice stream 0 w.size = object world.store) :
    Sound object ⟨w, world, Memory.slice stream 0 w.size, true⟩ where
  whole := by rw [hbuf, List.append_nil, hcut]
  counted := by rw [hbuf]; exact hsize
  short := by rw [hbuf]; exact w.chunk_pos
  settled _ := hbuf

theorem illegal_sound {q : Request} (op : Operation) (ha : a.Sound object)
    (hq : perform b q a.writer a.world =
      (.error (.invalidState op a.writer.state), a.writer, a.world))
    (ht : q.taken a.writer = []) :
    (a.step b q).Sound object ∧ (a.step b q).writer.fixed = a.writer.fixed := by
  have hstep : a.step b q = { a with refused := false } := by simp [step, hq, ht]
  rw [hstep]
  refine ⟨⟨ha.whole, ha.counted, ha.short, ?_⟩, rfl⟩
  rintro (hs | hr)
  · exact ha.settled (.inl hs)
  · cases hr

theorem write_sound (h : b.AppendsTo a.writer.key object) (ha : a.Sound object) (data : Bytes)
    (hopen : a.writer.state = .open) (hfit : (a.stream ++ data).length ≤ Number.exactBound) :
    (a.step b (.write data)).Sound object ∧
      (a.step b (.write data)).writer.fixed = a.writer.fixed := by
  obtain ⟨w, world, stream, refused⟩ := a
  obtain ⟨hwhole, hcounted, hshort, -⟩ := ha
  simp only at h hwhole hcounted hshort hopen hfit ⊢
  let held := w.buffer ++ data
  let full := held.length - held.length % w.chunk
  let w1 : Writer := { w with buffer := held.drop full, size := w.size.shift data.length }
  have hheld : held.length = w.buffer.length + data.length := List.length_append
  have hsum : (object world.store).length + held.length = stream.length + data.length := by
    rw [hheld, ← hwhole, List.length_append, Nat.add_assoc]
  have hstream : object world.store ++ held.take full ++ w1.buffer = stream ++ data := by
    rw [List.append_assoc, List.take_append_drop, ← hwhole, List.append_assoc]
  have hsize : w1.size = .ofNat ((object world.store).length + held.length) := by
    show w.size.shift data.length = _
    rw [hcounted, Number.shift_add (by rw [List.length_append] at hfit; omega), hheld,
      Nat.add_assoc]
  have hrest : w1.buffer.length < w.chunk := by
    have hmod := Nat.mod_lt held.length w.chunk_pos
    have hle := Nat.mod_le held.length w.chunk
    show (held.drop full).length < w.chunk
    rw [List.length_drop]
    omega
  have hsplit : (held.take full).length + w1.buffer.length = held.length := by
    rw [← List.length_append, List.take_append_drop]
  have hparts : (object world.store ++ held.take full).length + w1.buffer.length =
      (object world.store).length + held.length := by
    rw [List.length_append, Nat.add_assoc, hsplit]
  -- The full chunks are in the store, whether or not there were any.
  have hsound {world' : World σ}
      (hobj : object world'.store = object world.store ++ held.take full) :
      Sound object ⟨w1, world', stream ++ data, false⟩ := by
    refine ⟨by rw [hobj]; exact hstream, ?_, hrest, ?_⟩
    · show w1.size = .ofNat ((object world'.store).length + w1.buffer.length)
      rw [hobj, hsize, hparts]
    · rintro (hs | hr)
      · exact absurd hopen hs
      · cases hr
  have hwrite : perform b (.write data) w world =
      if full = 0 then (.ok data.length, w1, world)
      else ((append b w1 (held.take full) world).1.map fun _ => data.length,
        (append b w1 (held.take full) world).2) := by
    show write b w data world = _
    rw [write, allowing_legal (by rw [hopen]; decide)]
  simp only [step, Request.taken, hopen, if_true, hwrite]
  by_cases hfull : full = 0
  · rw [if_pos hfull]
    exact ⟨hsound (by rw [hfull, List.take_zero, List.append_nil]), rfl⟩
  · rw [if_neg hfull]
    have happ := append_sound (w := w1) h (held.take full) world
      (by rw [hsize]; congr 1; omega) (by rw [List.length_append] at hfit; omega)
    rcases happ with ⟨world', hr, hobj⟩ | ⟨e, w', world', hr, hsame, hbuf, hback, hcut⟩
    · rw [hr]
      exact ⟨hsound hobj, rfl⟩
    · rw [hr]
      rw [hstream] at hcut
      exact ⟨sound_of_refused hbuf hback hcut, hsame⟩

/-- A call that empties the buffer of an open session and then, if the store took it, ends it. -/
theorem ending_sound (h : b.AppendsTo a.writer.key object) (ha : a.Sound object) {q : Request}
    (hfit : a.stream.length ≤ Number.exactBound) (ht : q.taken a.writer = [])
    (hok : ∀ w' world', flush b a.writer a.world = (.ok (), w', world') →
      ∃ w'' world'', perform b q a.writer a.world = (.ok 0, w'', world'') ∧ w''.fixed = w'.fixed ∧
        w''.size = w'.size ∧ w''.buffer = w'.buffer ∧ world''.store = world'.store)
    (herr : ∀ e w' world', flush b a.writer a.world = (.error e, w', world') →
      perform b q a.writer a.world = (.error e, w', world')) :
    (a.step b q).Sound object ∧ (a.step b q).writer.fixed = a.writer.fixed := by
  obtain ⟨w, world, stream, refused⟩ := a
  obtain ⟨hwhole, hcounted, -, -⟩ := ha
  simp only at h hwhole hcounted hfit ht hok herr ⊢
  subst hwhole
  rw [List.length_append] at hfit
  simp only [step, ht, List.append_nil]
  rcases flush_sound h world hcounted hfit with
    ⟨world', hr, hobj⟩ | ⟨e, w', world', hr, hsame, hbuf, hback, hcut⟩
  · obtain ⟨w'', world'', hq, hsame, hsize, hbuf, hstore⟩ := hok _ _ hr
    rw [hq]
    refine ⟨⟨?_, ?_, ?_, fun _ => hbuf⟩, hsame⟩
    · simp only [hbuf, hstore, hobj, List.append_nil]
    · simp only [hsize, hcounted, hbuf, hstore, hobj, List.length_append, List.length_nil,
        Nat.add_zero]
    · rw [hbuf]
      exact w''.chunk_pos
  · rw [herr _ _ _ hr]
    exact ⟨sound_of_refused hbuf hback hcut, hsame⟩

theorem commit_sound (h : b.AppendsTo a.writer.key object) (ha : a.Sound object)
    (hopen : a.writer.state = .open) (hfit : a.stream.length ≤ Number.exactBound) :
    (a.step b .commit).Sound object ∧ (a.step b .commit).writer.fixed = a.writer.fixed := by
  have hcommit : perform b .commit a.writer a.world = Result.none (commit b a.writer a.world) := rfl
  rw [commit, allowing_legal (by rw [hopen]; decide)] at hcommit
  refine ending_sound h ha hfit rfl ?_ ?_
  · intro w' world' hr
    rw [hcommit, hr]
    exact ⟨_, _, rfl, rfl, rfl, rfl, note_store ..⟩
  · intro e w' world' hr
    rw [hcommit, hr]
    rfl

theorem close_sound (h : b.AppendsTo a.writer.key object) (ha : a.Sound object)
    (hopen : a.writer.state = .open) (hfit : a.stream.length ≤ Number.exactBound) :
    (a.step b .close).Sound object ∧ (a.step b .close).writer.fixed = a.writer.fixed := by
  have hclose : perform b .close a.writer a.world = Result.none (close b a.writer a.world) := rfl
  rw [close, allowing_legal (by rw [hopen]; decide), if_pos hopen] at hclose
  refine ending_sound h ha hfit rfl ?_ ?_
  · intro w' world' hr
    rw [hclose, hr]
    exact ⟨_, _, rfl, rfl, rfl, rfl, rfl⟩
  · intro e w' world' hr
    rw [hclose, hr]
    rfl

theorem close_ended_sound (ha : a.Sound object) (hne : a.writer.state ≠ .open)
    (hlegal : a.writer.state ∈ Operation.close.allowed) :
    (a.step b .close).Sound object ∧ (a.step b .close).writer.fixed = a.writer.fixed := by
  have hclose : perform b .close a.writer a.world = Result.none (close b a.writer a.world) := rfl
  rw [close, allowing_legal hlegal, if_neg hne] at hclose
  have hbuf : a.writer.buffer = [] := ha.settled (.inl hne)
  simp only [step, Request.taken, hclose, Result.none, Except.map, List.append_nil]
  exact ⟨⟨ha.whole, ha.counted, ha.short, fun _ => hbuf⟩, rfl⟩

/-- One call: by the call, and within it by whether the session's state allows it. -/
theorem step_sound (h : b.AppendsTo a.writer.key object) (ha : a.Sound object) {q : Request}
    (hq : q ≠ .cancel) (hfit : (a.stream ++ q.taken a.writer).length ≤ Number.exactBound) :
    (a.step b q).Sound object ∧ (a.step b q).writer.fixed = a.writer.fixed := by
  cases q with
  | write data =>
    by_cases hopen : a.writer.state = .open
    · simp only [Request.taken, hopen, if_true] at hfit
      exact write_sound h ha data hopen hfit
    · refine illegal_sound .write ha ?_ (if_neg hopen)
      show write b a.writer data a.world = _
      rw [write, allowing_refused (by simpa [Operation.allowed] using hopen)]
  | commit =>
    by_cases hopen : a.writer.state = .open
    · exact commit_sound h ha hopen (by simpa [Request.taken] using hfit)
    · refine illegal_sound .commit ha ?_ rfl
      show Result.none (commit b a.writer a.world) = _
      rw [commit, allowing_refused (by simpa [Operation.allowed] using hopen)]
      rfl
  | cancel => exact absurd rfl hq
  | close =>
    by_cases hlegal : a.writer.state ∈ Operation.close.allowed
    · by_cases hopen : a.writer.state = .open
      · exact close_sound h ha hopen (by simpa [Request.taken] using hfit)
      · exact close_ended_sound ha hopen hlegal
    · refine illegal_sound .close ha ?_ rfl
      show Result.none (close b a.writer a.world) = _
      rw [close, allowing_refused hlegal]
      rfl

theorem run_sound {key : Name} (h : b.AppendsTo key object) (qs : List Request)
    (hkey : a.writer.key = key) (ha : a.Sound object) (hq : .cancel ∉ qs) (hfit : Fits b qs a) :
    (a.run b qs).Sound object ∧ (a.run b qs).writer.fixed = a.writer.fixed := by
  induction qs generalizing a with
  | nil => exact ⟨ha, rfl⟩
  | cons q rest ih =>
    obtain ⟨hne, hrest⟩ : .cancel ≠ q ∧ .cancel ∉ rest := by simpa using hq
    obtain ⟨hfit1, hfits⟩ := hfit
    subst hkey
    obtain ⟨hsound, hsame⟩ := step_sound h ha (Ne.symm hne) hfit1
    have hkey : (a.step b q).writer.key = a.writer.key := congrArg (·.2.1) hsame
    obtain ⟨hdone, hsame'⟩ := ih hkey hsound hrest hfits
    exact ⟨hdone, hsame'.trans hsame⟩

theorem start_sound {path key : Name} {c : Nat} {logger : Option Logger} {w : Writer}
    {world : World σ}
    (hw : start path key (.ofNat (object world.store).length) (.ofNat c) logger = .ok w) :
    Sound object ⟨w, world, object world.store, false⟩ ∧ w.key = key ∧ w.chunk = c := by
  by_cases hc : 0 < c
  · have hsize : Append.chunkSize (.ofNat c) = .ok ⟨c, hc⟩ := by
      simp [Append.chunkSize, hc]
    simp only [start, hsize] at hw
    cases hw
    refine ⟨⟨?_, ?_, hc, ?_⟩, rfl, rfl⟩
    · exact List.append_nil _
    · rfl
    · intro _
      rfl
  · simp only [start, Append.chunkSize, Number.toPositive?_ofNat, if_neg hc] at hw
    cases hw

theorem step_writer (b : Backend σ) (a : Account σ) (q : Request) :
    (a.step b q).writer = (perform b q a.writer a.world).2.1 := by
  unfold step
  split <;> simp_all

theorem step_commit {n : Nat} (h : (perform b .commit a.writer a.world).1 = .ok n) :
    (a.step b .commit).writer.state = .committed := by
  rw [step_writer]
  have hcommit : perform b .commit a.writer a.world = Result.none (commit b a.writer a.world) := rfl
  rw [hcommit, commit] at h ⊢
  by_cases hlegal : a.writer.state ∈ Operation.commit.allowed
  · rw [allowing_legal hlegal] at h ⊢
    rcases hflush : flush b a.writer a.world with ⟨e | _, w', world'⟩
    · rw [hflush] at h
      cases h
    · rfl
  · rw [allowing_refused hlegal] at h
    cases h

theorem step_close {n : Nat} (h : (perform b .close a.writer a.world).1 = .ok n) :
    (a.step b .close).writer.state = .closed := by
  rw [step_writer]
  have hclose : perform b .close a.writer a.world = Result.none (close b a.writer a.world) := rfl
  rw [hclose, close] at h ⊢
  by_cases hlegal : a.writer.state ∈ Operation.close.allowed
  · rw [allowing_legal hlegal] at h ⊢
    by_cases hopen : a.writer.state = .open
    · rw [if_pos hopen] at h ⊢
      rcases hflush : flush b a.writer a.world with ⟨e | _, w', world'⟩
      · rw [hflush] at h
        cases h
      · rfl
    · rw [if_neg hopen]
      rfl
  · rw [allowing_refused hlegal] at h
    cases h

end Account

/-- **Durability.** After any run of writes, commits and closes of a new session, over a store
that takes or refuses each chunk as it likes: the object followed by the buffer is the stream, the
size counts both, less than a chunk is buffered, and once the session is committed, closed or just
refused the object alone is the stream. A commit that succeeds leaves the session committed, and a
close that succeeds leaves it closed. `Fits` is there because sizes are numbers, which count
single bytes up to `2^53` only. -/
theorem run_durable {b : Backend σ} {path key : Name} {object : σ → Bytes}
    (h : b.AppendsTo key object) {c : Nat} {logger : Option Logger} {w : Writer} {world : World σ}
    (hw : start path key (.ofNat (object world.store).length) (.ofNat c) logger = .ok w)
    (qs : List Request) (hq : .cancel ∉ qs)
    (hfit : Account.Fits b qs ⟨w, world, object world.store, false⟩) :
    let a := Account.run b ⟨w, world, object world.store, false⟩ qs
    object a.world.store ++ a.writer.buffer = a.stream ∧
      a.writer.size = .ofNat ((object a.world.store).length + a.writer.buffer.length) ∧
      a.writer.buffer.length < c ∧
      (a.writer.state = .committed ∨ a.writer.state = .closed ∨ a.refused →
        a.writer.buffer = [] ∧ object a.world.store = a.stream ∧
          a.writer.size = .ofNat a.stream.length) ∧
      (∀ n, (perform b .commit a.writer a.world).1 = .ok n →
        (a.step b .commit).writer.state = .committed) ∧
      (∀ n, (perform b .close a.writer a.world).1 = .ok n →
        (a.step b .close).writer.state = .closed) := by
  obtain ⟨hstart, hkey, hchunk⟩ := Account.start_sound hw
  obtain ⟨hsound, hsame⟩ := Account.run_sound h qs hkey hstart hq hfit
  refine ⟨hsound.whole, hsound.counted, ?_, ?_, fun _ => Account.step_commit,
    fun _ => Account.step_close⟩
  · have hc : _ = w.chunk := congrArg (·.2.2) hsame
    rw [← hchunk, ← hc]
    exact hsound.short
  · intro hend
    have hbuf := hsound.settled (by
      rcases hend with hs | hs | hr
      · exact .inl (by rw [hs]; decide)
      · exact .inl (by rw [hs]; decide)
      · exact .inr hr)
    have hobj := hsound.whole
    have hsize := hsound.counted
    rw [hbuf, List.append_nil] at hobj
    rw [hbuf, hobj] at hsize
    exact ⟨hbuf, hobj, hsize⟩

/-- A session on an object of two bytes, in a memory that will refuse the second chunk. -/
def Account.interrupted : Account (Refusing Memory) where
  writer :=
    { path := ['/', 'k'], key := ['k'], chunk := 3, chunk_pos := Nat.succ_pos 2
      size := .ofNat 2 }
  world := .fresh ⟨Memory.write {} default ['k'] [1, 2] .append, [none, some (.broken "timeout")]⟩
  stream := [1, 2]

/-- The second of two writes stops after its first chunk; the session goes on from there and is
committed. -/
theorem run_durable_interrupted :
    let b := (Memory.backend {}).refusing
    let qs := [.write [3, 4], .write [5, 6, 7, 8, 9]]
    let a := Account.interrupted.run b qs
    let rest := [.write [6, 7], .commit]
    let done := Account.interrupted.run b (qs ++ rest)
    b.AppendsTo ['k'] (·.store.bytesAt ['k']) ∧
      start ['/', 'k'] ['k'] (.ofNat 2) (.ofNat 3) = .ok Account.interrupted.writer ∧
      .cancel ∉ qs ++ rest ∧ Account.Fits b (qs ++ rest) Account.interrupted ∧
      (a.refused = true ∧ a.stream = [1, 2, 3, 4, 5] ∧ a.writer.buffer = [] ∧
        a.world.store.store.bytesAt ['k'] = a.stream ∧
        a.writer.size = .ofNat a.stream.length) ∧
      done.writer.state = .committed ∧ done.stream = [1, 2, 3, 4, 5, 6, 7] ∧
      done.writer.buffer = [] ∧ done.world.store.store.bytesAt ['k'] = done.stream ∧
      done.writer.size = .ofNat done.stream.length := by
  intro b qs a rest done
  have happends : b.AppendsTo ['k'] (·.store.bytesAt ['k']) :=
    refusing_appendsTo (memory_appendsTo {} ['k'])
  have hw : start ['/', 'k'] ['k'] (.ofNat 2) (.ofNat 3) = .ok Account.interrupted.writer := rfl
  have hq : .cancel ∉ qs ++ rest := by decide
  have hfit : Account.Fits b (qs ++ rest) Account.interrupted := by decide +kernel
  have hrefused : a.refused = true := by decide +kernel
  have hcommitted : done.writer.state = .committed := by decide +kernel
  have hfit' : Account.Fits b qs Account.interrupted := by decide +kernel
  have hbegin : Account.interrupted = ⟨Account.interrupted.writer, Account.interrupted.world,
    Account.interrupted.world.store.store.bytesAt ['k'], false⟩ := rfl
  have hrun : Account.run b Account.interrupted qs = a := rfl
  have hall : Account.run b Account.interrupted (qs ++ rest) = done := rfl
  obtain ⟨-, -, -, hend, -⟩ := run_durable happends hw qs (by decide) (hbegin ▸ hfit')
  obtain ⟨-, -, -, hdone, -⟩ := run_durable happends hw (qs ++ rest) hq (hbegin ▸ hfit)
  rw [← hbegin, hrun] at hend
  rw [← hbegin, hall] at hdone
  exact ⟨happends, hw, hq, hfit,
    ⟨hrefused, by decide +kernel, hend (.inr (.inr hrefused))⟩,
    hcommitted, by decide +kernel, hdone (.inl hcommitted)⟩

end Writer
end BlobTree
