import BlobTree.FileTree.Program
import BlobTree.Proofs.Counters
import BlobTree.Proofs.FileTree.Walk
import BlobTree.Proofs.Tally
import BlobTree.Proofs.Writer.Sends

/-!
# BlobTree.Proofs.FileTree.Counted

Which calls of a tree's operations are counted, over whole runs of a client. An operation counts
itself, under its name, once it has got past its arguments; a walk does not, but the listings and
the looks that it is made of do. How long each took is added under the name with `.ms`, which is the
key of no operation (`Settled.count_enter`).

* `Settled`: a call that has come to its end; `Settled.enter`: the counters after it.
* `Program.calls`: the calls of a run, with those that its walks and their visitors make.
* `Late`, `Once`: inside an operation nothing is counted and nothing fails too early to be, so the
  operation is counted once; `carryOut_once`: this holds of all of them.
* `Program.run_counts`: by induction on the program, a run changes the counters by its calls alone;
  `Program.run_counted`: what the counters of operations say after it.
-/

namespace BlobTree

/-- Failures that are raised before an operation is counted: its arguments are wrong, or it is not
there at all. -/
def Failure.isEarly : Failure → Bool
  | .invalidPath _ | .invalidOffset _ _ | .sizeLimit _ _ _ | .unsupported _ => true
  | _ => false

namespace FileTree

open BlobTree.Action

inductive Kind where
  | getContent
  | putContent
  | reader
  | writer
  | stat
  | list
  | move
  | delete
  | urlFor
  | walk
  deriving DecidableEq

namespace Kind

def name : Kind → String
  | getContent => "getContent"
  | putContent => "putContent"
  | reader => "reader"
  | writer => "writer"
  | stat => "stat"
  | list => "list"
  | move => "move"
  | delete => "delete"
  | urlFor => "urlFor"
  | walk => "walk"

def counter (k : Kind) : Name :=
  "driver.".toList ++ k.name.toList

theorem name_inj {k k' : Kind} (h : k.name = k'.name) : k = k' := by
  revert h
  cases k <;> cases k' <;> decide

theorem counter_inj {k k' : Kind} (h : k.counter = k'.counter) : k = k' :=
  name_inj (String.toList_inj.mp (List.append_cancel_left h))

/-- The name of the counters of how long the calls of an operation took. -/
def timed (k : Kind) : Name :=
  k.counter ++ ['.', 'm', 's']

theorem counter_ne_timed (k k' : Kind) : k.counter ≠ k'.timed := by
  have hlast : k.counter.getLast? ≠ some 's' := by cases k <;> decide
  intro h
  exact hlast (by simp [h, timed])

theorem brace_notMem_counter (k : Kind) : '\x7b' ∉ k.counter := by
  cases k <;> decide

theorem brace_notMem_timed (k : Kind) : '\x7b' ∉ k.timed := by
  simp [timed, k.brace_notMem_counter]

end Kind

def Operation.kind : Operation → Kind
  | .getContent _ => .getContent
  | .putContent _ _ => .putContent
  | .reader _ _ => .reader
  | .writer _ _ => .writer
  | .stat _ => .stat
  | .list _ => .list
  | .move _ _ => .move
  | .delete _ => .delete
  | .urlFor _ => .urlFor

/-- A call of an operation that has come to its end, with a value if nothing stopped it. -/
structure Settled where
  kind : Kind
  stop? : Option Stop
  deriving DecidableEq

namespace Settled

def of {α : Type} (k : Kind) : Except Stop α → Settled
  | .ok _ => ⟨k, none⟩
  | .error e => ⟨k, some e⟩

def failed : Labels :=
  failureLabels none

/-- The labels with which a call that ends like this is counted, if it is. -/
def labels? (e : Settled) : Option (Option Labels) :=
  match e.stop? with
  | none => some none
  | some (.failed f) => if f.isEarly then none else some (some failed)
  | some .unfinished => none

/-- The counters and the host after a call; a walk is not counted. -/
def enter (books : Counters × Host) (e : Settled) : Counters × Host :=
  if e.kind = .walk then books
  else match e.labels? with
    | none => books
    | some labels => books.2.settle books.1 e.kind.counter labels

theorem enter_walk {α : Type} (books : Counters × Host) (r : Except Stop α) :
    enter books (of .walk r) = books := by
  cases r <;> rfl

theorem enter_order (books : Counters × Host) (e : Settled) :
    (enter books e).2.order = books.2.order := by
  unfold enter
  split
  · rfl
  · split <;> rfl

/-- The call is of an operation and has given a value. -/
def resolves (k : Kind) (e : Settled) : Bool :=
  e.kind = k && e.stop? = none

/-- The call is of an operation and has failed, but not before it could be counted. -/
def rejects (k : Kind) (e : Settled) : Bool :=
  e.kind = k && e.stop?.any fun
    | .failed f => !f.isEarly
    | .unfinished => false

theorem plain_labels {labels : Option Labels} (h : labels ∈ [none, some failed]) :
    ∀ given ∈ labels, given.Plain := by
  simp only [List.mem_cons, List.not_mem_nil, or_false] at h
  rcases h with rfl | rfl
  · simp
  · decide

theorem key_inj {order : NameOrder} {k k' : Kind} {labels labels' : Option Labels}
    (hlabels : labels ∈ [none, some failed]) (hlabels' : labels' ∈ [none, some failed])
    (h : Counters.key order k.counter labels = Counters.key order k'.counter labels') :
    k = k' ∧ labels = labels' := by
  obtain ⟨hname, hsame⟩ := Counters.key_inj ⟨k.brace_notMem_counter, plain_labels hlabels⟩
    ⟨k'.brace_notMem_counter, plain_labels hlabels'⟩ h
  refine ⟨Kind.counter_inj hname, ?_⟩
  simp only [List.mem_cons, List.not_mem_nil, or_false] at hlabels hlabels'
  rcases hlabels with rfl | rfl <;> rcases hlabels' with rfl | rfl
  · rfl
  · cases hsame
  · cases hsame
  · rfl

/-- No duration is added to a counter of an operation. -/
theorem key_ne_timed {order : NameOrder} (k k' : Kind) {labels labels' : Option Labels}
    (hlabels : labels ∈ [none, some failed]) (hlabels' : labels' ∈ [none, some failed]) :
    Counters.key order k.counter labels ≠ Counters.key order k'.timed labels' := fun h =>
  k.counter_ne_timed k' (Counters.key_inj ⟨k.brace_notMem_counter, plain_labels hlabels⟩
    ⟨k'.brace_notMem_timed, plain_labels hlabels'⟩ h).1

theorem labels?_mem {e : Settled} {l : Option Labels} (h : e.labels? = some l) :
    l ∈ [none, some failed] := by
  unfold labels? at h
  split at h
  · simp [← Option.some.inj h]
  · split at h
    · cases h
    · simp [← Option.some.inj h]
  · cases h

/-- A counter of an operation is raised by its own calls that end with its labels. -/
theorem count_enter (books : Counters × Host) (e : Settled) (k : Kind) {labels : Option Labels}
    (hlabels : labels ∈ [none, some failed]) :
    (enter books e).1.count books.2.order k.counter labels =
      if e.kind = k ∧ e.labels? = some labels ∧ k ≠ .walk
        then Counters.known (some ((books.1.count books.2.order k.counter labels).plus (.ofNat 1)))
        else books.1.count books.2.order k.counter labels := by
  unfold enter
  by_cases hwalk : e.kind = .walk
  · rw [if_pos hwalk, if_neg]
    rintro ⟨rfl, -, hk⟩
    exact hk hwalk
  · rw [if_neg hwalk]
    cases hl : e.labels? with
    | none => simp
    | some l =>
      have hmem := labels?_mem hl
      have htimed : (books.1.timing books.2.order e.kind.counter
          (books.2.durations.headD (.ofNat 0)) l).count books.2.order k.counter labels =
          books.1.count books.2.order k.counter labels :=
        (Counters.countAt_addAt _ _ _ _).trans (if_neg (key_ne_timed k e.kind hlabels hmem))
      show Counters.countAt (Counters.addAt _ _ _) _ = _
      rw [Counters.countAt_addAt]
      by_cases hkey : Counters.key books.2.order k.counter labels =
          Counters.key books.2.order e.kind.counter l
      · obtain ⟨rfl, rfl⟩ := key_inj hlabels hmem hkey
        rw [if_pos rfl, if_pos ⟨rfl, rfl, hwalk⟩, ← htimed]
        rfl
      · rw [if_neg hkey, if_neg, ← htimed]
        · rfl
        · rintro ⟨rfl, hlabel, -⟩
          exact hkey (by rw [Option.some.inj hlabel])

/-- By induction on the calls; the counter stands at `n` so far. -/
theorem count_entered {books : Counters × Host} {k : Kind} {labels : Option Labels}
    (hlabels : labels ∈ [none, some failed]) {n : Nat}
    (h : books.1.count books.2.order k.counter labels = .upTo n) (es : List Settled) :
    (es.foldl enter books).1.count books.2.order k.counter labels =
      .upTo (n + es.countP fun e => e.kind = k ∧ e.labels? = some labels ∧ k ≠ .walk) := by
  induction es generalizing books n with
  | nil => exact h
  | cons e rest ih =>
    have hnext := count_enter books e k hlabels
    rw [h, ← enter_order books e] at hnext
    rw [List.foldl_cons, ← enter_order books e]
    by_cases he : e.kind = k ∧ e.labels? = some labels ∧ k ≠ .walk
    · rw [if_pos he, Number.upTo_succ] at hnext
      rw [List.countP_cons_of_pos (by simpa using he), Nat.add_comm (rest.countP _),
        ← Nat.add_assoc]
      exact ih hnext
    · rw [if_neg he] at hnext
      rw [List.countP_cons_of_neg (by simpa using he)]
      exact ih hnext

theorem resolves_iff {k : Kind} {e : Settled} :
    e.resolves k ↔ e.kind = k ∧ e.labels? = some none := by
  unfold resolves labels?
  rcases e.stop? with - | f | -
  · simp
  · cases f.isEarly <;> simp
  · simp

theorem rejects_iff {k : Kind} {e : Settled} :
    e.rejects k ↔ e.kind = k ∧ e.labels? = some (some failed) := by
  unfold rejects labels?
  rcases e.stop? with - | f | -
  · simp
  · cases hf : f.isEarly <;> simp [hf]
  · simp

end Settled

section Bodies

variable {σ : Type} {b : Backend σ}

/-- An action in which nothing is counted and which fails too late not to be. -/
abbrev Late {α : Type} (x : Action σ α) : Prop :=
  Quiet (fun f => f.isEarly = false) x

theorem late_call (b : Backend σ) (c : Call) : Late (call b c) :=
  quiet_call b c fun _ => rfl

theorem late_notFound {α : Type} (path : Name) : Late (fail (.pathNotFound path) : Action σ α) :=
  quiet_fail rfl

theorem late_callAt (b : Backend σ) (path : Name) (c : Call) : Late (callAt b path c) := by
  refine (quiet_call (p := fun f => ∃ e, f = .store e) b c fun e => ⟨e, rfl⟩).mapFailure ?_
  rintro _ ⟨e, rfl⟩
  cases e <;> rfl

theorem late_properties (b : Backend σ) (key : Name) : Late (properties? b key) := by
  refine (late_call b (.properties key)).recover (fun a => quiet_pure _) fun e he => ?_
  cases e with
  | store e => cases e <;> first | exact quiet_pure _ | exact quiet_fail rfl
  | _ => exact quiet_fail he

theorem late_fetch (root : Root) (start : Name) (c : Cursor) :
    Late (Listing.fetch b root start c) := by
  refine (late_call b _).bind fun page => Quiet.bind (quiet_ofExcept ?_) fun _ => quiet_pure _
  intro f hf
  obtain ⟨k, rfl⟩ := Root.pathsOf_error hf
  rfl

theorem late_rest (root : Root) (start : Name) (budget : Nat) (c : Cursor) :
    Late (Listing.rest b root start budget c) := by
  induction budget generalizing c with
  | zero => exact quiet_unfinished
  | succ budget ih =>
    refine (late_fetch root start c).bind fun (paths, next) => ?_
    cases next with
    | finished => exact quiet_pure _
    | repeated marker => exact quiet_fail rfl
    | more c => exact ih c

theorem late_below (root : Root) (budget : Nat) (path : Name) :
    Late (Listing.below b root budget path) :=
  late_rest root _ budget {}

end Bodies

section Operations

variable {σ α β : Type} {k : Kind} {x : Action σ α}

/-- An action is counted as one call of an operation, by how it ends. -/
def Once (k : Kind) (x : Action σ α) : Prop :=
  ∀ w, (x.exec w).2.books = Settled.enter w.books (Settled.of k (x.exec w).1)

theorem once_counted (hk : k ≠ .walk) (hx : Late x) : Once k (counted k.name x) := by
  intro w
  obtain ⟨hbooks, hlate⟩ := hx w
  rw [counted, exec_measured]
  rcases hrun : x.exec w with ⟨(f | _) | a, w'⟩ <;> rw [hrun] at hbooks hlate <;> rw [← hbooks]
  · have hf : f.isEarly = false := hlate f rfl
    simp only [Settled.of, Settled.enter, Settled.labels?, hk, if_false, hf]
    rfl
  · simp only [Settled.of, Settled.enter, Settled.labels?, hk, if_false]
  · simp only [Settled.of, Settled.enter, Settled.labels?, hk, if_false]
    rfl

theorem once_early {f : Failure} (hf : f.isEarly) : Once k (fail f : Action σ α) := by
  intro w
  simp only [exec_fail, Settled.of, Settled.enter, Settled.labels?, hf, if_true, ite_self]

theorem Once.map (hx : Once k x) (g : α → β) : Once k (x >>= fun a => pure (g a)) := by
  intro w
  have h := hx w
  rcases hrun : x.exec w with ⟨e | a, w'⟩ <;> rw [hrun] at h
  · rw [exec_bind_error hrun]
    exact h
  · rw [exec_bind_ok hrun]
    exact h

theorem Once.ite {c : Prop} [Decidable c] {y : Action σ α} (hx : Once k x) (hy : Once k y) :
    Once k (if c then x else y) := by
  split
  · exact hx
  · exact hy

theorem Once.onPath (hx : Once k x) (path : Name) : Once k (FileTree.onPath path x) :=
  hx.ite (once_early rfl)

theorem Once.onDirectory (hx : Once k x) (path : Name) : Once k (FileTree.onDirectory path x) :=
  hx.ite (once_early rfl)

variable (t : FileTree) (b : Backend σ) (path : Name)

theorem getContent_once : Once .getContent (t.getContent b path) :=
  (once_counted (by decide) (late_callAt b path _)).onPath path

theorem putContent_once (data : Bytes) : Once .putContent (t.putContent b path data) := by
  refine (Once.ite (once_early rfl) (once_counted (by decide) ?_)).onPath path
  have hput : Late (call b (.put (t.root.keyOf path) data)) := late_call b _
  refine (late_properties b _).bind fun existing => ?_
  cases existing with
  | none => exact hput
  | some existing =>
    refine Quiet.ite (fun _ => ?_) fun _ => hput
    exact (quiet_log _ _ _ _).bind fun _ => (late_callAt b path _).bind fun _ => hput

theorem reader_once (offset : Number) : Once .reader (t.reader b path offset) := by
  refine (Once.ite (once_early rfl) (once_counted (by decide) ?_)).onPath path
  refine (late_properties b _).bind fun found => ?_
  cases found with
  | none => exact late_notFound path
  | some p => exact Quiet.ite (fun _ => quiet_pure _) fun _ => late_callAt b path _

theorem writer_once (append : Bool) : Once .writer (t.writer b path append) := by
  refine (once_counted (by decide) ?_).onPath path
  have hopened (size : Number) : Late (do
      log t.logger .debug
        [textField "path" path, ("append", .flag append), ("size", .number size)] "writer opened"
      ofExcept <| Writer.start path (t.root.keyOf path) size t.maxChunkSize
        (some (t.logger.child [textField "writer" path])) : Action σ Writer) := by
    refine (quiet_log _ _ _ _).bind fun _ => quiet_ofExcept fun f hf => ?_
    rw [(start_error hf).1]
    rfl
  -- Each way to a size leads there, so each branch is followed by the start of the session.
  have hcreate := (late_call b (.createAppendable (t.root.keyOf path))).bind fun _ =>
    (quiet_pure (Number.ofNat 0)).bind hopened
  refine (late_call b _).bind fun present => .ite (fun _ => ?_) fun _ =>
    .ite (fun _ => ?_) fun _ => ?_
  · refine (late_properties b _).bind fun found => ?_
    cases found with
    | none => exact (late_notFound path).bind hopened
    | some p => exact (quiet_pure p.size).bind hopened
  · exact (late_notFound path).bind hopened
  · exact .ite (fun _ => (late_callAt b path _).bind fun _ => hcreate) fun _ => hcreate

theorem stat_once : Once .stat (t.stat b path) := by
  refine (once_counted (by decide) ?_).onDirectory path
  have hlook : Late (do
      let page ← call b (.listPage (t.root.listingPrefix path) { maxResults := some (.ofNat 1) })
      if page.keys.isEmpty then fail (.pathNotFound path) else return Entry.directory path) :=
    (late_call b _).bind fun _ => .ite (fun _ => late_notFound path) fun _ => quiet_pure _
  refine .ite (fun _ => ?_) fun _ => quiet_pure_bind hlook
  refine (late_call b _).bind fun _ => .ite (fun _ => ?_) fun _ => quiet_pure_bind hlook
  refine (late_properties b _).bind fun found => ?_
  cases found with
  | none => exact hlook
  | some p => exact quiet_pure _

theorem list_once : Once .list (t.list b path) := by
  refine (once_counted (by decide) ?_).onDirectory path
  exact (late_below _ _ _).bind fun _ => .ite (fun _ => late_notFound path) fun _ => quiet_pure _

theorem move_once (source dest : Name) : Once .move (t.move b source dest) := by
  refine ((once_counted (by decide) ?_).onPath dest).onPath source
  exact (late_callAt b source _).bind fun _ => late_callAt b source _

theorem delete_once : Once .delete (t.delete b path) := by
  refine (once_counted (by decide) ?_).onPath path
  refine (late_call b _).bind fun there => ?_
  cases there with
  | true => exact quiet_pure _
  | false =>
    refine (late_below _ _ _).bind fun files => ?_
    have hfiles : Late (do
        files.forM fun file => callAt b file (.delete (t.root.keyOf file))
        log t.logger .debug
          [textField "path" path, ("count", .number (.ofNat files.length))]
          "deleted virtual directory") :=
      (quiet_forM (fun file => late_callAt b file _) files).bind fun _ => quiet_log _ _ _ _
    exact .ite (fun _ => (late_notFound path).bind fun _ => hfiles) fun _ => hfiles

theorem urlFor_once : Once .urlFor (urlFor path : Action σ String) :=
  (once_early rfl).onPath path

theorem carryOut_once (q : Operation) : Once q.kind (t.carryOut b q) := by
  cases q with
  | getContent path => exact (getContent_once t b path).map _
  | putContent path data => exact (putContent_once t b path data).map _
  | reader path offset => exact (reader_once t b path offset).map _
  | writer path append => exact (writer_once t b path append).map _
  | stat path => exact (stat_once t b path).map _
  | list path => exact (list_once t b path).map _
  | move source dest => exact (move_once t b source dest).map _
  | delete path => exact (delete_once t b path).map _
  | urlFor path => exact (urlFor_once path).map _

end Operations

section Calls

variable {σ α β : Type}

/-- The calls after an action, if it ends with a value. -/
def after (x : Action σ α) (calls : α → World σ → List Settled) (w : World σ) : List Settled :=
  match x.exec w with
  | (.ok a, w') => calls a w'
  | (.error _, _) => []

theorem after_ok {x : Action σ α} {calls : α → World σ → List Settled} {w w' : World σ} {a : α}
    (h : x.exec w = (.ok a, w')) : after x calls w = calls a w' := by
  rw [after, h]

theorem after_error {x : Action σ α} {calls : α → World σ → List Settled} {w w' : World σ}
    {e : Stop} (h : x.exec w = (.error e, w')) : after x calls w = [] := by
  rw [after, h]

/-- The calls of one action for each of some paths, as far as the actions end with a value. -/
def callsOfEach (act : Name → Action σ Unit) (calls : Name → World σ → List Settled) :
    List Name → World σ → List Settled
  | [], _ => []
  | path :: rest, w => calls path w ++ after (act path) (fun _ => callsOfEach act calls rest) w

section Walk

variable (t : Walk σ) (visit : Entry → Action σ Visit) (shown : Entry → World σ → List Settled)
  (logger : Option Logger)

/-- The calls for a child of a directory: the look at it, those of the visitor, and those below. -/
def childCalls (below : Name → World σ → List Settled) (child : Name) (w : World σ) :
    List Settled :=
  Settled.of .stat ((t.stat child).exec w).1 ::
    after (t.stat child) (fun entry w =>
      shown entry w ++ after (visit entry) (fun decision w =>
        if entry.isDirectory ∧ decision ≠ .skip then below child w else []) w) w

def belowCalls : (depth : Nat) → Name → World σ → List Settled
  | 0, _, _ => []
  | depth + 1, dir, w =>
    Settled.of .list ((t.list dir).exec w).1 ::
      after (t.list dir) (fun children =>
        callsOfEach (t.visitChild visit logger depth)
          (childCalls t visit shown (belowCalls depth)) (children.mergeSort Units.le)) w

end Walk

namespace Program

variable {κ : Type} (t : FileTree) (b : Backend σ)

/-- The calls of a tree's operations that a program comes to make, each with how it ends: those that
it makes itself, those that its walks and their visitors make, and the walks. -/
def calls {α : Type} : Program κ α → World (Desk σ κ) → List Settled
  | .own _ => fun _ => []
  | .ask q => fun w => [Settled.of q.kind ((t.carryOut b.onDesk q).exec w).1]
  | .session _ _ => fun _ => []
  | .walk path visit => fun w =>
    let visitor := fun e => (visit e).run t b
    (if Path.isDirectory path then
        belowCalls (t.looks b.onDesk) visitor (fun e => (visit e).calls) (some t.logger)
          t.depthBudget path w
      else []) ++ [Settled.of .walk ((t.walk b.onDesk path visitor).exec w).1]
  | .attempt p => p.calls
  | .bind p f => fun w => p.calls w ++ after (p.run t b) (fun a => (f a).calls) w

end Program

/-- The counters change by some calls, each of which is counted as it ends, and by nothing else. -/
def Counts (x : Action σ α) (calls : World σ → List Settled) : Prop :=
  ∀ w, (x.exec w).2.books = (calls w).foldl Settled.enter w.books

variable {x : Action σ α}

theorem counts_none (h : ∀ w, (x.exec w).2.books = w.books) : Counts x fun _ => [] :=
  h

theorem Once.counts {k : Kind} (h : Once k x) : Counts x fun w => [Settled.of k (x.exec w).1] :=
  h

theorem Counts.bind {f : α → Action σ β} {xcalls : World σ → List Settled}
    {fcalls : α → World σ → List Settled} (hx : Counts x xcalls)
    (hf : ∀ a, Counts (f a) (fcalls a)) :
    Counts (x >>= f) fun w => xcalls w ++ after x fcalls w := by
  intro w
  have h := hx w
  show _ = (xcalls w ++ after x fcalls w).foldl Settled.enter w.books
  rcases hrun : x.exec w with ⟨e | a, w'⟩ <;> rw [hrun] at h
  · rw [exec_bind_error hrun, after_error hrun, List.append_nil]
    exact h
  · rw [exec_bind_ok hrun, after_ok hrun, List.foldl_append, ← h]
    exact hf a w'

theorem Counts.bind_quiet {f : α → Action σ β} {calls : World σ → List Settled}
    (hx : Counts x calls) (hf : ∀ a w, ((f a).exec w).2.books = w.books) :
    Counts (x >>= f) calls := by
  intro w
  rw [← hx w]
  rcases hrun : x.exec w with ⟨e | a, w'⟩
  · rw [exec_bind_error hrun]
  · rw [exec_bind_ok hrun]
    exact hf a w'

theorem Counts.recover {f : Except Failure α → Action σ β} {xcalls : World σ → List Settled}
    {fcalls : α → World σ → List Settled} (hx : Counts x xcalls)
    (hf : ∀ a, Counts (f (.ok a)) (fcalls a)) (hfailed : ∀ e, Counts (f (.error e)) fun _ => []) :
    Counts (attempt x >>= f) fun w => xcalls w ++ after x fcalls w := by
  intro w
  have h := hx w
  show _ = (xcalls w ++ after x fcalls w).foldl Settled.enter w.books
  rcases hrun : x.exec w with ⟨(e | _) | a, w'⟩ <;> rw [hrun] at h
  · rw [exec_attempt_bind_failed hrun, after_error hrun, List.append_nil, ← h]
    exact hfailed e w'
  · rw [exec_attempt_bind_unfinished hrun, after_error hrun, List.append_nil]
    exact h
  · rw [exec_attempt_bind_ok hrun, after_ok hrun, List.foldl_append, ← h]
    exact hf a w'

theorem Counts.attempt {calls : World σ → List Settled} (hx : Counts x calls) :
    Counts (Action.attempt x) calls := by
  intro w
  rw [← hx w, exec_attempt]
  rcases x.exec w with ⟨(e | _) | a, w'⟩ <;> rfl

theorem counts_each {act : Name → Action σ Unit} {calls : Name → World σ → List Settled}
    (h : ∀ path, Counts (act path) (calls path)) (paths : List Name) :
    Counts (paths.forM act) (callsOfEach act calls paths) := by
  induction paths with
  | nil => exact counts_none fun _ => rfl
  | cons path rest ih => exact (h path).bind fun _ => ih

end Calls

section Run

variable {σ κ : Type} {t : Walk σ} {visit : Entry → Action σ Visit}
  {shown : Entry → World σ → List Settled}

theorem counts_visitChild (hstat : ∀ path, Once .stat (t.stat path))
    (hvisit : ∀ e, Counts (visit e) (shown e)) (logger : Option Logger) {depth : Nat}
    {below : Name → World σ → List Settled}
    (hbelow : ∀ dir, Counts (t.visitBelow visit logger depth dir) (below dir)) (child : Name) :
    Counts (t.visitChild visit logger depth child) (childCalls t visit shown below child) := by
  refine (hstat child).counts.recover
    (fun entry => (hvisit entry).bind fun decision => ?_) fun e => ?_
  · by_cases henter : entry.isDirectory ∧ decision ≠ .skip
    · simp only [if_pos henter]
      exact hbelow child
    · simp only [if_neg henter]
      exact counts_none fun _ => rfl
  · refine counts_none fun w => ?_
    cases e with
    | pathNotFound path => cases logger <;> rfl
    | _ => rfl

/-- By induction on the levels. -/
theorem counts_visitBelow (hlist : ∀ path, Once .list (t.list path))
    (hstat : ∀ path, Once .stat (t.stat path)) (hvisit : ∀ e, Counts (visit e) (shown e))
    (logger : Option Logger) (depth : Nat) (dir : Name) :
    Counts (t.visitBelow visit logger depth dir) (belowCalls t visit shown logger depth dir) := by
  induction depth generalizing dir with
  | zero => exact counts_none fun _ => rfl
  | succ depth ih =>
    rw [Walk.visitBelow_succ]
    exact (hlist dir).counts.bind fun children =>
      counts_each (counts_visitChild hstat hvisit logger ih) _

end Run

namespace Program

variable {σ κ α : Type} (t : FileTree) (b : Backend σ)

theorem callSession_books (n : Nat) (q : Writer.Request) (w : World (Desk σ κ)) :
    ((callSession b n q).exec w).2.books = w.books := by
  rw [callSession, exec_of]
  cases w.store.sessions[n]? with
  | none => rfl
  | some s =>
    obtain ⟨hcounters, hhost⟩ := s.perform_measures_nothing b.onDesk q w
    exact Prod.ext hcounters hhost

/-- By induction on the program: its run changes the counters by its calls and by nothing else. -/
theorem run_counts (p : Program κ α) : Counts (p.run t b) (p.calls t b) := by
  induction p with
  | own f => exact counts_none fun _ => rfl
  | ask q => exact (carryOut_once t b.onDesk q).counts.bind_quiet fun _ _ => rfl
  | session n q => exact counts_none (callSession_books b n q)
  | walk path visit ih =>
    -- The walk itself comes last among its calls and is not counted.
    intro w
    simp only [calls, List.foldl_append, List.foldl_cons, List.foldl_nil, Settled.enter_walk]
    rw [run, FileTree.walk]
    by_cases hdir : Path.isDirectory path
    · rw [if_pos hdir, onDirectory_valid hdir]
      exact counts_visitBelow (list_once t b.onDesk) (stat_once t b.onDesk) ih _ _ path w
    · rw [if_neg hdir, onDirectory, if_neg hdir]
      rfl
  | attempt p ih => exact ih.attempt
  | bind p f ihp ihf => exact ihp.bind ihf

/-- Over every run that begins with no counts, on any host, the counters of an operation say how
many of its calls have given a value and how many have failed, those apart that failed before they
could be counted; the calls that walks make are among them. A walk itself has no counts. -/
theorem run_counted (p : Program κ α) (desk : Desk σ κ) (journal : Journal) (host : Host) :
    let w : World (Desk σ κ) := { store := desk, journal, host }
    let counters := ((p.run t b).exec w).2.counters
    (∀ k : Kind, k ≠ .walk →
      counters.count host.order k.counter none = .upTo ((p.calls t b w).countP (·.resolves k)) ∧
      counters.count host.order k.counter (some Settled.failed) =
        .upTo ((p.calls t b w).countP (·.rejects k))) ∧
    counters.count host.order Kind.walk.counter none = .ofNat 0 ∧
    counters.count host.order Kind.walk.counter (some Settled.failed) = .ofNat 0 := by
  intro w counters
  have hcounters : counters = ((p.calls t b w).foldl Settled.enter w.books).1 :=
    congrArg Prod.fst (run_counts t b p w)
  have hcount : ∀ (k : Kind) (labels : Option Labels), labels ∈ [none, some Settled.failed] →
      counters.count host.order k.counter labels = .upTo ((p.calls t b w).countP fun e =>
        e.kind = k ∧ e.labels? = some labels ∧ k ≠ .walk) := by
    intro k labels hlabels
    have hzero : w.books.1.count w.books.2.order k.counter labels = .upTo 0 := rfl
    have hentered := Settled.count_entered hlabels hzero (p.calls t b w)
    rw [Nat.zero_add] at hentered
    rw [hcounters]
    exact hentered
  have hwalk : ∀ labels, labels ∈ [none, some Settled.failed] →
      counters.count host.order Kind.walk.counter labels = .ofNat 0 := by
    intro labels hlabels
    rw [hcount _ _ hlabels, List.countP_eq_zero.mpr (by simp)]
    rfl
  refine ⟨fun k hk => ⟨?_, ?_⟩, hwalk _ (by simp), hwalk _ (by simp)⟩
  · rw [hcount k none (by simp)]
    refine congrArg Number.upTo (List.countP_congr fun e _ => ?_)
    rw [decide_eq_true_iff, Settled.resolves_iff]
    simp [hk]
  · rw [hcount k _ (by simp)]
    refine congrArg Number.upTo (List.countP_congr fun e _ => ?_)
    rw [decide_eq_true_iff, Settled.rejects_iff]
    simp [hk]

/-- Two listings, a look at a path where there is nothing, and one at no path at all, on a host
where the first two take some time. -/
theorem run_counted_looks :
    let b := Memory.backend {}
    let t := onStore b {} default
    let p : Program Unit _ := inTurn [.ask (.list "/".toList), .ask (.list "/".toList),
      .ask (.stat "/a".toList), .ask (.stat "a".toList)]
    let host : Host := { durations := [.ofNat 7, .ofNat 3] }
    let w : World (Desk Memory Unit) := { store := { store := default, notes := () }, host }
    let counters := ((p.run t b).exec w).2.counters
    counters.count host.order Kind.list.counter none = .ofNat 2 ∧
    counters.count host.order Kind.stat.counter (some Settled.failed) = .ofNat 1 := by
  intro b t p host w counters
  have hcounted := (run_counted t b p { store := default, notes := () } {} host).1
  have hlist : (p.calls t b w).countP (·.resolves .list) = 2 := by decide +kernel
  have hstat : (p.calls t b w).countP (·.rejects .stat) = 1 := by decide +kernel
  refine ⟨(hcounted .list (by decide)).1.trans ?_, (hcounted .stat (by decide)).2.trans ?_⟩
  · rw [hlist]
    rfl
  · rw [hstat]
    rfl

/-- A walk that goes well, an address that is not given out and a path that is none have no count,
though they have ended. -/
theorem run_uncounted :
    let b := Memory.backend {}
    let t := onStore b {} default
    let p : Program Unit _ := .bind
      (inTurn [.walk "/".toList fun _ => .own fun _ notes => (.ok .enter, notes)]) fun _ =>
      inTurn [.ask (.urlFor "/a".toList), .ask (.getContent "a".toList)]
    let w : World (Desk Memory Unit) := { store := { store := default, notes := () } }
    let counters := ((p.run t b).exec w).2.counters
    p.calls t b w = [⟨.list, none⟩, ⟨.walk, none⟩,
      ⟨.urlFor, some (.failed (.unsupported "urlFor"))⟩,
      ⟨.getContent, some (.failed (.invalidPath "a".toList))⟩] ∧
    counters.count w.host.order Kind.walk.counter none = .ofNat 0 ∧
    counters.count w.host.order Kind.urlFor.counter (some Settled.failed) = .ofNat 0 ∧
    counters.count w.host.order Kind.getContent.counter (some Settled.failed) = .ofNat 0 := by
  decide +kernel

end Program

end FileTree
end BlobTree
