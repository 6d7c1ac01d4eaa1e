import Mathlib.Algebra.Ring.Int.Defs
import Mathlib.Data.List.DropRight
import Mathlib.Data.List.Induction
import Mathlib.Data.List.Infix
import BlobTree.Counters

/-!
# BlobTree.Proofs.Counters

What a counter stands at. Counters are kept apart by their keys, so a counter comes to what was
added under its key since the last reset, a duration being added under the name with `.ms`. The key
tells names and labels apart as long as the characters between its parts are in none of these, and
it does not depend on the order in which the labels are given if the host's order tells their names
apart.

* `Addition`, `additions`: what updates add to counters; `countAt_run`: the counter under a key.
* `written_inj`, `key_inj`: labels, and names with labels, are read back from a key.
* `counters_kept_apart`: so names with labels have counters of their own; `roundedSum_exact`: sums
  of whole numbers up to `2^53` are exact.
-/

namespace BlobTree

/-- Labels with names that end at the first `=` after them, and with values that end at the first
comma. -/
def Labels.Plain (labels : Labels) : Prop :=
  ∀ e ∈ labels, '=' ∉ e.1 ∧ ',' ∉ e.2

/-- No two labels have names that are equal in an order. -/
def Labels.Apart (order : NameOrder) (labels : Labels) : Prop :=
  ∀ a ∈ labels, ∀ b ∈ labels, order.le a.1 b.1 → order.le b.1 a.1 → a = b

instance (order : NameOrder) (labels : Labels) : Decidable (labels.Apart order) :=
  inferInstanceAs (Decidable (∀ a ∈ labels, ∀ b ∈ labels, _))

instance (labels : Labels) : Decidable labels.Plain :=
  inferInstanceAs (Decidable (∀ e ∈ labels, _))

theorem Labels.Plain.perm {labels labels' : Labels} (h : labels.Plain)
    (hperm : labels'.Perm labels) : labels'.Plain :=
  fun e he => h e (hperm.mem_iff.mp he)

namespace Counters

/-- Something that is added to the counter of a name with labels. -/
structure Addition where
  name : Name
  labels : Option Labels
  amount : Number

/-- The same labels, in whatever order. -/
def SameLabels : Option Labels → Option Labels → Prop
  | none, none => True
  | some labels, some labels' => labels.Perm labels'
  | _, _ => False

instance : DecidableRel SameLabels
  | none, none => inferInstanceAs (Decidable True)
  | some labels, some labels' => inferInstanceAs (Decidable (labels.Perm labels'))
  | none, some _ => inferInstanceAs (Decidable False)
  | some _, none => inferInstanceAs (Decidable False)

/-- A name that ends where its labels begin, and plain labels. -/
structure Plain (name : Name) (labels : Option Labels) : Prop where
  name : '\x7b' ∉ name
  labels : ∀ given ∈ labels, given.Plain

/-- What is added to a counter: by an increment, or by a timing to the name with `.ms`. -/
def Update.addition? : Update → Option Addition
  | .increment name amount labels => some ⟨name, labels, amount⟩
  | .timing name duration labels => some ⟨name ++ ['.', 'm', 's'], labels, duration⟩
  | .gauge _ _ _ | .reset => none

def sinceReset (us : List Update) : List Update :=
  us.rtakeWhile (· ≠ .reset)

/-- What updates add to counters, from the last reset on. -/
def additions (us : List Update) : List Addition :=
  (sinceReset us).filterMap Update.addition?

/-- Where a counter comes to stand when all of these are added to it. -/
def standing (as : List Addition) : Number :=
  as.foldl (fun n a => known (some (n.plus a.amount))) (.ofNat 0)

/-- The sum of whole numbers, rounded after each. -/
def roundedSum (is : List Int) : Number :=
  is.foldl (fun n i => n.plus (.ofInt i)) (.ofNat 0)

theorem additions_concat (us : List Update) {u : Update} (h : u ≠ .reset) :
    additions (us ++ [u]) = additions us ++ u.addition?.toList := by
  rw [additions, sinceReset, List.rtakeWhile_concat_pos _ _ _ (by simpa using h),
    List.filterMap_append]
  cases hu : u.addition? <;> simp [additions, sinceReset, hu]

theorem additions_reset (us : List Update) : additions (us ++ [.reset]) = [] := by
  rw [additions, sinceReset, List.rtakeWhile_concat_neg _ _ _ (by simp)]
  rfl

theorem standing_concat (as : List Addition) (a : Addition) :
    standing (as ++ [a]) = known (some ((standing as).plus a.amount)) := by
  simp [standing]

theorem roundedSum_concat (is : List Int) (i : Int) :
    roundedSum (is ++ [i]) = (roundedSum is).plus (.ofInt i) := by
  simp [roundedSum]

theorem step_of_addition (order : NameOrder) (c : Counters) {u : Update} {a : Addition}
    (h : u.addition? = some a) :
    c.step order u = c.addAt (key order a.name a.labels) a.amount := by
  cases u with
  | increment name amount labels =>
    cases h
    rfl
  | timing name duration labels =>
    cases h
    rfl
  | gauge name value labels => cases h
  | reset => cases h

theorem countAt_step_of_none (order : NameOrder) (c : Counters) (k : Name) {u : Update}
    (hreset : u ≠ .reset) (h : u.addition? = none) :
    (c.step order u).countAt k = c.countAt k := by
  cases u with
  | increment name amount labels => cases h
  | timing name duration labels => cases h
  | gauge name value labels => rfl
  | reset => exact absurd rfl hreset

/-- By induction on the updates from the last one back: a reset forgets what was added, and anything
else leaves what was added before it. -/
theorem countAt_run (order : NameOrder) (us : List Update) (k : Name) :
    (run order us).countAt k =
      standing ((additions us).filter fun a => key order a.name a.labels = k) := by
  induction us using List.reverseRecOn with
  | nil => rfl
  | append_singleton us u ih =>
    have hrun : run order (us ++ [u]) = (run order us).step order u := by
      rw [run, List.foldl_append]
      rfl
    rw [hrun]
    by_cases hreset : u = .reset
    · rw [hreset, additions_reset]
      rfl
    · rw [additions_concat us hreset, List.filter_append]
      cases ha : u.addition? with
      | none =>
        rw [countAt_step_of_none order _ k hreset ha, ih]
        simp
      | some a =>
        rw [step_of_addition order _ ha, countAt_addAt]
        by_cases hk : key order a.name a.labels = k
        · subst hk
          rw [if_pos rfl, ih, ← standing_concat]
          simp
        · rw [if_neg (Ne.symm hk), ih]
          simp [hk]

section Keys

variable {order : NameOrder} {c : Char} {x y z w name name' : Name} {labels labels' : Labels}

/-- Two texts without a character, each with nothing or with that character after it. -/
theorem append_inj_of_notMem (hx : c ∉ x) (hy : c ∉ y) (hz : ∀ d ∈ z.head?, d = c)
    (hw : ∀ d ∈ w.head?, d = c) (h : x ++ z = y ++ w) : x = y ∧ z = w := by
  induction x generalizing y with
  | nil =>
    cases y with
    | nil => exact ⟨rfl, h⟩
    | cons d y =>
      obtain rfl : z = d :: y ++ w := h
      exact absurd (hz d rfl) (fun hd => hy (hd ▸ List.mem_cons_self))
  | cons b x ih =>
    cases y with
    | nil =>
      obtain rfl : b :: x ++ z = w := h
      exact absurd (hw b rfl) (fun hb => hx (hb ▸ List.mem_cons_self))
    | cons d y =>
      obtain ⟨rfl, hrest⟩ := List.cons_eq_cons.mp h
      obtain ⟨rfl, rfl⟩ := ih (List.not_mem_of_not_mem_cons hx) (List.not_mem_of_not_mem_cons hy)
        hrest
      exact ⟨rfl, rfl⟩

def before (order : NameOrder) (a b : Name × Name) : Bool :=
  order.le a.1 b.1

def sorted (order : NameOrder) (labels : Labels) : Labels :=
  labels.mergeSort (before order)

def written (labels : Labels) : Name :=
  List.intercalate [','] (labels.map fun (k, v) => k ++ '=' :: v)

theorem key_some (order : NameOrder) (name : Name) (labels : Labels) :
    key order name (some labels) =
      name ++ '\x7b' :: (written (sorted order labels) ++ ['\x7d']) := by
  have hbefore : (fun a b : Name × Name => order.le a.1 b.1) = before order := rfl
  simp [key, written, sorted, hbefore]

theorem written_cons (k v : Name) (rest : Labels) :
    ∃ more, written ((k, v) :: rest) = k ++ '=' :: (v ++ more) ∧
      (rest = [] ∧ more = [] ∨ rest ≠ [] ∧ more = ',' :: written rest) := by
  cases rest with
  | nil => exact ⟨[], by simp [written], .inl ⟨rfl, rfl⟩⟩
  | cons e rest =>
    refine ⟨',' :: written (e :: rest), ?_, .inr ⟨by simp, rfl⟩⟩
    simp [written, List.intercalate_cons_cons]

/-- Labels are read back from what is written: a name ends at the first `=`, and a value at the
first comma. -/
theorem written_inj (h : labels.Plain) (h' : labels'.Plain)
    (hwritten : written labels = written labels') : labels = labels' := by
  induction labels generalizing labels' with
  | nil =>
    cases labels' with
    | nil => rfl
    | cons e' rest' =>
      obtain ⟨more', hcons', -⟩ := written_cons e'.1 e'.2 rest'
      rw [hcons'] at hwritten
      simp [written] at hwritten
  | cons e rest ih =>
    obtain ⟨more, hcons, hmore⟩ := written_cons e.1 e.2 rest
    cases labels' with
    | nil =>
      rw [hcons] at hwritten
      simp [written] at hwritten
    | cons e' rest' =>
      obtain ⟨more', hcons', hmore'⟩ := written_cons e'.1 e'.2 rest'
      have hcomma : ∀ d ∈ more.head?, d = ',' := by
        rcases hmore with ⟨-, rfl⟩ | ⟨-, rfl⟩ <;> simp
      have hcomma' : ∀ d ∈ more'.head?, d = ',' := by
        rcases hmore' with ⟨-, rfl⟩ | ⟨-, rfl⟩ <;> simp
      obtain ⟨hfirst, hrest⟩ := List.forall_mem_cons.mp h
      obtain ⟨hfirst', hrest'⟩ := List.forall_mem_cons.mp h'
      rw [hcons, hcons'] at hwritten
      obtain ⟨hlabel, hafter⟩ :=
        append_inj_of_notMem hfirst.1 hfirst'.1 (by simp) (by simp) hwritten
      obtain ⟨hvalue, hafter⟩ :=
        append_inj_of_notMem hfirst.2 hfirst'.2 hcomma hcomma' (List.cons_eq_cons.mp hafter).2
      rw [Prod.ext hlabel hvalue]
      congr 1
      rcases hmore with ⟨rfl, rfl⟩ | ⟨-, rfl⟩ <;> rcases hmore' with ⟨rfl, rfl⟩ | ⟨-, rfl⟩
      · rfl
      · cases hafter
      · cases hafter
      · exact ih hrest hrest' (List.cons_eq_cons.mp hafter).2

theorem sorted_perm (order : NameOrder) (labels : Labels) : (sorted order labels).Perm labels :=
  List.mergeSort_perm _ _

theorem sorted_pairwise (order : NameOrder) (labels : Labels) :
    (sorted order labels).Pairwise fun a b => before order a b :=
  List.pairwise_mergeSort (fun a b d => order.trans a.1 b.1 d.1) (fun a b => order.total a.1 b.1)
    labels

theorem key_of_pairwise (h : labels.Pairwise fun a b => before order a b) :
    key order name (some labels) = name ++ '\x7b' :: (written labels ++ ['\x7d']) := by
  rw [key_some, sorted, List.mergeSort_of_pairwise h]

theorem key_some_ne (h : '\x7b' ∉ name') : key order name (some labels) ≠ name' := by
  rintro rfl
  refine h ?_
  rw [key_some]
  simp

theorem key_inj {labels? labels?' : Option Labels} (h : Plain name labels?)
    (h' : Plain name' labels?') (hkey : key order name labels? = key order name' labels?') :
    name = name' ∧ SameLabels labels? labels?' := by
  cases labels? with
  | none =>
    cases labels?' with
    | none => exact ⟨hkey, trivial⟩
    | some labels' => exact absurd hkey.symm (key_some_ne h.name)
  | some labels =>
    cases labels?' with
    | none => exact absurd hkey (key_some_ne h'.name)
    | some labels' =>
      rw [key_some, key_some] at hkey
      obtain ⟨hname, hrest⟩ := append_inj_of_notMem h.name h'.name (by simp) (by simp) hkey
      have hwritten := List.append_cancel_right (List.cons_eq_cons.mp hrest).2
      have hsorted := written_inj ((h.labels labels rfl).perm (sorted_perm order labels))
        ((h'.labels labels' rfl).perm (sorted_perm order labels')) hwritten
      exact ⟨hname, (sorted_perm order labels).symm.trans (hsorted ▸ sorted_perm order labels')⟩

/-- Labels that the order tells apart stand in it in one way. -/
theorem sorted_eq_of_perm (h : labels.Perm labels') (hapart : labels.Apart order) :
    sorted order labels = sorted order labels' := by
  refine List.Perm.eq_of_pairwise ?_ (sorted_pairwise order labels)
    (sorted_pairwise order labels')
    ((sorted_perm order labels).trans (h.trans (sorted_perm order labels').symm))
  intro a b ha hb hab hba
  exact hapart a ((sorted_perm order labels).mem_iff.mp ha) b
    (h.mem_iff.mpr ((sorted_perm order labels').mem_iff.mp hb)) hab hba

theorem key_eq_of_same {labels? labels?' : Option Labels} (h : SameLabels labels? labels?')
    (hapart : ∀ given ∈ labels?', given.Apart order) :
    key order name labels? = key order name labels?' := by
  cases labels? with
  | none =>
    cases labels?' with
    | none => rfl
    | some labels' => cases h
  | some labels =>
    cases labels?' with
    | none => cases h
    | some labels' => rw [key_some, key_some, sorted_eq_of_perm h.symm (hapart labels' rfl)]

end Keys

/-- A sum of whole numbers is never no number, so nothing of it is dropped on the way. -/
theorem standing_ofInt {as : List Addition} {is : List Int}
    (h : as.map Addition.amount = is.map .ofInt) :
    standing as = roundedSum is ∧ standing as ≠ .nan := by
  induction is using List.reverseRecOn generalizing as with
  | nil =>
    rw [List.map_eq_nil_iff.mp h]
    exact ⟨rfl, by decide⟩
  | append_singleton is i ih =>
    rw [List.map_append] at h
    obtain ⟨as, last, rfl, has, hlast⟩ := List.map_eq_append_iff.mp h
    obtain ⟨a, rfl, ha⟩ := List.map_eq_singleton_iff.mp hlast
    obtain ⟨heq, hnumber⟩ := ih has
    have hplus := Number.plus_ofInt_ne_nan hnumber i
    rw [standing_concat, roundedSum_concat, ha, ← heq, known_of_ne_nan hplus]
    exact ⟨rfl, hplus⟩

theorem roundedSum_exact {is : List Int}
    (hbound : ∀ l, l <+: is → l.sum.natAbs ≤ Number.exactBound) :
    roundedSum is = .ofInt is.sum := by
  induction is using List.reverseRecOn with
  | nil => rfl
  | append_singleton is i ih =>
    have hsum : (is ++ [i]).sum = is.sum + i := by simp
    have hbefore := ih fun l hl => hbound l (hl.trans (List.prefix_append _ _))
    rw [roundedSum_concat, hbefore, Number.plus_ofInt (hsum ▸ hbound _ List.prefix_rfl), hsum]

/-- What of some additions is for a name with labels. -/
def under (name : Name) (labels : Option Labels) (as : List Addition) : List Addition :=
  as.filter fun a => a.name = name ∧ SameLabels a.labels labels

/-- On any host, the counter of a name with labels is the sum of the whole numbers that were added
to that name with these labels since the last reset, in whatever order the labels were given; it has
no part in what was added to others. -/
theorem counters_kept_apart {order : NameOrder} {us : List Update} {name : Name}
    {labels : Option Labels} {is : List Int} (hus : ∀ a ∈ additions us, Plain a.name a.labels)
    (h : Plain name labels) (hapart : ∀ given ∈ labels, given.Apart order)
    (his : (under name labels (additions us)).map Addition.amount = is.map .ofInt) :
    (run order us).count order name labels = roundedSum is ∧
    ((∀ l, l <+: is → l.sum.natAbs ≤ Number.exactBound) →
      (run order us).count order name labels = .ofInt is.sum) := by
  have hcount : (run order us).count order name labels = roundedSum is := by
    rw [count, countAt_run, ← (standing_ofInt his).1, under]
    congr 1
    refine List.filter_congr fun a ha => decide_eq_decide.mpr ⟨key_inj (hus a ha) h, ?_⟩
    rintro ⟨rfl, hsame⟩
    exact key_eq_of_same hsame hapart
  exact ⟨hcount, fun hbound => hcount.trans (roundedSum_exact hbound)⟩

/-- Increments and durations before and after a reset, with labels given in two orders and without
any, under a name and under the same with `.ms`. -/
theorem counters_kept_apart_timed :
    let ab : Option Labels := some [("a".toList, "1".toList), ("b".toList, "2".toList)]
    let ba : Option Labels := some [("b".toList, "2".toList), ("a".toList, "1".toList)]
    let us : List Update := [.increment "n.ms".toList (.ofInt 8) ab, .reset,
      .timing "n".toList (.ofInt 5) ba, .gauge "n.ms".toList (.ofInt 9) ab,
      .increment "n.ms".toList (.ofInt (-7)) ab, .increment "n".toList (.ofInt 1) ab,
      .timing "n".toList (.ofInt 3) none]
    (∀ a ∈ additions us, Plain a.name a.labels) ∧ Plain "n.ms".toList ba ∧
    (∀ given ∈ ba, given.Apart .units) ∧
    (under "n.ms".toList ba (additions us)).map Addition.amount = [5, -7].map .ofInt ∧
    (run .units us).count .units "n.ms".toList ba = .ofInt (-2) := by
  intro ab ba us
  have hplain : ∀ a ∈ additions us, Plain a.name a.labels := by
    have hall : ∀ a ∈ additions us, '\x7b' ∉ a.name ∧ ∀ given ∈ a.labels, given.Plain := by decide
    exact fun a ha => ⟨(hall a ha).1, (hall a ha).2⟩
  have hasked : Plain "n.ms".toList ba := ⟨by decide, by decide⟩
  have hapart : ∀ given ∈ ba, given.Apart .units := by decide
  have hadded : (under "n.ms".toList ba (additions us)).map Addition.amount =
      [5, -7].map .ofInt := by decide
  have hbound : ∀ l ∈ List.inits [5, -7], l.sum.natAbs ≤ Number.exactBound := by decide
  refine ⟨hplain, hasked, hapart, hadded, ?_⟩
  exact (counters_kept_apart hplain hasked hapart hadded).2
    fun l hl => hbound l ((List.mem_inits l _).mpr hl)

/-- What increments alone add, from the last reset on. -/
def increments (us : List Update) : List Addition :=
  (sinceReset us).filterMap fun
    | .increment name amount labels => some ⟨name, labels, amount⟩
    | _ => none

theorem count_run_increment (order : NameOrder) (name name' : Name) (amount : Number)
    (labels labels' : Option Labels) :
    (run order [.increment name amount labels]).count order name' labels' =
      if key order name' labels' = key order name labels
        then known (some ((Number.ofNat 0).plus amount)) else .ofNat 0 :=
  countAt_addAt empty _ _ amount

/-- The counter of a name with labels is the exact sum of what increments have added to it. -/
def Unmixed (order : NameOrder) (us : List Update) (name : Name) (labels : Option Labels) : Prop :=
  ∀ is : List Int, (under name labels (increments us)).map Addition.amount = is.map .ofInt →
    (run order us).count order name labels = .ofInt is.sum

/-- What is added under the key of a name with labels, but not to that name with these labels. -/
theorem not_unmixed_of_key_eq {order : NameOrder} {name name' : Name}
    {labels labels' : Option Labels}
    (hkey : key order name' labels' = key order name labels)
    (hother : ¬(name = name' ∧ SameLabels labels labels')) :
    ¬Unmixed order [.increment name (.ofInt 1) labels] name' labels' := by
  intro h
  have hnone : under name' labels' (increments [.increment name (.ofInt 1) labels]) = [] :=
    List.filter_eq_nil_iff.mpr fun a ha => by
      obtain rfl : a = ⟨name, labels, .ofInt 1⟩ := List.mem_singleton.mp ha
      simpa using hother
  have hsum := h [] (by rw [hnone]; rfl)
  rw [count_run_increment, if_pos hkey] at hsum
  exact absurd hsum (by decide +kernel)

/-- A counter is another sum if a duration is added under its name with `.ms`, if another name or
other labels are written the same as its own, with one of the characters between the parts of a key
in them, if the sum is rounded on the way, and if its labels are given in another order and the
host's order does not tell their names apart. -/
theorem counters_mixed :
    ¬Unmixed .units [.timing "n".toList (.ofInt 5) none] "n.ms".toList none ∧
    ¬Unmixed .units [.increment "m\x7ba=b\x7d".toList (.ofInt 1) none]
      "m".toList (some [("a".toList, "b".toList)]) ∧
    ¬Unmixed .units [.increment "m".toList (.ofInt 1) (some [("a=b".toList, "c".toList)])]
      "m".toList (some [("a".toList, "b=c".toList)]) ∧
    ¬Unmixed .units [.increment "m".toList (.ofInt 1) (some [("a".toList, "1,b=2".toList)])]
      "m".toList (some [("a".toList, "1".toList), ("b".toList, "2".toList)]) ∧
    ¬Unmixed .units [.increment "r".toList (.ofInt 9007199254740992) none,
      .increment "r".toList (.ofInt 1) none, .increment "r".toList (.ofInt 1) none]
      "r".toList none ∧
    ¬Unmixed (.through (·.filter (· ≠ '-')))
      [.increment "t".toList (.ofInt 1)
        (some [("ab".toList, "1".toList), ("a-b".toList, "2".toList)])]
      "t".toList (some [("a-b".toList, "2".toList), ("ab".toList, "1".toList)]) := by
  refine ⟨fun h => ?timed, ?brace, ?equals, ?comma, fun h => ?rounded, fun h => ?tied⟩
  case timed => exact absurd (h [] (by decide)) (by decide +kernel)
  case brace =>
    refine not_unmixed_of_key_eq ?_ (by decide)
    rw [key_of_pairwise (by decide)]
    decide
  case equals =>
    refine not_unmixed_of_key_eq ?_ (by decide)
    rw [key_of_pairwise (by decide), key_of_pairwise (by decide)]
    decide
  case comma =>
    refine not_unmixed_of_key_eq ?_ (by decide)
    rw [key_of_pairwise (by decide), key_of_pairwise (by decide)]
    decide
  case rounded =>
    exact absurd (h [9007199254740992, 1, 1] (by decide +kernel)) (by decide +kernel)
  case tied =>
    have hsum := h [1] (by decide)
    rw [count_run_increment, if_neg] at hsum
    · exact absurd hsum (by decide +kernel)
    · rw [key_of_pairwise (by decide), key_of_pairwise (by decide)]
      decide

end Counters
end BlobTree
